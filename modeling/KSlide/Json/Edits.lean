import KSlide.Json.Record
import Mathlib.Data.List.Sort

/-
This file changes single fields of an object and says what the other fields read afterwards.
-/

namespace Json
open List

/-- A new value stands at the place of its key. -/
def put (value : Json) (key : String) (stored : Json) : Json :=
  match value with
  | .obj fields => .obj ((fields.filter fun entry => entry.1 != key).orderedInsert
      (fun first second => first.1 ≤ second.1) (key, stored))
  | other => other

section
variable {Key Value : Type} [BEq Key] [LawfulBEq Key] {entries : List (Key × Value)} {key : Key}
  {value : Value}

theorem lookup_of_mem (distinct : (entries.map Prod.fst).Nodup) (listed : (key, value) ∈ entries) :
    entries.lookup key = some value := by
  induction entries with
  | nil => cases listed
  | cons entry entries ih =>
    obtain ⟨fresh, distinct⟩ := nodup_cons.mp distinct
    rcases mem_cons.mp listed with rfl | later
    · simp
    · have other : (key == entry.1) = false := by
        rw [beq_eq_false_iff_ne]
        rintro rfl
        exact fresh (mem_map.mpr ⟨_, later, rfl⟩)
      rw [← ih distinct later]
      rw [lookup_cons, other]

theorem mem_of_lookup (found : entries.lookup key = some value) : (key, value) ∈ entries := by
  induction entries with
  | nil => cases found
  | cons entry entries ih =>
    obtain ⟨first, stored⟩ := entry
    rw [lookup_cons] at found
    cases same : key == first with
    | true =>
      rw [same] at found
      cases found
      rw [beq_iff_eq.mp same]
      exact mem_cons_self
    | false =>
      rw [same] at found
      exact mem_cons_of_mem _ (ih found)

end

section
variable {value stored : Json} {key other : String} {fields : List (String × Json)}

theorem lookup_entry : ((key, stored) :: fields).lookup other =
    if other = key then some stored else fields.lookup other := by
  by_cases same : other = key
  · rw [if_pos same, same, lookup_cons_self]
  · rw [if_neg same, lookup_cons, beq_eq_false_iff_ne.mpr same]

theorem lookup_filter_ne (different : other ≠ key) :
    (fields.filter fun entry => entry.1 != key).lookup other = fields.lookup other := by
  induction fields with
  | nil => rfl
  | cons entry fields ih =>
    obtain ⟨name, first⟩ := entry
    rw [lookup_entry, filter_cons]
    split
    · rw [lookup_entry, ih]
    · rename_i dropped
      have same : name = key := by simpa using dropped
      rw [ih, if_neg (same ▸ different)]

theorem lookup_filter_self : (fields.filter fun entry => entry.1 != key).lookup key = none := by
  rw [lookup_eq_none_iff]
  intro entry listed
  have kept := (mem_filter.mp listed).2
  rw [bne_iff_ne] at kept
  exact bne_iff_ne.mpr kept.symm

theorem lookup_orderedInsert (absent : fields.lookup key = none) :
    (fields.orderedInsert (fun first second => first.1 ≤ second.1) (key, stored)).lookup other =
      if other = key then some stored else fields.lookup other := by
  induction fields with
  | nil => exact lookup_entry
  | cons entry fields ih =>
    obtain ⟨name, first⟩ := entry
    rw [lookup_entry] at absent
    split at absent
    · cases absent
    · rename_i apart
      rw [orderedInsert_cons]
      split
      · exact lookup_entry
      · rw [lookup_entry, ih absent, lookup_entry]
        by_cases same : other = key
        · rw [if_pos same, if_pos same, if_neg (same ▸ apart)]
        · rw [if_neg same, if_neg same]

theorem get?_put_ne (different : other ≠ key) :
    (value.put key stored).get? other = value.get? other := by
  cases value with
  | obj fields =>
    simp only [put, get?, lookup_orderedInsert lookup_filter_self, if_neg different,
      lookup_filter_ne different]
  | _ => rfl

theorem get?_without_ne (different : other ≠ key) :
    (value.without key).get? other = value.get? other := by
  cases value with
  | obj fields => exact lookup_filter_ne different
  | _ => rfl

end

end Json
