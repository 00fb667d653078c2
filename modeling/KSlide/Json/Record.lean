import KSlide.Json.Value
import Mathlib.Data.String.Basic

/-
This file gives objects with a fixed list of names.
-/

namespace Json
open List

/-- A missing key reads as null. -/
def field (value : Json) (key : String) : Json := (value.get? key).getD .null

def without (value : Json) (key : String) : Json :=
  match value with
  | .obj fields => .obj (fields.filter fun entry => entry.1 != key)
  | other => other

/-- A record has one value for each of its names. -/
def record (names : List String) (value : String → Json) : Json :=
  .obj (names.map fun name => (name, value name))

variable {before after : List (String × Json)} {fields : List (String × Json)} {name : String}
  {value : Json} {names : List String}

theorem get?_record {value : String → Json} {name : String}
    (present : name ∈ names) : (record names value).get? name = some (value name) := by
  induction names with
  | nil => cases present
  | cons head names ih =>
    simp only [record, get?, map_cons, lookup_cons] at ih ⊢
    by_cases same : name = head
    · simp [same]
    · simp only [beq_eq_false_iff_ne.mpr same]
      exact ih ((mem_cons.mp present).resolve_left same)

theorem hasKeys_record {names others : List String} {value : String → Json} :
    (record names value).hasKeys others = true ↔ ∀ name, name ∈ names ↔ name ∈ others := by
  simp only [hasKeys, record, map_map, Function.comp_def, map_id', Bool.and_eq_true,
    all_eq_true, decide_eq_true_eq]
  grind

@[simp] theorem hasKeys_record_self {value : String → Json} :
    (record names value).hasKeys names = true :=
  hasKeys_record.mpr fun _ => Iff.rfl

theorem record_congr {first second : String → Json} :
    record names first = record names second ↔ ∀ name ∈ names, first name = second name := by
  simp [record]

theorem get?_eq_some_mem
    (found : (Json.obj fields).get? name = some value) : (name, value) ∈ fields := by
  induction fields with
  | nil => simp [get?] at found
  | cons field fields ih =>
    obtain ⟨key, first⟩ := field
    simp only [get?, lookup_cons] at found ih
    by_cases same : name = key
    · simp only [same, beq_self_eq_true, Option.some.injEq] at found
      rw [same, found]
      exact mem_cons_self
    · simp only [beq_eq_false_iff_ne.mpr same] at found
      exact mem_cons_of_mem _ (ih found)

theorem canonicalFields_mem (canonical : CanonicalFields fields)
    {name : String} {value : Json} (present : (name, value) ∈ fields) : value.Canonical := by
  induction fields with
  | nil => cases present
  | cons field fields ih =>
    simp only [CanonicalFields] at canonical
    rcases mem_cons.mp present with same | present
    · rw [← congrArg Prod.snd same] at canonical
      exact canonical.1
    · exact ih canonical.2 present

theorem canonical_get? {value found : Json} {name : String} (canonical : value.Canonical)
    (present : value.get? name = some found) : found.Canonical := by
  cases value with
  | obj fields =>
    simp only [Canonical] at canonical
    exact canonicalFields_mem canonical.2 (get?_eq_some_mem present)
  | _ => cases present

/-- The values of a canonical object are canonical. -/
theorem canonical_field (canonical : value.Canonical) (name : String) :
    (value.field name).Canonical := by
  unfold field
  cases found : value.get? name with
  | none => simp [Canonical]
  | some other => exact canonical_get? canonical found

theorem get?_of_mem (distinct : (fields.map Prod.fst).Nodup) (present : (name, value) ∈ fields) :
    (Json.obj fields).get? name = some value := by
  induction fields with
  | nil => cases present
  | cons field fields ih =>
    obtain ⟨key, first⟩ := field
    simp only [get?, lookup_cons] at ih ⊢
    rw [map_cons, nodup_cons] at distinct
    rcases mem_cons.mp present with same | later
    · obtain ⟨rfl, rfl⟩ := Prod.mk.inj same
      simp
    · have other : name ≠ key := by
        rintro rfl
        exact distinct.1 (mem_map.mpr ⟨_, later, rfl⟩)
      simp only [beq_eq_false_iff_ne.mpr other]
      exact ih distinct.2 later

theorem get?_of_hasKeys {name : String}
    (keys : value.hasKeys names = true) (present : name ∈ names) :
    ∃ found, value.get? name = some found := by
  cases value with
  | obj fields =>
    simp only [hasKeys, Bool.and_eq_true, all_eq_true, decide_eq_true_eq] at keys
    rw [get?, ← Option.isSome_iff_exists, ← Option.ne_none_iff_isSome, ne_eq,
      lookup_eq_none_iff]
    obtain ⟨field, listed, rfl⟩ := mem_map.mp (keys.2 name present)
    intro absent
    simpa using absent field listed
  | _ => simp [hasKeys] at keys

theorem mem_of_hasKeys {value found : Json} {names : List String} {name : String}
    (keys : value.hasKeys names = true) (present : value.get? name = some found) :
    name ∈ names := by
  cases value with
  | obj fields =>
    simp only [hasKeys, Bool.and_eq_true, all_eq_true, decide_eq_true_eq] at keys
    exact keys.1 name (mem_map_of_mem (f := Prod.fst) (get?_eq_some_mem present))
  | _ => cases present

/-- An object without the optional key has the required keys only. -/
theorem hasKeys_of_absent {names extended : List String} {name : String}
    (keys : (value.hasKeys names || value.hasKeys extended) = true) (extra : name ∈ extended)
    (absent : value.get? name = none) : value.hasKeys names = true := by
  rcases (Bool.or_eq_true _ _).mp keys with plain | full
  · exact plain
  · obtain ⟨found, present⟩ := get?_of_hasKeys full extra
    simp [absent] at present

theorem hasKeys_of_present {value found : Json} {names extended : List String} {name : String}
    (keys : (value.hasKeys names || value.hasKeys extended) = true) (missing : name ∉ names)
    (present : value.get? name = some found) : value.hasKeys extended = true := by
  rcases (Bool.or_eq_true _ _).mp keys with plain | full
  · exact absurd (mem_of_hasKeys plain present) missing
  · exact full

/-- A key between other keys is found and can be taken out again. -/
theorem field_between (absent : name ∉ before.map Prod.fst) :
    (Json.obj (before ++ (name, value) :: after)).field name = value := by
  induction before with
  | nil => simp [field, get?]
  | cons entry before ih =>
    obtain ⟨key, first⟩ := entry
    rw [map_cons, mem_cons, not_or] at absent
    simpa [field, get?, lookup_cons, beq_eq_false_iff_ne.mpr absent.1] using ih absent.2

theorem without_between
    (absentBefore : name ∉ before.map Prod.fst) (absentAfter : name ∉ after.map Prod.fst) :
    (Json.obj (before ++ (name, value) :: after)).without name = .obj (before ++ after) := by
  have kept : ∀ fields : List (String × Json), name ∉ fields.map Prod.fst →
      fields.filter (fun entry => entry.1 != name) = fields := by
    intro fields absent
    rw [filter_eq_self]
    intro entry present
    simp only [bne_iff_ne, ne_eq]
    rintro rfl
    exact absent (mem_map_of_mem present)
  simp [without, kept before absentBefore, kept after absentAfter]

theorem field_first {after : List (String × Json)} {name : String} {value : Json} :
    (Json.obj ((name, value) :: after)).field name = value := by
  simp [field, get?]

theorem without_first {after : List (String × Json)} {name : String} {value : Json}
    (absent : name ∉ after.map Prod.fst) :
    (Json.obj ((name, value) :: after)).without name = .obj after := by
  have empty : name ∉ ([] : List (String × Json)).map Prod.fst := not_mem_nil
  exact without_between empty absent

/-- A canonical object with sorted names is the record of its values. -/
theorem eq_record (canonical : value.Canonical)
    (sorted : names.Pairwise (· < ·)) (keys : value.hasKeys names = true) :
    value = record names value.field := by
  cases value with
  | obj fields =>
    simp only [Canonical] at canonical
    have distinct : (fields.map Prod.fst).Nodup :=
      canonical.1.imp fun {_ _} before => ne_of_lt before
    have same : fields.map Prod.fst = names := by
      refine List.Perm.eq_of_pairwise
        (fun _ _ _ _ before after => absurd before (lt_asymm after)) canonical.1 sorted ?_
      rw [perm_ext_iff_of_nodup distinct (sorted.imp fun {_ _} before => ne_of_lt before)]
      simp only [hasKeys, Bool.and_eq_true, all_eq_true, decide_eq_true_eq] at keys
      exact fun name => ⟨keys.1 name, keys.2 name⟩
    rw [record, ← same, map_map]
    congr 1
    refine (map_id' fields).symm.trans (map_congr_left fun entry present => ?_)
    simp [field, get?_of_mem distinct (show (entry.1, entry.2) ∈ fields from present)]
  | _ => simp [hasKeys] at keys

end Json
