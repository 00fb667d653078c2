import KSlide.Json.Record

/-
This file gives objects whose listed names may be left out.
-/

namespace Json
open List

/-- A name without a value is left out. -/
def optionalRecord (names : List String) (value : String → Option Json) : Json :=
  .obj (names.filterMap fun name => (value name).map fun found => (name, found))

variable {names : List String} {value : String → Option Json} {name : String}

theorem get?_optionalRecord (listed : name ∈ names) :
    (optionalRecord names value).get? name = value name := by
  show (names.filterMap fun name => (value name).map fun found => (name, found)).lookup name = _
  induction names with
  | nil => cases listed
  | cons head names ih =>
    rw [filterMap_cons]
    by_cases same : name = head
    · rw [← same]
      cases found : value name with
      | some stored => simp
      | none =>
        by_cases again : name ∈ names
        · exact (ih again).trans found
        · dsimp only [Option.map_none]
          rw [lookup_eq_none_iff]
          intro entry present
          obtain ⟨other, known, stored⟩ := mem_filterMap.mp present
          obtain ⟨content, _, here⟩ := Option.map_eq_some_iff.mp stored
          rw [← here, bne_iff_ne]
          intro equal
          rw [equal] at again
          exact again known
    · have later := ih ((mem_cons.mp listed).resolve_left same)
      cases value head with
      | none => exact later
      | some stored =>
        dsimp only [Option.map_some]
        rw [lookup_cons, beq_false_of_ne same]
        exact later

theorem mem_keys_optionalRecord :
    name ∈ (optionalRecord names value).keys ↔ name ∈ names ∧ (value name).isSome = true := by
  unfold optionalRecord keys
  rw [mem_map]
  constructor
  · intro parts
    obtain ⟨entry, present, same⟩ := parts
    obtain ⟨other, listed, stored⟩ := mem_filterMap.mp present
    obtain ⟨found, known, here⟩ := Option.map_eq_some_iff.mp stored
    rw [← here] at same
    dsimp only at same
    rw [← same, known]
    exact ⟨listed, rfl⟩
  · intro parts
    obtain ⟨listed, present⟩ := parts
    obtain ⟨found, known⟩ := Option.isSome_iff_exists.mp present
    use (name, found)
    constructor
    · rw [mem_filterMap]
      exact ⟨name, listed, by rw [known]; rfl⟩
    · rfl

/-- Leaving a name out leaves the other fields as they are. -/
theorem without_optionalRecord {key : String} : (optionalRecord names value).without key =
    optionalRecord names (Function.update value key none) := by
  unfold optionalRecord without
  rw [Json.obj.injEq, filter_filterMap]
  apply filterMap_congr
  intro other _
  by_cases same : other = key
  · rw [same, Function.update_self]
    cases value key <;> simp
  · rw [Function.update_of_ne same]
    cases value other <;> simp [same]

theorem mem_keys {value : Json} {name : String} :
    name ∈ value.keys ↔ (value.get? name).isSome = true := by
  cases value with
  | obj fields =>
    show name ∈ fields.map Prod.fst ↔ (fields.lookup name).isSome = true
    rw [← Option.ne_none_iff_isSome, ne_eq, lookup_eq_none_iff, mem_map]
    constructor
    · intro parts absent
      obtain ⟨entry, present, same⟩ := parts
      have different := absent entry present
      rw [same, bne_self_eq_false] at different
      cases different
    · intro present
      by_contra absent
      apply present
      intro entry listed
      rw [bne_iff_ne]
      intro same
      exact absent ⟨entry, listed, same.symm⟩
  | _ => simp [keys, get?]

end Json
