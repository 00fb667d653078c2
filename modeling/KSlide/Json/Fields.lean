import KSlide.Json.Lines
import KSlide.Json.Record
import KSlide.Text.Enumeration

/-
This file gives objects with optional fields, one for each member of an enumeration.
-/

namespace Json
open Text List

variable {Field : Type} [Enumeration Field]

/-- An absent value leaves its field out. -/
def presentFields (value : Field → Option Json) (names : List Field) : List (String × Json) :=
  names.filterMap fun name => (value name).map fun found => (Enumeration.value name, found)

/-- The object lists its present fields in the order of the enumeration. -/
def ofFields (value : Field → Option Json) : Json := .obj (presentFields value Enumeration.all)

variable {value : Field → Option Json} {names : List Field}

theorem lookup_presentFields {name : Field} (listed : name ∈ names) :
    (presentFields value names).lookup (Enumeration.value name) = value name := by
  induction names with
  | nil => exact absurd listed not_mem_nil
  | cons head names ih =>
    have later : name ≠ head → (presentFields value names).lookup (Enumeration.value name) = value name :=
      fun other => ih ((mem_cons.mp listed).resolve_left other)
    by_cases same : name = head
    · subst same
      cases found : value name with
      | some stored => simp [presentFields, found]
      | none =>
        have skipped : presentFields value (name :: names) = presentFields value names := by
          simp [presentFields, found]
        rw [skipped]
        by_cases again : name ∈ names
        · rw [ih again, found]
        · rw [lookup_eq_none_iff]
          intro entry member
          obtain ⟨other, present, stored⟩ := mem_filterMap.mp member
          obtain ⟨content, _, rfl⟩ := Option.map_eq_some_iff.mp stored
          have different : other ≠ name := by
            rintro rfl
            exact again present
          simp only [ne_eq, bne_iff_ne]
          intro equal
          exact different (Enumeration.distinct _ _ equal).symm
    · have different : Enumeration.value name ≠ Enumeration.value head := by
        intro equal
        exact same (Enumeration.distinct _ _ equal)
      cases found : value head with
      | none => simpa [presentFields, found] using later same
      | some stored =>
        simp only [presentFields, filterMap_cons, found, Option.map_some, lookup_cons,
          beq_eq_false_iff_ne.mpr different]
        exact later same

/-- Each field of the object reads back as it was given. -/
@[simp] theorem get?_ofFields (value : Field → Option Json) (name : Field) :
    (ofFields value).get? (Enumeration.value name) = value name :=
  lookup_presentFields (Enumeration.complete name)

theorem ofFields_inj {first second : Field → Option Json} :
    ofFields first = ofFields second ↔ first = second := by
  constructor
  · intro same
    ext1 name
    rw [← get?_ofFields first, same, get?_ofFields]
  · intro same
    rw [same]

theorem mem_presentFields {entry : String × Json} : entry ∈ presentFields value names ↔
      ∃ name ∈ names, ∃ found, value name = some found ∧ (Enumeration.value name, found) = entry := by
  simp [presentFields]

theorem keys_presentFields (value : Field → Option Json) (names : List Field) :
    ((presentFields value names).map Prod.fst).Sublist (names.map Enumeration.value) := by
  induction names with
  | nil => exact List.Sublist.refl _
  | cons head names ih =>
    cases found : value head with
    | none =>
      simp only [presentFields, filterMap_cons, found, Option.map_none, map_cons]
      exact ih.cons _
    | some stored =>
      simp only [presentFields, filterMap_cons, found, Option.map_some, map_cons]
      exact ih.cons_cons _

/-- The comparison leaves one field of the object out. -/
theorem without_ofFields [DecidableEq Field] (value : Field → Option Json) (name : Field) :
    (ofFields value).without (Enumeration.value name) = ofFields (Function.update value name none) := by
  simp only [ofFields, without, presentFields, obj.injEq, filter_filterMap]
  apply filterMap_congr
  intro other _
  by_cases same : other = name
  · subst same
    rw [Function.update_self]
    cases value other <;> simp
  · have different : Enumeration.value other ≠ Enumeration.value name := by
      intro equal
      exact same (Enumeration.distinct _ _ equal)
    rw [Function.update_of_ne same]
    cases value other <;> simp [different]

theorem storable_ofFields
    (sorted : ((Enumeration.all : List Field).map Enumeration.value).Pairwise (· < ·))
    (single : ∀ name : Field, OneLine (Enumeration.value name))
    (stored : ∀ name found, value name = some found → Storable found) :
    Storable (ofFields value) := by
  have each (names : List Field) : PlainFields (presentFields value names) ∧
      CanonicalFields (presentFields value names) ∧
      SingleLineFields (presentFields value names) := by
    induction names with
    | nil => exact ⟨trivial, trivial, trivial⟩
    | cons head names ih =>
      cases found : value head with
      | none =>
        have skipped : presentFields value (head :: names) = presentFields value names := by
          simp [presentFields, found]
        rw [skipped]
        exact ih
      | some content =>
        have first := stored head content found
        have split : presentFields value (head :: names) =
            (Enumeration.value head, content) :: presentFields value names := by
          simp [presentFields, found]
        rw [split]
        exact ⟨⟨first.plain, ih.1⟩, ⟨first.canonical, ih.2.1⟩, single head, first.single, ih.2.2⟩
  have fields := each Enumeration.all
  exact {
    plain := fields.1
    canonical := ⟨sorted.sublist (keys_presentFields value _), fields.2.1⟩
    single := fields.2.2
  }

end Json
