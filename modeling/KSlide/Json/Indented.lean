import KSlide.Json.Edits
import KSlide.Json.Spaced

/-
This file gives the indented text of JSON values and proves that the reader inverts it.
-/

namespace Json
open List

/-- Each level of an indented text has two more spaces. -/
def newline (depth : Nat) : List Char := '\n' :: List.replicate (2 * depth) ' '

mutual
def indentedChars (depth : Nat) : Json → List Char
  | .null => dumpsChars .null
  | .bool value => dumpsChars (.bool value)
  | .int value => dumpsChars (.int value)
  | .real text => text.toList
  | .str text => dumpsText text
  | .arr [] => ['[', ']']
  | .arr items =>
    '[' :: (newline (depth + 1) ++ (indentedItems (depth + 1) items ++ (newline depth ++ [']'])))
  | .obj [] => ['\x7b', '\x7d']
  | .obj fields => '\x7b' ::
      (newline (depth + 1) ++ (indentedFields (depth + 1) fields ++ (newline depth ++ ['\x7d'])))

def indentedItems (depth : Nat) : List Json → List Char
  | [] => []
  | [value] => indentedChars depth value
  | value :: rest => indentedChars depth value ++ ',' :: (newline depth ++ indentedItems depth rest)

def indentedFields (depth : Nat) : List (String × Json) → List Char
  | [] => []
  | [(key, value)] => dumpsText key ++ ':' :: ' ' :: indentedChars depth value
  | (key, value) :: rest => dumpsText key ++ ':' :: ' ' ::
      (indentedChars depth value ++ ',' :: (newline depth ++ indentedFields depth rest))
end

theorem skipGaps_newline (depth : Nat) (rest : List Char) :
    skipGaps (newline depth ++ rest) = skipGaps rest := by
  have spaces (count : Nat) : skipGaps (List.replicate count ' ' ++ rest) = skipGaps rest := by
    induction count with
    | zero => rfl
    | succ count ih => exact ih
  show skipGaps (List.replicate (2 * depth) ' ' ++ rest) = skipGaps rest
  exact spaces (2 * depth)

theorem ends_newline (depth : Nat) (rest : List Char) : Ends (newline depth ++ rest) :=
  Or.inr (Or.inr (Or.inr rfl))

/-- Each item and each field stands on its own line. -/
def indentedLayout : Layout where
  opening := newline
  comma := newline
  colon := [' ']
  closing := newline
  opens := skipGaps_newline
  continues := skipGaps_newline
  names := spacedLayout.names
  closes := skipGaps_newline
  ends depth rest _ := ends_newline depth rest

mutual
theorem laid_indented (depth : Nat) (value : Json) :
    laidChars indentedLayout depth value = indentedChars depth value := by
  cases value with
  | arr items =>
    have same := laid_indentedItems (depth + 1) items
    cases items with
    | nil => rfl
    | cons value items => simp [laidChars, indentedChars, indentedLayout, ← same]
  | obj fields =>
    have same := laid_indentedFields (depth + 1) fields
    cases fields with
    | nil => rfl
    | cons field fields => simp [laidChars, indentedChars, indentedLayout, ← same]
  | _ => rfl

theorem laid_indentedItems (depth : Nat) (items : List Json) :
    laidItems indentedLayout depth items = indentedItems depth items := by
  cases items with
  | nil => rfl
  | cons value items =>
    have first := laid_indented depth value
    have others := laid_indentedItems depth items
    cases items with
    | nil => exact first
    | cons next items => simp [laidItems, indentedItems, indentedLayout, ← first, ← others]

theorem laid_indentedFields (depth : Nat) (fields : List (String × Json)) :
    laidFields indentedLayout depth fields = indentedFields depth fields := by
  cases fields with
  | nil => rfl
  | cons field fields =>
    obtain ⟨key, value⟩ := field
    have first := laid_indented depth value
    have others := laid_indentedFields depth fields
    cases fields with
    | nil => simp [laidFields, indentedFields, indentedLayout, ← first]
    | cons next fields =>
      simp [laidFields, indentedFields, indentedLayout, ← first, ← others]
end

/-- The reader gives the sorted form of a whole document, which ends with a line feed. -/
theorem loads_indented {value : Json} (readable : value.Readable) :
    loads (indentedChars 0 value ++ ['\n']) = some value.sorted := by
  rw [← laid_indented]
  exact loads_laid indentedLayout readable ['\n'] rfl (Or.inr (Or.inr (Or.inr rfl)))

section
variable {key other : String} {value : Json}

variable (fields : List (String × Json))

theorem lookup_insertField : (insertField key value fields).lookup other =
      if other = key then some value else fields.lookup other := by
  induction fields with
  | nil => exact lookup_entry
  | cons field fields ih =>
    obtain ⟨name, found⟩ := field
    rw [insertField]
    by_cases before : key < name
    · rw [if_pos before, lookup_entry]
    · by_cases same : key = name
      · rw [if_neg before, if_pos same, lookup_entry, lookup_entry, same]
        by_cases wanted : other = name
        · rw [if_pos wanted, if_pos wanted]
        · rw [if_neg wanted, if_neg wanted, if_neg wanted]
      · rw [if_neg before, if_neg same, lookup_entry, lookup_entry, ih]
        by_cases named : other = name
        · have apart : other ≠ key := fun wanted => same (wanted.symm.trans named)
          rw [if_pos named, if_neg apart, if_pos named]
        · rw [if_neg named, if_neg named]

/-- Later fields of different keys do not hide each other. -/
theorem lookup_insertFields {added : List (String × Json)}
    (distinct : (added.map Prod.fst).Nodup) (fields : List (String × Json)) (name : String) :
    (added.foldl (fun fields field => insertField field.1 field.2 fields) fields).lookup name =
      (added.lookup name).or (fields.lookup name) := by
  induction added generalizing fields with
  | nil => rfl
  | cons field added ih =>
    obtain ⟨first, stored⟩ := field
    obtain ⟨absent, rest⟩ := nodup_cons.mp distinct
    rw [foldl_cons, ih rest, lookup_insertField, lookup_entry]
    by_cases same : name = first
    · have missed : added.lookup name = none := by
        rw [lookup_eq_none_iff]
        intro entry listed
        have known : entry.1 ∈ added.map Prod.fst := mem_map_of_mem listed
        exact bne_iff_ne.mpr fun equal => absent (same ▸ equal ▸ known)
      rw [missed, if_pos same, if_pos same]
      rfl
    · rw [if_neg same, if_neg same]

theorem lookup_sortedFields (name : String) :
    (sortedFields fields).lookup name = (fields.lookup name).map sorted := by
  induction fields with
  | nil => rfl
  | cons field fields ih =>
    obtain ⟨first, stored⟩ := field
    rw [sortedFields, lookup_cons, lookup_cons, ih]
    split <;> rfl

theorem keys_sortedFields : (sortedFields fields).map Prod.fst = fields.map Prod.fst := by
  induction fields with
  | nil => rfl
  | cons field fields ih =>
    obtain ⟨first, stored⟩ := field
    rw [sortedFields, map_cons, map_cons, ih]

theorem get?_sorted {fields : List (String × Json)} (distinct : (fields.map Prod.fst).Nodup)
    (name : String) : (sorted (.obj fields)).get? name = (fields.lookup name).map sorted := by
  rw [sorted, collect, get?]
  rw [lookup_insertFields (by rw [keys_sortedFields]; exact distinct), lookup_sortedFields]
  simp

end

end Json
