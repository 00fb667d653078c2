import KSlide.Json.Lines

/-
This file gives the default text of JSON values and proves that the reader inverts it.
-/

namespace Json

mutual
/-- The default text keeps the order of the fields and has a space after each separator. -/
def spacedChars : Json → List Char
  | .null => dumpsChars .null
  | .bool value => dumpsChars (.bool value)
  | .int value => dumpsChars (.int value)
  | .real text => text.toList
  | .str text => dumpsText text
  | .arr items => '[' :: (spacedItems items ++ [']'])
  | .obj fields => '\x7b' :: (spacedFields fields ++ ['\x7d'])

def spacedItems : List Json → List Char
  | [] => []
  | [value] => spacedChars value
  | value :: rest => spacedChars value ++ ',' :: ' ' :: spacedItems rest

def spacedFields : List (String × Json) → List Char
  | [] => []
  | [(key, value)] => dumpsText key ++ ':' :: ' ' :: spacedChars value
  | (key, value) :: rest =>
    dumpsText key ++ ':' :: ' ' :: (spacedChars value ++ ',' :: ' ' :: spacedFields rest)
end

mutual
/-- A finite value has no number but the printed finite ones. -/
def Finite : Json → Prop
  | .real text => RealShape text.toList
  | .arr items => FiniteItems items
  | .obj fields => FiniteFields fields
  | _ => True

def FiniteItems : List Json → Prop
  | [] => True
  | value :: rest => Finite value ∧ FiniteItems rest

def FiniteFields : List (String × Json) → Prop
  | [] => True
  | (_, value) :: rest => Finite value ∧ FiniteFields rest
end

theorem spacedItems_cons (value next : Json) (items : List Json) :
    spacedItems (value :: next :: items) =
      spacedChars value ++ ',' :: ' ' :: spacedItems (next :: items) := rfl

theorem spacedFields_cons (key : String) (value : Json) (next : String × Json)
    (fields : List (String × Json)) : spacedFields ((key, value) :: next :: fields) =
      dumpsText key ++ ':' :: ' ' ::
        (spacedChars value ++ ',' :: ' ' :: spacedFields (next :: fields)) := rfl

/-- A space stands after each comma and after each colon. -/
def spacedLayout : Layout where
  opening _ := []
  comma _ := [' ']
  colon := [' ']
  closing _ := []
  opens := compactLayout.opens
  continues _ _ := rfl
  names _ := rfl
  closes := compactLayout.closes
  ends _ _ ends := ends

mutual
theorem laid_spaced (depth : Nat) (value : Json) (finite : value.Finite) :
    laidChars spacedLayout depth value = spacedChars value ∧ value.Readable := by
  cases value with
  | real text => exact ⟨rfl, Or.inl finite⟩
  | arr items =>
    obtain ⟨same, readable⟩ := laid_spacedItems (depth + 1) items finite
    constructor
    · cases items with
      | nil => rfl
      | cons value items => simp [laidChars, spacedChars, spacedLayout, ← same]
    · exact readable
  | obj fields =>
    obtain ⟨same, readable⟩ := laid_spacedFields (depth + 1) fields finite
    constructor
    · cases fields with
      | nil => rfl
      | cons field fields => simp [laidChars, spacedChars, spacedLayout, ← same]
    · exact readable
  | _ => exact ⟨rfl, trivial⟩

theorem laid_spacedItems (depth : Nat) (items : List Json) (finite : FiniteItems items) :
    laidItems spacedLayout depth items = spacedItems items ∧ ReadableItems items := by
  cases items with
  | nil => exact ⟨rfl, trivial⟩
  | cons value items =>
    obtain ⟨first, readable⟩ := laid_spaced depth value finite.1
    obtain ⟨others, later⟩ := laid_spacedItems depth items finite.2
    constructor
    · cases items with
      | nil => exact first
      | cons next items => simp [laidItems, spacedItems, spacedLayout, ← first, ← others]
    · exact ⟨readable, later⟩

theorem laid_spacedFields (depth : Nat) (fields : List (String × Json))
    (finite : FiniteFields fields) :
    laidFields spacedLayout depth fields = spacedFields fields ∧ ReadableFields fields := by
  cases fields with
  | nil => exact ⟨rfl, trivial⟩
  | cons field fields =>
    obtain ⟨key, value⟩ := field
    obtain ⟨first, readable⟩ := laid_spaced depth value finite.1
    obtain ⟨others, later⟩ := laid_spacedFields depth fields finite.2
    constructor
    · cases fields with
      | nil => simp [laidFields, spacedFields, spacedLayout, ← first]
      | cons next fields => simp [laidFields, spacedFields, spacedLayout, ← first, ← others]
    · exact ⟨readable, later⟩
end

/-- The reader gives the sorted form of a whole document. -/
theorem loads_spaced {value : Json} (finite : value.Finite) :
    loads (spacedChars value) = some value.sorted := by
  obtain ⟨same, readable⟩ := laid_spaced 0 value finite
  have read := loads_laid spacedLayout readable [] rfl trivial
  rw [List.append_nil, same] at read
  exact read

end Json
