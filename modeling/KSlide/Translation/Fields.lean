import KSlide.Conflict.Records
import KSlide.Json.Optional

/-
This file gives the checks of the fields of a translation patch.
-/

namespace KSlide
open List

inductive RelationType where
  | next | dependsOn | contains | before | after | causes | mitigates | comparesTo | partOf
  | flowsTo | highlights | other
deriving DecidableEq, Repr

instance : Text.Enumeration RelationType where
  value
    | .next => "next"
    | .dependsOn => "depends_on"
    | .contains => "contains"
    | .before => "before"
    | .after => "after"
    | .causes => "causes"
    | .mitigates => "mitigates"
    | .comparesTo => "compares_to"
    | .partOf => "part_of"
    | .flowsTo => "flows_to"
    | .highlights => "highlights"
    | .other => "other"
  all := [.next, .dependsOn, .contains, .before, .after, .causes, .mitigates, .comparesTo,
    .partOf, .flowsTo, .highlights, .other]

inductive RelationDirection where
  | leftToRight | rightToLeft | topToBottom | bottomToTop | bidirectional | none | unknown
deriving DecidableEq, Repr

instance : Text.Enumeration RelationDirection where
  value
    | .leftToRight => "left_to_right"
    | .rightToLeft => "right_to_left"
    | .topToBottom => "top_to_bottom"
    | .bottomToTop => "bottom_to_top"
    | .bidirectional => "bidirectional"
    | .none => "none"
    | .unknown => "unknown"
  all := [.leftToRight, .rightToLeft, .topToBottom, .bottomToTop, .bidirectional, .none, .unknown]

/-- A retained Hangul text gives its reason and its evidence. -/
def HangulRetention.retains (value : Json) : Bool :=
  let reasoned := match value.field "reason" with
    | .str reason => !Text.isBlank reason
    | _ => false
  let supported := match value.field "evidence_id" with
    | .str _ => true
    | _ => false
  value.isObject && reasoned && supported

structure HangulRetention where
  value : Json
  valid : HangulRetention.retains value = true
deriving DecidableEq

/-- The identifiers of a patch are safe. -/
structure PatchId where
  text : String
  safe : Conflict.isIdentifier text = true
deriving DecidableEq

namespace Translation

def schemaError (message : String) : Raised := .kslide ⟨.schemaInvalid, message, []⟩

def PatchId.ofJson (value : Json) (label : String) : Except Raised PatchId :=
  let refused : Raised :=
    .kslide ⟨.schemaInvalid, "Unsafe " ++ label ++ " identifier.", [(label, value)]⟩
  match value with
  | .str text =>
    if safe : Conflict.isIdentifier text = true then .ok ⟨text, safe⟩ else .error refused
  | _ => .error refused

def onlyFields (value : Json) (allowed : List String) (label : String) : Except Raised Unit :=
  let unknown := sortedSet (value.keys.filter (· ∉ allowed))
  require unknown.isEmpty (.kslide ⟨.schemaInvalid,
    "TranslationPatch contains source-owned or unknown " ++ label ++ " fields.",
    [("fields", .arr (unknown.map .str))]⟩)

def requireFields (value : Json) (required : List String) (label : String) :
    Except Raised Unit :=
  let missing := sortedSet (required.filter (· ∉ value.keys))
  require missing.isEmpty (.kslide ⟨.schemaInvalid,
    "TranslationPatch " ++ label ++ " is missing required fields.",
    [("fields", .arr (missing.map .str))]⟩)

def stringList (value : Json) (label : String) : Except Raised (List String) :=
  let refused := schemaError (label ++ " must be an array of strings.")
  match value with
  | .arr items => items.mapM (checkedText (fun _ => true) refused)
  | _ => .error refused

def optionalString (value : Json) (label : String) : Except Raised String :=
  checkedText (fun _ => true) (schemaError (label ++ " must be a string when present.")) value

def optionalPresent (value : Json) (key label : String) : Except Raised (Option String) :=
  match value.get? key with
  | none => .ok none
  | some found => some <$> optionalString found label

def presentList (value : Json) (key label : String) : Except Raised (Option (List String)) :=
  match value.get? key with
  | none => .ok none
  | some found => some <$> stringList found label

def arrayOf (value : Json) (message : String) : Except Raised (List Json) :=
  match value with
  | .arr items => .ok items
  | _ => .error (schemaError message)

def boolean (value : Json) (label : String) : Except Raised Bool :=
  match value with
  | .bool truth => .ok truth
  | _ => .error (schemaError (label ++ " must be a boolean."))

def hangulRetention (value : Json) (label : String) : Except Raised (Option HangulRetention) :=
  if value = .null then .ok none
  else if valid : HangulRetention.retains value = true then .ok (some ⟨value, valid⟩)
  else .error (schemaError (label ++ " must contain a reason and evidence_id."))

def enumValue (Word : Type) [Text.Enumeration Word] (value : Json) (label : String) :
    Except Raised Word :=
  match value with
  | .str text =>
    match Text.Enumeration.parse Word text with
    | some word => .ok word
    | none => .error (.kslide ⟨.schemaInvalid, label ++ " is not a supported semantic value.",
        [("value", value), ("allowed", .arr (Text.Enumeration.all.map fun (word : Word) =>
          .str (Text.Enumeration.value word)))]⟩)
  | _ => .error (schemaError (label ++ " must be a string."))

def optionalEnum (Word : Type) [Text.Enumeration Word] (value : Json) (label : String) :
    Except Raised (Option Word) :=
  if value = .null then .ok none else some <$> enumValue Word value label

def provenance (value : Json) (label : String) : Except Raised (Option ProvenanceState) :=
  optionalEnum ProvenanceState value label

variable {value : Json} {allowed : List String} {label : String}

theorem unknown_isEmpty : (sortedSet (value.keys.filter (· ∉ allowed))).isEmpty = true ↔
      ∀ key ∈ value.keys, key ∈ allowed := by
  rw [List.isEmpty_iff, List.eq_nil_iff_forall_not_mem]
  simp only [mem_sortedSet, mem_filter, decide_eq_true_eq, not_and, not_not]

@[simp] theorem onlyFields_ok
    {done : Unit} : onlyFields value allowed label = .ok done ↔ ∀ key ∈ value.keys, key ∈ allowed := by
  unfold onlyFields
  rw [require_ok, unknown_isEmpty]

@[simp] theorem requireFields_ok {required : List String} {label : String}
    {done : Unit} : requireFields value required label = .ok done ↔ ∀ key ∈ required, key ∈ value.keys := by
  unfold requireFields
  rw [require_ok, List.isEmpty_iff, List.eq_nil_iff_forall_not_mem]
  simp only [mem_sortedSet, mem_filter, decide_eq_true_eq, not_and, not_not]

@[simp] theorem patchId_ok {id : PatchId} :
    PatchId.ofJson value label = .ok id ↔ value = .str id.text := by
  unfold PatchId.ofJson
  cases value with
  | str text =>
    dsimp only
    rw [Json.str.injEq]
    by_cases safe : Conflict.isIdentifier text = true
    · rw [dif_pos safe, Except.ok.injEq]
      constructor
      · intro same
        rw [← same]
      · intro same
        cases id
        dsimp only at same
        subst same
        rfl
    · rw [dif_neg safe]
      constructor
      · intro same
        cases same
      · intro same
        rw [same] at safe
        exact absurd id.safe safe
  | _ => simp

@[simp] theorem optionalString_ok {label text : String} :
    optionalString value label = .ok text ↔ value = .str text := by
  unfold optionalString
  rw [checkedText_ok, and_iff_left rfl]

@[simp] theorem stringList_ok {texts : List String} :
    stringList value label = .ok texts ↔ value = .arr (texts.map .str) := by
  unfold stringList
  cases value with
  | arr items =>
    dsimp only
    rw [Json.arr.injEq]
    induction items generalizing texts with
    | nil =>
      cases texts with
      | nil => simp
      | cons text texts => simp
    | cons item items ih =>
      rw [mapM_cons]
      simp only [bind_ok, checkedText_ok, and_true, pure_ok, ih]
      cases texts with
      | nil => simp
      | cons text texts =>
        rw [map_cons, List.cons.injEq]
        constructor
        · intro parts
          obtain ⟨first, one, rest, more, same⟩ := parts
          obtain ⟨rfl, rfl⟩ := List.cons.inj same
          exact ⟨one, more⟩
        · intro parts
          obtain ⟨one, more⟩ := parts
          exact ⟨text, one, texts, more, rfl⟩
  | _ => simp

@[simp] theorem optionalPresent_ok {key label : String} {text : Option String} :
    optionalPresent value key label = .ok text ↔ value.get? key = text.map .str := by
  unfold optionalPresent
  cases value.get? key with
  | none => cases text <;> simp
  | some found => cases text <;> simp

@[simp] theorem presentList_ok {key label : String}
    {items : Option (List String)} : presentList value key label = .ok items ↔
      value.get? key = items.map fun texts => .arr (texts.map .str) := by
  unfold presentList
  cases value.get? key with
  | none => cases items <;> simp
  | some found => cases items <;> simp

@[simp] theorem arrayOf_ok {message : String} {items : List Json} :
    arrayOf value message = .ok items ↔ value = .arr items := by
  unfold arrayOf
  cases value <;> simp

@[simp] theorem boolean_ok {truth : Bool} :
    boolean value label = .ok truth ↔ value = .bool truth := by
  unfold boolean
  cases value <;> simp

/-- A missing retention may also be null. -/
@[simp] theorem hangulRetention_ok
    {retention : Option HangulRetention} : hangulRetention value label = .ok retention ↔
      value = (retention.map (·.value)).getD .null := by
  unfold hangulRetention
  by_cases empty : value = .null
  · rw [if_pos empty, empty, Except.ok.injEq]
    cases retention with
    | none => simp
    | some kept =>
      simp only [reduceCtorEq, Option.map_some, Option.getD_some, false_iff]
      intro same
      have valid := kept.valid
      rw [← same] at valid
      cases valid
  · rw [if_neg empty]
    by_cases valid : HangulRetention.retains value = true
    · rw [dif_pos valid, Except.ok.injEq]
      cases retention with
      | none => simp [empty]
      | some kept =>
        cases kept
        simp
    · rw [dif_neg valid]
      cases retention with
      | none => simp [empty]
      | some kept =>
        simp only [reduceCtorEq, Option.map_some, Option.getD_some, false_iff]
        intro same
        rw [same] at valid
        exact valid kept.valid

@[simp] theorem enumValue_ok {Word : Type} [Text.Enumeration Word] {value : Json}
    {label : String} {word : Word} :
    enumValue Word value label = .ok word ↔ value = .str (Text.Enumeration.value word) := by
  unfold enumValue
  cases value with
  | str text =>
    have named : Json.str text = .str (Text.Enumeration.value word) ↔
        Text.Enumeration.parse Word text = some word := by
      rw [Json.str.injEq, Text.Enumeration.parse_eq_some, eq_comm]
    dsimp only
    rw [named]
    cases Text.Enumeration.parse Word text <;> simp
  | _ => simp

@[simp] theorem provenance_ok {state : Option ProvenanceState} :
    provenance value label = .ok state ↔
      value = (state.map fun known => .str (Text.Enumeration.value known)).getD .null := by
  unfold provenance optionalEnum
  by_cases empty : value = .null
  · rw [if_pos empty, empty]
    cases state <;> simp
  · rw [if_neg empty]
    cases state <;> simp [empty]

end Translation
end KSlide
