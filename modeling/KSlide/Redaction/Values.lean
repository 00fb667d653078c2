import KSlide.Json.Indented
import KSlide.Json.Record
import KSlide.Redaction.Texts

/-
This file gives the redaction of a JSON value and the document that the releases write, and
shows that the redaction keeps the values that hold nothing to redact.
-/

namespace KSlide
namespace Redaction

variable [Unicode]

/-- A key may hide its whole value. -/
def keyMarker (key : String) : Option String :=
  if key.isEmpty then none
  else if isSecretKey key then some "[REDACTED_SECRET]"
  else if isContentKey key then some "[REDACTED_CONTENT]"
  else none

def underKey (key : String) (value : Json) : Json := ((keyMarker key).map .str).getD value

mutual
/-- A value without a key is rewritten in its texts and below its own keys. -/
def redactValue (host : Host) : Json → Json
  | .str text => .str (String.ofList (redactText host text.toList))
  | .obj fields => .obj (redactFields host fields)
  | .arr items => .arr (redactItems host items)
  | other => other

def redactItems (host : Host) : List Json → List Json
  | [] => []
  | value :: rest => redactValue host value :: redactItems host rest

def redactFields (host : Host) : List (String × Json) → List (String × Json)
  | [] => []
  | (name, value) :: rest =>
    (name, underKey name (redactValue host value)) :: redactFields host rest
end

/-- The release metadata crosses the operational boundary. -/
def safeOperationalJson (host : Host) (value : Json) : List Char :=
  Json.indentedChars 0 (redactValue host value) ++ ['\n']

/-- The value below a key that hides it must be the marker already. -/
def KeptUnder (key : String) (value : Json) (kept : Prop) : Prop :=
  match keyMarker key with
  | some text => value = .str text
  | none => kept

mutual
/-- No key inside hides its value, and every text is kept. -/
def Kept (host : Host) : Json → Prop
  | .str text => KeptText host text.toList
  | .obj fields => KeptFields host fields
  | .arr items => KeptItems host items
  | _ => True

def KeptItems (host : Host) : List Json → Prop
  | [] => True
  | value :: rest => Kept host value ∧ KeptItems host rest

def KeptFields (host : Host) : List (String × Json) → Prop
  | [] => True
  | (name, value) :: rest => KeptUnder name value (Kept host value) ∧ KeptFields host rest
end

section
variable {host : Host}

theorem underKey_kept {key : String} {value redacted : Json} {kept : Prop}
    (under : KeptUnder key value kept) (same : kept → redacted = value) :
    underKey key redacted = value := by
  rw [KeptUnder] at under
  rw [underKey]
  cases named : keyMarker key with
  | some text =>
    rw [named] at under
    exact under.symm
  | none =>
    rw [named] at under
    exact same under

mutual
theorem redactValue_kept (value : Json) (kept : Kept host value) :
    redactValue host value = value := by
  cases value with
  | str text =>
    have same : redactText host text.toList = text.toList := redactText_kept kept
    rw [redactValue, same, String.ofList_toList]
  | obj fields => exact congrArg Json.obj (redactFields_kept fields kept)
  | arr items => exact congrArg Json.arr (redactItems_kept items kept)
  | _ => rfl

theorem redactItems_kept (items : List Json) (kept : KeptItems host items) :
    redactItems host items = items := by
  cases items with
  | nil => rfl
  | cons value items =>
    rw [redactItems, redactValue_kept value kept.1, redactItems_kept items kept.2]

theorem redactFields_kept (fields : List (String × Json)) (kept : KeptFields host fields) :
    redactFields host fields = fields := by
  cases fields with
  | nil => rfl
  | cons field fields =>
    obtain ⟨name, value⟩ := field
    have same := underKey_kept kept.1 fun inside => redactValue_kept value inside
    rw [redactFields, same, redactFields_kept fields kept.2]
end

end

section
variable (host : Host)

theorem redactFields_names (fields : List (String × Json)) :
    (redactFields host fields).map Prod.fst = fields.map Prod.fst := by
  induction fields with
  | nil => rfl
  | cons field fields ih =>
    obtain ⟨name, value⟩ := field
    rw [redactFields, List.map_cons, List.map_cons, ih]

theorem lookup_redactFields (fields : List (String × Json)) (name : String) :
    (redactFields host fields).lookup name =
      (fields.lookup name).map fun value => underKey name (redactValue host value) := by
  induction fields with
  | nil => rfl
  | cons field fields ih =>
    obtain ⟨key, value⟩ := field
    rw [redactFields, List.lookup_cons, List.lookup_cons]
    by_cases same : name = key
    · rw [same, beq_self_eq_true]
      rfl
    · rw [beq_eq_false_iff_ne.mpr same]
      exact ih

theorem underKey_texts {holds : Json → Prop} (texts : ∀ text, holds (.str text)) {key : String}
    {value : Json} (inside : holds value) : holds (underKey key value) := by
  rw [underKey]
  cases keyMarker key with
  | some text => exact texts text
  | none => exact inside

mutual
theorem redactValue_canonical (value : Json) (canonical : value.Canonical) :
    (redactValue host value).Canonical := by
  cases value with
  | obj fields =>
    have ordered : ((redactFields host fields).map Prod.fst).Pairwise (· < ·) := by
      rw [redactFields_names]
      exact canonical.1
    exact ⟨ordered, redactFields_canonical fields canonical.2⟩
  | arr items => exact redactItems_canonical items canonical
  | _ => trivial

theorem redactItems_canonical (items : List Json) (canonical : Json.CanonicalItems items) :
    Json.CanonicalItems (redactItems host items) := by
  cases items with
  | nil => trivial
  | cons value items =>
    exact ⟨redactValue_canonical value canonical.1, redactItems_canonical items canonical.2⟩

theorem redactFields_canonical (fields : List (String × Json))
    (canonical : Json.CanonicalFields fields) :
    Json.CanonicalFields (redactFields host fields) := by
  cases fields with
  | nil => trivial
  | cons field fields =>
    obtain ⟨name, value⟩ := field
    have inside : (underKey name (redactValue host value)).Canonical :=
      underKey_texts (fun _ => trivial) (redactValue_canonical value canonical.1)
    exact ⟨inside, redactFields_canonical fields canonical.2⟩
end

mutual
theorem redactValue_readable (value : Json) (readable : value.Readable) :
    (redactValue host value).Readable := by
  cases value with
  | obj fields => exact redactFields_readable fields readable
  | arr items => exact redactItems_readable items readable
  | real text => exact readable
  | _ => trivial

theorem redactItems_readable (items : List Json) (readable : Json.ReadableItems items) :
    Json.ReadableItems (redactItems host items) := by
  cases items with
  | nil => trivial
  | cons value items =>
    exact ⟨redactValue_readable value readable.1, redactItems_readable items readable.2⟩

theorem redactFields_readable (fields : List (String × Json))
    (readable : Json.ReadableFields fields) : Json.ReadableFields (redactFields host fields) := by
  cases fields with
  | nil => trivial
  | cons field fields =>
    obtain ⟨name, value⟩ := field
    have inside : (underKey name (redactValue host value)).Readable :=
      underKey_texts (fun _ => trivial) (redactValue_readable value readable.1)
    exact ⟨inside, redactFields_readable fields readable.2⟩
end

theorem loads_written {value : Json} (canonical : value.Canonical) (readable : value.Readable) :
    Json.loads (safeOperationalJson host value) = some (redactValue host value) := by
  rw [safeOperationalJson, Json.loads_indented (redactValue_readable host value readable),
    Json.sorted_canonical _ (redactValue_canonical host value canonical)]

end

end Redaction
end KSlide
