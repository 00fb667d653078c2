import KSlide.Text.Rewriting

/-
This file gives the scrubbing of support content and the secret check of its readers.
-/

namespace KSlide.SupportContent
open Rewriting

/-- The placeholders and the labels have basic letters only. -/
def bytes (text : String) : List UInt8 := text.toList.map fun letter => letter.toNat.toUInt8

def lower (byte : UInt8) : UInt8 := if 65 ≤ byte ∧ byte ≤ 90 then byte + 32 else byte

def isSpace (byte : UInt8) : Bool := (9 ≤ byte && byte ≤ 13) || byte == 32

/-- A known word is read in any case. -/
def word : List UInt8 → List UInt8 → Option (List UInt8)
  | [], text => some text
  | _ :: _, [] => none
  | known :: more, byte :: text => if lower byte = known then word more text else none

def isSeparator (byte : UInt8) : Bool := isSpace byte || byte ∈ bytes "_.:/-"

/-- A label is read from the start of a text, and the rest of the text stays. -/
def secretLabel (text : List UInt8) : Option (List UInt8) :=
  match word (bytes "access") text with
  | some rest => word (bytes "key") (rest.dropWhile isSeparator)
  | none =>
    match word (bytes "credential") text with
    | some rest => some ((word (bytes "s") rest).getD rest)
    | none => ["authorization", "password", "secret", "token"].findSome? fun label =>
      word (bytes label) text

/-- The value of an assignment ends at white space or at a closing letter. -/
def isValue (byte : UInt8) : Bool := !isSpace byte && byte ∉ bytes ",;\x7d]"

def secretAssignment (text : List UInt8) : Option (List UInt8) :=
  match (secretLabel text).map (·.dropWhile isSpace) with
  | some (sign :: after) =>
    let value := after.dropWhile isSpace
    if (sign = 58 ∨ sign = 61) ∧ value.head?.any isValue = true then
      some (value.dropWhile isValue)
    else none
  | _ => none

def matchLength (read : List UInt8 → Option (List UInt8)) (text : List UInt8) : Nat :=
  match read text with
  | some rest => text.length - rest.length
  | none => 0

def placeholder : List UInt8 := bytes "__KSLIDE_SECRET__"
def redacted : List UInt8 := bytes "[REDACTED_SECRET]"

/-- An empty access key counts as an access key that is not set. -/
def secretBytes (accessKey : Option String) : Option (List UInt8) :=
  (accessKey.filter (· ≠ "")).map fun text => text.toUTF8.toList

def withoutKey (accessKey : Option String) (data : List UInt8) : List UInt8 :=
  match secretBytes accessKey with
  | some secret => replace secret placeholder data
  | none => data

def withoutAssignments (data : List UInt8) : List UInt8 :=
  sub (matchLength secretAssignment) placeholder data

def withoutLabels (data : List UInt8) : List UInt8 := sub (matchLength secretLabel) placeholder data

def safeContentBytes (accessKey : Option String) (data : List UInt8) : List UInt8 :=
  replace placeholder redacted (withoutLabels (withoutAssignments (withoutKey accessKey data)))

def searches (read : List UInt8 → Option (List UInt8)) (data : List UInt8) : Bool :=
  data.tails.any fun tail => (read tail).isSome

def containsSecretMarker (accessKey : Option String) (data : List UInt8) : Bool :=
  let scrubbed := replace redacted [] data
  searches secretLabel scrubbed ||
    (secretBytes accessKey).any fun secret => decide (secret <:+: scrubbed)

/-- The letters around the labels come together when the labels are cut out. -/
def cutLabels (data : List UInt8) : List UInt8 := (pieces (matchLength secretLabel) 0 data).flatten

/-- The letters that come together form neither a label nor the access key. -/
def Separates (accessKey : Option String) (data : List UInt8) : Prop :=
  (∀ tail, tail <:+ data → secretLabel tail = none) ∧
    ∀ secret ∈ secretBytes accessKey, ¬ secret <:+: data

def core : List UInt8 := bytes "SECRET"

theorem placeholder_marks : Marks placeholder core := by
  constructor <;> decide

theorem redacted_marks : Marks redacted core := by
  constructor <;> decide

theorem secretLabel_core (rest : List UInt8) : secretLabel (core ++ rest) = some rest := by
  rfl

theorem label_finds (text : List UInt8) (start : core <+: text) :
    matchLength secretLabel text ≠ 0 := by
  obtain ⟨rest, same⟩ := start
  rw [← same]
  unfold matchLength
  rw [secretLabel_core, List.length_append]
  have long : core.length = 6 := rfl
  show core.length + rest.length - rest.length ≠ 0
  omega

/-- What the reader checks are the letters around the labels of the scrubbed content. -/
theorem scrubbed_safeContent (accessKey : Option String) (data : List UInt8) :
    replace redacted [] (safeContentBytes accessKey data) =
      cutLabels (withoutAssignments (withoutKey accessKey data)) := by
  unfold safeContentBytes withoutLabels cutLabels
  rw [placeholder_marks.replace_sub label_finds, redacted_marks.replace_sub label_finds]
  exact sub_nil _ _

end KSlide.SupportContent
