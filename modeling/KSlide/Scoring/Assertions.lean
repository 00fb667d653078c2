import KSlide.Errors
import KSlide.Json.Record
import KSlide.Text.Enumeration
import KSlide.Text.Unicode

/-
This file gives the approved assertions about the meaning of a source text.
-/

namespace KSlide
open List

/-- The interpreter brings two more tables of letters, and the model takes them as a parameter. -/
class Compatibility where
  nfkc : List Char → List Char
  upper : List Char → List Char
  nfkc_basic : ∀ letters, (∀ letter ∈ letters, letter.toNat < 128) → nfkc letters = letters
  upper_basic : ∀ letters, (∀ letter ∈ letters, letter.toNat < 128) →
    upper letters = letters.map Char.toUpper

/-- These tables map the basic letters only and serve the closed runs. -/
@[reducible] def Compatibility.basic : Compatibility where
  nfkc letters := letters
  upper letters := letters.map Char.toUpper
  nfkc_basic _ _ := rfl
  upper_basic _ _ := rfl

namespace Scoring

/-- An assertion is about one kind of output. -/
inductive Surface where
  | region | tableCell | executiveClaim | visualInterpretation
deriving DecidableEq, Repr

instance : Text.Enumeration Surface where
  value
    | .region => "region"
    | .tableCell => "table_cell"
    | .executiveClaim => "executive_claim"
    | .visualInterpretation => "visual_interpretation"
  all := [.region, .tableCell, .executiveClaim, .visualInterpretation]

def isTokenLetter (letter : Char) : Bool := Text.isLower letter || Text.isDigit letter

/-- The tokens of a phrase are its runs of basic letters and digits. -/
def normalizedPhraseTokens [Unicode] [Compatibility] (value : String) : List (List Char) :=
  ((Unicode.casefold (Compatibility.nfkc value.toList)).splitOnP (!isTokenLetter ·)).filter
    (!·.isEmpty)

def isAssertionId (text : String) : Bool :=
  match text.toList with
  | 'n' :: 'c' :: 's' :: '-' :: digits => Text.isExactly Text.isHex 24 (String.ofList digits)
  | _ => false

structure AssertionId where
  text : String
  formed : isAssertionId text = true
deriving DecidableEq

/-- The anchor of an assertion is a text of the source that is not blank. -/
structure SourceAnchor where
  text : String
  visible : Text.isBlank text = false

/-- The accepted phrases have tokens, and no two of them have the same tokens. -/
structure ApprovedMeaning [Unicode] [Compatibility] where
  phrases : List String
  stated : phrases ≠ []
  plain : ∀ phrase ∈ phrases, normalizedPhraseTokens phrase ≠ []
  apart : (phrases.map normalizedPhraseTokens).Nodup

structure Assertion [Unicode] [Compatibility] where
  assertionId : AssertionId
  surface : Surface
  sourceText : SourceAnchor
  acceptedPhrases : ApprovedMeaning

def malformed (message : String) : Raised := .other ("ValueError: " ++ message)

namespace AssertionId

/-- No two assertions have the same identity. -/
def ofJson (seen : List String) (value : Json) : Except Raised AssertionId :=
  let refused := malformed "non-critical semantic assertion identity is malformed"
  match value with
  | .str text =>
    if formed : isAssertionId text = true then
      if seen.elem text then .error refused else .ok ⟨text, formed⟩
    else .error refused
  | _ => .error refused

theorem ofJson_new {seen : List String} {value : Json} {id : AssertionId}
    (parsed : ofJson seen value = .ok id) : id.text ∉ seen := by
  cases value with
  | str text =>
    unfold ofJson at parsed
    dsimp only at parsed
    split at parsed
    · split at parsed
      · cases parsed
      · rename_i _ fresh
        cases parsed
        simpa using fresh
    · cases parsed
  | _ => cases parsed

end AssertionId

def Surface.ofJson (value : Json) : Except Raised Surface :=
  let refused := malformed "non-critical semantic assertion surface is unsupported"
  match value with
  | .str text =>
    match Text.Enumeration.parse Surface text with
    | some surface => .ok surface
    | none => .error refused
  | _ => .error refused

def SourceAnchor.ofJson (value : Json) : Except Raised SourceAnchor :=
  let refused := malformed "non-critical semantic assertion source anchor is malformed"
  match value with
  | .str text => if visible : Text.isBlank text = false then .ok ⟨text, visible⟩ else .error refused
  | _ => .error refused

section
variable [Unicode] [Compatibility]

namespace ApprovedMeaning

/-- The phrases are texts that are not blank. -/
def phrasesOf (value : Json) : Except Raised (List String) := do
  let refused := malformed "non-critical semantic assertion meaning contract is malformed"
  match value with
  | .arr [] => throw refused
  | .arr items => items.mapM (checkedText (fun phrase => !Text.isBlank phrase) refused)
  | _ => throw refused

def ofPhrases (phrases : List String) : Except Raised ApprovedMeaning :=
  if sound : phrases ≠ [] ∧ (∀ phrase ∈ phrases, normalizedPhraseTokens phrase ≠ []) ∧
      (phrases.map normalizedPhraseTokens).Nodup then
    .ok ⟨phrases, sound.1, sound.2.1, sound.2.2⟩
  else .error (malformed "non-critical semantic assertion meaning contract is ambiguous")

def ofJson (value : Json) : Except Raised ApprovedMeaning := do
  ofPhrases (← phrasesOf value)

end ApprovedMeaning

namespace Assertion

def fieldNames : List String := ["accepted_phrases", "assertion_id", "source_text", "surface"]

def parse (seen : List String) (item : Json) : Except Raised Assertion := do
  require (item.hasKeys fieldNames)
    (malformed "non-critical semantic assertion has an unsupported shape")
  let assertionId ← AssertionId.ofJson seen (item.field "assertion_id")
  let surface ← Surface.ofJson (item.field "surface")
  let sourceText ← SourceAnchor.ofJson (item.field "source_text")
  let acceptedPhrases ← ApprovedMeaning.ofJson (item.field "accepted_phrases")
  return ⟨assertionId, surface, sourceText, acceptedPhrases⟩

def id (assertion : Assertion) : String := assertion.assertionId.text

def asDict (assertion : Assertion) : Json := .obj [
  ("accepted_phrases", .arr (assertion.acceptedPhrases.phrases.map .str)),
  ("assertion_id", .str assertion.id),
  ("source_text", .str assertion.sourceText.text),
  ("surface", .str (Text.Enumeration.value assertion.surface))]

theorem parse_new {seen : List String} {item : Json} {assertion : Assertion}
    (parsed : parse seen item = .ok assertion) : assertion.id ∉ seen := by
  unfold parse at parsed
  simp only [bind_ok, pure_ok] at parsed
  obtain ⟨_, _, id, identified, _, _, _, _, _, _, same⟩ := parsed
  rw [← same]
  exact AssertionId.ofJson_new identified

end Assertion

/-- The items are read one after another, and each knows the identities before it. -/
def validateItems (seen : List String) : List Json → Except Raised (List Assertion)
  | [] => .ok []
  | item :: items => do
    let assertion ← Assertion.parse seen item
    let others ← validateItems (assertion.id :: seen) items
    return assertion :: others

def validateAssertions : Json → Except Raised (List Assertion)
  | .arr items => validateItems [] items
  | _ => .error (malformed "non-critical semantic assertions must be a list")

theorem validateItems_apart {seen : List String} {items : List Json} {assertions : List Assertion}
    (validated : validateItems seen items = .ok assertions) :
    (assertions.map Assertion.id).Nodup ∧ ∀ assertion ∈ assertions, assertion.id ∉ seen := by
  induction items generalizing seen assertions with
  | nil =>
    cases validated
    exact ⟨nodup_nil, fun _ listed => absurd listed not_mem_nil⟩
  | cons item items ih =>
    rw [validateItems] at validated
    simp only [bind_ok, pure_ok] at validated
    obtain ⟨assertion, parsed, others, later, same⟩ := validated
    obtain ⟨apart, fresh⟩ := ih later
    rw [← same, map_cons, nodup_cons]
    have first : assertion.id ∉ others.map Assertion.id := by
      intro repeated
      obtain ⟨other, listed, equal⟩ := mem_map.mp repeated
      apply fresh other listed
      rw [equal]
      exact mem_cons_self
    have new : ∀ other ∈ assertion :: others, other.id ∉ seen := by
      intro other listed
      rcases mem_cons.mp listed with equal | later
      · rw [equal]
        exact Assertion.parse_new parsed
      · exact fun known => fresh other later (mem_cons_of_mem _ known)
    exact ⟨⟨first, apart⟩, new⟩

/-- Validated assertions have different identities. -/
theorem validateAssertions_apart {value : Json} {assertions : List Assertion}
    (validated : validateAssertions value = .ok assertions) :
    (assertions.map Assertion.id).Nodup := by
  cases value with
  | arr items => exact (validateItems_apart validated).1
  | _ => cases validated

/-- These assertions are about the public scenarios. -/
def publicNoncriticalAssertions : List (String × Json) := [
  ("scenario-0001", .arr [
    .obj [
      ("accepted_phrases",
        .arr [.str "KPI improvement initiative", .str "initiative to improve KPIs"]),
      ("assertion_id", .str "ncs-208d55c7be6ea492c5bc4d18"),
      ("source_text", .str "KPI 개선 추진"),
      ("surface", .str "region")],
    .obj [
      ("accepted_phrases", .arr [
        .str "review of revenue growth and key risks",
        .str "review of revenue growth and major risks",
        .str "revenue growth rate and key risks under review"]),
      ("assertion_id", .str "ncs-c7b7228a9c50bf62ac068ad7"),
      ("source_text", .str "Revenue 성장률 및 주요 리스크 검토"),
      ("surface", .str "region")]])]

def publicAssertionsFor (scenarioId : String) : Except Raised (List Assertion) :=
  validateAssertions ((publicNoncriticalAssertions.lookup scenarioId).getD (.arr []))

end

/-- The scorer reads the identity and the gold of a scenario. -/
structure Scenario where
  scenarioId : String
  gold : Json
deriving DecidableEq

/-- The assertions of the gold count, and a scenario without them has its public assertions. -/
def assertionsForScenario [Unicode] [Compatibility] (scenario : Scenario) :
    Except Raised (List Assertion) :=
  if !scenario.gold.isObject then .error (malformed "scenario gold contract is malformed")
  else
    match scenario.gold.get? "noncritical_semantic_assertions" with
    | some value => validateAssertions value
    | none => publicAssertionsFor scenario.scenarioId

theorem assertionsForScenario_apart [Unicode] [Compatibility] {scenario : Scenario}
    {assertions : List Assertion} (found : assertionsForScenario scenario = .ok assertions) :
    (assertions.map Assertion.id).Nodup := by
  unfold assertionsForScenario at found
  split at found
  · cases found
  · split at found
    · exact validateAssertions_apart found
    · exact validateAssertions_apart found

end Scoring
end KSlide
