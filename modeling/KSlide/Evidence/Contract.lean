import KSlide.Evidence.Ir

/-
This file gives the contract of a stored region and the language of a source text.
-/

namespace KSlide.EvidenceIR
open Python

def languageValues : List String := ["ko", "en", "mixed", "unknown"]

def hangulRanges : List (Nat × Nat) :=
  [(0x1100, 0x11FF), (0x3130, 0x318F), (0xA960, 0xA97F), (0xAC00, 0xD7AF), (0xD7B0, 0xD7FF)]

def latinRanges : List (Nat × Nat) :=
  [(0x41, 0x5A), (0x61, 0x7A), (0xC0, 0x24F), (0x1E00, 0x1EFF)]

def inRanges (ranges : List (Nat × Nat)) (letter : Char) : Bool :=
  ranges.any fun range => range.1 ≤ letter.toNat && letter.toNat ≤ range.2

/-- Only the letters of the two scripts tell the language. -/
def classifySourceLanguage (value : Json) : String :=
  match value with
  | .str text =>
    let hasHangul := text.toList.any (inRanges hangulRanges)
    let hasLatin := text.toList.any (inRanges latinRanges)
    if hasHangul && hasLatin then "mixed"
    else if hasHangul then "ko"
    else if hasLatin then "en"
    else "unknown"
  | _ => "unknown"

def schemaInvalid (message : String) (details : List (String × Json)) : Raised :=
  .kslide ⟨.schemaInvalid, message, details⟩

def isIdentifier (text : String) : Bool :=
  let letter (letter : Char) := Text.isAlnum letter || "._:-".toList.elem letter
  Text.isToken Text.isAlnum letter 127 text

/-- An identifier is returned unchanged. -/
def identifier (label : String) (value : Json) : Except Raised String :=
  checkedText isIdentifier (schemaInvalid s!"Unsafe {label} identifier." [(label, value)]) value

def isVisibleText (value : Json) : Bool := (text? value).any (!Text.isBlank ·)

section
variable [Fractions]

/-- Truth values and numbers without a size are no confidences. -/
def isConfident (value : Json) : Bool :=
  !([.real "NaN", .real "Infinity", .real "-Infinity"].elem value) &&
    value.number?.any fun confidence => Fractions.exact "0.8" ≤ confidence && confidence ≤ 1

namespace Region
variable (region : Region)

def contractError (message : String) : Raised :=
  schemaInvalid message [("region_id", region.fields.regionId)]

/-- The crop candidates that read exactly the selected literal. -/
def recoveryCandidates : List Json :=
  region.fields.ocrCandidates.filter fun item =>
    item.isObject && (item.field "recovery_pass").equalsInt 1 &&
      item.field "text" == region.fields.selectedLiteralCandidate &&
      Python.get item "trust_eligible" (.bool true) != .bool false &&
      (text? (item.field "crop_sha256")).any Text.isSha256 &&
      (text? (item.field "provider")).any (· != "")

def validateNativeVisual : Except Raised Unit := do
  require (!region.fields.requiredForTranslation &&
      region.fields.dispositionPolicy == .str "native-nontext-visual-v1" &&
      region.fields.dispositionEvidenceIds == [region.fields.regionId]) (region.contractError
    "A not-applicable text disposition requires the closed engine visual-preservation policy and source binding.")
  require (region.fields.selectedLiteralCandidate == .null &&
      region.fields.recoveryStatus == .str "NOT_REQUIRED" &&
      region.fields.recoveryAttempts.equalsInt 0 && region.fields.recoveryReason == .null)
    (region.contractError
      "A native visual-preservation disposition cannot erase literal or recovery evidence.")

def validateRecovered : Except Raised Unit := do
  require (region.fields.recoveryStatus == .str "RECOVERED" &&
      region.fields.recoveryAttempts.equalsInt 1) (region.contractError
    "A recovered literal must cite one durable engine crop re-extraction.")
  require (isVisibleText region.fields.selectedLiteralCandidate &&
      !region.recoveryCandidates.isEmpty) (region.contractError
    "Recovered literal lacks its durable crop OCR candidate.")
  require (region.recoveryCandidates.any fun item => isConfident (item.field "confidence"))
    (region.contractError "Recovered literal lacks a high-confidence crop OCR confirmation.")

def validateTrusted : Except Raised Unit := do
  require (isVisibleText region.fields.selectedLiteralCandidate) (region.contractError
    "Literal evidence without a selected source candidate cannot be semantically eligible.")
  require (region.fields.settledState != "OCR_ONLY" || isConfident region.fields.literalConfidence)
    (region.contractError "OCR-only literal evidence must meet the engine confidence threshold.")
  if region.fields.recoveryStatus = .str "NOT_REQUIRED" then
    require (region.fields.recoveryAttempts.equalsInt 0 && region.fields.recoveryReason == .null)
      (region.contractError "A region without recovery must not claim recovery evidence.")
  else region.validateRecovered

/-- Each state of the literal and of its recovery has its own contract. -/
def validateRecoveryContract : Except Raised Unit := do
  require (literalEvidenceStates.elem region.fields.settledState)
    (region.contractError "Evidence region has an unknown literal evidence state.")
  if region.fields.translationDisposition = "NOT_APPLICABLE_NATIVE_VISUAL" then
    region.validateNativeVisual
  else
    require (region.fields.translationDisposition == "REQUIRED" &&
        region.fields.requiredForTranslation && region.fields.dispositionPolicy == .null &&
        region.fields.dispositionEvidenceIds.isEmpty) (region.contractError
      "Evidence regions remain required; extraction cannot create a decorative or not-applicable exemption.")
    require (region.fields.recoveryAttempts == .int 0 || region.fields.recoveryAttempts == .int 1)
      (region.contractError "Literal recovery is bounded to one engine crop re-extraction.")
    if region.risky then
      require (region.fields.recoveryStatus == .str "NEEDS_REVIEW" &&
          isVisibleText region.fields.recoveryReason) (region.contractError
        "Risky literal evidence must remain in engine-owned NEEDS_REVIEW recovery state.")
    else region.validateTrusted

end Region
end
end KSlide.EvidenceIR
