import KSlide.Errors
import KSlide.Evidence.Fusion
import Mathlib.Data.Prod.Lex
import Mathlib.Data.String.Basic
import Mathlib.Logic.Function.Basic

/-
This file gives the regions that the extraction builds, their second reading and their contract.
-/

namespace KSlide

inductive RecoveryStatus where
  | notRequired | needsReview | recovered
deriving DecidableEq, Repr

inductive TranslationDisposition where
  | required | notApplicableNativeVisual
deriving DecidableEq, Repr

/-- What the extraction reads of a native object. -/
structure NativeItem where
  sourceId : Option String
  text : Option (List Char)
  bboxPx : Option Box
  evidenceSource : String
  shapeType : List Char
  hasConnector : Bool
  hasChart : Bool
  hasTable : Bool

/-- A region of the page before its readings are fused. -/
structure CroppedRegion where
  regionId : String
  bboxPx : Box
  readingOrder : Nat
  nativeTextCandidates : List (List Char)
  cropOriginalPath : String

/-- A region of the evidence with its literal and the state of its recovery. -/
structure EvidenceRegion extends CroppedRegion where
  ocrCandidates : List OcrCandidate
  selectedLiteralCandidate : Option (List Char)
  literalConfidence : Option ℚ
  evidenceState : LiteralEvidenceState
  requiredForTranslation : Bool
  translationDisposition : TranslationDisposition
  dispositionPolicy : Option String
  dispositionEvidenceIds : List String
  recoveryStatus : RecoveryStatus
  recoveryAttempts : Nat
  recoveryReason : Option String

structure OcrRegion where
  text : List Char
  bboxPx : Box
  confidence : Option Confidence
  readingOrder : Int

structure OcrResult where
  provider : String
  providerVersion : String
  regions : List OcrRegion

/-- The second reading of a crop fails, or its digest fails, or both are there. -/
inductive CropReading where
  | raised (kind : String)
  | read (result : OcrResult) (width height : Nat) (digest : ContentDigest)

/-- The page of a work unit and the answers of the provider. -/
structure PageReading where
  workUnitId : String
  width : Int
  height : Int
  items : List NativeItem
  page : OcrResult
  crops : Nat → CropReading

namespace EvidenceRegion

def contractError (region : EvidenceRegion) (message : String) : Raised :=
  .kslide ⟨.schemaInvalid, message, [("region_id", .str region.regionId)]⟩

/-- The crop candidates that read exactly the selected literal. -/
def recoveryCandidates (region : EvidenceRegion) : List OcrCandidate :=
  region.ocrCandidates.filter fun candidate =>
    candidate.recovery.any (fun crop => Text.isSha256 crop.cropSha256.hexdigest) &&
      some candidate.text == region.selectedLiteralCandidate && candidate.trustEligible &&
      candidate.provider != ""

def validateNativeVisual (region : EvidenceRegion) : Except Raised Unit := do
  require (!region.requiredForTranslation &&
      region.dispositionPolicy == some "native-nontext-visual-v1" &&
      region.dispositionEvidenceIds == [region.regionId]) (region.contractError
    "A not-applicable text disposition requires the closed engine visual-preservation policy and source binding.")
  require (region.selectedLiteralCandidate.isNone && region.recoveryStatus == .notRequired &&
      region.recoveryAttempts == 0 && region.recoveryReason.isNone) (region.contractError
    "A native visual-preservation disposition cannot erase literal or recovery evidence.")

def validateRecovered (region : EvidenceRegion) : Except Raised Unit := do
  require (region.recoveryStatus == .recovered && region.recoveryAttempts == 1)
    (region.contractError
      "A recovered literal must cite one durable engine crop re-extraction.")
  require (region.selectedLiteralCandidate.any (Text.strip · != []) &&
      !region.recoveryCandidates.isEmpty) (region.contractError
    "Recovered literal lacks its durable crop OCR candidate.")
  require (region.recoveryCandidates.any (·.confident)) (region.contractError
    "Recovered literal lacks a high-confidence crop OCR confirmation.")

def validateTrusted (region : EvidenceRegion) : Except Raised Unit := do
  require (region.selectedLiteralCandidate.any (Text.strip · != [])) (region.contractError
    "Literal evidence without a selected source candidate cannot be semantically eligible.")
  require (region.evidenceState != .ocrOnly ||
      region.literalConfidence.any (fun confidence => 4 / 5 ≤ confidence && confidence ≤ 1))
    (region.contractError "OCR-only literal evidence must meet the engine confidence threshold.")
  if region.recoveryStatus = .notRequired then
    require (region.recoveryAttempts == 0 && region.recoveryReason.isNone) (region.contractError
      "A region without recovery must not claim recovery evidence.")
  else region.validateRecovered

/-- Each state of the literal and of its recovery has its own contract. -/
def validateRecoveryContract (region : EvidenceRegion) : Except Raised Unit :=
  if region.translationDisposition = .notApplicableNativeVisual then region.validateNativeVisual
  else do
    require (region.requiredForTranslation && region.dispositionPolicy.isNone &&
        region.dispositionEvidenceIds.isEmpty) (region.contractError
      "Evidence regions remain required; extraction cannot create a decorative or not-applicable exemption.")
    require (region.recoveryAttempts ≤ 1) (region.contractError
      "Literal recovery is bounded to one engine crop re-extraction.")
    if region.evidenceState.risky then
      require (region.recoveryStatus == .needsReview &&
          region.recoveryReason.any (!Text.isBlank ·)) (region.contractError
        "Risky literal evidence must remain in engine-owned NEEDS_REVIEW recovery state.")
    else region.validateTrusted

end EvidenceRegion

namespace PageReading
variable (reading : PageReading)

def padded (width index : Nat) : String :=
  let digits := toString index
  String.ofList (List.replicate (width - digits.length) '0') ++ digits

/-- A native object without text may be represented by a typed object of the engine. -/
def nativeNontextVisualPolicy [Unicode] (items : List NativeItem) (regionId : String) : Bool :=
  match items.find? fun item => item.sourceId.getD "" == regionId with
  | none => false
  | some item =>
    let shapeType := String.ofList (Unicode.casefold item.shapeType)
    if item.text.any fun text => Text.strip text != [] then false
    else if shapeType = "group" then
      items.any fun child =>
        (regionId ++ "-").toList.isPrefixOf (child.sourceId.getD "").toList
    else if shapeType = "line" ∨ shapeType = "connector" then item.hasConnector
    else if shapeType = "chart" then item.hasChart
    else if shapeType = "table" then item.hasTable
    else false

/-- A page without native objects has the recognized texts as its objects. -/
def recognizedItems : List NativeItem :=
  let key (region : OcrRegion) :=
    toLex (region.bboxPx.top, toLex (region.bboxPx.left, region.readingOrder))
  let sorted := reading.page.regions.insertionSort fun first second => key first ≤ key second
  let numbered := sorted.zipIdx 1
  (numbered.filter fun entry => Text.strip entry.1.text != []).map fun entry =>
    { sourceId := some s!"{reading.workUnitId}-ocr-{padded 4 entry.2}"
      text := some entry.1.text
      bboxPx := some entry.1.bboxPx
      evidenceSource := "ocr"
      shapeType := []
      hasConnector := false
      hasChart := false
      hasTable := false }

def nativeItems : List NativeItem :=
  if reading.items.isEmpty then reading.recognizedItems else reading.items

/-- A page without any object is one visual region. -/
def visualItem : NativeItem where
  sourceId := some s!"{reading.workUnitId}-region-001"
  text := none
  bboxPx := some ⟨0, 0, reading.width, reading.height⟩
  evidenceSource := "visual"
  shapeType := []
  hasConnector := false
  hasChart := false
  hasTable := false

/-- The crop of a box has a margin of a tenth and stays on the page. -/
def cropBox (box : Box) : Box :=
  let left := max 0 box.left
  let top := max 0 box.top
  let right := min reading.width (max (max 0 box.right) (left + 1))
  let bottom := min reading.height (max (max 0 box.bottom) (top + 1))
  let left := min left (reading.width - 1)
  let top := min top (reading.height - 1)
  let padX := max 1 (Int.tdiv (right - left) 10)
  let padY := max 1 (Int.tdiv (bottom - top) 10)
  ⟨max 0 (left - padX), max 0 (top - padY), min reading.width (right + padX),
    min reading.height (bottom + padY)⟩

/-- Native texts are candidates, and texts from the recognition are not. -/
def croppedRegion (order : Nat) (item : NativeItem) : CroppedRegion :=
  let regionId := item.sourceId.getD s!"{reading.workUnitId}-region-{padded 3 order}"
  let page : Box := ⟨0, 0, reading.width, reading.height⟩
  let native := item.text.filter fun text => text != [] && item.evidenceSource == "native"
  { regionId := regionId
    bboxPx := reading.cropBox (item.bboxPx.getD page)
    readingOrder := order
    nativeTextCandidates := native.toList
    cropOriginalPath := s!"regions/{reading.workUnitId}/{regionId}.png" }

def cropRegions : List CroppedRegion :=
  let items := if reading.nativeItems.isEmpty then [reading.visualItem] else reading.nativeItems
  let key (item : NativeItem) :=
    let box := item.bboxPx.getD ⟨0, 0, 0, 0⟩
    toLex (box.top, toLex (box.left, item.sourceId.getD ""))
  let sorted := items.insertionSort fun first second => key first ≤ key second
  (sorted.zipIdx 1).map fun entry => reading.croppedRegion entry.2 entry.1

def overlaps (first second : Box) : Bool :=
  second.left < first.right && first.left < second.right &&
    second.top < first.bottom && first.top < second.bottom

/-- Each recognized text is a candidate of the regions that it overlaps. -/
def pageCandidates (regions : List CroppedRegion) : String → List OcrCandidate :=
  reading.page.regions.foldl (fun table recognized =>
    regions.foldl (fun table region =>
      if overlaps recognized.bboxPx region.bboxPx then
        Function.update table region.regionId (table region.regionId ++
          [⟨recognized.text, recognized.confidence, recognized.bboxPx, reading.page.provider, none⟩])
      else table) table) fun _ => []

end PageReading

namespace CropReading

/-- A text at the edge of its crop may be a part of a longer text. -/
def touchesEdge (width height : Nat) (box : Box) : Bool :=
  let margin : Int := if width ≠ 0 ∧ height ≠ 0 then max 2 (min width height / 200 : Nat) else 2
  decide (width ≠ 0 ∧ height ≠ 0) && (box.left ≤ margin || box.top ≤ margin ||
    width - margin ≤ box.right || height - margin ≤ box.bottom)

/-- The second reading drops blank texts. -/
def candidates (result : OcrResult) (width height : Nat) (digest : ContentDigest) :
    List OcrCandidate :=
  (result.regions.filter fun region => Text.strip region.text != []).map fun region =>
    ⟨Text.strip region.text, region.confidence, region.bboxPx, result.provider,
      some ⟨result.providerVersion, digest, touchesEdge width height region.bboxPx⟩⟩

end CropReading

/-- The fused literal of a region and what its second reading made of it. -/
structure RecoveredLiteral where
  literal : FusedLiteral
  status : RecoveryStatus
  attempts : Nat
  reason : Option String
  candidates : List OcrCandidate

section
variable (ratio : List Char → List Char → ℚ)
open Fusion

/-- A confident crop candidate within its crop reads exactly the selected text. -/
def corroborates (selected : Option (List Char)) (candidate : OcrCandidate) : Bool :=
  candidate.recovery.isSome && candidate.trustEligible && some candidate.text == selected &&
    candidate.confident

/-- The second reading is trusted when a crop candidate corroborates the literal of all candidates. -/
def recovers (first second : FusedLiteral)
    (candidates : List OcrCandidate) : Bool :=
  (second.state == .highAgreement || second.state == .ocrOnly) &&
    candidates.any (corroborates second.selected) &&
    (first.state != .lowConfidence || second.selected == first.selected)

def unreadReason : String :=
  "No trustworthy literal evidence is available after bounded engine recovery."

def incompleteReason : String :=
  "A bounded crop re-extraction did not produce a trustworthy complete literal."

/-- One crop of a region with risky evidence is read again. -/
def readCrop (natives : List (List Char)) (first : FusedLiteral) (candidates : List OcrCandidate) :
    CropReading → RecoveredLiteral
  | .raised kind => ⟨first, .needsReview, 1,
      some s!"A bounded crop re-extraction failed safely ({kind}).", candidates⟩
  | .read result width height digest =>
    let all := candidates ++ CropReading.candidates result width height digest
    let second := fuseLiteralEvidence ratio natives all
    if recovers first second all then ⟨second, .recovered, 1, none, all⟩
    else ⟨first, .needsReview, 1, some incompleteReason, all⟩

def recoverLiteral (visual : Bool) (region : CroppedRegion) (candidates : List OcrCandidate)
    (crop : CropReading) : RecoveredLiteral :=
  let first := fuseLiteralEvidence ratio region.nativeTextCandidates candidates
  if first.state.risky && !(first.selected.isNone && visual) then
    if region.cropOriginalPath = "" then
      ⟨first, .needsReview, 0, some unreadReason, candidates⟩
    else readCrop ratio region.nativeTextCandidates first candidates crop
  else ⟨first, .notRequired, 0, none, candidates⟩

/-- The region keeps its candidates and states its literal and its disposition. -/
def fuseRegion (visual : Bool) (region : CroppedRegion) (candidates : List OcrCandidate)
    (crop : CropReading) : EvidenceRegion :=
  let recovered := recoverLiteral ratio visual region candidates crop
  let first := fuseLiteralEvidence ratio region.nativeTextCandidates candidates
  let notApplicable := first.selected.isNone && visual
  { toCroppedRegion := region
    ocrCandidates := recovered.candidates
    selectedLiteralCandidate := recovered.literal.selected
    literalConfidence := recovered.literal.confidence
    evidenceState := recovered.literal.state
    requiredForTranslation := !notApplicable
    translationDisposition := if notApplicable then .notApplicableNativeVisual else .required
    dispositionPolicy := if notApplicable then some "native-nontext-visual-v1" else none
    dispositionEvidenceIds := if notApplicable then [region.regionId] else []
    recoveryStatus := recovered.status
    recoveryAttempts := recovered.attempts
    recoveryReason := recovered.reason }

/-- Regions of one identifier share their candidates, and a second reading adds to them. -/
def fuseRegions (visual : String → Bool) (crops : Nat → CropReading) :
    List CroppedRegion → (String → List OcrCandidate) → List EvidenceRegion
  | [], _ => []
  | region :: rest, table =>
    let fused := fuseRegion ratio (visual region.regionId) region (table region.regionId)
      (crops region.readingOrder)
    fused :: fuseRegions visual crops rest
      (Function.update table region.regionId fused.ocrCandidates)

/-- The regions of the evidence of one page. -/
def PageReading.regions [Unicode] (reading : PageReading) : List EvidenceRegion :=
  let regions := reading.cropRegions
  fuseRegions ratio (nativeNontextVisualPolicy reading.nativeItems) reading.crops regions
    (reading.pageCandidates regions)

end
end KSlide
