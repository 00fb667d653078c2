import KSlide.Text.Unicode
import Mathlib.Algebra.Order.Ring.Rat
import Mathlib.Data.List.Sort
import Mathlib.Tactic.NormNum

/-
This file gives the fusion of the native and the recognized readings of one region.
-/

namespace KSlide
open List

inductive LiteralEvidenceState where
  | highAgreement | mediumAgreement | nativeOnly | ocrOnly | disagreement | lowConfidence
  | noLiteralEvidence | highConfidence
deriving DecidableEq, Repr

namespace LiteralEvidenceState

def risky : LiteralEvidenceState → Bool
  | .disagreement | .lowConfidence | .noLiteralEvidence => true
  | _ => false

end LiteralEvidenceState

/-- A provider states its confidence as a share of one. -/
structure Confidence where
  value : ℚ
  bounded : 0 ≤ value ∧ value ≤ 1
deriving DecidableEq

/-- The edges of a box, in pixels. -/
structure Box where
  left : Int
  top : Int
  right : Int
  bottom : Int
deriving DecidableEq

@[ext] structure ContentDigest where
  hexdigest : String
  shape : Text.isSha256 hexdigest = true

instance : DecidableEq ContentDigest := fun _ _ =>
  decidable_of_iff _ ContentDigest.ext_iff.symm

/-- Where a candidate stands on the crop of its second reading. -/
structure CropRecovery where
  providerVersion : String
  cropSha256 : ContentDigest
  touchesCropBoundary : Bool
deriving DecidableEq

/-- One reading of a region, from the page or from the crop of a second reading. -/
structure OcrCandidate where
  text : List Char
  confidence : Option Confidence
  bboxPx : Box
  provider : String
  recovery : Option CropRecovery
deriving DecidableEq

namespace OcrCandidate

def trustEligible (candidate : OcrCandidate) : Bool :=
  !candidate.recovery.any (·.touchesCropBoundary)

/-- A missing confidence ranks as zero. -/
def rank (candidate : OcrCandidate) : ℚ := candidate.confidence.elim 0 (·.value)

def confident (candidate : OcrCandidate) : Bool :=
  candidate.confidence.any fun confidence => 4 / 5 ≤ confidence.value

end OcrCandidate

/-- The literal of a region with its confidence and its state. -/
structure FusedLiteral where
  selected : Option (List Char)
  confidence : Option ℚ
  state : LiteralEvidenceState
deriving DecidableEq

namespace Fusion

/-- A text counts without the white space around it, and a blank text does not count. -/
def literal (text : List Char) : Option (List Char) :=
  if Text.strip text = [] then none else some (Text.strip text)

def nativeLiteral (natives : List (List Char)) : Option (List Char) := natives.findSome? literal

def eligible (candidates : List OcrCandidate) : List OcrCandidate :=
  candidates.filter (·.trustEligible)

/-- Candidates of one rank keep their order. -/
def ranked (candidates : List OcrCandidate) : List OcrCandidate :=
  (eligible candidates).insertionSort fun first second => second.rank ≤ first.rank

def ocrLiteral (candidates : List OcrCandidate) : Option (List Char) :=
  (ranked candidates).findSome? fun candidate => literal candidate.text

/-- The highest confidence ranges over the candidates without a text too. -/
def highestConfidence (candidates : List OcrCandidate) : ℚ :=
  match (eligible candidates).filterMap (·.confidence) with
  | [] => 0
  | first :: rest => rest.foldl (fun highest next => max highest next.value) first.value

/-- The ratio of the common parts of two texts is a parameter. -/
def fuseLiteralEvidence (ratio : List Char → List Char → ℚ) (natives : List (List Char))
    (candidates : List OcrCandidate) : FusedLiteral :=
  match nativeLiteral natives, ocrLiteral candidates with
  | some native, some ocr =>
    if 9 / 10 ≤ ratio native ocr then ⟨some native, some 1, .highAgreement⟩
    else if 3 / 5 ≤ ratio native ocr then ⟨some native, some (3 / 4), .mediumAgreement⟩
    else ⟨some native, some (1 / 2), .disagreement⟩
  | some native, none => ⟨some native, some 1, .nativeOnly⟩
  | none, some ocr =>
    ⟨some ocr, some (highestConfidence candidates),
      if 4 / 5 ≤ highestConfidence candidates then .ocrOnly else .lowConfidence⟩
  | none, none => ⟨none, none, .noLiteralEvidence⟩

variable {natives : List (List Char)} {candidates : List OcrCandidate} {text : List Char}
  {ratio : List Char → List Char → ℚ}

theorem literal_some {found : List Char} (read : literal text = some found) :
    found ≠ [] ∧ found = Text.strip text := by
  unfold literal at read
  split at read
  · cases read
  · cases read
    exact ⟨by assumption, rfl⟩

theorem mem_ranked {candidate : OcrCandidate} :
    candidate ∈ ranked candidates ↔ candidate ∈ candidates ∧ candidate.trustEligible = true := by
  rw [ranked, mem_insertionSort, eligible, mem_filter]

theorem ocrLiteral_some (read : ocrLiteral candidates = some text) :
    ∃ leader ∈ ranked candidates, literal leader.text = some text ∧
      ∀ other ∈ ranked candidates, literal other.text ≠ none → other.rank ≤ leader.rank := by
  have total : Std.Total (fun first second : OcrCandidate => second.rank ≤ first.rank) :=
    ⟨fun first second => le_total second.rank first.rank⟩
  have transitive : IsTrans OcrCandidate (fun first second => second.rank ≤ first.rank) :=
    ⟨fun _ _ _ first second => second.trans first⟩
  have sorted := pairwise_insertionSort
    (fun first second : OcrCandidate => second.rank ≤ first.rank) (eligible candidates)
  change (ranked candidates).Pairwise _ at sorted
  unfold ocrLiteral at read
  generalize ranked candidates = list at read sorted
  induction list with
  | nil => cases read
  | cons first rest ih =>
    rw [pairwise_cons] at sorted
    rw [findSome?_cons] at read
    cases found : literal first.text with
    | some other =>
      rw [found] at read
      cases read
      use first, mem_cons_self, found
      intro other listed _
      rcases mem_cons.mp listed with same | later
      · rw [same]
      · exact sorted.1 other later
    | none =>
      rw [found] at read
      obtain ⟨leader, listed, named, leads⟩ := ih read sorted.2
      use leader, mem_cons_of_mem _ listed, named
      intro other position present
      rcases mem_cons.mp position with same | later
      · rw [same] at present
        exact absurd found present
      · exact leads other later present

theorem ocrLiteral_none :
    ocrLiteral candidates = none ↔
      ∀ candidate ∈ ranked candidates, literal candidate.text = none := by
  rw [ocrLiteral, findSome?_eq_none_iff]

theorem le_foldl_max {threshold first : ℚ} {rest : List Confidence} :
    threshold ≤ rest.foldl (fun highest next => max highest next.value) first ↔
      threshold ≤ first ∨ ∃ next ∈ rest, threshold ≤ next.value := by
  induction rest generalizing first with
  | nil => simp
  | cons next rest ih =>
    rw [foldl_cons, ih, le_max_iff, or_assoc, exists_mem_cons_iff]

/-- The highest confidence reaches the threshold when some candidate does. -/
theorem highestConfidence_high :
    4 / 5 ≤ highestConfidence candidates ↔
      ∃ candidate ∈ ranked candidates, candidate.confident = true := by
  have listed : (∃ candidate ∈ ranked candidates, candidate.confident = true) ↔
      ∃ confidence ∈ (eligible candidates).filterMap (·.confidence), 4 / 5 ≤ confidence.value := by
    simp only [ranked, mem_insertionSort, mem_filterMap, OcrCandidate.confident,
      Option.any_eq_true, decide_eq_true_eq]
    constructor
    · intro found
      obtain ⟨candidate, position, confidence, stated, high⟩ := found
      exact ⟨confidence, ⟨candidate, position, stated⟩, high⟩
    · intro found
      obtain ⟨confidence, ⟨candidate, position, stated⟩, high⟩ := found
      exact ⟨candidate, position, confidence, stated, high⟩
  rw [listed, highestConfidence]
  cases (eligible candidates).filterMap (·.confidence) with
  | nil =>
    have low : ¬ (4 / 5 : ℚ) ≤ 0 := by norm_num
    simp [low]
  | cons first rest => rw [le_foldl_max, exists_mem_cons_iff]

theorem highestConfidence_le_one : highestConfidence candidates ≤ 1 := by
  unfold highestConfidence
  cases (eligible candidates).filterMap (·.confidence) with
  | nil => exact zero_le_one
  | cons first rest =>
    have bounded (rest : List Confidence) (start : ℚ) (small : start ≤ 1) :
        rest.foldl (fun highest next => max highest next.value) start ≤ 1 := by
      induction rest generalizing start with
      | nil => exact small
      | cons next rest ih => exact ih _ (max_le small next.bounded.2)
    exact bounded rest first.value first.bounded.2

end Fusion
end KSlide
