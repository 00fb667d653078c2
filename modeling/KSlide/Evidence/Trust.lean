import KSlide.Evidence.Recovery

/-
This file says which readings of a page give regions whose literals are trustworthy.
-/

namespace KSlide
open Fusion List
variable {ratio : List Char → List Char → ℚ} {natives : List (List Char)}
  {candidates : List OcrCandidate} {text : List Char}

namespace Fusion

theorem literal_stable {found : List Char} (read : literal text = some found) :
    Text.strip found = found ∧ literal found = some found := by
  obtain ⟨present, same⟩ := literal_some read
  have stable : Text.strip found = found := by rw [same, Text.strip_strip]
  constructor
  · exact stable
  · unfold literal
    rw [stable, if_neg present]

/-- Some confident candidate has a text when some candidate is confident and some has a text. -/
def LeadsWithText (candidates : List OcrCandidate) : Prop :=
  (∃ candidate ∈ ranked candidates, candidate.confident = true) →
  (∃ candidate ∈ ranked candidates, literal candidate.text ≠ none) →
  ∃ candidate ∈ ranked candidates, candidate.confident = true ∧ literal candidate.text ≠ none

/-- A literal is supported when a confident candidate reads it. -/
def Supported (candidates : List OcrCandidate) (selected : Option (List Char)) : Prop :=
  ∃ candidate ∈ candidates, candidate.trustEligible = true ∧ candidate.confident = true ∧
    literal candidate.text = selected

theorem confident_of_rank {first second : OcrCandidate} (high : first.confident = true)
    (leads : first.rank ≤ second.rank) : second.confident = true := by
  unfold OcrCandidate.confident OcrCandidate.rank at *
  cases stated : second.confidence with
  | none =>
    rw [stated] at leads
    obtain ⟨confidence, present, enough⟩ := Option.any_eq_true _ _ |>.mp high
    rw [present] at leads
    have positive : (0 : ℚ) < 4 / 5 := by norm_num
    have small : confidence.value ≤ 0 := leads
    have large : 4 / 5 ≤ confidence.value := of_decide_eq_true enough
    exact absurd (large.trans small) (not_le.mpr positive)
  | some other =>
    rw [stated] at leads
    obtain ⟨confidence, present, enough⟩ := Option.any_eq_true _ _ |>.mp high
    rw [present] at leads
    exact decide_eq_true ((of_decide_eq_true enough).trans leads)

theorem supported_ocrLiteral (read : ocrLiteral candidates = some text) :
    Supported candidates (some text) ↔
      ∃ candidate ∈ ranked candidates, candidate.confident = true ∧
        literal candidate.text ≠ none := by
  constructor
  · intro supported
    obtain ⟨candidate, listed, trusted, high, named⟩ := supported
    use candidate, mem_ranked.mpr ⟨listed, trusted⟩, high
    rw [named]
    exact Option.some_ne_none text
  · intro found
    obtain ⟨candidate, listed, high, present⟩ := found
    obtain ⟨leader, first, named, leads⟩ := ocrLiteral_some read
    obtain ⟨member, trusted⟩ := mem_ranked.mp first
    exact ⟨leader, member, trusted, confident_of_rank high (leads candidate listed present), named⟩

theorem fuse_recognized (missing : nativeLiteral natives = none)
    (read : ocrLiteral candidates = some text) :
    fuseLiteralEvidence ratio natives candidates =
      ⟨some text, some (highestConfidence candidates),
        if 4 / 5 ≤ highestConfidence candidates then .ocrOnly else .lowConfidence⟩ := by
  simp only [fuseLiteralEvidence, missing, read]

theorem fuse_unread (missing : nativeLiteral natives = none)
    (unread : ocrLiteral candidates = none) :
    fuseLiteralEvidence ratio natives candidates = ⟨none, none, .noLiteralEvidence⟩ := by
  simp only [fuseLiteralEvidence, missing, unread]

theorem fuse_native (present : nativeLiteral natives = some text) :
    (fuseLiteralEvidence ratio natives candidates).selected = some text ∧
      (fuseLiteralEvidence ratio natives candidates).state ∈
        [.highAgreement, .mediumAgreement, .nativeOnly, .disagreement] := by
  simp only [fuseLiteralEvidence, present]
  cases ocrLiteral candidates with
  | none => simp
  | some ocr =>
    simp only
    split
    · simp
    · split <;> simp

theorem leads_of_risky (missing : nativeLiteral natives = none)
    (risky : (fuseLiteralEvidence ratio natives candidates).state.risky = true) :
    LeadsWithText candidates := by
  intro high present
  cases read : ocrLiteral candidates with
  | none =>
    obtain ⟨candidate, listed, named⟩ := present
    exact absurd (ocrLiteral_none.mp read candidate listed) named
  | some text =>
    rw [fuse_recognized missing read, if_pos (highestConfidence_high.mpr high)] at risky
    cases risky

theorem supported_iff_leads (missing : nativeLiteral natives = none)
    (trusted : (fuseLiteralEvidence ratio natives candidates).state.risky = false) :
    Supported candidates (fuseLiteralEvidence ratio natives candidates).selected ↔
      LeadsWithText candidates := by
  cases read : ocrLiteral candidates with
  | none =>
    rw [fuse_unread missing read] at trusted
    cases trusted
  | some text =>
    rw [fuse_recognized missing read] at trusted ⊢
    have high : ∃ candidate ∈ ranked candidates, candidate.confident = true := by
      rw [← highestConfidence_high]
      by_contra low
      rw [if_neg low] at trusted
      cases trusted
    have present : ∃ candidate ∈ ranked candidates, literal candidate.text ≠ none := by
      by_contra absent
      push Not at absent
      rw [ocrLiteral_none.mpr absent] at read
      cases read
    show Supported candidates (some text) ↔ _
    rw [supported_ocrLiteral read]
    constructor
    · intro found _ _
      exact found
    · intro leads
      exact leads high present

/-- What the fusion selects is a text without white space around it. -/
theorem fuse_selected (selected : (fuseLiteralEvidence ratio natives candidates).selected = some text) :
    Text.strip text = text ∧ text ≠ [] := by
  have named : ∃ source, literal source = some text := by
    cases native : nativeLiteral natives with
    | some found =>
      rw [(fuse_native native).1] at selected
      cases selected
      obtain ⟨source, _, read⟩ := exists_of_findSome?_eq_some native
      exact ⟨source, read⟩
    | none =>
      cases read : ocrLiteral candidates with
      | none =>
        rw [fuse_unread native read] at selected
        cases selected
      | some found =>
        rw [fuse_recognized native read] at selected
        cases selected
        obtain ⟨leader, _, named, _⟩ := ocrLiteral_some read
        exact ⟨leader.text, named⟩
  obtain ⟨source, read⟩ := named
  exact ⟨(literal_stable read).1, (literal_some read).1⟩

theorem fuse_trusted (trusted : (fuseLiteralEvidence ratio natives candidates).state.risky = false) :
    ∃ text, (fuseLiteralEvidence ratio natives candidates).selected = some text := by
  cases native : nativeLiteral natives with
  | some found => exact ⟨found, (fuse_native native).1⟩
  | none =>
    cases read : ocrLiteral candidates with
    | none =>
      rw [fuse_unread native read] at trusted
      cases trusted
    | some found => exact ⟨found, by rw [fuse_recognized native read]⟩

/-- Evidence from the recognition alone states a confidence above the threshold. -/
theorem fuse_ocrOnly (only : (fuseLiteralEvidence ratio natives candidates).state = .ocrOnly) :
    ∃ confidence, (fuseLiteralEvidence ratio natives candidates).confidence = some confidence ∧
      4 / 5 ≤ confidence ∧ confidence ≤ 1 := by
  cases native : nativeLiteral natives with
  | some found =>
    have listed := (@fuse_native ratio natives candidates found native).2
    rw [only] at listed
    simp at listed
  | none =>
    cases read : ocrLiteral candidates with
    | none =>
      rw [fuse_unread native read] at only
      cases only
    | some found =>
      rw [fuse_recognized native read] at only ⊢
      use highestConfidence candidates, rfl
      constructor
      · by_contra low
        rw [if_neg low] at only
        cases only
      · exact highestConfidence_le_one

end Fusion

/-- A corroborating candidate names its provider. -/
def Named (candidates : List OcrCandidate) (selected : Option (List Char)) : Prop :=
  ∃ candidate ∈ candidates, corroborates selected candidate = true ∧ candidate.provider ≠ ""

/-- What the evidence promises of each of its regions. -/
structure EvidenceRegion.Sound (region : EvidenceRegion) : Prop where
  contract : region.validateRecoveryContract = .ok ()
  supported : region.evidenceState.risky = false →
    nativeLiteral region.nativeTextCandidates = none →
    Supported region.ocrCandidates region.selectedLiteralCandidate
  recovered : region.recoveryStatus = .recovered →
    ∃ candidate ∈ region.ocrCandidates,
      corroborates region.selectedLiteralCandidate candidate = true

namespace EvidenceRegion
variable {region : EvidenceRegion} {reason : String}

/-- The extraction requires the translation of the region. -/
structure Required (region : EvidenceRegion) : Prop where
  disposition : region.translationDisposition = .required
  stated : region.requiredForTranslation = true
  policy : region.dispositionPolicy = none
  identifiers : region.dispositionEvidenceIds = []

theorem contract_risky (required : region.Required) (attempts : region.recoveryAttempts ≤ 1)
    (risky : region.evidenceState.risky = true) (status : region.recoveryStatus = .needsReview)
    (stated : region.recoveryReason = some reason) (present : Text.isBlank reason = false) :
    region.validateRecoveryContract = .ok () := by
  simp [validateRecoveryContract, required.disposition, required.stated, required.policy,
    required.identifiers, attempts, risky, status, stated, present]

theorem contract_trusted (required : region.Required) (attempts : region.recoveryAttempts ≤ 1)
    (trusted : region.evidenceState.risky = false) :
    region.validateRecoveryContract = .ok () ↔ region.validateTrusted = .ok () := by
  simp [validateRecoveryContract, required.disposition, required.stated, required.policy,
    required.identifiers, attempts, trusted]

/-- A trusted literal has a text, and the recognition alone needs a high confidence. -/
structure Stated (region : EvidenceRegion) : Prop where
  selected : ∃ text, region.selectedLiteralCandidate = some text ∧ Text.strip text ≠ []
  confident : region.evidenceState = .ocrOnly →
    ∃ confidence, region.literalConfidence = some confidence ∧ 4 / 5 ≤ confidence ∧ confidence ≤ 1

/-- A stated literal leaves the recovery of its region to check. -/
theorem validateTrusted_stated (stated : region.Stated) :
    region.validateTrusted = .ok () ↔
      (region.recoveryStatus = .notRequired → region.recoveryAttempts = 0 ∧
        region.recoveryReason = none) ∧
      (region.recoveryStatus ≠ .notRequired → region.validateRecovered = .ok ()) := by
  obtain ⟨text, selected, present⟩ := stated.selected
  have literal : region.selectedLiteralCandidate.any (Text.strip · != []) = true := by
    rw [selected]
    simpa using present
  have confident : (region.evidenceState != .ocrOnly ||
      region.literalConfidence.any fun confidence => 4 / 5 ≤ confidence && confidence ≤ 1) =
      true := by
    cases only : decide (region.evidenceState = .ocrOnly) with
    | true =>
      obtain ⟨confidence, same, enough, small⟩ := stated.confident (of_decide_eq_true only)
      simp [same, enough, small]
    | false =>
      have other := of_decide_eq_false only
      simp [other]
  unfold validateTrusted
  rw [literal, confident]
  by_cases status : region.recoveryStatus = .notRequired
  · simp [status, require, bind, Except.bind]
  · simp [status, require, bind, Except.bind]

theorem mem_recoveryCandidates {candidate : OcrCandidate} :
    (candidate ∈ region.recoveryCandidates ∧ candidate.confident = true) ↔
      candidate ∈ region.ocrCandidates ∧
        corroborates region.selectedLiteralCandidate candidate = true ∧
        candidate.provider ≠ "" := by
  unfold recoveryCandidates corroborates
  cases recovery : candidate.recovery with
  | none => simp [recovery]
  | some crop =>
    simp only [mem_filter, recovery, Option.any_some, crop.cropSha256.shape,
      Option.isSome_some, Bool.true_and, Bool.and_eq_true, bne_iff_ne, ne_eq]
    tauto

theorem trusted_recovered (stated : region.Stated) (status : region.recoveryStatus = .recovered)
    (attempts : region.recoveryAttempts = 1) :
    region.validateTrusted = .ok () ↔
      Named region.ocrCandidates region.selectedLiteralCandidate := by
  obtain ⟨text, selected, present⟩ := stated.selected
  have literal : region.selectedLiteralCandidate.any (Text.strip · != []) = true := by
    rw [selected]
    simpa using present
  have other : region.recoveryStatus ≠ .notRequired := by
    rw [status]
    decide
  rw [validateTrusted_stated stated]
  constructor
  · intro valid
    have recovered := valid.2 other
    simp only [validateRecovered, bind_ok, require_ok] at recovered
    obtain ⟨_, _, _, _, found⟩ := recovered
    obtain ⟨candidate, listed, high⟩ := any_eq_true.mp found
    exact ⟨candidate, mem_recoveryCandidates.mp ⟨listed, high⟩⟩
  · intro named
    obtain ⟨candidate, corroborating⟩ := named
    obtain ⟨listed, high⟩ := mem_recoveryCandidates.mpr corroborating
    have found : region.recoveryCandidates.any (·.confident) = true :=
      any_eq_true.mpr ⟨candidate, listed, high⟩
    have some : region.recoveryCandidates.isEmpty = false := by
      rw [isEmpty_eq_false_iff]
      exact ne_nil_of_mem listed
    constructor
    · intro same
      exact absurd same other
    · intro _
      simp [validateRecovered, status, attempts, literal, found, some]

end EvidenceRegion

section
variable {visual : Bool} {region : CroppedRegion} {crop : CropReading}
open EvidenceRegion

/-- The page leaves the evidence of the region risky, and its crop is read again. -/
def rereads (ratio : List Char → List Char → ℚ) (visual : Bool) (region : CroppedRegion)
    (candidates : List OcrCandidate) : Bool :=
  let first := fuseLiteralEvidence ratio region.nativeTextCandidates candidates
  first.state.risky && !(first.selected.isNone && visual) && region.cropOriginalPath != ""

/-- The candidates of the page have texts where they are confident, and a crop that recovers the
literal names its provider. -/
structure StepTrusted (ratio : List Char → List Char → ℚ) (visual : Bool) (region : CroppedRegion)
    (candidates : List OcrCandidate) (crop : CropReading) : Prop where
  leads : nativeLiteral region.nativeTextCandidates = none → LeadsWithText candidates
  named : ∀ result width height digest, crop = .read result width height digest →
    rereads ratio visual region candidates = true →
    let all := candidates ++ CropReading.candidates result width height digest
    let second := fuseLiteralEvidence ratio region.nativeTextCandidates all
    recovers (fuseLiteralEvidence ratio region.nativeTextCandidates candidates) second all = true →
    Named all second.selected

/-- A region that its page or its failed recovery leaves as it was. -/
theorem sound_first (literal : RecoveredLiteral)
    (recovered : recoverLiteral ratio visual region candidates crop = literal)
    (same : literal.literal = fuseLiteralEvidence ratio region.nativeTextCandidates candidates)
    (risky : literal.literal.state.risky = true) (status : literal.status = .needsReview)
    (attempts : literal.attempts ≤ 1) {reason : String} (stated : literal.reason = some reason)
    (present : Text.isBlank reason = false)
    (applicable : ((fuseLiteralEvidence ratio region.nativeTextCandidates candidates).selected.isNone
      && visual) = false) :
    (fuseRegion ratio visual region candidates crop).Sound := by
  have required : (fuseRegion ratio visual region candidates crop).Required := by
    constructor <;> simp [fuseRegion, applicable]
  constructor
  · have shown : (fuseRegion ratio visual region candidates crop).recoveryReason = some reason := by
      simp [fuseRegion, recovered, stated]
    apply contract_risky required _ _ _ shown present
    all_goals simp_all [fuseRegion]
  · intro trusted
    simp_all [fuseRegion]
  · intro done
    simp_all [fuseRegion]

/-- A region without any literal that a typed object represents is sound. -/
theorem sound_visual (applicable : ((fuseLiteralEvidence ratio region.nativeTextCandidates
      candidates).selected.isNone && visual) = true) :
    (fuseRegion ratio visual region candidates crop).Sound ∧
      (fuseLiteralEvidence ratio region.nativeTextCandidates candidates).state.risky = true := by
  have risky : (fuseLiteralEvidence ratio region.nativeTextCandidates candidates).state.risky =
      true := by
    by_contra trusted
    obtain ⟨text, selected⟩ := fuse_trusted (Bool.not_eq_true _ ▸ trusted)
    rw [selected] at applicable
    cases applicable
  have kept : recoverLiteral ratio visual region candidates crop =
      ⟨fuseLiteralEvidence ratio region.nativeTextCandidates candidates, .notRequired, 0, none,
        candidates⟩ := by
    simp [recoverLiteral, applicable]
  obtain ⟨unread, shown⟩ := Bool.and_eq_true_iff.mp applicable
  subst shown
  constructor
  · constructor
    · rw [Option.isNone_iff_eq_none] at unread
      simp [validateRecoveryContract, validateNativeVisual, fuseRegion, kept, unread]
    · intro trusted
      simp [fuseRegion, kept, risky] at trusted
    · intro done
      simp [fuseRegion, kept] at done
  · exact risky

/-- A region that the page alone makes trustworthy is sound when its confident readings have texts. -/
theorem sound_trusted
    (trusted : (fuseLiteralEvidence ratio region.nativeTextCandidates candidates).state.risky =
      false) :
    (fuseRegion ratio visual region candidates crop).Sound ↔
      (nativeLiteral region.nativeTextCandidates = none → LeadsWithText candidates) := by
  obtain ⟨text, selected⟩ := fuse_trusted trusted
  have kept : recoverLiteral ratio visual region candidates crop =
      ⟨fuseLiteralEvidence ratio region.nativeTextCandidates candidates, .notRequired, 0, none,
        candidates⟩ := by
    simp [recoverLiteral, trusted]
  have required : (fuseRegion ratio visual region candidates crop).Required := by
    constructor <;> simp [fuseRegion, selected]
  have stated : (fuseRegion ratio visual region candidates crop).Stated := by
    obtain ⟨stable, present⟩ := fuse_selected selected
    constructor
    · use text
      simp [fuseRegion, kept, selected, stable, present]
    · intro only
      simp only [fuseRegion, kept] at only ⊢
      exact fuse_ocrOnly only
  constructor
  · intro sound missing
    rw [← supported_iff_leads missing trusted]
    have supported := sound.supported
    simp only [fuseRegion, kept] at supported
    exact supported trusted missing
  · intro leads
    constructor
    · rw [contract_trusted required (by simp [fuseRegion, kept]) (by simp [fuseRegion, kept, trusted]),
        validateTrusted_stated stated]
      simp [fuseRegion, kept]
    · intro _ missing
      simp only [fuseRegion, kept] at missing ⊢
      exact (supported_iff_leads missing trusted).mpr (leads missing)
    · intro done
      simp [fuseRegion, kept] at done

theorem sound_recovered {all : List OcrCandidate}
    (applicable : ((fuseLiteralEvidence ratio region.nativeTextCandidates candidates).selected.isNone
      && visual) = false)
    (reread : recoverLiteral ratio visual region candidates crop =
      ⟨fuseLiteralEvidence ratio region.nativeTextCandidates all, .recovered, 1, none, all⟩)
    (recovered : recovers (fuseLiteralEvidence ratio region.nativeTextCandidates candidates)
      (fuseLiteralEvidence ratio region.nativeTextCandidates all) all = true) :
    (fuseRegion ratio visual region candidates crop).Sound ↔
      Named all (fuseLiteralEvidence ratio region.nativeTextCandidates all).selected := by
  simp only [recovers, Bool.and_eq_true, Bool.or_eq_true, beq_iff_eq, any_eq_true] at recovered
  obtain ⟨⟨state, candidate, listed, corroborating⟩, _⟩ := recovered
  have trusted : (fuseLiteralEvidence ratio region.nativeTextCandidates all).state.risky = false := by
    rcases state with same | same <;> rw [same] <;> rfl
  obtain ⟨text, selected⟩ := fuse_trusted trusted
  obtain ⟨stable, present⟩ := fuse_selected selected
  have required : (fuseRegion ratio visual region candidates crop).Required := by
    constructor <;> simp [fuseRegion, applicable]
  have stated : (fuseRegion ratio visual region candidates crop).Stated := by
    constructor
    · use text
      simp [fuseRegion, reread, selected, stable, present]
    · intro only
      simp only [fuseRegion, reread] at only ⊢
      exact fuse_ocrOnly only
  have contract : (fuseRegion ratio visual region candidates crop).validateRecoveryContract = .ok () ↔
      Named all (fuseLiteralEvidence ratio region.nativeTextCandidates all).selected := by
    rw [contract_trusted required (by simp [fuseRegion, reread])
      (by simp [fuseRegion, reread, trusted]), trusted_recovered stated (by simp [fuseRegion, reread])
      (by simp [fuseRegion, reread])]
    simp [fuseRegion, reread]
  constructor
  · intro sound
    exact contract.mp sound.contract
  · intro named
    constructor
    · exact contract.mpr named
    · intro _ _
      simp only [fuseRegion, reread]
      simp only [corroborates, Bool.and_eq_true, beq_iff_eq] at corroborating
      obtain ⟨⟨⟨_, eligible⟩, same⟩, high⟩ := corroborating
      have exact : candidate.text = text := by
        rw [selected] at same
        exact Option.some.inj same
      use candidate, listed, eligible, high
      rw [exact, selected, literal, stable, if_neg present]
    · intro _
      simp only [fuseRegion, reread]
      exact ⟨candidate, listed, corroborating⟩

theorem failed_present (kind : String) :
    Text.isBlank s!"A bounded crop re-extraction failed safely ({kind})." = false := by
  simp [Text.isBlank, Text.isSpace, toString]

theorem fuseRegion_sound :
    (fuseRegion ratio visual region candidates crop).Sound ↔
      StepTrusted ratio visual region candidates crop := by
  set first := fuseLiteralEvidence ratio region.nativeTextCandidates candidates with firstEq
  cases applicable : first.selected.isNone && visual with
  | true =>
    obtain ⟨sound, risky⟩ := @sound_visual ratio candidates visual region crop applicable
    apply iff_of_true sound
    constructor
    · intro missing
      exact leads_of_risky missing risky
    · intro _ _ _ _ _ again
      simp [rereads, ← firstEq, applicable] at again
  | false =>
    cases risky : first.state.risky with
    | false =>
      rw [sound_trusted risky]
      constructor
      · intro leads
        apply StepTrusted.mk leads
        intro _ _ _ _ _ again
        simp [rereads, ← firstEq, risky] at again
      · intro trusted
        exact trusted.leads
    | true =>
      have leads (missing : nativeLiteral region.nativeTextCandidates = none) :
          LeadsWithText candidates := leads_of_risky missing risky
      cases path : decide (region.cropOriginalPath = "") with
      | true =>
        have absent := of_decide_eq_true path
        have kept : recoverLiteral ratio visual region candidates crop =
            ⟨first, .needsReview, 0, some unreadReason, candidates⟩ := by
          simp [recoverLiteral, ← firstEq, risky, applicable, absent]
        apply iff_of_true
        · exact sound_first _ kept rfl risky rfl (Nat.zero_le 1) rfl (by decide) applicable
        · apply StepTrusted.mk leads
          intro _ _ _ _ _ again
          simp [rereads, absent] at again
      | false =>
        have present := of_decide_eq_false path
        cases crop with
        | raised kind =>
          have kept : recoverLiteral ratio visual region candidates (.raised kind) =
              ⟨first, .needsReview, 1,
                some s!"A bounded crop re-extraction failed safely ({kind}).",
                candidates⟩ := by
            simp [recoverLiteral, readCrop, ← firstEq, risky, applicable, present]
          apply iff_of_true
          · exact sound_first _ kept rfl risky rfl le_rfl rfl (failed_present kind)
              applicable
          · apply StepTrusted.mk leads
            intro _ _ _ _ same
            cases same
        | read result width height digest =>
          set all := candidates ++ CropReading.candidates result width height digest
            with allEq
          set second := fuseLiteralEvidence ratio region.nativeTextCandidates all
            with secondEq
          have reread : rereads ratio visual region candidates = true := by
            simp [rereads, ← firstEq, risky, applicable, present]
          cases recovered : recovers first second all with
          | false =>
            have kept : recoverLiteral ratio visual region candidates
                (.read result width height digest) =
                ⟨first, .needsReview, 1, some incompleteReason, all⟩ := by
              simp [recoverLiteral, readCrop, ← firstEq, risky, applicable, present,
                ← allEq, ← secondEq, recovered]
            apply iff_of_true
            · exact sound_first _ kept rfl risky rfl le_rfl rfl (by decide) applicable
            · apply StepTrusted.mk leads
              intro _ _ _ _ same _ _ _ done
              cases same
              have differ : false = true := recovered.symm.trans done
              cases differ
          | true =>
            have kept : recoverLiteral ratio visual region candidates
                (.read result width height digest) =
                ⟨second, .recovered, 1, none, all⟩ := by
              simp [recoverLiteral, readCrop, ← firstEq, risky, applicable, present,
                ← allEq, ← secondEq, recovered]
            rw [sound_recovered applicable kept recovered]
            constructor
            · intro named
              apply StepTrusted.mk leads
              intro _ _ _ _ same _ _ _ _
              cases same
              exact named
            · intro trusted
              exact trusted.named result width height digest rfl reread recovered

end

/-- Each region meets its condition on the candidates that the regions before it leave. -/
def Trusted (ratio : List Char → List Char → ℚ) (visual : String → Bool)
    (crops : Nat → CropReading) :
    List CroppedRegion → (String → List OcrCandidate) → Prop
  | [], _ => True
  | region :: rest, table =>
    let crop := crops region.readingOrder
    StepTrusted ratio (visual region.regionId) region (table region.regionId) crop ∧
    Trusted ratio visual crops rest (Function.update table region.regionId
      (fuseRegion ratio (visual region.regionId) region (table region.regionId)
        crop).ocrCandidates)

/-- All regions of a run are sound exactly when each step is trusted. -/
theorem fuseRegions_sound {visual : String → Bool} {crops : Nat → CropReading}
    {regions : List CroppedRegion} {table : String → List OcrCandidate} :
    (∀ region ∈ fuseRegions ratio visual crops regions table, region.Sound) ↔
      Trusted ratio visual crops regions table := by
  induction regions generalizing table with
  | nil => simp [fuseRegions, Trusted]
  | cons region rest ih =>
    rw [fuseRegions, forall_mem_cons, ih, fuseRegion_sound]
    rfl

/-- The regions of a page are sound exactly when its readings are trusted. -/
theorem PageReading.regions_sound [Unicode] (ratio : List Char → List Char → ℚ)
    (reading : PageReading) :
    (∀ region ∈ reading.regions ratio, region.Sound) ↔
      Trusted ratio (nativeNontextVisualPolicy reading.nativeItems) reading.crops
        reading.cropRegions (reading.pageCandidates reading.cropRegions) := by
  exact fuseRegions_sound

section
attribute [local instance] Unicode.basic

/-- The page has a blank text with a high confidence over a text with a low confidence. -/
def PageReading.blankOverText : PageReading where
  workUnitId := "page-1"
  width := 100
  height := 100
  items := []
  page := {
    provider := "ocr"
    providerVersion := "1"
    regions := [
      ⟨[], ⟨10, 10, 60, 30⟩, some ⟨19 / 20, by norm_num⟩, 0⟩,
      ⟨"글자".toList, ⟨10, 10, 60, 30⟩, some ⟨1 / 10, by norm_num⟩, 1⟩] }
  crops _ := .raised "OSError"

/-- The literal takes the confidence of a blank text and has no support. -/
theorem PageReading.blank_confidence : ¬ ∀ (ratio : List Char → List Char → ℚ)
    (reading : PageReading), ∀ region ∈ reading.regions ratio, region.Sound := by
  intro claimed
  have found : ∃ region ∈ blankOverText.regions (fun _ _ => 0),
      region.evidenceState.risky = false ∧ nativeLiteral region.nativeTextCandidates = none ∧
      ∀ candidate ∈ region.ocrCandidates, candidate.confident = true →
        literal candidate.text ≠ region.selectedLiteralCandidate := by
    decide +kernel
  obtain ⟨region, listed, trusted, missing, unsupported⟩ := found
  have sound := claimed (fun _ _ => 0) blankOverText region listed
  obtain ⟨candidate, member, _, high, named⟩ := sound.supported trusted missing
  exact unsupported candidate member high named

end
end KSlide
