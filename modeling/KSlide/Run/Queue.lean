import KSlide.Digest
import KSlide.Errors
import KSlide.Text.Enumeration
import Mathlib.Data.List.Nodup

/-
This file gives the work queue of a run.
-/

namespace KSlide
open List

inductive WorkUnitStatus where
  | pending | normalized | extracted | ready | translating | translated | verifyFailed | repairing
  | verified | needsReview | failed
deriving DecidableEq, Repr

instance : Text.Enumeration WorkUnitStatus where
  value
    | .pending => "PENDING"
    | .normalized => "NORMALIZED"
    | .extracted => "EXTRACTED"
    | .ready => "READY"
    | .translating => "TRANSLATING"
    | .translated => "TRANSLATED"
    | .verifyFailed => "VERIFY_FAILED"
    | .repairing => "REPAIRING"
    | .verified => "VERIFIED"
    | .needsReview => "NEEDS_REVIEW"
    | .failed => "FAILED"
  all := [.pending, .normalized, .extracted, .ready, .translating, .translated, .verifyFailed,
    .repairing, .verified, .needsReview, .failed]

structure WorkUnit where
  workUnitId : String
  documentId : String
  sourceInputId : String
  sourceIndex : Nat
  kind : String
  status : WorkUnitStatus
  evidenceRevision : Option String
  translationRevision : Option String
  canonicalIrSha256 : Option String
  translationAttempts : Nat
  repairAttempts : Nat
  verificationStatus : String
  revision : Nat
  createdAt : String
  updatedAt : String
deriving DecidableEq

def WorkUnit.asDict (unit : WorkUnit) : Json := .obj [
  ("canonical_ir_sha256", .ofText? unit.canonicalIrSha256),
  ("created_at", .str unit.createdAt),
  ("document_id", .str unit.documentId),
  ("evidence_revision", .ofText? unit.evidenceRevision),
  ("kind", .str unit.kind),
  ("repair_attempts", .int unit.repairAttempts),
  ("revision", .int unit.revision),
  ("source_index", .int unit.sourceIndex),
  ("source_input_id", .str unit.sourceInputId),
  ("status", .str (Text.Enumeration.value unit.status)),
  ("translation_attempts", .int unit.translationAttempts),
  ("translation_revision", .ofText? unit.translationRevision),
  ("updated_at", .str unit.updatedAt),
  ("verification_status", .str unit.verificationStatus),
  ("work_unit_id", .str unit.workUnitId)]

namespace WorkUnit

def startTranslation (unit : WorkUnit) : WorkUnit :=
  { unit with status := .translating, revision := unit.revision + 1 }

def startRepair (unit : WorkUnit) : WorkUnit :=
  { unit with
    status := .repairing
    repairAttempts := unit.repairAttempts + 1
    revision := unit.revision + 1 }

def leaveToReview (unit : WorkUnit) : WorkUnit :=
  { unit with
    status := .needsReview
    verificationStatus := "NEEDS_REVIEW"
    revision := unit.revision + 1 }

/-- A merged translation is done when the recovery of its source needs no review. -/
def accept (unit : WorkUnit) (translationRevision canonicalIrSha256 : String)
    (recoveryUnresolved : List String) : WorkUnit :=
  { unit with
    status := if recoveryUnresolved.isEmpty then .translated else .needsReview
    translationRevision := some translationRevision
    canonicalIrSha256 := some canonicalIrSha256
    translationAttempts := unit.translationAttempts + 1
    verificationStatus := if recoveryUnresolved.isEmpty then "NOT_RUN" else "NEEDS_REVIEW"
    revision := unit.revision + 1 }

end WorkUnit

/-- A loaded queue names each of its units once. -/
structure WorkQueue where
  runId : String
  workUnits : List WorkUnit
  named : runId ≠ ""
  distinct : (workUnits.map (·.workUnitId)).Nodup
deriving DecidableEq

namespace WorkQueue

def withoutRevision (queue : WorkQueue) : Json := .obj [
  ("run_id", .str queue.runId),
  ("schema_version", .str "1.0"),
  ("work_units", .arr (queue.workUnits.map WorkUnit.asDict))]

/-- A saved queue carries the digest of its contents as its revision. -/
def queueRevision [Sha256] (queue : WorkQueue) : String := stableRevision queue.withoutRevision

/-- The number of units that the progress of a run counts as done. -/
def completed (queue : WorkQueue) : Nat :=
  queue.workUnits.countP fun unit =>
    unit.status == .translated || unit.status == .verified

def get (queue : WorkQueue) (workUnitId : String) : Except Raised WorkUnit :=
  match queue.workUnits.find? (·.workUnitId == workUnitId) with
  | some unit => .ok unit
  | none => .error (.kslide ⟨.unknownWorkUnit, "Work unit does not exist.",
      [("work_unit_id", .str workUnitId)]⟩)

def awaitsReview (queue : WorkQueue) : Bool :=
  queue.workUnits.any (·.status == .needsReview)

def offers (queue : WorkQueue) : Bool :=
  queue.workUnits.any (·.status == .ready)

/-- The queue offers its next unit or says why it has none. -/
inductive Next where
  | ready (unit : WorkUnit)
  | repairReady (unit : WorkUnit)
  | needsReview
  | allTranslated
  | notReady
deriving DecidableEq

def next (queue : WorkQueue) : Next :=
  match queue.workUnits.find? (·.status == .ready) with
  | some unit => .ready unit
  | none =>
    match queue.workUnits.find? fun unit =>
        unit.status == .verifyFailed || unit.status == .repairing with
    | some unit => .repairReady unit
    | none =>
      if queue.awaitsReview then .needsReview
      else if queue.workUnits.all (fun unit =>
          unit.status == .translated || unit.status == .verified) &&
          !queue.workUnits.isEmpty then .allTranslated
      else .notReady

/-- The changed unit keeps its name and its place. -/
def update (queue : WorkQueue) (workUnitId : String) (change : WorkUnit → WorkUnit)
    (kept : ∀ unit, (change unit).workUnitId = unit.workUnitId) : WorkQueue where
  runId := queue.runId
  workUnits := queue.workUnits.map fun unit =>
    if unit.workUnitId = workUnitId then change unit else unit
  named := queue.named
  distinct := by
    have same : (queue.workUnits.map fun unit =>
        if unit.workUnitId = workUnitId then change unit else unit).map (·.workUnitId) =
        queue.workUnits.map (·.workUnitId) := by
      rw [map_map]
      refine map_congr_left fun unit _ => ?_
      simp only [Function.comp_apply]
      split_ifs
      · exact kept unit
      · rfl
    rw [same]
    exact queue.distinct

/-- Every unit can change, and each keeps its name and its place. -/
def mapUnits (queue : WorkQueue) (change : WorkUnit → WorkUnit)
    (kept : ∀ unit, (change unit).workUnitId = unit.workUnitId) : WorkQueue where
  runId := queue.runId
  workUnits := queue.workUnits.map change
  named := queue.named
  distinct := by
    have same : (·.workUnitId) ∘ change = (·.workUnitId) := funext kept
    rw [map_map, same]
    exact queue.distinct

theorem update_names (queue : WorkQueue) (workUnitId : String) (change : WorkUnit → WorkUnit)
    (kept : ∀ unit, (change unit).workUnitId = unit.workUnitId) :
    (queue.update workUnitId change kept).workUnits.map (·.workUnitId) =
      queue.workUnits.map (·.workUnitId) := by
  simp only [update, map_map]
  apply map_congr_left
  intro unit _
  simp only [Function.comp_apply]
  split_ifs
  · exact kept unit
  · rfl

variable {queue : WorkQueue} {workUnitId : String} {change : WorkUnit → WorkUnit}
  {kept : ∀ unit, (change unit).workUnitId = unit.workUnitId} {unit : WorkUnit}

theorem mem_update : unit ∈ (queue.update workUnitId change kept).workUnits ↔
      ∃ before ∈ queue.workUnits,
        unit = if before.workUnitId = workUnitId then change before else before := by
  simp only [update, mem_map, eq_comm]

theorem mem_update_cases (listed : unit ∈ (queue.update workUnitId change kept).workUnits) :
    (∃ before ∈ queue.workUnits, before.workUnitId = workUnitId ∧ unit = change before) ∨
      (unit ∈ queue.workUnits ∧ unit.workUnitId ≠ workUnitId) := by
  obtain ⟨before, found, rfl⟩ := mem_update.mp listed
  split_ifs with same
  · exact Or.inl ⟨before, found, same, rfl⟩
  · exact Or.inr ⟨found, same⟩

theorem mem_update_changed (listed : unit ∈ queue.workUnits)
    (change : WorkUnit → WorkUnit) (kept : ∀ unit, (change unit).workUnitId = unit.workUnitId) :
    change unit ∈ (queue.update unit.workUnitId change kept).workUnits :=
  mem_update.mpr ⟨unit, listed, (if_pos rfl).symm⟩

theorem mem_update_other {other : WorkUnit}
    (listed : other ∈ queue.workUnits) (different : other.workUnitId ≠ workUnitId)
    (change : WorkUnit → WorkUnit) (kept : ∀ unit, (change unit).workUnitId = unit.workUnitId) :
    other ∈ (queue.update workUnitId change kept).workUnits :=
  mem_update.mpr ⟨other, listed, (if_neg different).symm⟩

theorem update_awaitsReview (changed : ∀ unit, (change unit).status ≠ .needsReview) :
    (queue.update workUnitId change kept).awaitsReview = true ↔
      ∃ other ∈ queue.workUnits, other.workUnitId ≠ workUnitId ∧ other.status = .needsReview := by
  simp only [awaitsReview, any_eq_true, beq_iff_eq]
  constructor
  · rintro ⟨other, listed, review⟩
    rcases mem_update_cases listed with ⟨before, -, -, rfl⟩ | ⟨found, different⟩
    · exact absurd review (changed before)
    · exact ⟨other, found, different, review⟩
  · rintro ⟨other, found, different, review⟩
    exact ⟨other, mem_update_other found different _ _, review⟩

/-- A unit that the queue names is found by its name. -/
theorem get_ok :
    queue.get workUnitId = .ok unit ↔ unit ∈ queue.workUnits ∧ unit.workUnitId = workUnitId := by
  unfold get
  cases found : queue.workUnits.find? (·.workUnitId == workUnitId) with
  | none =>
    simp only [reduceCtorEq, false_iff, not_and]
    intro listed
    simpa using find?_eq_none.mp found unit listed
  | some other =>
    have name : other.workUnitId = workUnitId := by simpa using find?_some found
    simp only [Except.ok.injEq]
    constructor
    · rintro rfl
      exact ⟨mem_of_find?_eq_some found, name⟩
    · rintro ⟨listed, same⟩
      exact inj_on_of_nodup_map queue.distinct (mem_of_find?_eq_some found) listed
        (name.trans same.symm)

theorem next_ready (found : queue.next = .ready unit) :
    unit ∈ queue.workUnits ∧ unit.status = .ready := by
  unfold next at found
  cases first : queue.workUnits.find? (·.status == .ready) with
  | some other =>
    rw [first] at found
    cases found
    exact ⟨mem_of_find?_eq_some first, by simpa using find?_some first⟩
  | none =>
    rw [first] at found
    dsimp only at found
    split at found
    · cases found
    · split_ifs at found

theorem next_repairReady (found : queue.next = .repairReady unit) :
    unit ∈ queue.workUnits ∧ (unit.status = .verifyFailed ∨ unit.status = .repairing) ∧
      queue.offers = false := by
  unfold next at found
  cases first : queue.workUnits.find? (·.status == .ready) with
  | some other => simp [first] at found
  | none =>
    rw [first] at found
    dsimp only at found
    split at found
    · rename_i other second
      cases found
      refine ⟨mem_of_find?_eq_some second, by simpa using find?_some second, ?_⟩
      rw [offers, any_eq_false]
      exact fun unit listed => find?_eq_none.mp first unit listed
    · split_ifs at found

theorem next_allTranslated (found : queue.next = .allTranslated) : queue.workUnits ≠ [] ∧
      ∀ unit ∈ queue.workUnits, unit.status = .translated ∨ unit.status = .verified := by
  unfold next at found
  cases first : queue.workUnits.find? (·.status == .ready) with
  | some other => simp [first] at found
  | none =>
    rw [first] at found
    dsimp only at found
    split at found
    · cases found
    · split_ifs at found with awaits translated
      simpa [and_comm] using translated

theorem completed_le (queue : WorkQueue) : queue.completed ≤ queue.workUnits.length :=
  countP_le_length

end WorkQueue
end KSlide
