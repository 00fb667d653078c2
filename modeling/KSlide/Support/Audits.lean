import KSlide.Support.Bundles

/-
This file says which support calls leave exactly one audit record of their outcome.
-/

namespace KSlide
open Interleaving Program SupportContent List

/-- One step of a call that can refuse, and whether the handlers of the call record it. -/
structure SupportCheck where
  audited : Bool
  answer : Except Raised Unit

structure SupportRefusal where
  audited : Bool
  error : Raised

namespace SupportCheck

/-- The value of a step does not matter to its check. -/
def of {Value : Type} (audited : Bool) (answer : Except Raised Value) : SupportCheck :=
  ⟨audited, answer.map fun _ => ()⟩

/-- The first check that refuses ends the call. -/
def settle : List SupportCheck → Except SupportRefusal Unit
  | [] => .ok ()
  | check :: rest =>
    match check.answer with
    | .ok _ => settle rest
    | .error error => .error ⟨check.audited, error⟩

/-- A refusal is recorded when its handler sees a package error. -/
def Accounted (checks : List SupportCheck) : Prop :=
  ∀ refusal, settle checks = .error refusal →
    refusal.audited = true ∧ ∃ error, refusal.error = .kslide error

variable {Value : Type} {audited : Bool} {answer : Except Raised Value}

theorem settle_ok {value : Value} (passed : answer = .ok value) (rest : List SupportCheck) :
    settle (of audited answer :: rest) = settle rest := by
  rw [passed]
  rfl

theorem settle_error {error : Raised} (failed : answer = .error error) (rest : List SupportCheck) :
    settle (of audited answer :: rest) = .error ⟨audited, error⟩ := by
  rw [failed]
  rfl

theorem settle_silent {checks : List SupportCheck}
    (silent : ∀ check ∈ checks, check.audited = false) (refusal : SupportRefusal)
    (refused : settle checks = .error refusal) : refusal.audited = false := by
  induction checks with
  | nil => cases refused
  | cons check rest ih =>
    rw [settle] at refused
    cases answered : check.answer with
    | ok value =>
      rw [answered] at refused
      exact ih (fun other listed => silent other (mem_cons_of_mem _ listed)) refused
    | error error =>
      rw [answered] at refused
      cases refused
      exact silent check mem_cons_self

end SupportCheck

open SupportCheck

namespace SupportWorld

/-- The world after one more check. -/
def next (world : SupportWorld) : SupportWorld := { world with turn := world.turn + 1 }

/-- The steps before the outcome keep the files and the records. -/
def Kept (world after : SupportWorld) : Prop :=
  after.bundle = world.bundle ∧ after.metadata = world.metadata ∧ after.audits = world.audits

theorem kept_next (world : SupportWorld) : Kept world world.next := ⟨rfl, rfl, rfl⟩

theorem Kept.refl (world : SupportWorld) : Kept world world := ⟨rfl, rfl, rfl⟩

theorem Kept.trans {world middle after : SupportWorld} (first : Kept world middle)
    (second : Kept middle after) : Kept world after :=
  ⟨second.1.trans first.1, second.2.1.trans first.2.1, second.2.2.trans first.2.2⟩

/-- The call appends one record, and the record says how the call ended. -/
def Records {Result : Type} (world : SupportWorld) (outcome : Except Raised Result × SupportWorld) :
    Prop :=
  ∃ record, outcome.2.audits = world.audits ++ [record] ∧
    match outcome.1 with
    | .ok _ => record.result = .success
    | .error raised => ∃ error, raised = .kslide error ∧
        (record.lifecycle, record.result) = failureLifecycle error

/-- A call that raises leaves no file where there was none. -/
def LeavesNothing {Result : Type} (world : SupportWorld)
    (outcome : Except Raised Result × SupportWorld) : Prop :=
  ∀ raised, outcome.1 = .error raised →
    (outcome.2.bundle.exists? = true → world.bundle.exists? = true) ∧
    (outcome.2.metadata.exists? = true → world.metadata.exists? = true)

/-- The call is recorded and cleaned up. -/
def Accounts {Result : Type} (world : SupportWorld)
    (outcome : Except Raised Result × SupportWorld) : Prop :=
  Records world outcome ∧ LeavesNothing world outcome

/-- How the first refusal of a call shows in its outcome. -/
inductive Settles {Result : Type} (world : SupportWorld) :
    Except SupportRefusal Unit → Except Raised Result × SupportWorld → Prop
  | success {value : Result} {after : SupportWorld} {record : SupportAccessAudit}
      (appended : after.audits = world.audits ++ [record]) (result : record.result = .success) :
      Settles world (.ok ()) (.ok value, after)
  | recorded {error : KSlideError} {after : SupportWorld} {record : SupportAccessAudit}
      (appended : after.audits = world.audits ++ [record])
      (result : (record.lifecycle, record.result) = failureLifecycle error)
      (bundle : after.bundle = world.bundle) (metadata : after.metadata = world.metadata) :
      Settles world (.error ⟨true, .kslide error⟩) (.error (.kslide error), after)
  | unknown {kind : String} {raised : Raised} {after : SupportWorld}
      (kept : after.audits = world.audits) :
      Settles world (.error ⟨true, .other kind⟩) (.error raised, after)
  | silent {error raised : Raised} {after : SupportWorld} (kept : after.audits = world.audits) :
      Settles world (.error ⟨false, error⟩) (.error raised, after)

variable {Result : Type} {world middle : SupportWorld}

/-- The outcome of a call does not change when quiet steps run before it. -/
theorem Settles.after_kept
    {verdict : Except SupportRefusal Unit} {outcome : Except Raised Result × SupportWorld}
    (kept : Kept world middle) (settles : Settles middle verdict outcome) :
    Settles world verdict outcome := by
  obtain ⟨bundleKept, metadataKept, auditsKept⟩ := kept
  cases settles with
  | success appended result => exact .success (appended.trans (by rw [auditsKept])) result
  | recorded appended result bundle metadata =>
    apply Settles.recorded _ result (bundle.trans bundleKept) (metadata.trans metadataKept)
    rw [appended, auditsKept]
  | unknown same => exact .unknown (same.trans auditsKept)
  | silent same => exact .silent (same.trans auditsKept)

/-- Only the records matter to a refusal that no handler records. -/
theorem Settles.after_silent
    {checks : List SupportCheck} {outcome : Except Raised Result × SupportWorld}
    (silent : ∀ check ∈ checks, check.audited = false) (same : middle.audits = world.audits)
    (settles : Settles middle (settle checks) outcome) : Settles world (settle checks) outcome := by
  have unrecorded := settle_silent silent
  generalize settle checks = verdict at settles unrecorded
  cases settles with
  | success appended result => exact .success (appended.trans (by rw [same])) result
  | recorded appended result bundle metadata => cases unrecorded _ rfl
  | unknown kept => cases unrecorded _ rfl
  | silent kept => exact .silent (kept.trans same)

/-- A call is recorded and cleaned up exactly when no refusal goes unrecorded. -/
theorem Settles.accounts {world : SupportWorld} {checks : List SupportCheck}
    {outcome : Except Raised Result × SupportWorld} (settles : Settles world (settle checks) outcome) :
    Accounts world outcome ↔ Accounted checks := by
  unfold Accounted
  generalize settle checks = verdict at settles
  have unequal (record : SupportAccessAudit) : ¬ world.audits = world.audits ++ [record] := by
    intro same
    simpa using congrArg List.length same
  cases settles with
  | success appended result =>
    constructor
    · intro _ refusal refused
      cases refused
    · intro _
      constructor
      · exact ⟨_, appended, result⟩
      · intro raised failed
        cases failed
  | recorded appended result bundle metadata =>
    constructor
    · intro _ refusal refused
      cases refused
      exact ⟨rfl, _, rfl⟩
    · intro _
      constructor
      · exact ⟨_, appended, _, rfl, result⟩
      · intro raised _
        rw [bundle, metadata]
        exact ⟨id, id⟩
  | unknown kept =>
    constructor
    · intro accounts
      obtain ⟨record, appended, _⟩ := accounts.1
      exact absurd (kept.symm.trans appended) (unequal record)
    · intro accounted
      obtain ⟨_, error, same⟩ := accounted _ rfl
      cases same
  | silent kept =>
    constructor
    · intro accounts
      obtain ⟨record, appended, _⟩ := accounts.1
      exact absurd (kept.symm.trans appended) (unequal record)
    · intro accounted
      have same := (accounted _ rfl).1
      cases same

end SupportWorld

namespace SupportCall
open SupportWorld
variable (call : SupportCall)

/-- The result of one check at its own time. -/
def checked (turn : Nat) : Except Raised SupportAuthorizationDecision := do
  let now ← call.now turn
  call.answer now turn

/-- A call may only use the storage of its own run. -/
def insideRun : Except Raised Unit :=
  require (call.scopeRef == call.request.decision.scopeContext.scopeRef &&
    call.runRef == call.request.decision.runRef) outsideRun

def selected (selection : SupportContentSelection) : List UInt8 :=
  match call.readSelected selection with
  | .ok data => data
  | .error _ => []

def items : Nat → List SupportContentSelection → List (String × List UInt8)
  | _, [] => []
  | index, selection :: rest =>
    (itemName index selection.artifactClass, call.selected selection) :: items (index + 1) rest

/-- The checks of the selected files stand under a handler that records refusals. -/
def gatherChecks : Nat → Nat → List SupportContentSelection → List SupportCheck
  | _, _, [] => []
  | turn, total, selection :: rest =>
    let size := (call.selected selection).length
    of true (call.checked turn) ::
    of true (call.resolveSelected selection call.request.decision.toSupportDecisionBinding) ::
    of true (call.readSelected selection) ::
    of true (require (total + size ≤ maxArtifactBytes)
      (unavailable "Controlled support selection exceeds the bounded support limit.")) ::
    gatherChecks (turn + 1) (total + size) rest

section
variable [SupportIdentity]

/-- No handler covers the checks of an earlier copy. -/
def reuseChecks (world : SupportWorld) : List SupportCheck := [
  of false (require (world.bundle.content?.isSome && world.metadata.content?.isSome)
    (refused .executionConflict "Controlled support artifact identity is already occupied.")),
  of false (call.loadArtifact call.bundleReference world),
  of false (call.loadArtifact call.bundleReference world >>= fun existing =>
    selectionMatchesArtifact existing call.request),
  of false (call.checked world.turn)]

/-- No handler records the checks after the selected files. -/
def publishChecks (turn : Nat) : List SupportCheck := [
  of false (call.checked turn),
  of false (call.archive
    (call.manifest call.request.decision.toSupportDecisionBinding call.request.selections.length)
    (call.items 1 call.request.selections)),
  of false call.sealBundle,
  of false (call.checked (turn + 1)),
  of false call.save,
  of false call.sealMetadata,
  of false (call.checked (turn + 2))]

/-- The checks of a call that writes a copy, in their order. -/
def materializeChecks (world : SupportWorld) : List SupportCheck :=
  of false (call.now world.turn) :: of true (call.checked world.turn) ::
    of true call.insideRun :: of false call.prepare ::
    if world.bundle.exists? || world.metadata.exists? then call.reuseChecks world.next
    else call.gatherChecks (world.turn + 1) 0 call.request.selections ++
      call.publishChecks (world.turn + 1 + call.request.selections.length)

/-- The checks of a call that reads a copy, in their order. -/
def readChecks (artifact : ControlledSupportArtifact) (world : SupportWorld) :
    List SupportCheck := [
  of false (call.now world.turn),
  of true (call.checked world.turn),
  of true (selectionMatchesArtifact artifact call.request),
  of true (call.loadArtifact artifact.reference world),
  of true (call.loadArtifact artifact.reference world >>= fun stored =>
    require (stored == artifact) (refused .executionConflict
      "Controlled support artifact metadata does not match the typed artifact.")),
  of true (call.layoutResolve artifact.reference call.request.decision.scopeContext.scopeRef),
  of true (call.openBundle world),
  of true (call.checked (world.turn + 1)),
  of true (call.openBundle world >>= scanArchive call.accessKey)]

end

section
variable {call : SupportCall} {Value Other Result : Type} {world after : SupportWorld}

variable {program : SupportProgram Value} {next : Value → SupportProgram Other}
  {handler : Raised → SupportProgram Other} {rest : Other → SupportProgram Result}

/-- A step whose refusal its handler does not recover settles the call. -/
theorem settles_handled {answer : Except Raised Value} {audited : Bool} {checks : List SupportCheck}
    (reached : program.run world = (answer, after)) (kept : Kept world after)
    (fails : ∀ error, answer = .error error →
      Settles after (.error ⟨audited, error⟩) ((handler error >>= rest).run after))
    (follows : ∀ value, answer = .ok value →
      Settles after (settle checks) ((tryCatch (next value) handler >>= rest).run after)) :
    Settles world (settle (of audited answer :: checks))
      ((tryCatch (program >>= next) handler >>= rest).run world) := by
  apply Settles.after_kept kept
  cases answer with
  | ok value =>
    rw [settle_ok rfl]
    have run : (tryCatch (program >>= next) handler >>= rest).run world =
        (tryCatch (next value) handler >>= rest).run after := by
      simp only [run_bind, run_tryCatch, reached]
    rw [run]
    exact follows value rfl
  | error error =>
    rw [settle_error rfl]
    have run : (tryCatch (program >>= next) handler >>= rest).run world =
        (handler error >>= rest).run after := by
      simp only [run_bind, run_tryCatch, reached]
    rw [run]
    exact fails error rfl

/-- A step that no handler covers ends the call without a record. -/
theorem settles_step {rest : Value → SupportProgram Result}
    {answer : Except Raised Value} {checks : List SupportCheck}
    (reached : program.run world = (answer, after)) (kept : Kept world after)
    (follows : ∀ value, answer = .ok value →
      Settles after (settle checks) ((rest value).run after)) :
    Settles world (settle (of false answer :: checks)) ((program >>= rest).run world) := by
  cases answer with
  | ok value =>
    rw [run_bind_ok reached, settle_ok rfl]
    exact (follows value rfl).after_kept kept
  | error error =>
    rw [run_bind_error reached, settle_error rfl]
    exact .silent kept.2.2

/-- The handler of package errors leaves one record of a package error. -/
theorem settles_failure {time : SupportProgram Nat} {artifactRef : Option String}
    {rest : Other → SupportProgram Result} {now : Nat} (timed : time.run world = (.ok now, world))
    (error : Raised) : Settles world (.error ⟨true, error⟩)
      ((call.auditFailure time artifactRef error >>= rest).run world) := by
  cases error with
  | other kind => exact .unknown rfl
  | kslide error =>
    have run : (call.auditFailure time artifactRef (.kslide error) >>= rest).run world =
        (.error (.kslide error), { world with audits := world.audits ++ [call.record now
          (failureLifecycle error).1 (failureLifecycle error).2 artifactRef] }) := by
      simp only [auditFailure, SupportCall.audit, run_bind, timed, run_write, run_throw]
    rw [run]
    exact .recorded rfl rfl rfl rfl

/-- Each reading of the clock succeeds when one reading does. -/
def Timed (call : SupportCall) : Prop := ∀ turn, ∃ now, call.now turn = .ok now

theorem timed_of_now {turn now : Nat} (found : call.now turn = .ok now) : call.Timed := by
  intro other
  unfold SupportCall.now at found ⊢
  cases time : call.time with
  | fixed fixed => exact ⟨fixed, rfl⟩
  | live clock => exact ⟨clock other, rfl⟩
  | zoneless =>
    rw [time] at found
    cases found

theorem readTime_reached (world : SupportWorld) :
    call.readTime.run world = (call.now world.turn, world) := run_read _ _ _

theorem readTime_run (timed : call.Timed) (world : SupportWorld) :
    ∃ now, call.readTime.run world = (.ok now, world) := by
  obtain ⟨now, found⟩ := timed world.turn
  use now
  rw [readTime_reached, found]

theorem check_run (timed : call.Timed) (world : SupportWorld) :
    call.check.run world = (call.checked world.turn, world.next) := by
  obtain ⟨now, found⟩ := timed world.turn
  have read : call.readTime.run world = (.ok now, world) := by rw [readTime_reached, found]
  rw [check, run_bind_ok read, authorize, run_transact, checked, found]
  rfl

/-- The handler of the later checks reads the time again. -/
theorem settles_refused {artifactRef : Option String} {rest : Other → SupportProgram Result}
    (timed : call.Timed) (error : Raised) : Settles world (.error ⟨true, error⟩)
      ((call.auditFailure call.readTime artifactRef error >>= rest).run world) := by
  obtain ⟨now, read⟩ := readTime_run timed world
  exact settles_failure read error

/-- The loop over the selected files settles the call or hands over all of their data. -/
theorem settles_gather (timed : call.Timed) {rest : Other → SupportProgram Result}
    {selections : List SupportContentSelection} {checks : List SupportCheck} {index total : Nat}
    {next : List (String × List UInt8) → SupportProgram Other} {world : SupportWorld}
    (follows : ∀ after, Kept world after → after.turn = world.turn + selections.length →
      Settles after (settle checks) ((tryCatch (next (call.items index selections))
        (call.auditFailure call.readTime none) >>= rest).run after)) :
    Settles world (settle (call.gatherChecks world.turn total selections ++ checks))
      ((tryCatch (call.gather call.request.decision.toSupportDecisionBinding index total
        selections >>= next) (call.auditFailure call.readTime none) >>= rest).run world) := by
  induction selections generalizing index total next world with
  | nil => exact follows world (Kept.refl world) rfl
  | cons selection selections ih =>
    simp only [gather, gatherChecks, bind_assoc, pure_bind, cons_append]
    apply settles_handled (check_run timed world) (kept_next world)
    · intro error _
      exact settles_refused timed error
    · intro _ _
      apply settles_handled (run_lift _ _) (Kept.refl _)
      · intro error _
        exact settles_refused timed error
      · intro _ _
        apply settles_handled (run_lift _ _) (Kept.refl _)
        · intro error _
          exact settles_refused timed error
        · intro data read
          have same : call.selected selection = data := by rw [selected, read]
          rw [same]
          apply settles_handled (run_lift _ _) (Kept.refl _)
          · intro error _
            exact settles_refused timed error
          · intro _ _
            apply ih
            intro after kept turn
            have first : world.next.turn = world.turn + 1 := rfl
            have last : after.turn = world.turn + (selection :: selections).length := by
              rw [turn, first, length_cons]
              omega
            have reached := follows after (Kept.trans (kept_next world) kept) last
            rw [items, same] at reached
            exact reached

theorem length_items (index : Nat) (selections : List SupportContentSelection) :
    (call.items index selections).length = selections.length := by
  induction selections generalizing index with
  | nil => rfl
  | cons selection rest ih => rw [items, length_cons, length_cons, ih]

theorem checked_bound {turn : Nat} {current : SupportAuthorizationDecision}
    (accepted : call.checked turn = .ok current) :
    current.toSupportDecisionBinding = call.request.decision.toSupportDecisionBinding := by
  simp only [checked, answer, providerDecision, currentDecision, bind_ok, require_ok, pure_ok]
    at accepted
  obtain ⟨_, _, found, ⟨_, _, _, _, bound⟩, _, _, _, _, _, _, _, _, _, _, same⟩ := accepted
  cases answered : call.provider.resolve turn with
  | raised =>
    rw [answered] at bound
    cases bound
  | untyped =>
    rw [answered] at bound
    cases bound
  | decided decision =>
    rw [answered, boundDecision] at bound
    split at bound
    · cases bound
      cases same
      assumption
    · cases bound

/-- The cleanup of a failed call leaves the records as they are. -/
theorem settles_cleaned (error : Raised) : Settles world (.error ⟨false, error⟩)
      (((do call.removeFiles; throw error : SupportProgram Other) >>= rest).run world) := by
  have removed (world : SupportWorld) : ∃ answer after,
      call.removeFiles.run world = (answer, after) ∧ after.audits = world.audits := by
    unfold removeFiles
    simp only [run_bind, run_transact]
    cases call.removeBundle with
    | error error => exact ⟨_, _, rfl, rfl⟩
    | ok _ =>
      cases call.removeMetadata with
      | error error => exact ⟨_, _, rfl, rfl⟩
      | ok _ => exact ⟨_, _, rfl, rfl⟩
  obtain ⟨answer, after, reached, kept⟩ := removed world
  simp only [bind_assoc, run_bind, reached]
  cases answer with
  | ok _ => exact .silent kept
  | error raised => exact .silent kept

/-- A step that succeeds hands over to the rest under the same handler. -/
theorem run_handled {value : Value} (reached : program.run world = (.ok value, after)) :
    (tryCatch (program >>= next) handler >>= rest).run world =
      (tryCatch (next value) handler >>= rest).run after := by
  simp only [run_bind, run_tryCatch, reached]

/-- The metadata is published between two checks, and the last check precedes the record. -/
theorem settles_publish (timed : call.Timed) (artifact value : ControlledSupportArtifact) :
    Settles world
      (settle [of false (call.checked world.turn), of false call.save, of false call.sealMetadata,
        of false (call.checked (world.turn + 1))])
      ((tryCatch (call.publish artifact) (fun error => do call.removeFiles; throw error) >>=
        fun _ => (pure value : SupportProgram ControlledSupportArtifact)).run world) := by
  simp only [publish, writeMetadata, bind_assoc]
  apply settles_handled (check_run timed world) (kept_next world)
  · intro error _
    exact settles_cleaned error
  · intro _ _
    apply settles_handled (run_lift _ _) (Kept.refl _)
    · intro error _
      exact settles_cleaned error
    · intro _ _
      rw [run_handled (run_write _ _ _)]
      have kept : ({ world.next with metadata := .file (.ok artifact) } : SupportWorld).audits =
          world.next.audits := rfl
      apply Settles.after_silent _ kept
      · apply settles_handled (run_lift _ _) (Kept.refl _)
        · intro error _
          exact settles_cleaned error
        · intro _ _
          apply settles_handled (check_run timed _) (kept_next _)
          · intro error _
            exact settles_cleaned error
          · intro _ _
            obtain ⟨now, read⟩ := readTime_run timed (SupportWorld.next
              { world.next with metadata := .file (.ok artifact) })
            rw [run_handled read, SupportCall.audit]
            simp only [run_bind, run_tryCatch, run_write, run_pure]
            exact .success rfl rfl
      · simp [of]

variable [SupportIdentity]

theorem settles_build (timed : call.Timed) (currentTime : Nat) (world : SupportWorld) :
    Settles world
      (settle (call.gatherChecks world.turn 0 call.request.selections ++
        call.publishChecks (world.turn + call.request.selections.length)))
      ((call.build currentTime call.request.decision.toSupportDecisionBinding).run world) := by
  rw [build, ← bind_pure (call.gather _ _ _ _)]
  apply settles_gather timed
  intro after kept turn
  rw [tryCatch_pure, pure_bind, publishChecks, ← turn, length_items]
  apply settles_step (check_run timed after) (kept_next after)
  intro _ _
  rw [writeZip]
  simp only [bind_assoc]
  apply settles_step (run_lift _ _) (Kept.refl _)
  intro bundle _
  rw [run_bind_ok (run_write _ _ _)]
  have same : ({ after.next with bundle := .file bundle } : SupportWorld).audits =
      after.next.audits := rfl
  apply Settles.after_silent _ same
  · apply settles_step (run_lift _ _) (Kept.refl _)
    intro _ _
    exact settles_publish timed _ _
  · simp [of]

theorem settles_reuse (timed : call.Timed) (world : SupportWorld) :
    Settles world (settle (call.reuseChecks world)) (call.reuse.run world) := by
  rw [reuse, reuseChecks]
  apply settles_step (run_read _ _ _) (Kept.refl _)
  intro _ _
  apply settles_step (run_read _ _ _) (Kept.refl _)
  intro existing loaded
  rw [loaded]
  apply settles_step (run_lift _ _) (Kept.refl _)
  intro _ _
  apply settles_step (check_run timed _) (kept_next _)
  intro _ _
  obtain ⟨now, read⟩ := readTime_run timed world.next
  rw [run_bind_ok read, SupportCall.audit, run_bind_ok (run_write _ _ _)]
  exact .success rfl rfl

theorem settles_materialize (world : SupportWorld) :
    Settles world (settle (call.materializeChecks world))
      (call.materializeControlledSupportBundle.run world) := by
  rw [materializeControlledSupportBundle, materializeChecks]
  apply settles_step (readTime_reached world) (Kept.refl _)
  intro currentTime found
  have timed := timed_of_now found
  have asked : (call.authorize currentTime).run world = (call.checked world.turn, world.next) := by
    rw [authorize, run_transact, checked, found]
    rfl
  rw [← bind_pure (call.authorize currentTime)]
  apply settles_handled asked (kept_next world)
  · intro error _
    exact settles_failure (run_pure _ _) error
  · intro current accepted
    rw [tryCatch_pure, pure_bind, checked_bound accepted]
    have inside : call.insideRun = if call.scopeRef != call.request.decision.scopeContext.scopeRef ||
        call.runRef != call.request.decision.runRef then .error outsideRun else .ok () := by
      unfold insideRun require
      grind
    cases outside : (call.scopeRef != call.request.decision.scopeContext.scopeRef ||
        call.runRef != call.request.decision.runRef) with
    | true =>
      rw [outside, if_pos rfl] at inside
      rw [if_pos rfl, settle_error inside, SupportCall.audit, run_bind_ok (run_write _ _ _),
        run_throw]
      exact .recorded rfl rfl rfl rfl
    | false =>
      rw [outside, if_neg Bool.false_ne_true] at inside
      rw [if_neg Bool.false_ne_true, settle_ok inside]
      apply settles_step (run_lift _ _) (Kept.refl _)
      intro _ _
      have looked : (Program.read .storage fun world =>
          .ok (world.bundle.exists? || world.metadata.exists?) : SupportProgram Bool).run
          world.next = (.ok (world.bundle.exists? || world.metadata.exists?), world.next) :=
        run_read _ _ _
      rw [run_bind_ok looked]
      cases world.bundle.exists? || world.metadata.exists? with
      | true => exact settles_reuse timed world.next
      | false => exact settles_build timed currentTime world.next

theorem settles_read (artifact : ControlledSupportArtifact) (world : SupportWorld) :
    Settles world (settle (call.readChecks artifact world))
      ((call.readControlledSupportBundle artifact).run world) := by
  rw [readControlledSupportBundle, readChecks]
  apply settles_step (readTime_reached world) (Kept.refl _)
  intro currentTime found
  have timed := timed_of_now found
  have asked : (call.authorize currentTime).run world = (call.checked world.turn, world.next) := by
    rw [authorize, run_transact, checked, found]
    rfl
  rw [← bind_pure (tryCatch _ _)]
  apply settles_handled asked (kept_next world)
  · intro error _
    exact settles_refused timed error
  · intro _ _
    apply settles_handled (run_lift _ _) (Kept.refl _)
    · intro error _
      exact settles_refused timed error
    · intro _ _
      have looked : (Program.read .storage (call.loadArtifact artifact.reference) :
          SupportProgram ControlledSupportArtifact).run world.next =
          (call.loadArtifact artifact.reference world, world.next) := run_read _ _ _
      apply settles_handled looked (Kept.refl _)
      · intro error _
        exact settles_refused timed error
      · intro stored loaded
        rw [loaded]
        apply settles_handled (run_lift _ _) (Kept.refl _)
        · intro error _
          exact settles_refused timed error
        · intro _ matched
          have same : stored = artifact := by simpa using matched
          rw [same]
          apply settles_handled (run_lift _ _) (Kept.refl _)
          · intro error _
            exact settles_refused timed error
          · intro _ _
            have opens : (Program.read .storage call.openBundle :
                SupportProgram SupportBundle).run world.next =
                (call.openBundle world, world.next) := run_read _ _ _
            apply settles_handled opens (Kept.refl _)
            · intro error _
              exact settles_refused timed error
            · intro bundle opened
              rw [opened]
              apply settles_handled (check_run timed _) (kept_next _)
              · intro error _
                exact settles_refused timed error
              · intro _ _
                apply settles_handled (run_lift _ _) (Kept.refl _)
                · intro error _
                  exact settles_refused timed error
                · intro _ _
                  obtain ⟨now, read⟩ := readTime_run timed world.next.next
                  rw [run_handled read, SupportCall.audit, run_handled (run_write _ _ _),
                    tryCatch_pure, pure_bind]
                  exact .success rfl rfl

end

variable [SupportIdentity]

/-- A call is recorded and cleaned up exactly when its first refusal has a recording handler. -/
theorem supportCalls_account (call : SupportCall) (world : SupportWorld) :
    (Accounts world (call.materializeControlledSupportBundle.run world) ↔
      Accounted (call.materializeChecks world)) ∧
    ∀ artifact, Accounts world ((call.readControlledSupportBundle artifact).run world) ↔
      Accounted (call.readChecks artifact world) := by
  constructor
  · exact (settles_materialize world).accounts
  · intro artifact
    exact (settles_read artifact world).accounts

end SupportCall

section
open SupportWorld

@[reducible] def SupportIdentity.sample : SupportIdentity where
  selection _ := "selection-1"
  artifact _ _ _ _ _ := "support-artifact-1"

attribute [local instance] SupportIdentity.sample

/-- The decision names one approval and one class and holds for one day. -/
def SupportAuthorizationDecision.sample : SupportAuthorizationDecision where
  accessRequestRef := "request-1"
  scopeContext := .sample
  runRef := "run-1"
  supportSubjectRef := "subject-1"
  supportRoleRef := "role-1"
  supportCapabilityRef := "capability-1"
  purpose := .incidentDiagnostic
  authorityRef := "authority-1"
  decisionRef := "decision-1"
  approvals := [⟨"approval-1", .approved, by decide⟩]
  allowedArtifactClasses := [.evidenceIr]
  allowedReferences := []
  issuedAt := ⟨"2026-01-01T00:00:00Z", 72822153600000000, by decide⟩
  notBeforeAt := ⟨"2026-01-01T00:00:00Z", 72822153600000000, by decide⟩
  expiresAt := ⟨"2026-01-02T00:00:00Z", 72822240000000000, by decide⟩
  safe := by decide
  evidenced := by decide
  named := by decide
  within := by decide
  finite := by decide
  status := .approved

/-- The authority approves twice and then reports that the decision is revoked. -/
def SupportCall.revokedAfterContent : SupportCall where
  request := {
    decision := .sample
    selections := [⟨.evidenceIr, ⟨"evidence_ir", "evidence/page.json", "scope-1", "run-1"⟩, rfl,
      by decide⟩]
    bounded := by decide
    allowed := by decide
    distinct := by decide }
  provider := {
    productionAuthoritative := false
    callable := true
    resolve turn := .decided
      (if turn < 2 then .sample else { SupportAuthorizationDecision.sample with status := .revoked }) }
  production := false
  time := .fixed 72822196800000000
  accessKey := none
  scopeRef := "scope-1"
  runRef := "run-1"
  prepare := .ok ()
  path _ := .ok ()
  escapes _ := false
  contents _ := some [123, 125]
  archive _ content := .ok ⟨content.flatMap Prod.snd, .ok []⟩
  sealBundle := .ok ()
  save := .ok ()
  sealMetadata := .ok ()
  removeBundle := .ok ()
  removeMetadata := .ok ()

/-- A decision that is revoked after the selected files were read leaves no record. -/
theorem SupportCall.revocation_unrecorded : ¬ ∀ (call : SupportCall) (world : SupportWorld),
    Accounts world (call.materializeControlledSupportBundle.run world) ∧
    ∀ artifact, Accounts world ((call.readControlledSupportBundle artifact).run world) := by
  intro claimed
  have accounts := (claimed revokedAfterContent ⟨0, .absent, .absent, []⟩).1
  obtain ⟨record, appended, _⟩ := accounts.1
  have unrecorded : (revokedAfterContent.materializeControlledSupportBundle.run
      ⟨0, .absent, .absent, []⟩).2.audits = [] := by rfl
  rw [unrecorded] at appended
  cases appended

end
end KSlide
