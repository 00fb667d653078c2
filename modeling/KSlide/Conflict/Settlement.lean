import KSlide.Conflict.Agreement
import KSlide.Conflict.Codec
import KSlide.Conflict.Resolution

/-
This file says which conflicts a resolution settles as a whole.
-/

namespace KSlide
open Conflict ConflictRun List

section
variable [Sha256] {conflict : Conflict} {candidate : Supersession}

namespace ConflictRegistry

/-- The supersessions that a conflict lists. -/
def recorded (registry : ConflictRegistry) (conflict : Conflict) : List Supersession :=
  registry.supersessions.filter fun item => conflict.supersessionIds.contains item.supersessionId

/-- Every participant but the winner is superseded, and the rest of the registry stays. -/
structure Settles (before after : ConflictRegistry) (conflict : Conflict) : Prop where
  superseded : ∃ first ∈ after.recorded conflict, ∀ participant ∈ conflict.participants,
    participant.assertionId ≠ first.supersedingAssertionId →
      ∃ item ∈ after.recorded conflict, item.supersededAssertionId = participant.assertionId
  conflicts : after.conflicts.filter (·.conflictId != conflict.conflictId) =
    before.conflicts.filter (·.conflictId != conflict.conflictId)
  supersessions : after.supersessions.filter (·.conflictId != conflict.conflictId) =
    before.supersessions.filter (·.conflictId != conflict.conflictId)

/-- One conflict of a registry gets one supersession. -/
structure Resolves (before after : ConflictRegistry) (conflict : Conflict)
    (candidate : Supersession) : Prop where
  present : conflict ∈ before.conflicts
  distinct : (before.conflicts.map (·.conflictId)).Nodup
  named : candidate.conflictId = conflict.conflictId
  conflicts : after.conflicts = before.conflicts.map fun item =>
    if item.conflictId = conflict.conflictId then resolvedBy conflict candidate else item
  supersessions : after.supersessions = before.supersessions ++ [candidate]
  distinctSupersessions : (after.supersessions.map (·.supersessionId)).Nodup
  checked : conflict.check = .ok ()
  accepted : candidate.check after.conflicts = .ok ()

end ConflictRegistry

open ConflictRegistry
variable {before after : ConflictRegistry}

/-- The check of a conflict keeps at least two distinct participants. -/
theorem Conflict.check_participants (checked : conflict.check = .ok ()) :
    2 ≤ conflict.participants.length ∧ (conflict.participants.map (·.assertionId)).Nodup := by
  unfold check at checked
  simp only [bind_ok, exists_const, require_ok, decide_eq_true_eq] at checked
  obtain ⟨_, _, _, competing, distinct, _⟩ := checked
  exact ⟨competing, distinct⟩

/-- An accepted supersession joins two different participants of its conflict. -/
theorem Supersession.check_participants {conflicts : List Conflict}
    (checked : candidate.check conflicts = .ok ())
    (found : conflicts.find? (·.conflictId == candidate.conflictId) = some conflict) :
    candidate.supersedingAssertionId ≠ candidate.supersededAssertionId ∧
      candidate.supersedingAssertionId ∈ conflict.participants.map (·.assertionId) ∧
      candidate.supersededAssertionId ∈ conflict.participants.map (·.assertionId) := by
  unfold check at checked
  split at checked
  · cases checked
  · simp only [bind_ok, exists_const, require_ok, found, bne_iff_ne, Bool.and_eq_true,
      contains_iff_mem] at checked
    obtain ⟨_, different, ⟨won, lost⟩, _⟩ := checked
    exact ⟨different, won, lost⟩

/-- A registry finds the conflict that was resolved last under its own identity. -/
theorem ConflictRegistry.Resolves.found (resolves : Resolves before after conflict candidate) :
    after.conflicts.find? (·.conflictId == candidate.conflictId) =
      some (resolvedBy conflict candidate) := by
  have present := resolves.present
  rw [resolves.conflicts, resolves.named]
  generalize before.conflicts = conflicts at present
  induction conflicts with
  | nil => cases present
  | cons first rest ih =>
    rw [map_cons]
    by_cases same : first.conflictId = conflict.conflictId
    · rw [if_pos same]
      apply find?_cons_of_pos
      exact beq_self_eq_true _
    · rw [if_neg same, find?_cons_of_neg (by simpa using same)]
      apply ih
      rcases mem_cons.mp present with equal | later
      · rw [equal] at same
        exact absurd rfl same
      · exact later

theorem ConflictRegistry.Resolves.recorded
    (resolves : Resolves before after conflict candidate) :
    ∀ item, item ∈ after.recorded (resolvedBy conflict candidate) ↔ item = candidate := by
  intro item
  have listed : candidate ∈ after.supersessions := by
    rw [resolves.supersessions]
    exact mem_append_right _ mem_cons_self
  have single : item ∈ after.recorded (resolvedBy conflict candidate) ↔
      item ∈ after.supersessions ∧ item.supersessionId = candidate.supersessionId := by
    simp [ConflictRegistry.recorded, resolvedBy]
  rw [single]
  constructor
  · intro parts
    obtain ⟨other, same⟩ := parts
    exact inj_on_of_nodup_map resolves.distinctSupersessions other listed same
  · intro same
    rw [same]
    exact ⟨listed, rfl⟩

omit [Sha256] in
/-- Two members exhaust a list without repetition exactly when it has two items. -/
theorem exhausted_iff {Item : Type} [DecidableEq Item] {items : List Item} {first second : Item}
    (distinct : items.Nodup) (different : first ≠ second) (one : first ∈ items)
    (other : second ∈ items) :
    (∀ item ∈ items, item ≠ first → item = second) ↔ items.length = 2 := by
  have pair : [first, second].Nodup := by simp [different]
  have inside : [first, second].Subperm items := by
    apply subperm_of_subset pair
    intro item listed
    rcases mem_pair.mp listed with same | same
    · rwa [same]
    · rwa [same]
  have least : 2 ≤ items.length := inside.length_le
  constructor
  · intro exhausted
    have covered : items.Subperm [first, second] := by
      apply subperm_of_subset distinct
      intro item listed
      by_cases same : item = first
      · exact mem_pair.mpr (Or.inl same)
      · exact mem_pair.mpr (Or.inr (exhausted item listed same))
    have most : items.length ≤ 2 := covered.length_le
    omega
  · intro two item listed apart
    have same := inside.perm_of_length_le (Nat.le_of_eq two)
    have member : item ∈ [first, second] := same.mem_iff.mpr listed
    exact (mem_pair.mp member).resolve_left apart

/-- A resolution settles a conflict exactly when it has one possible loser. -/
theorem ConflictRegistry.Resolves.settles_iff
    (resolves : Resolves before after conflict candidate) :
    before.Settles after (resolvedBy conflict candidate) ↔ conflict.participants.length = 2 := by
  have ⟨_, distinct⟩ := Conflict.check_participants resolves.checked
  have ⟨different, won, lost⟩ :=
    Supersession.check_participants resolves.accepted resolves.found
  have exhausted := exhausted_iff distinct different won lost
  rw [length_map] at exhausted
  rw [← exhausted]
  have each (participant : AssertionReference) :
      (∃ item ∈ after.recorded (resolvedBy conflict candidate),
        item.supersededAssertionId = participant.assertionId) ↔
          participant.assertionId = candidate.supersededAssertionId := by
    constructor
    · intro parts
      obtain ⟨item, listed, same⟩ := parts
      rw [(resolves.recorded item).mp listed] at same
      exact same.symm
    · intro same
      exact ⟨candidate, (resolves.recorded candidate).mpr rfl, same.symm⟩
  constructor
  · intro settled id listed apart
    obtain ⟨first, known, superseded⟩ := settled.superseded
    rw [(resolves.recorded first).mp known] at superseded
    obtain ⟨participant, present, same⟩ := mem_map.mp listed
    rw [← same] at apart ⊢
    exact (each participant).mp (superseded participant present apart)
  · intro covered
    constructor
    · use candidate
      constructor
      · exact (resolves.recorded candidate).mpr rfl
      · intro participant present apart
        exact (each participant).mpr (covered _ (mem_map_of_mem present) apart)
    · rw [resolves.conflicts]
      have named : (resolvedBy conflict candidate).conflictId = conflict.conflictId := rfl
      rw [named]
      induction before.conflicts with
      | nil => rfl
      | cons item rest ih =>
        rw [map_cons]
        by_cases same : item.conflictId = conflict.conflictId
        · rw [if_pos same, filter_cons_of_neg (by simp [named]),
            filter_cons_of_neg (by simp [same])]
          exact ih
        · rw [if_neg same, filter_cons_of_pos (by simpa using same),
            filter_cons_of_pos (by simpa using same), ih]
    · rw [resolves.supersessions, filter_append]
      have named : candidate.conflictId = (resolvedBy conflict candidate).conflictId :=
        resolves.named
      simp [named]

end

namespace AuthorityPolicy
variable [Sha256] {policy : AuthorityPolicy} {conflict : Conflict} {candidate : Supersession}

theorem configuredSupersession_conflictId
    (derived : policy.configuredSupersession conflict = some candidate) :
    candidate.conflictId = conflict.conflictId := by
  obtain ⟨_, _, _, _, same⟩ := configuredSupersession_eq_some.mp derived
  rw [same]
  rfl

end AuthorityPolicy

namespace ConflictRun
open ConflictRegistry
variable [Sha256] [Unicode] {limit : Nat} {run after : ConflictRun} {conflict : Conflict}
  {candidate : Supersession} {current registry : ConflictRegistry} {conflictId evidence : Json}

theorem explicitSupersession_conflictId {value : Json}
    (derived : run.explicitSupersession conflict value = .ok candidate) :
    candidate.conflictId = conflict.conflictId := by
  unfold explicitSupersession at derived
  simp only [bind_ok, exists_const, require_ok] at derived
  obtain ⟨_, _, _, _, _, _, _, derived⟩ := derived
  split at derived
  · cases derived
  · simp only [bind_ok, exists_const, require_ok] at derived
    obtain ⟨_, derived⟩ := derived
    split at derived
    · cases derived
    · rw [← pure_ok.mp derived]

theorem candidateSupersession_conflictId {policy : AuthorityPolicy}
    (derived : run.candidateSupersession policy conflict evidence = .ok (some candidate)) :
    candidate.conflictId = conflict.conflictId := by
  unfold candidateSupersession at derived
  split at derived
  · exact AuthorityPolicy.configuredSupersession_conflictId (Except.ok.inj derived)
  · obtain ⟨found, explicit, same⟩ := map_ok.mp derived
    rw [← Option.some.inj same]
    exact explicitSupersession_conflictId explicit

omit [Unicode] in
theorem loadConflictRegistry_checked
    (loaded : run.loadConflictRegistry limit = .ok (some current)) : current.Checked limit := by
  unfold loadConflictRegistry at loaded
  simp only [bind_ok] at loaded
  obtain ⟨file, _, loaded⟩ := loaded
  split at loaded
  · cases loaded
  · simp only [bind_ok, pure_ok, Option.some.injEq] at loaded
    obtain ⟨read, known, same⟩ := loaded
    rw [← same]
    exact fromDict_checked known

theorem validateSupersession_configured {policy : AuthorityPolicy} {supersession : Supersession}
    {configuredAuthorityIds : List String} {configId : String}
    (state : supersession.state = Text.Enumeration.value SupersessionState.authoritative)
    (basis : supersession.authorityBasis =
      Text.Enumeration.value SupersessionAuthorityBasis.configuredAuthority)
    (evidence : supersession.authorityEvidence = [])
    (named : supersession.authorityConfigId = some configId)
    (known : configId ∈ configuredAuthorityIds)
    (revision : supersession.authorityConfigRevision = some policy.revision)
    (allowed : policy.allows supersession conflict = true)
    (won : supersession.supersedingAssertionId ∈ conflict.participants.map (·.assertionId))
    (lost : supersession.supersededAssertionId ∈ conflict.participants.map (·.assertionId)) :
    run.validateSupersession configuredAuthorityIds policy true conflict supersession = .ok () := by
  have implicit : (Text.Enumeration.value SupersessionAuthorityBasis.configuredAuthority ==
      Text.Enumeration.value SupersessionAuthorityBasis.explicitEvidence) = false := by decide
  unfold validateSupersession
  simp [state, basis, implicit, evidence, named, known, revision, allowed]
  exact ⟨mem_map.mp won, mem_map.mp lost⟩

omit [Unicode] in
theorem finalizeRegistry_checked {draft : ConflictRegistry} (checked : draft.Checked limit) :
    ∃ final, finalizeRegistry limit draft = .ok final ∧ final.Checked limit ∧
      final.runId = draft.runId ∧ final.conflicts = draft.conflicts ∧
      final.supersessions = draft.supersessions := by
  obtain ⟨revision, computed⟩ := computedRevision_exists checked.assessed
  have accepted := validateStructure_ok.mpr checked
  have parsed := Text.Enumeration.parse_value draft.expectedAssessmentStatus
  have named : Text.Enumeration.value draft.expectedAssessmentStatus ≠ "" := by
    cases draft.expectedAssessmentStatus <;> decide
  let final : ConflictRegistry := { draft with
    registryRevision := revision
    assessmentStatus := Text.Enumeration.value draft.expectedAssessmentStatus }
  have assessed : final.effectiveAssessmentStatus = .ok final.expectedAssessmentStatus := by
    have stored : Text.Enumeration.parse ConflictAssessmentState final.assessmentStatus =
        some final.expectedAssessmentStatus := parsed
    have present : final.assessmentStatus ≠ "" := named
    unfold effectiveAssessmentStatus
    rw [if_pos present, stored]
  have revised : final.computedRevision = .ok revision := by
    rw [← computed]
    unfold computedRevision withoutRevision
    rw [assessed, checked.assessed]
    rfl
  refine ⟨final, ?_, ?_, rfl, rfl, rfl⟩
  · unfold finalizeRegistry
    rw [accepted, computed]
    rfl
  · exact { checked with
      assessed
      revised := Or.inr revised }

omit [Unicode] in
theorem recordSupersession_resolves (valid : current.Checked limit)
    (present : conflict ∈ current.conflicts) (named : candidate.conflictId = conflict.conflictId)
    (recorded : recordSupersession limit current conflict (some candidate) = .ok (some registry)) :
    current.Resolves registry conflict candidate := by
  unfold recordSupersession at recorded
  by_cases unresolved : conflict.isUnresolved = true
  · simp only [unresolved, Bool.not_true, Bool.false_eq_true, ↓reduceIte, bind_ok, require_ok,
      pure_ok, exists_const] at recorded
    obtain ⟨_, final, finalized, same⟩ := recorded
    unfold finalizeRegistry at finalized
    simp only [bind_ok, pure_ok] at finalized
    obtain ⟨_, accepted, revision, _, revised⟩ := finalized
    have checked := validateStructure_ok.mp accepted
    cases same
    rw [← revised]
    constructor
    · exact present
    · exact valid.distinct
    · exact named
    · rfl
    · rfl
    · exact checked.distinctSupersessions
    · exact valid.conflicts conflict present
    · apply checked.supersessions
      exact mem_append_right _ mem_cons_self
  · dsimp only at recorded
    rw [if_pos (by simpa using unresolved)] at recorded
    split at recorded
    · split at recorded
      · cases recorded
      · cases recorded
    · cases recorded

/-- A call leaves the registry as it is or resolves the conflict that it names. -/
theorem resolve_cases (loaded : run.loadConflictRegistry limit = .ok (some current))
    (resolved : run.resolveAuthoritativeConflict limit conflictId evidence =
      .ok (registry, after)) :
    registry = current ∨ ∃ conflict candidate, current.Resolves registry conflict candidate := by
  have valid := loadConflictRegistry_checked loaded
  unfold resolveAuthoritativeConflict at resolved
  simp only [loaded, bind_ok, Except.ok.injEq, exists_eq_left'] at resolved
  obtain ⟨id, _, policy, _, strict, _, _, _, resolved⟩ := resolved
  split at resolved
  · cases resolved
  · rename_i conflict found
    simp only [bind_ok] at resolved
    obtain ⟨candidate, derived, outcome, recorded, resolved⟩ := resolved
    cases outcome with
    | none =>
      left
      have same := pure_ok.mp resolved
      exact (Prod.mk.inj same).1.symm
    | some final =>
      right
      simp only [bind_ok, pure_ok, Prod.mk.injEq] at resolved
      obtain ⟨_, _, same, _⟩ := resolved
      rw [same] at recorded
      have present := mem_of_find?_eq_some found
      cases candidate with
      | none =>
        simp only [recordSupersession] at recorded
        split at recorded
        · cases recorded
        · cases recorded
      | some candidate =>
        have named := candidateSupersession_conflictId derived
        exact ⟨conflict, candidate, recordSupersession_resolves valid present named recorded⟩

end ConflictRun

/-- A resolution settles the conflict that it changes exactly when this has two participants. -/
theorem resolution_settles [Sha256] [Unicode] {limit : Nat} {run after : ConflictRun}
    {conflictId evidence : Json} {current registry : ConflictRegistry} {first last : Conflict}
    (loaded : run.loadConflictRegistry limit = .ok (some current))
    (resolved : run.resolveAuthoritativeConflict limit conflictId evidence = .ok (registry, after))
    (known : first ∈ current.conflicts) (unresolved : first.isResolved = false)
    (kept : last ∈ registry.conflicts) (same : last.conflictId = first.conflictId)
    (settled : last.isResolved = true) :
    current.Settles registry last ↔ first.participants.length = 2 := by
  have distinct := (ConflictRun.loadConflictRegistry_checked loaded).distinct
  have changed : last ∉ current.conflicts := by
    intro listed
    have equal := inj_on_of_nodup_map distinct listed known same
    rw [equal, unresolved] at settled
    cases settled
  rcases ConflictRun.resolve_cases loaded resolved with unchanged | ⟨conflict, candidate, resolves⟩
  · rw [unchanged] at kept
    exact absurd kept changed
  · rw [resolves.conflicts] at kept
    obtain ⟨item, listed, replaced⟩ := mem_map.mp kept
    by_cases target : item.conflictId = conflict.conflictId
    · rw [if_pos target] at replaced
      have one : first = conflict := by
        apply inj_on_of_nodup_map distinct known resolves.present
        rw [← same, ← replaced]
        rfl
      rw [← replaced, one]
      exact resolves.settles_iff
    · rw [if_neg target] at replaced
      rw [replaced] at listed
      exact absurd listed changed

section
attribute [local instance] Sha256.polynomial Unicode.basic

/-- Three units contradict each other. -/
def Conflict.threefold : Conflict :=
  let units : List AssertionReference := [.sample "unit-3", .sample "unit-2", .sample "unit-1"]
  { conflictId := conflictIdFor (units.map (·.assertionId)), participants := units }

/-- The engine stores the registry with its status and its revision. -/
def ConflictRegistry.unsettled : ConflictRegistry where
  runId := "run-1"
  conflicts := [.threefold]
  registryRevision := stableRevision (.obj [
    ("assessment_status", .str "ASSESSED_CONFLICTS"),
    ("conflicts", .arr [Conflict.threefold.asDict]), ("run_id", .str "run-1"),
    ("schema_version", .str "1.0"), ("supersessions", .arr [])])
  assessmentStatus := "ASSESSED_CONFLICTS"

/-- The manifest binds the contract and a rule for the first two units. -/
def ConflictRun.sample : ConflictRun where
  runManifestFile := .ok (some (.obj [
    ("conflict_authority", .obj [
      ("rules", .arr [(AuthorityRule.sample "authority-1" "unit-1" "unit-2").asDict]),
      ("schema_version", .str "1.0")]),
    ("conflict_registry_contract", .obj [
      ("assessment_required", .bool true), ("schema_version", .str "1.0")])]))
  registryFile := some <$> ConflictRegistry.unsettled.asDict
  queueRunId := .ok "run-1"
  assertionReference workUnitId _ _ := .ok (.sample workUnitId)
  authorityReference _ _ := .error (.other "FileNotFoundError")
  workspaceMutationGuard := .ok ()
  textual workUnitId evidenceIds reference read := by cases read

/-- The rule prefers the first unit over the second and says nothing about the third. -/
def Supersession.preferring : Supersession := AuthorityPolicy.single.supersessionFor .threefold
  "authority-1" (AssertionReference.sample "unit-1").assertionId
  (AssertionReference.sample "unit-2").assertionId

theorem threefold_distinct : (Conflict.threefold.participants.map (·.assertionId)).Nodup := by
  decide +kernel

theorem threefold_sorted : Conflict.threefold.participants.Pairwise
    fun first second => first.assertionId ≤ second.assertionId := by
  decide +kernel

variable {registry : ConflictRegistry} {conflict : Conflict} {participant : AssertionReference}

theorem threefold_unit (listed : participant ∈ Conflict.threefold.participants) :
    participant = .sample participant.workUnitId := by
  have shape : participant = .sample "unit-3" ∨ participant = .sample "unit-2" ∨
      participant = .sample "unit-1" := by
    simpa [Conflict.threefold] using listed
  rcases shape with same | same | same
  · rw [same]
    rfl
  · rw [same]
    rfl
  · rw [same]
    rfl

/-- The three units pass every check with and without a supersession. -/
theorem threefold_check (identity : conflict.conflictId = Conflict.threefold.conflictId)
    (participants : conflict.participants = Conflict.threefold.participants)
    (kind : conflict.conflictType = "contradiction")
    (state : (Text.Enumeration.parse ConflictResolutionState
      conflict.resolutionState).isSome = true)
    (unresolved : conflict.isUnresolved = conflict.supersessionIds.isEmpty)
    (resolved : conflict.isResolved = !conflict.supersessionIds.isEmpty) :
    conflict.check = .ok () := by
  have stable : conflict.conflictId =
      conflictIdFor (conflict.participants.map (·.assertionId)) := by
    rw [identity, participants]
    rfl
  have distinct : (conflict.participants.map (·.assertionId)).Nodup := by
    rw [participants]
    exact threefold_distinct
  have sources : (conflict.participants.map fun item =>
      (item.documentId, item.workUnitId, item.semanticKind, item.semanticId)).dedup.length = 3 := by
    rw [participants]
    decide
  have named : conflict.participants.all (fun item => item.assertionId ==
      assertionIdFor item.documentId item.workUnitId item.semanticKind item.semanticId) = true := by
    rw [participants]
    simp [Conflict.threefold, AssertionReference.sample]
  have three : conflict.participants.length = 3 := by
    rw [participants]
    rfl
  unfold Conflict.check
  simp [state, kind, stable, three, distinct, sources, named, unresolved, resolved]

theorem threefold_identifier : Conflict.isIdentifier Conflict.threefold.conflictId = true := by
  unfold Conflict.threefold
  exact Conflict.conflictIdFor_identifier _

theorem threefold_read : Conflict.fromDict Conflict.threefold.asDict = .ok .threefold := by
  apply Conflict.fromDict_asDict
  · exact threefold_identifier
  · decide
  · rfl
  · exact threefold_sorted
  · exact List.Pairwise.nil
  · intro id listed
    cases listed
  · intro participant listed
    have shape : participant = .sample "unit-3" ∨ participant = .sample "unit-2" ∨
        participant = .sample "unit-1" := by
      simpa [Conflict.threefold] using listed
    rcases shape with same | same | same
    · rw [same]
      exact AssertionReference.fromDict_sample (by decide)
    · rw [same]
      exact AssertionReference.fromDict_sample (by decide)
    · rw [same]
      exact AssertionReference.fromDict_sample (by decide)

theorem unsettled_checked : ConflictRegistry.unsettled.Checked 1000 where
  version := rfl
  named := by
    have named : Conflict.isIdentifier "run-1" = true := by decide
    exact named
  assessed := rfl
  revised := by
    have revised : ConflictRegistry.unsettled.computedRevision =
        .ok ConflictRegistry.unsettled.registryRevision := rfl
    exact Or.inr revised
  distinct := by simp [ConflictRegistry.unsettled]
  distinctSupersessions := nodup_nil
  conflicts conflict listed := by
    rw [mem_singleton.mp listed]
    exact threefold_check rfl rfl rfl (by decide) rfl rfl
  referenced id := by simp [ConflictRegistry.unsettled, Conflict.threefold]
  supersessions supersession listed := by cases listed
  winners supersession listed := by cases listed
  ended := by
    simp [ConflictRegistry.checkCycles, ConflictRegistry.unsettled, sortedSet, DepthFirst.search]
    rfl

theorem unsettled_loaded :
    ConflictRun.sample.loadConflictRegistry 1000 = .ok (some .unsettled) := by
  obtain ⟨value, written, read⟩ : ∃ value, ConflictRegistry.unsettled.asDict = .ok value ∧
      ConflictRegistry.fromDict 1000 value = .ok .unsettled := by
    apply ConflictRegistry.fromDict_asDict unsettled_checked
    · decide
    · exact stableRevision_ne_empty _
    · exact pairwise_singleton _ _
    · exact List.Pairwise.nil
    · intro conflict listed
      rw [mem_singleton.mp listed]
      exact threefold_read
    · intro supersession listed
      cases listed
  unfold ConflictRun.loadConflictRegistry ConflictRun.sample
  rw [written]
  simp [read]

theorem sample_policy : ConflictRun.sample.conflictAuthorityPolicy = .ok .single := rfl

theorem sample_contract : ConflictRun.sample.conflictContractRequired = .ok true := rfl

theorem threefold_directed {first second : String}
    (participants : conflict.participants = Conflict.threefold.participants) :
    conflict.Directed (.sample "authority-1" "unit-1" "unit-2") first second ↔
      first = (AssertionReference.sample "unit-1").assertionId ∧
        second = (AssertionReference.sample "unit-2").assertionId := by
  unfold Conflict.Directed
  rw [participants]
  have listed (unit : String) (known : unit = "unit-1" ∨ unit = "unit-2") :
      AssertionReference.sample unit ∈ Conflict.threefold.participants := by
    rcases known with same | same <;> simp [Conflict.threefold, same]
  have matched (winner loser : AssertionReference) :
      (AuthorityRule.sample "authority-1" "unit-1" "unit-2").directs winner loser = true ↔
        "unit-1" = winner.workUnitId ∧ "unit-2" = loser.workUnitId := by
    simp [AuthorityRule.directs, AuthorityRule.sample, AuthoritySelector.selectorMatches]
  constructor
  · intro parts
    obtain ⟨winner, won, loser, lost, one, other, directs⟩ := parts
    obtain ⟨winnerUnit, loserUnit⟩ := (matched winner loser).mp directs
    rw [← one, ← other, threefold_unit won, threefold_unit lost, ← winnerUnit, ← loserUnit]
    exact ⟨rfl, rfl⟩
  · intro parts
    obtain ⟨one, other⟩ := parts
    exact ⟨_, listed "unit-1" (Or.inl rfl), _, listed "unit-2" (Or.inr rfl), one.symm, other.symm,
      (matched _ _).mpr ⟨rfl, rfl⟩⟩

theorem units_different : (AssertionReference.sample "unit-1").assertionId ≠
    (AssertionReference.sample "unit-2").assertionId := by
  have distinct := threefold_distinct
  simp only [Conflict.threefold, map_cons, map_nil, nodup_cons, mem_singleton]
    at distinct
  exact fun same => distinct.2.1 same.symm

theorem preferring_derived :
    AuthorityPolicy.single.configuredSupersession .threefold = some .preferring := by
  apply AuthorityPolicy.configuredSupersession_eq_some.mpr
  refine ⟨"authority-1", _, _, ?_, rfl⟩
  constructor
  · exact ⟨_, mem_cons_self, rfl, units_different, (threefold_directed rfl).mpr ⟨rfl, rfl⟩⟩
  · intro rule known first second _ directed
    rw [mem_singleton.mp known] at directed
    exact (threefold_directed rfl).mp directed
  · intro rule known _
    rw [mem_singleton.mp known]
    exact Or.inl rfl

/-- The registry with the one supersession that the policy derives. -/
def ConflictRegistry.halfSettled : ConflictRegistry where
  runId := "run-1"
  conflicts := [resolvedBy .threefold .preferring]
  supersessions := [.preferring]

theorem halfSettled_checked : ConflictRegistry.halfSettled.Checked 1000 where
  version := rfl
  named := by
    have named : Conflict.isIdentifier "run-1" = true := by decide
    exact named
  assessed := rfl
  revised := Or.inl rfl
  distinct := by simp [ConflictRegistry.halfSettled]
  distinctSupersessions := by simp [ConflictRegistry.halfSettled]
  conflicts conflict listed := by
    rw [mem_singleton.mp listed]
    exact threefold_check rfl rfl rfl (by decide) rfl rfl
  referenced id := by simp [ConflictRegistry.halfSettled, resolvedBy, eq_comm]
  supersessions supersession listed := by
    rw [mem_singleton.mp listed]
    have found : ConflictRegistry.halfSettled.conflicts.find?
        (·.conflictId == Conflict.threefold.conflictId) =
          some (resolvedBy .threefold .preferring) := by
      simp [ConflictRegistry.halfSettled, resolvedBy]
    have accepted :
        (AuthorityPolicy.single.supersessionFor (resolvedBy .threefold .preferring) "authority-1"
          (AssertionReference.sample "unit-1").assertionId
          (AssertionReference.sample "unit-2").assertionId).check
            ConflictRegistry.halfSettled.conflicts = .ok () := by
      apply Supersession.supersessionFor_check found units_different
      · simp [resolvedBy, Conflict.threefold]
      · simp [resolvedBy, Conflict.threefold]
    exact accepted
  winners supersession listed := by
    rw [mem_singleton.mp listed]
    simp [ConflictRegistry.halfSettled, ConflictRegistry.winners]
  ended := by
    apply ConflictRegistry.checkCycles_single rfl
    exact units_different

theorem participant_accepted (listed : participant ∈ Conflict.threefold.participants) :
    ConflictRun.sample.validateParticipant participant = .ok () := by
  have same := threefold_unit listed
  unfold ConflictRun.validateParticipant ConflictRun.sample
  simp [← same, Json.equal_self]

theorem preferring_allowed :
    AuthorityPolicy.single.allows .preferring (resolvedBy .threefold .preferring) = true := by
  have distinct : ((resolvedBy .threefold .preferring).participants.map
      (·.assertionId)).Nodup := threefold_distinct
  apply (AuthorityPolicy.allows_iff distinct).mpr
  constructor
  · use .sample "authority-1" "unit-1" "unit-2", mem_cons_self
    constructor
    · rfl
    · exact (threefold_directed rfl).mpr ⟨rfl, rfl⟩
  · intro ambiguous
    rcases ambiguous with ⟨rule, known, _, reversed⟩ | ⟨first, second, sublist, _⟩
    · rw [mem_singleton.mp known] at reversed
      exact units_different ((threefold_directed rfl).mp reversed).1.symm
    · have short : 2 ≤ 1 := sublist.length_le
      omega

theorem preferring_accepted : ConflictRun.sample.validateSupersession ["authority-1"] .single true
    (resolvedBy .threefold .preferring) .preferring = .ok () := by
  apply ConflictRun.validateSupersession_configured rfl rfl rfl rfl mem_cons_self rfl
    preferring_allowed
  · simp [Supersession.preferring, AuthorityPolicy.supersessionFor, resolvedBy, Conflict.threefold]
  · simp [Supersession.preferring, AuthorityPolicy.supersessionFor, resolvedBy, Conflict.threefold]

theorem settled_validated (checked : registry.Checked 1000) (runId : registry.runId = "run-1")
    (conflicts : registry.conflicts = [resolvedBy .threefold .preferring])
    (supersessions : registry.supersessions = [.preferring]) :
    ConflictRun.sample.validateAgainstRun 1000 ["authority-1"] .single true registry = .ok () := by
  have accepted := ConflictRegistry.validateStructure_ok.mpr checked
  have named : ConflictRun.sample.queueRunId = .ok "run-1" := rfl
  unfold ConflictRun.validateAgainstRun
  simp only [accepted, named, runId, conflicts, supersessions, bind_ok, require_ok, forM_ok,
    forM_eq_forM, Except.ok.injEq, exists_const, exists_eq_left', mem_singleton,
    forall_eq, beq_self_eq_true, true_and]
  constructor
  · intro participant listed
    exact participant_accepted listed
  · intro supersession listed
    rw [mem_singleton.mp (mem_filter.mp listed).1]
    exact preferring_accepted

theorem unsettled_validated : ConflictRun.sample.validateAgainstRun 1000 ["authority-1"] .single
    true .unsettled = .ok () := by
  have accepted := ConflictRegistry.validateStructure_ok.mpr unsettled_checked
  have queue : ConflictRun.sample.queueRunId = .ok "run-1" := rfl
  have runId : (ConflictRegistry.unsettled.runId == "run-1") = true := rfl
  unfold ConflictRun.validateAgainstRun
  simp only [accepted, queue, runId, bind_ok, require_ok, forM_ok, forM_eq_forM,
    Except.ok.injEq, exists_const, exists_eq_left', true_and]
  intro conflict listed
  rw [mem_singleton.mp listed]
  constructor
  · intro participant present
    exact participant_accepted present
  · intro supersession present
    cases present

theorem preferring_recorded (finalized : finalizeRegistry 1000 .halfSettled = .ok registry) :
    recordSupersession 1000 .unsettled .threefold (some .preferring) = .ok (some registry) := by
  have unresolved : Conflict.threefold.isUnresolved = true := rfl
  have none : ConflictRegistry.unsettled.supersessions.filter
      (·.conflictId == Conflict.threefold.conflictId) = [] := rfl
  have draft : ConflictRegistry.halfSettled = {
      runId := ConflictRegistry.unsettled.runId
      conflicts := ConflictRegistry.unsettled.conflicts.map fun item =>
        if item.conflictId = Conflict.threefold.conflictId then resolvedBy .threefold .preferring
        else item
      supersessions := ConflictRegistry.unsettled.supersessions ++ [.preferring] } := by
    simp [ConflictRegistry.halfSettled, ConflictRegistry.unsettled]
  rw [draft] at finalized
  unfold recordSupersession
  simp only [unresolved, none, finalized, Bool.not_true, Bool.false_eq_true, if_false, bind_ok,
    require_ok, pure_ok, exists_const, isEmpty_nil, true_and]
  exact ⟨registry, rfl, rfl⟩

theorem halfSettled_saved (checked : registry.Checked 1000) (runId : registry.runId = "run-1")
    (conflicts : registry.conflicts = [resolvedBy .threefold .preferring])
    (supersessions : registry.supersessions = [.preferring]) :
    ∃ after, ConflictRun.sample.saveConflictRegistry 1000 registry = .ok after := by
  have valid := settled_validated checked runId conflicts supersessions
  have guard : ConflictRun.sample.workspaceMutationGuard = .ok () := rfl
  have ids : AuthorityPolicy.single.configuredAuthorityIds = ["authority-1"] := rfl
  obtain ⟨value, written⟩ := ConflictRegistry.asDict_exists checked.assessed
  unfold ConflictRun.saveConflictRegistry
  rw [guard, sample_contract, sample_policy]
  simp only [bind_ok, Except.ok.injEq, exists_eq_left', exists_const, if_true, ids, valid, written,
    checked.assessed, true_and]
  exact ⟨_, _, rfl, rfl⟩

theorem threefold_resolved : ∃ registry after,
    ConflictRun.sample.resolveAuthoritativeConflict 1000 (.str Conflict.threefold.conflictId)
      .null = .ok (registry, after) ∧
    ConflictRegistry.unsettled.Resolves registry .threefold .preferring ∧
    resolvedBy .threefold .preferring ∈ registry.conflicts := by
  obtain ⟨registry, finalized, checked, runId, conflicts, supersessions⟩ :=
    finalizeRegistry_checked halfSettled_checked
  obtain ⟨after, saved⟩ := halfSettled_saved checked runId conflicts supersessions
  have named : Conflict.identifier (.str Conflict.threefold.conflictId) "conflict_id" =
      .ok Conflict.threefold.conflictId := Conflict.identifier_written threefold_identifier _
  have ids : AuthorityPolicy.single.configuredAuthorityIds = ["authority-1"] := rfl
  have found : ConflictRegistry.unsettled.conflicts.find?
      (·.conflictId == Conflict.threefold.conflictId) = some .threefold := by
    simp [ConflictRegistry.unsettled]
  have derived : ConflictRun.sample.candidateSupersession .single .threefold .null =
      .ok (some .preferring) := by
    unfold candidateSupersession
    rw [if_pos rfl, preferring_derived]
  have recorded := preferring_recorded finalized
  have kept : resolvedBy .threefold .preferring ∈ registry.conflicts := by
    rw [conflicts]
    exact mem_cons_self
  refine ⟨registry, after, ?_,
    recordSupersession_resolves unsettled_checked mem_cons_self rfl recorded, kept⟩
  unfold resolveAuthoritativeConflict
  rw [named]
  simp only [bind_ok, Except.ok.injEq, exists_eq_left', unsettled_loaded, sample_policy,
    sample_contract, ids, unsettled_validated, exists_const, found, derived,
    recorded, saved, true_and]
  rfl

/-- One participant of a resolved conflict is neither the winner nor superseded. -/
theorem threefold_unsettled : ∃ registry after,
    ConflictRun.sample.loadConflictRegistry 1000 = .ok (some .unsettled) ∧
    ConflictRun.sample.resolveAuthoritativeConflict 1000 (.str Conflict.threefold.conflictId)
      .null = .ok (registry, after) ∧
    ∃ first ∈ ConflictRegistry.unsettled.conflicts, first.isResolved = false ∧
      ∃ last ∈ registry.conflicts, last.conflictId = first.conflictId ∧ last.isResolved = true ∧
        ¬ConflictRegistry.unsettled.Settles registry last := by
  obtain ⟨registry, after, resolved, resolves, kept⟩ := threefold_resolved
  refine ⟨registry, after, unsettled_loaded, resolved, .threefold, mem_cons_self, rfl,
    resolvedBy .threefold .preferring, kept, rfl, rfl, ?_⟩
  intro settled
  have two : Conflict.threefold.participants.length = 2 := resolves.settles_iff.mp settled
  have three : Conflict.threefold.participants.length = 3 := rfl
  omega

theorem resolution_settles_threefold : ∃ registry after, ∃ last ∈ registry.conflicts,
    ConflictRun.sample.resolveAuthoritativeConflict 1000 (.str Conflict.threefold.conflictId)
      .null = .ok (registry, after) ∧
    (ConflictRegistry.unsettled.Settles registry last ↔
      Conflict.threefold.participants.length = 2) := by
  obtain ⟨registry, after, resolved, _, kept⟩ := threefold_resolved
  have settles := resolution_settles unsettled_loaded resolved mem_cons_self rfl kept rfl rfl
  exact ⟨registry, after, _, kept, resolved, settles⟩

end
end KSlide
