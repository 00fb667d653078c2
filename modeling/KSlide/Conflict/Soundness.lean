import KSlide.Conflict.Structure

/-
This file says which accepted registries bind every supersession to its own conflict.
-/

namespace KSlide
open Conflict List

section
variable [Sha256] {registry : ConflictRegistry} {limit : Nat}

namespace ConflictRegistry

/-- The first assertion supersedes the second. -/
def Supersedes (registry : ConflictRegistry) (first second : String) : Prop :=
  ∃ supersession ∈ registry.supersessions, supersession.supersedingAssertionId = first ∧
    supersession.supersededAssertionId = second

/-- Conflicts and supersessions point to each other, with one winner and without a cycle. -/
structure Sound (registry : ConflictRegistry) : Prop where
  listed : ∀ conflict ∈ registry.conflicts, ∀ id, id ∈ conflict.supersessionIds ↔
    ∃ supersession ∈ registry.supersessions,
      supersession.conflictId = conflict.conflictId ∧ supersession.supersessionId = id
  unresolved : ∀ conflict ∈ registry.conflicts, conflict.isUnresolved = true →
    conflict.supersessionIds = []
  resolved : ∀ conflict ∈ registry.conflicts, conflict.isResolved = true →
    conflict.supersessionIds ≠ []
  winner : ∀ first ∈ registry.supersessions, ∀ second ∈ registry.supersessions,
    first.conflictId = second.conflictId →
      first.supersedingAssertionId = second.supersedingAssertionId
  acyclic : ∀ assertion, ¬Relation.TransGen registry.Supersedes assertion assertion

/-- No conflict lists the supersession of another conflict. -/
def ListsItsOwn (registry : ConflictRegistry) : Prop :=
  ∀ conflict ∈ registry.conflicts, ∀ supersession ∈ registry.supersessions,
    supersession.supersessionId ∈ conflict.supersessionIds →
      supersession.conflictId = conflict.conflictId

/-- What the check of the structure demands. -/
structure Checked (limit : Nat) (registry : ConflictRegistry) : Prop where
  version : registry.schemaVersion = "1.0"
  named : isIdentifier registry.runId = true
  assessed : registry.effectiveAssessmentStatus = .ok registry.expectedAssessmentStatus
  revised : registry.registryRevision = "" ∨
    registry.computedRevision = .ok registry.registryRevision
  distinct : (registry.conflicts.map (·.conflictId)).Nodup
  distinctSupersessions : (registry.supersessions.map (·.supersessionId)).Nodup
  conflicts : ∀ conflict ∈ registry.conflicts, conflict.check = .ok ()
  referenced : ∀ id, (∃ conflict ∈ registry.conflicts, id ∈ conflict.supersessionIds) ↔
    ∃ supersession ∈ registry.supersessions, supersession.supersessionId = id
  supersessions : ∀ supersession ∈ registry.supersessions,
    supersession.check registry.conflicts = .ok ()
  winners : ∀ supersession ∈ registry.supersessions,
    (registry.winners supersession.conflictId).length ≤ 1
  ended : registry.checkCycles limit = .ok ()

theorem computedRevision_exists {status : ConflictAssessmentState}
    (assessed : registry.effectiveAssessmentStatus = .ok status) :
    ∃ revision, registry.computedRevision = .ok revision := by
  unfold computedRevision withoutRevision
  rw [assessed]
  exact ⟨_, rfl⟩

omit [Sha256] in
@[simp] theorem supportedAssessmentStatus_ok {status : ConflictAssessmentState} :
    registry.supportedAssessmentStatus = .ok status ↔
      registry.effectiveAssessmentStatus = .ok status := by
  unfold supportedAssessmentStatus
  cases registry.effectiveAssessmentStatus <;> simp

theorem validateStructure_ok : registry.validateStructure limit = .ok () ↔
    registry.Checked limit := by
  unfold validateStructure
  simp only [forM_eq_forM, exists_const, bind_ok, require_ok, beq_iff_eq, Bool.or_eq_true,
    decide_eq_true_eq, forM_ok, Bool.and_eq_true, all_eq_true, contains_iff_mem,
    supportedAssessmentStatus_ok, mem_flatMap, mem_map, Bool.not_eq_true',
    any_eq_false, not_lt]
  constructor
  · rintro ⟨version, _, named, status, assessed, rfl, revision, computed, revised, distinct,
      distinctSupersessions, conflicts, ⟨known, referenced⟩, supersessions, winners, ended⟩
    have bounded : isIdentifier registry.runId = true := by
      obtain ⟨same, bounded⟩ := checkedText_ok.mp named
      rw [Json.str.inj same]
      exact bounded
    have kept : registry.registryRevision = "" ∨
        registry.computedRevision = .ok registry.registryRevision := by
      rcases revised with absent | same
      · exact Or.inl absent
      · exact Or.inr (by rw [computed, same])
    exact ⟨version, bounded, assessed, kept, distinct, distinctSupersessions, conflicts,
      fun id => ⟨known id, referenced id⟩, supersessions, winners, ended⟩
  · intro checked
    obtain ⟨revision, computed⟩ := computedRevision_exists checked.assessed
    have revised : registry.registryRevision = "" ∨ registry.registryRevision = revision := by
      rcases checked.revised with absent | same
      · exact Or.inl absent
      · exact Or.inr (Except.ok.inj (same.symm.trans computed))
    exact ⟨checked.version, _, checkedText_ok.mpr ⟨rfl, checked.named⟩, _, checked.assessed, rfl,
      revision, computed, revised, checked.distinct, checked.distinctSupersessions,
      checked.conflicts,
      ⟨fun id => (checked.referenced id).mp, fun id => (checked.referenced id).mpr⟩,
      checked.supersessions, checked.winners, checked.ended⟩

/-- A stored registry is accepted only when its structure is. -/
theorem fromDict_checked {value : Json} (read : fromDict limit value = .ok registry) :
    registry.Checked limit := by
  unfold fromDict at read
  simp only [bind_ok, pure_ok] at read
  obtain ⟨_, -, _, -, _, -, _, valid, rfl⟩ := read
  exact validateStructure_ok.mp valid

end ConflictRegistry

namespace Conflict
variable {conflict : Conflict}

theorem check_states (checked : conflict.check = .ok ()) :
    (conflict.isUnresolved = true → conflict.supersessionIds = []) ∧
      (conflict.isResolved = true → conflict.supersessionIds ≠ []) := by
  unfold check at checked
  simp only [bind_ok, exists_const, require_ok] at checked
  obtain ⟨-, -, -, -, -, -, -, unresolved, resolved⟩ := checked
  constructor
  · intro state
    simpa [state] using unresolved
  · intro state
    simpa [state] using resolved

end Conflict

namespace ConflictRegistry

omit [Sha256] in
theorem graph_edge {first second : String} :
    DepthFirst.Edge registry.graph first second ↔ registry.Supersedes first second := by
  unfold DepthFirst.Edge graph Supersedes
  simp [and_assoc]

theorem Checked.acyclic (checked : registry.Checked limit) (assertion : String) :
    ¬Relation.TransGen registry.Supersedes assertion assertion := by
  have ended := checked.ended
  unfold checkCycles at ended
  cases searched : DepthFirst.search registry.graph limit
      (sortedSet (registry.supersessions.map (·.supersedingAssertionId))) with
  | error failure =>
    dsimp only at ended
    rw [searched] at ended
    cases failure <;> cases ended
  | ok finished =>
    have edges : DepthFirst.Edge registry.graph = registry.Supersedes := by
      funext first second
      exact propext graph_edge
    rw [← edges]
    apply DepthFirst.search_acyclic searched
    intro node child edge
    obtain ⟨supersession, listed, same, -⟩ := graph_edge.mp edge
    rw [mem_sortedSet]
    exact mem_map.mpr ⟨supersession, listed, same⟩

theorem Checked.winner (checked : registry.Checked limit) {first second : Supersession}
    (firstListed : first ∈ registry.supersessions) (secondListed : second ∈ registry.supersessions)
    (same : first.conflictId = second.conflictId) :
    first.supersedingAssertionId = second.supersedingAssertionId := by
  have one := checked.winners second secondListed
  have wins (supersession : Supersession) (listed : supersession ∈ registry.supersessions)
      (bound : supersession.conflictId = second.conflictId) :
      supersession.supersedingAssertionId ∈ registry.winners second.conflictId := by
    unfold ConflictRegistry.winners
    rw [mem_dedup, mem_map]
    exact ⟨supersession, mem_filter.mpr ⟨listed, beq_iff_eq.mpr bound⟩, rfl⟩
  have firstWins := wins first firstListed same
  have secondWins := wins second secondListed rfl
  rcases found : registry.winners second.conflictId with _ | ⟨winner, _ | ⟨other, rest⟩⟩
  · rw [found] at firstWins
    cases firstWins
  · rw [found, mem_singleton] at firstWins secondWins
    rw [firstWins, secondWins]
  · rw [found, length_cons, length_cons] at one
    omega

/-- An accepted registry is sound exactly when no conflict lists the supersession of another. -/
theorem sound_iff (accepted : registry.validateStructure limit = .ok () ∨
    ∃ value, fromDict limit value = .ok registry) : registry.Sound ↔ registry.ListsItsOwn := by
  have checked : registry.Checked limit := by
    rcases accepted with valid | ⟨value, read⟩
    · exact validateStructure_ok.mp valid
    · exact fromDict_checked read
  constructor
  · intro sound conflict listed supersession recorded named
    obtain ⟨other, otherRecorded, own, same⟩ := (sound.listed conflict listed _).mp named
    have known : other = supersession :=
      inj_on_of_nodup_map checked.distinctSupersessions otherRecorded recorded same
    rw [← known, own]
  · intro own
    have listed (conflict : Conflict) (present : conflict ∈ registry.conflicts) (id : String) :
        id ∈ conflict.supersessionIds ↔ ∃ supersession ∈ registry.supersessions,
          supersession.conflictId = conflict.conflictId ∧ supersession.supersessionId = id := by
      constructor
      · intro named
        obtain ⟨supersession, recorded, same⟩ :=
          (checked.referenced id).mp ⟨conflict, present, named⟩
        exact ⟨supersession, recorded, own conflict present supersession recorded (same ▸ named),
          same⟩
      · rintro ⟨supersession, recorded, bound, same⟩
        obtain ⟨other, otherPresent, named⟩ :=
          (checked.referenced id).mpr ⟨supersession, recorded, same⟩
        have otherOwn : supersession.conflictId = other.conflictId :=
          own other otherPresent supersession recorded (same ▸ named)
        have known : other = conflict :=
          inj_on_of_nodup_map checked.distinct otherPresent present (otherOwn ▸ bound)
        exact known ▸ named
    exact {
      listed
      unresolved := fun conflict present => (check_states (checked.conflicts conflict present)).1
      resolved := fun conflict present => (check_states (checked.conflicts conflict present)).2
      winner := fun first firstListed second secondListed =>
        checked.winner firstListed secondListed
      acyclic := checked.acyclic }

omit [Sha256] in
theorem checkCycles_single {supersession : Supersession}
    (only : registry.supersessions = [supersession])
    (different : supersession.supersedingAssertionId ≠ supersession.supersededAssertionId)
    (limit : Nat) : registry.checkCycles (limit + 2) = .ok () := by
  have edge : registry.graph supersession.supersedingAssertionId =
      [supersession.supersededAssertionId] := by
    simp [graph, only, sortedSet]
  have last : registry.graph supersession.supersededAssertionId = [] := by
    simp [graph, only, sortedSet, different]
  have roots : sortedSet (registry.supersessions.map (·.supersedingAssertionId)) =
      [supersession.supersedingAssertionId] := by
    simp [only, sortedSet]
  have apart := different.symm
  unfold checkCycles
  rw [roots]
  simp [DepthFirst.search, DepthFirst.visit, edge, last, apart]
  rfl

end ConflictRegistry

def AssertionReference.sample (workUnitId : String) : AssertionReference where
  assertionId := assertionIdFor "document-1" workUnitId "region" "region-1"
  documentId := "document-1"
  workUnitId := workUnitId
  semanticKind := "region"
  semanticId := "region-1"
  canonicalRef := .obj []
  evidenceRef := .obj []
  location := .obj []
  provenance := "source_fact"
  provenanceEvidenceIds := []
  sourceContext := .obj []
  renderedContext := .obj []

/-- Two units contradict each other until a supersession is listed. -/
def Conflict.sample (first second : String) (supersessionIds : List String) : Conflict where
  conflictId := conflictIdFor [(AssertionReference.sample first).assertionId,
    (AssertionReference.sample second).assertionId]
  participants := [.sample first, .sample second]
  resolutionState :=
    if supersessionIds = [] then "unresolved" else "resolved_by_authoritative_supersession"
  supersessionIds

/-- A configured authority prefers the first unit. -/
def Supersession.sample (first second : String) : Supersession where
  supersessionId := supersessionIdFor (Conflict.sample first second []).conflictId
    (AssertionReference.sample first).assertionId (AssertionReference.sample second).assertionId
    "configured_authority" [] (some "authority-1") none none
  conflictId := (Conflict.sample first second []).conflictId
  supersedingAssertionId := (AssertionReference.sample first).assertionId
  supersededAssertionId := (AssertionReference.sample second).assertionId
  authorityBasis := "configured_authority"
  authorityConfigId := some "authority-1"

/-- The second conflict lists the supersession of the first. -/
def ConflictRegistry.crossed : ConflictRegistry where
  runId := "run-1"
  conflicts := [.sample "unit-1" "unit-2" [],
    .sample "unit-3" "unit-4" [(Supersession.sample "unit-1" "unit-2").supersessionId]]
  supersessions := [.sample "unit-1" "unit-2"]

section
variable {first second : String}

theorem Conflict.sample_check (units : first ≠ second)
    (distinct : (AssertionReference.sample first).assertionId ≠
      (AssertionReference.sample second).assertionId) (supersessionIds : List String) :
    (Conflict.sample first second supersessionIds).check = .ok () := by
  let source (reference : AssertionReference) :=
    (reference.documentId, reference.workUnitId, reference.semanticKind, reference.semanticId)
  have sources : [source (.sample first), source (.sample second)].dedup.length = 2 := by
    rw [dedup_eq_self.mpr (by simp [source, AssertionReference.sample, units])]
    rfl
  unfold Conflict.check
  by_cases unlisted : supersessionIds = []
  · subst unlisted
    simp [Conflict.sample, distinct, Conflict.isUnresolved, Conflict.isResolved]
    exact ⟨by decide, sources, ⟨rfl, rfl⟩, by decide⟩
  · simp [Conflict.sample, distinct, Conflict.isUnresolved, Conflict.isResolved, unlisted]
    exact ⟨by decide, sources, ⟨rfl, rfl⟩, by decide⟩

theorem Supersession.sample_check {conflicts : List Conflict} {listed : List String}
    (distinct : (AssertionReference.sample first).assertionId ≠
      (AssertionReference.sample second).assertionId)
    (found : conflicts.find? (·.conflictId == (Conflict.sample first second []).conflictId) =
      some (.sample first second listed)) :
    (Supersession.sample first second).check conflicts = .ok () := by
  have basis : Text.Enumeration.parse SupersessionAuthorityBasis "configured_authority" =
      some .configuredAuthority := by decide
  have state : (Text.Enumeration.parse SupersessionState "authoritative").isSome = true := by
    decide
  unfold Supersession.check
  simp only [Supersession.sample, basis, state, found]
  simp [Conflict.sample, distinct]

/-- Distinct identities are enough for the crossed registry to pass. -/
theorem ConflictRegistry.crossed_checked
    (firstDistinct : (AssertionReference.sample "unit-1").assertionId ≠
      (AssertionReference.sample "unit-2").assertionId)
    (secondDistinct : (AssertionReference.sample "unit-3").assertionId ≠
      (AssertionReference.sample "unit-4").assertionId)
    (distinct : (Conflict.sample "unit-1" "unit-2" []).conflictId ≠
      (Conflict.sample "unit-3" "unit-4" []).conflictId) (limit : Nat) :
    ConflictRegistry.crossed.Checked (limit + 2) where
  version := rfl
  named := by
    have named : isIdentifier "run-1" = true := by decide
    exact named
  assessed := rfl
  revised := Or.inl rfl
  distinct := by
    have distinct : (Conflict.sample "unit-1" "unit-2" []).conflictId ≠ (Conflict.sample "unit-3"
      "unit-4" [(Supersession.sample "unit-1" "unit-2").supersessionId]).conflictId := distinct
    simpa [crossed] using distinct
  distinctSupersessions := by simp [crossed]
  conflicts conflict listed := by
    rcases mem_pair.mp listed with same | same
    · rw [same]
      exact Conflict.sample_check (by decide) firstDistinct _
    · rw [same]
      exact Conflict.sample_check (by decide) secondDistinct _
  referenced id := by simp [crossed, Conflict.sample, eq_comm]
  supersessions supersession listed := by
    have found : crossed.conflicts.find?
        (·.conflictId == (Conflict.sample "unit-1" "unit-2" []).conflictId) =
          some (.sample "unit-1" "unit-2" []) := by simp [crossed]
    rw [mem_singleton.mp listed]
    exact Supersession.sample_check firstDistinct found
  winners := by simp [crossed, winners]
  ended := checkCycles_single rfl firstDistinct limit

end
end

section
attribute [local instance] Sha256.polynomial

theorem crossed_accepted : ConflictRegistry.crossed.validateStructure 1000 = .ok () := by
  apply ConflictRegistry.validateStructure_ok.mpr
  apply ConflictRegistry.crossed_checked
  · decide +kernel
  · decide +kernel
  · decide +kernel

/-- A conflict without a resolution has a recorded winner. -/
theorem crossed_unsound : ConflictRegistry.crossed.validateStructure 1000 = .ok () ∧
    ¬ConflictRegistry.crossed.Sound := by
  have unsound : ¬ConflictRegistry.crossed.Sound := by
    intro sound
    have listed := (sound.listed (.sample "unit-1" "unit-2" []) mem_cons_self _).mpr
      ⟨.sample "unit-1" "unit-2", mem_cons_self, rfl, rfl⟩
    cases listed
  exact ⟨crossed_accepted, unsound⟩

theorem sound_iff_crossed : ConflictRegistry.crossed.validateStructure 1000 = .ok () ∧
    (ConflictRegistry.crossed.Sound ↔ ConflictRegistry.crossed.ListsItsOwn) :=
  ⟨crossed_accepted, ConflictRegistry.sound_iff (Or.inl crossed_accepted)⟩

end
end KSlide
