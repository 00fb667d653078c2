import KSlide.Terminology.Orders

/-
This file proves what the governed merge promises for every permitted overlay order.
-/

namespace KSlide
open Layers DeclaredTerm TermbaseGovernance

namespace TermRecord

theorem precedes_total (first second : TermRecord) :
    first.Precedes second ∨ second.Precedes first := by
  unfold Precedes
  rcases lt_trichotomy first.source second.source with below | same | above
  · left
    left
    exact below
  · rcases le_total (first.termId.getD "") (second.termId.getD "") with before | after
    · left
      right
      exact ⟨same, before⟩
    · right
      right
      exact ⟨same.symm, after⟩
  · right
    left
    exact above

theorem Precedes.trans {first second third : TermRecord} (one : first.Precedes second)
    (two : second.Precedes third) : first.Precedes third := by
  unfold Precedes at *
  rcases one with below | ⟨same, before⟩
  · left
    rcases two with next | ⟨equal, _⟩
    · exact lt_trans below next
    · rw [← equal]
      exact below
  · rcases two with next | ⟨equal, after⟩
    · left
      rw [same]
      exact next
    · right
      exact ⟨same.trans equal, le_trans before after⟩

theorem Precedes.source_eq {first second : TermRecord} (one : first.Precedes second)
    (two : second.Precedes first) : first.source = second.source := by
  unfold Precedes at *
  rcases one with below | ⟨same, _⟩
  · rcases two with above | ⟨same, _⟩
    · exact absurd above (lt_asymm below)
    · exact same.symm
  · exact same

instance : Std.Total Precedes := ⟨precedes_total⟩
instance : IsTrans TermRecord Precedes := ⟨fun _ _ _ => Precedes.trans⟩

end TermRecord

theorem resolve_perm {first second : List TermRecord} (same : first.Perm second)
    (distinct : (first.map (·.source)).Nodup) (source : String) :
    Termbase.resolve first source = Termbase.resolve second source := by
  have distinct' := (same.map (·.source)).nodup_iff.mp distinct
  have found {records : List TermRecord} (each : (records.map (·.source)).Nodup)
      (record : TermRecord) : Termbase.resolve records source = some record ↔
        record ∈ records ∧ record.source = source := by
    unfold Termbase.resolve
    constructor
    · intro known
      use List.mem_of_find?_eq_some known
      simpa using List.find?_some known
    · intro listed
      cases known : records.find? (·.source == source) with
      | none =>
        have absent := List.find?_eq_none.mp known record listed.1
        rw [listed.2] at absent
        exact absurd (beq_self_eq_true _) absent
      | some other =>
        have equal : other.source = source := by simpa using List.find?_some known
        rw [List.inj_on_of_nodup_map each (List.mem_of_find?_eq_some known) listed.1
          (equal.trans listed.2.symm)]
  ext record
  rw [found distinct, found distinct', same.mem_iff]

section
variable [Sha256]

/-- The hash does not depend on the order of the records. -/
theorem effectiveHash_perm {first second : List TermRecord} (same : first.Perm second)
    (distinct : (first.map (·.source)).Nodup) : effectiveHash first = effectiveHash second := by
  have sorted : first.insertionSort TermRecord.Precedes =
      second.insertionSort TermRecord.Precedes := by
    apply List.Perm.eq_of_pairwise _ (List.pairwise_insertionSort _ first)
      (List.pairwise_insertionSort _ second)
    · exact (List.perm_insertionSort _ _).trans (same.trans (List.perm_insertionSort _ _).symm)
    · intro one two here there before after
      rw [List.mem_insertionSort] at here there
      exact List.inj_on_of_nodup_map distinct here (same.mem_iff.mpr there)
        (before.source_eq after)
  unfold effectiveHash
  rw [sorted]

variable {files : TermbaseFiles} {governance : TermbaseGovernance} {core : LoadedSource}
  {overlays : List LoadedSource}

theorem merge_ok : (∃ result, governance.merge core overlays = .ok result) ↔
    (termIds (governance.declaredTerms core overlays)).Nodup ∧
      (governance.declaredTerms core overlays).Pairwise DeclaredTerm.Yields := by
  have ran : (∃ final, (governance.declaredTerms core overlays).foldlM MergedTerms.step ⟨[], []⟩ =
      .ok final) ↔ _ :=
    MergedTerms.run_ok MergedTerms.after_nil List.nodup_nil List.Pairwise.nil
  rw [List.nil_append] at ran
  rw [← ran]
  unfold merge
  simp

theorem merge_records {result : GovernedTermbase}
    (merged : governance.merge core overlays = .ok result) :
    ∃ state : MergedTerms, state.After (governance.declaredTerms core overlays) ∧
      result.records = state.merged.map (·.record) ∧
        result.effectiveHash = effectiveHash result.records := by
  unfold merge at merged
  simp only [bind_ok, pure_ok] at merged
  obtain ⟨state, ran, same⟩ := merged
  use state
  rw [← same]
  exact ⟨MergedTerms.run_keeps MergedTerms.after_nil ran, rfl, rfl⟩

/-- The merge succeeds for all permitted orders or for none. -/
theorem merge_order {order : List String} {core' : LoadedSource} {overlays' : List LoadedSource}
    (loaded : loadSources files governance = .ok (core, overlays))
    (permitted : loadSources files { governance with overlayOrder := order } =
      .ok (core', overlays')) :
    (∃ result, governance.merge core overlays = .ok result) ↔
      ∃ result, { governance with overlayOrder := order }.merge core' overlays' = .ok result := by
  obtain ⟨sameCore, sameOverlays⟩ := loadSources_order loaded permitted
  obtain ⟨here, first, declared⟩ := loadSources_permitted loaded
  obtain ⟨there, first', declared'⟩ := loadSources_permitted permitted
  have ascends := there.ascends first' declared'
  rw [sameCore, sameOverlays] at ascends ⊢
  rw [merge_ok, merge_ok]
  apply and_congr
  · exact (declaredTerms_perm.flatMap_right _).nodup_iff
  · exact yields_perm declaredTerms_perm (here.ascends first declared) ascends

/-- The merged records follow the precedence of the sources in every permitted order. -/
theorem merge_governed (loaded : loadSources files governance = .ok (core, overlays)) :
    (∀ result, governance.merge core overlays = .ok result →
      Precedence (core :: overlays) result.records) ∧
    ∀ order core' overlays', loadSources files { governance with overlayOrder := order } =
      .ok (core', overlays') →
        ((∃ result, governance.merge core overlays = .ok result) ↔
          ∃ result, { governance with overlayOrder := order }.merge core' overlays' =
            .ok result) ∧
        ∀ result result', governance.merge core overlays = .ok result →
          { governance with overlayOrder := order }.merge core' overlays' = .ok result' →
            result.records.Perm result'.records ∧
            (∀ source, (Termbase.resolve result.records source).bind (·.default) =
              (Termbase.resolve result'.records source).bind (·.default)) ∧
            result.effectiveHash = result'.effectiveHash := by
  have follows (result : GovernedTermbase)
      (merged : governance.merge core overlays = .ok result) :
      Precedence (core :: overlays) result.records := by
    obtain ⟨state, after, records, _⟩ := merge_records merged
    rw [records]
    exact after.precedence
  use follows
  intro order core' overlays' permitted
  use merge_order loaded permitted
  intro result result' merged merged'
  have distinct := (follows result merged).distinct
  obtain ⟨sameCore, sameOverlays⟩ := loadSources_order loaded permitted
  rw [sameCore, sameOverlays] at merged'
  obtain ⟨state, after, records, hash⟩ := merge_records merged
  obtain ⟨state', after', records', hash'⟩ := merge_records merged'
  have same : result.records.Perm result'.records := by
    rw [records, records']
    exact (after.merged.perm after'.merged declaredTerms_perm).map _
  use same
  constructor
  · intro source
    rw [resolve_perm same distinct]
  · rw [hash, hash']
    exact effectiveHash_perm same distinct

end

section
attribute [local instance] Sha256.polynomial

def sampleDigest : String := "6b86b273ff34fce19d6b804eff5a3f5747ada4eaa22f1d49c01e52ddb7875b4b"

def sampleTerm (text : String) (status : TermStatus) : TermRecord :=
  ⟨"용어", [("default", text)], status, [], [], none⟩

/-- The sales unit declares no term, and the legal unit and the sales desk declare the same. -/
def sampleTermbase (path : String) : Termbase :=
  if path = "termbase/core.json" then ⟨"1.0", [], by decide⟩
  else if path = "termbase/overlays/sales.json" then ⟨"1.0", [], by decide⟩
  else if path = "termbase/overlays/legal.json" then
    ⟨"1.0", [sampleTerm "provision" .preferred], by decide⟩
  else ⟨"1.0", [sampleTerm "wording" .preferred], by decide⟩

def sampleTermbaseFiles : TermbaseFiles where
  safeSource := .ok
  sha256 _ := .ok sampleDigest
  load path := .ok (sampleTermbase path)
  unexpected _ := .ok ()

def sampleCoreSource : GovernedTermbaseSource :=
  ⟨"core-v1", "1.0", sampleDigest, "termbase/core.json", .core, "core", none, none⟩

def sampleOverlay (name : String) (scope : TermScope) (parent : Option String) :
    GovernedTermbaseSource :=
  ⟨name ++ "-v1", "1.0", sampleDigest, "termbase/overlays/" ++ name ++ ".json", scope, name, parent,
    some "committee"⟩

def sampleTermGovernance (order : List String) : TermbaseGovernance where
  governanceIdentity := "governance-v1"
  policyIdentity := "policy-v1"
  authorizationIdentity := "authority-v1"
  core := sampleCoreSource
  overlays := [sampleOverlay "sales" .bu none, sampleOverlay "legal" .bu none,
    sampleOverlay "desk" .team (some "sales")]
  overlayOrder := order
  orderIdentity := "order-v1"

def sampleLoaded (source : GovernedTermbaseSource) : LoadedSource :=
  (source, sampleTermbase source.path)

def sampleOverlays : List LoadedSource :=
  [sampleLoaded (sampleOverlay "sales" .bu none), sampleLoaded (sampleOverlay "legal" .bu none),
    sampleLoaded (sampleOverlay "desk" .team (some "sales"))]

theorem sampleTerm_loaded : loadSources sampleTermbaseFiles
    (sampleTermGovernance ["sales-v1", "legal-v1", "desk-v1"]) =
      .ok (sampleLoaded sampleCoreSource, sampleOverlays) := by
  rfl

theorem sampleTerm_permitted : loadSources sampleTermbaseFiles
    { sampleTermGovernance ["sales-v1", "legal-v1", "desk-v1"] with
      overlayOrder := ["legal-v1", "sales-v1", "desk-v1"] } =
        .ok (sampleLoaded sampleCoreSource, sampleOverlays) := by
  rfl

theorem sampleTerm_state :
    ((sampleTermGovernance ["sales-v1", "legal-v1", "desk-v1"]).declaredTerms
      (sampleLoaded sampleCoreSource) sampleOverlays).foldlM MergedTerms.step ⟨[], []⟩ =
        .ok ⟨[⟨sampleOverlay "desk" .team (some "sales"), sampleTerm "wording" .preferred⟩], []⟩ := by
  rfl

theorem sampleTerm_merges : ∃ result,
    (sampleTermGovernance ["sales-v1", "legal-v1", "desk-v1"]).merge
      (sampleLoaded sampleCoreSource) sampleOverlays = .ok result ∧
        result.records = [sampleTerm "wording" .preferred] := by
  unfold TermbaseGovernance.merge
  rw [sampleTerm_state]
  exact ⟨_, rfl, rfl⟩

theorem merge_governed_sample :
    (∃ result, (sampleTermGovernance ["sales-v1", "legal-v1", "desk-v1"]).merge
      (sampleLoaded sampleCoreSource) sampleOverlays = .ok result ∧
        Precedence (sampleLoaded sampleCoreSource :: sampleOverlays) result.records) ∧
    ((∃ result, (sampleTermGovernance ["sales-v1", "legal-v1", "desk-v1"]).merge
      (sampleLoaded sampleCoreSource) sampleOverlays = .ok result) ↔
        ∃ result, { sampleTermGovernance ["sales-v1", "legal-v1", "desk-v1"] with
          overlayOrder := ["legal-v1", "sales-v1", "desk-v1"] }.merge
            (sampleLoaded sampleCoreSource) sampleOverlays = .ok result) := by
  obtain ⟨follows, orders⟩ := merge_governed sampleTerm_loaded
  obtain ⟨result, merged, _⟩ := sampleTerm_merges
  exact ⟨⟨result, merged, follows result merged⟩, (orders _ _ _ sampleTerm_permitted).1⟩

/-- The desk of the sales unit replaces a record of the legal unit. -/
theorem team_replaces_other_unit : ¬ ∀ (files : TermbaseFiles) (governance : TermbaseGovernance)
    (core : LoadedSource) (overlays : List LoadedSource) (result : GovernedTermbase),
    loadSources files governance = .ok (core, overlays) →
      governance.merge core overlays = .ok result →
        ∀ loaded ∈ overlays, loaded.1.scope = .team → ∀ record ∈ loaded.2.records,
          record ∈ result.records → ∀ other ∈ overlays, other.1.scope = .bu →
            (∃ replaced ∈ other.2.records, replaced.source = record.source) →
              loaded.1.parentScopeRef = some other.1.scopeRef := by
  intro claimed
  obtain ⟨result, merged, records⟩ := sampleTerm_merges
  have parent := claimed _ _ _ _ result sampleTerm_loaded merged
    (sampleLoaded (sampleOverlay "desk" .team (some "sales"))) (by simp [sampleOverlays]) rfl
    (sampleTerm "wording" .preferred) List.mem_cons_self (by rw [records]; exact List.mem_cons_self)
    (sampleLoaded (sampleOverlay "legal" .bu none)) (by simp [sampleOverlays]) rfl
    ⟨sampleTerm "provision" .preferred, List.mem_cons_self, rfl⟩
  exact absurd parent (by decide)

end
end KSlide
