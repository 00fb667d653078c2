import KSlide.Terminology.Records

/-
This file merges the governed termbases.
-/

namespace KSlide

/-- A record comes with the source that declares it. -/
structure DeclaredTerm where
  declared : GovernedTermbaseSource
  record : TermRecord
deriving DecidableEq

structure MergedTerms where
  merged : List DeclaredTerm
  termIds : List String

namespace MergedTerms
open TermbaseGovernance

def place (merged : List DeclaredTerm) (term : DeclaredTerm) : Except Raised (List DeclaredTerm) :=
  match merged.find? fun other => other.record.source = term.record.source with
  | none => .ok (merged ++ [term])
  | some prior => do
    require (prior.declared.rank != term.declared.rank)
      (invalid "Same-precedence governed termbase records are ambiguous.")
    require (decide (prior.declared.rank < term.declared.rank))
      (if prior.record.status = .locked ∧ prior.record.asDict ≠ term.record.asDict then
        invalid "A lower-authority termbase cannot override a higher-authority LOCKED term."
      else invalid "Governed termbase hierarchy is not monotonic.")
    require (prior.record.status != .locked)
      (invalid "A higher-authority overlay cannot override a LOCKED term."
        [("locked_source", .str prior.declared.identity)])
    return merged.map fun other =>
      if other.record.source = term.record.source then term else other

def step (state : MergedTerms) (term : DeclaredTerm) : Except Raised MergedTerms := do
  require (decide (∀ id ∈ term.record.termId, id ∉ state.termIds))
    (invalid "Governed termbase term_id is duplicated across sources.")
  let merged ← place state.merged term
  return ⟨merged, state.termIds ++ term.record.termId.toList⟩

end MergedTerms

def LoadedSource.terms (loaded : LoadedSource) : List DeclaredTerm :=
  loaded.2.records.map fun record => ⟨loaded.1, record⟩

namespace TermbaseGovernance

/-- The core comes first and the overlays follow in their order. -/
def ordered (governance : TermbaseGovernance) (core : LoadedSource)
    (overlays : List LoadedSource) : List LoadedSource :=
  core :: overlays.insertionSort fun first second =>
    governance.position first.1 ≤ governance.position second.1

def declaredTerms (governance : TermbaseGovernance) (core : LoadedSource)
    (overlays : List LoadedSource) : List DeclaredTerm :=
  (governance.ordered core overlays).flatMap LoadedSource.terms

end TermbaseGovernance

/-- The effective termbase comes with the identity that binds it. -/
structure GovernedTermbase where
  version : String
  records : List TermRecord
  effectiveHash : String
  bindingIdentity : Json

section
variable [Sha256]

def effectiveHash (records : List TermRecord) : String :=
  stableRevision (.arr ((records.insertionSort TermRecord.Precedes).map (·.identity)))

namespace TermbaseGovernance

def overlayIdentities (governance : TermbaseGovernance) (overlays : List LoadedSource) :
    List Json :=
  governance.overlayOrder.mapIdx (fun place identity =>
    (overlays.filter (·.1.identity == identity)).map (·.1.asIdentity (some place))) |>.flatten

def identityPayload (governance : TermbaseGovernance) (core : LoadedSource)
    (overlays : List LoadedSource) (effective : String) : Json := .obj [
  ("authority", .obj [
    ("authorization_identity", .str governance.authorizationIdentity),
    ("governance_identity", .str governance.governanceIdentity),
    ("order_identity", .str governance.orderIdentity),
    ("policy_identity", .str governance.policyIdentity)]),
  ("core", core.1.asIdentity none),
  ("effective_hash", .str effective),
  ("overlay_order", .arr (governance.overlayOrder.map .str)),
  ("overlays", .arr (governance.overlayIdentities overlays)),
  ("schema_version", .str "2.0")]

def bindingIdentity (governance : TermbaseGovernance) (core : LoadedSource)
    (overlays : List LoadedSource) (effective : String) : Json := .obj [
  ("authorization_identity", .str governance.authorizationIdentity),
  ("core", core.1.asIdentity none),
  ("core_identity", .str core.1.identity),
  ("effective_hash", .str effective),
  ("governance_identity", .str governance.governanceIdentity),
  ("hash", .str (stableRevision (governance.identityPayload core overlays effective))),
  ("order_identity", .str governance.orderIdentity),
  ("overlay_order", .arr (governance.overlayOrder.map .str)),
  ("overlays", .arr (governance.overlayIdentities overlays)),
  ("policy_identity", .str governance.policyIdentity),
  ("schema_version", .str "2.0"),
  ("version", .str core.2.version)]

def merge (governance : TermbaseGovernance) (core : LoadedSource)
    (overlays : List LoadedSource) : Except Raised GovernedTermbase := do
  let state ← (governance.declaredTerms core overlays).foldlM MergedTerms.step ⟨[], []⟩
  let effective := state.merged.map (·.record)
  return ⟨core.2.version, effective, effectiveHash effective,
    governance.bindingIdentity core overlays (effectiveHash effective)⟩

end TermbaseGovernance
end
end KSlide
