import KSlide.Corpus.Canonical

/-
This file gives the versioning of one corpus set and the exposure of all sets.
-/

namespace KSlide
open GovernanceError

section
variable [Sha256]

namespace CorpusManifest

/-- Two manifests of one set version have one content and one role. -/
def Consistent (first second : CorpusManifest) : Prop :=
  first.setId = second.setId ∧ first.version = second.version →
    first.manifestFingerprint = second.manifestFingerprint ∧ first.role = second.role

instance (first second : CorpusManifest) : Decidable (first.Consistent second) :=
  inferInstanceAs (Decidable (_ → _))

end CorpusManifest

/-- An item of the previous version stays, with its content and its lifecycle. -/
def checkKeptItem (current : CorpusManifest) (old : CorpusItem) : Except GovernanceError Unit :=
  match current.items.find? (·.itemId == old.itemId) with
  | none => .error (.corpus "retired corpus item history cannot be deleted")
  | some updated => do
    check (updated.sourceSha256 == old.sourceSha256 && updated.goldSha256 == old.goldSha256)
      "corpus item content changed in place"
    check (!(old.closed && updated.state == .active))
      "retired or contaminated item cannot be reactivated"
    check (old.state == updated.state || (old.state == .active && updated.closed))
      "corpus item lifecycle transition is invalid"

/-- The last known manifest of a set version decides about its items. -/
def priorItem (known : List CorpusManifest) (reference : ItemReference) : Option CorpusItem :=
  known.reverse.findSome? fun manifest =>
    if manifest.setId = reference.setId ∧ manifest.version = reference.version then
      manifest.items.find? (·.itemId == reference.itemId)
    else none

/-- The fingerprints of the closed items of the known manifests. -/
def historicalHashes (known : List CorpusManifest) : List String :=
  known.flatMap fun manifest => (manifest.items.filter (·.closed)).map (·.fingerprint)

def holdsContaminated (manifest : CorpusManifest) : Bool :=
  manifest.items.any (·.state == .contaminated)

/-- A replacement names a closed item and shares no content with it. -/
def checkReplacement (known : List CorpusManifest) (item : CorpusItem)
    (replacement : ItemReference) : Except GovernanceError Unit :=
  match priorItem known replacement with
  | none => .error (.corpus "replacement lineage must reference a retired historical item")
  | some target => do
    check target.closed "replacement lineage must reference a retired historical item"
    check (item.fingerprint != target.fingerprint)
      "replacement cannot reuse contaminated source and gold bytes"
    check (item.sourceSha256 != target.sourceSha256 && item.goldSha256 != target.goldSha256)
      "replacement must use distinct source and gold identities"

/-- A new item is a replacement or has content that no closed item had. -/
def checkNewItem (known : List CorpusManifest) (current : CorpusManifest) (item : CorpusItem) :
    Except GovernanceError Unit := do
  check (!(current.role == .sealedHeldOut && known.any holdsContaminated &&
      item.state == .active && item.replacementOf.isNone))
    "active held-out replacement must identify its contaminated predecessor"
  match item.replacementOf with
  | some replacement => checkReplacement known item replacement
  | none =>
    check (decide (item.fingerprint ∉ historicalHashes known))
      "retired corpus bytes cannot be resurrected under a new item ID"

/-- The items that the previous version does not have. -/
def newItems (previous current : CorpusManifest) : List CorpusItem :=
  current.items.filter fun item => !previous.items.any (·.itemId == item.itemId)

/-- The canonical manifests of a transition are compared. -/
def checkTransition (previous current : CorpusManifest) (history : List CorpusManifest) :
    Except GovernanceError CorpusManifest := do
  check (decide ((previous :: (history ++ [current])).Pairwise CorpusManifest.Consistent))
    "corpus history contains an ambiguous set version"
  check (previous.role == current.role) "corpus transition cannot change role"
  check (!(previous.state == .retired && current.state != .retired))
    "retired corpus cannot be reactivated"
  let sameVersion := previous.setId == current.setId && previous.version == current.version
  check (!(sameVersion && previous.manifestFingerprint != current.manifestFingerprint))
    "frozen or sealed corpus changed without a new version"
  check (sameVersion || current.predecessor == some previous.reference)
    "new corpus version must link its exact predecessor"
  forM previous.items (checkKeptItem current)
  forM (newItems previous current) (checkNewItem (previous :: history) current)
  return current

/-- The versions, the retirements and the replacements of one set are validated. -/
def validateTransition (previous next : Json) (history : List Json) :
    Except GovernanceError CorpusManifest := do
  let previous ← canonicalManifest previous
  let current ← canonicalManifest next
  let history ← history.mapM canonicalManifest
  checkTransition previous current history

end

/-- An item of a historical manifest may have been seen in a recorded context. -/
inductive ContaminationContext where
  | development | regression | training | privateEvaluation | comparison | promptSelection
  | ruleTuning | thresholdTuning
deriving DecidableEq, Repr

instance : Text.Enumeration ContaminationContext where
  value
    | .development => "development"
    | .regression => "regression"
    | .training => "training"
    | .privateEvaluation => "private_evaluation"
    | .comparison => "comparison"
    | .promptSelection => "prompt_selection"
    | .ruleTuning => "rule_tuning"
    | .thresholdTuning => "threshold_tuning"
  all := [.development, .regression, .training, .privateEvaluation, .comparison,
    .promptSelection, .ruleTuning, .thresholdTuning]

/-- A manifest is recorded with the contexts that exposed its items. -/
structure HistoryEntry where
  manifest : CorpusManifest
  contexts : List (OpaqueText × ContaminationContext) := []

section
variable [Sha256]

/-- Each item has at most one context. -/
def exposureContexts (earlier : List (OpaqueText × ContaminationContext)) :
    List Json → Except GovernanceError (List (OpaqueText × ContaminationContext))
  | [] => .ok []
  | record :: rest => do
    check (record.hasKeys ["item_id", "context"])
      "history exposure context has an unsupported shape"
    let itemId ← requireOpaque "history exposure item_id" (record.field "item_id")
    let context ← requireMember ContaminationContext Text.Enumeration.all
      "history exposure context is invalid or duplicated" .typeError (record.field "context")
    check (earlier.all (·.1 != itemId)) "history exposure context is invalid or duplicated"
    return (itemId, context) :: (← exposureContexts (earlier ++ [(itemId, context)]) rest)

/-- A history entry is a manifest, with or without its exposure contexts. -/
def canonicalHistoryEntry (value : Json) : Except GovernanceError HistoryEntry :=
  if value.hasKeys ["manifest", "exposure_contexts"] then do
    let manifest ← canonicalManifest (value.field "manifest")
    match value.field "exposure_contexts" with
    | .arr records => do
      let contexts ← exposureContexts [] records
      check (contexts.all fun entry => manifest.items.any (·.itemId == entry.1))
        "history exposure context references a missing manifest item"
      check (decide (contexts.Pairwise (·.1.val < ·.1.val)))
        "history exposure contexts must be canonically ordered"
      return { manifest, contexts }
    | _ => throw (.corpus "history exposure_contexts must be a list")
  else do
    let manifest ← canonicalManifest value
    return { manifest }

/-- An item is compared with its manifest, its context and its place in time. -/
structure ExposureRecord where
  manifest : CorpusManifest
  item : CorpusItem
  context : Option ContaminationContext
  historical : Bool

namespace ExposureRecord

omit [Sha256] in
def sealedActive (record : ExposureRecord) : Bool :=
  record.manifest.role == .sealedHeldOut && record.item.state == .active && !record.historical

omit [Sha256] in
def exposed (record : ExposureRecord) : Bool :=
  record.manifest.role == .publicSyntheticRegression ||
    (record.historical && record.manifest.role != .sealedHeldOut &&
      record.item.state == .active) ||
    record.item.state == .contaminated || record.context.isSome

end ExposureRecord

inductive IdentityKind where
  | sourceSha256 | goldSha256 | itemFingerprint
deriving DecidableEq, Repr

instance : Text.Enumeration IdentityKind where
  value
    | .sourceSha256 => "source_sha256"
    | .goldSha256 => "gold_sha256"
    | .itemFingerprint => "item_fingerprint"
  all := [.sourceSha256, .goldSha256, .itemFingerprint]

/-- An overlap names the shared identity and the two items that share it. -/
structure CorpusOverlap where
  identityKind : IdentityKind
  identitySha256 : String
  firstRole : CorpusRole
  firstSetId : OpaqueText
  firstVersion : VersionText
  firstItemId : OpaqueText
  overlapRole : CorpusRole
  overlapSetId : OpaqueText
  overlapVersion : VersionText
  overlapItemId : OpaqueText
deriving DecidableEq

/-- The overlaps are listed by this key. -/
def CorpusOverlap.key (overlap : CorpusOverlap) : List String :=
  [Text.Enumeration.value overlap.identityKind, overlap.identitySha256,
    Text.Enumeration.value overlap.firstRole, Text.Enumeration.value overlap.overlapRole]

/-- The overlaps of two items count when both are active in different roles or when a sealed item
was exposed. -/
def overlapsOf (left right : ExposureRecord) : List CorpusOverlap :=
  let sameManifest := left.manifest.reference == right.manifest.reference
  let bothActive := left.manifest.role != right.manifest.role && left.item.state == .active &&
    right.item.state == .active && !left.historical && !right.historical
  let crossed := (left.sealedActive && right.exposed) || (right.sealedActive && left.exposed)
  if (sameManifest && !crossed) || (!bothActive && !crossed) then []
  else
    let identities : List (IdentityKind × String × String) := [
      (.sourceSha256, left.item.sourceSha256.val, right.item.sourceSha256.val),
      (.goldSha256, left.item.goldSha256.val, right.item.goldSha256.val),
      (.itemFingerprint, left.item.fingerprint, right.item.fingerprint)]
    identities.filterMap fun identity =>
      if identity.2.1 = identity.2.2 then some {
        identityKind := identity.1
        identitySha256 := identity.2.1
        firstRole := left.manifest.role
        firstSetId := left.manifest.setId
        firstVersion := left.manifest.version
        firstItemId := left.item.itemId
        overlapRole := right.manifest.role
        overlapSetId := right.manifest.setId
        overlapVersion := right.manifest.version
        overlapItemId := right.item.itemId }
      else none

/-- Each pair of records is compared once. -/
def pairOverlaps : List ExposureRecord → List CorpusOverlap
  | [] => []
  | left :: rest => rest.flatMap (overlapsOf left) ++ pairOverlaps rest

def exposureRecords (manifests : List CorpusManifest) (history : List HistoryEntry) :
    List ExposureRecord :=
  (manifests.flatMap fun manifest =>
    manifest.items.map fun item => ⟨manifest, item, none, false⟩) ++
  history.flatMap fun entry => entry.manifest.items.map fun item =>
    ⟨entry.manifest, item, entry.contexts.lookup item.itemId, true⟩

/-- Role overlaps and sealed reuse of prior exposure are listed without duplicates. -/
def overlapsBetween (manifests : List CorpusManifest) (history : List HistoryEntry) :
    List CorpusOverlap :=
  (pairOverlaps (exposureRecords manifests history)).eraseDups.mergeSort fun first second =>
    decide (first.key ≤ second.key)

def crossSetOverlaps (manifests history : List Json) :
    Except GovernanceError (List CorpusOverlap) := do
  let current ← manifests.mapM canonicalManifest
  let prior ← history.mapM canonicalHistoryEntry
  return overlapsBetween current prior

end

section
variable [Sha256]

/-- The manifests of a bundle are indexed by their references. -/
def indexManifests (earlier : List CorpusManifest) :
    List CorpusManifest → Except GovernanceError Unit
  | [] => .ok ()
  | manifest :: rest => do
    check (earlier.all (·.reference != manifest.reference))
      "governed corpus history contains duplicate manifest identities"
    check (earlier.all fun other => decide (other.Consistent manifest))
      "governed corpus history contains an ambiguous set version"
    indexManifests (earlier ++ [manifest]) rest

/-- A reference that is followed is not followed again. -/
theorem unseen_lt {nodes : List CorpusManifest} {seen : List ManifestReference}
    {reference : ManifestReference} {previous : CorpusManifest} (fresh : reference ∉ seen)
    (found : nodes.find? (·.reference == reference) = some previous) :
    (nodes.filter fun node => decide (node.reference ∉ reference :: seen)).length <
      (nodes.filter fun node => decide (node.reference ∉ seen)).length := by
  have listed := List.mem_of_find?_eq_some found
  have named : previous.reference = reference := by simpa using List.find?_some found
  have fewer : nodes.filter (fun node => decide (node.reference ∉ reference :: seen)) =
      (nodes.filter fun node => decide (node.reference ∉ seen)).filter
        fun node => decide (node.reference ≠ reference) := by
    rw [List.filter_filter]
    congr
    funext node
    simp
  rw [fewer]
  apply List.length_filter_lt_length_iff_exists.mpr
  exact ⟨previous, List.mem_filter.mpr ⟨listed, by simpa [named] using fresh⟩, by simp [named]⟩

/-- Each earlier transition of a set is validated again with the whole history. -/
def replayTransitions (nodes history : List CorpusManifest) (seen : List ManifestReference)
    (node : CorpusManifest) : Except GovernanceError Unit :=
  match node.predecessor with
  | none => .ok ()
  | some reference =>
    if reference ∈ seen then
      .error (.corpus "governed corpus history contains a transition cycle")
    else
      match _found : nodes.find? (·.reference == reference) with
      | none => .error (.corpus "governed corpus predecessor history is missing")
      | some previous => do
        let _ ← validateTransition previous.asDict node.asDict (history.map (·.asDict))
        replayTransitions nodes history (reference :: seen) previous
  termination_by (nodes.filter fun node => decide (node.reference ∉ seen)).length
  decreasing_by
    apply unseen_lt <;> assumption

def historyList : Json → Except GovernanceError (List Json)
  | .null => .ok []
  | .arr items => .ok items
  | _ => .error (.corpus "governed corpus history must be a list")

def bundleList : Json → Except GovernanceError (List Json)
  | .arr items => .ok items
  | _ => .error (.corpus "governed corpus manifest bundle must be a list")

/-- The hash-only manifests that substantiate the identities of a candidate are validated. -/
def validateCorpusBundle (value history : Json) (requireComplete : Bool) :
    Except GovernanceError (List CorpusManifest) := do
  let manifests ← (← bundleList value).mapM canonicalManifest
  let roles := manifests.map (·.role)
  check (decide roles.Nodup) "governed corpus manifest bundle has duplicate roles"
  check (!requireComplete || Text.Enumeration.all.all (fun role : CorpusRole => role ∈ roles))
    "governed corpus manifest bundle must contain all four roles"
  let rawHistory ← historyList history
  let priorEntries ← rawHistory.mapM canonicalHistoryEntry
  let priorManifests := priorEntries.map (·.manifest)
  let overlaps ← crossSetOverlaps (manifests.map (·.asDict)) rawHistory
  check overlaps.isEmpty "active corpus items overlap governed prior exposure"
  let nodes := priorManifests ++ manifests
  indexManifests [] nodes
  forM manifests (replayTransitions nodes priorManifests [])
  return manifests.mergeSort fun first second => decide (first.role.index ≤ second.role.index)

end
end KSlide
