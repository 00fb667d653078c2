import KSlide.Paas.Identity
import KSlide.Support.Content
import KSlide.Text.Calendar

/-
This file gives the requests for support content, their authority and their audit records.
-/

namespace KSlide

inductive SupportPurpose where
  | incidentDiagnostic | dataOwnerReview
deriving DecidableEq, Repr

inductive SupportDecisionStatus where
  | approved | denied | revoked
deriving DecidableEq, Repr

inductive SupportApprovalStatus where
  | approved | denied | pending
deriving DecidableEq, Repr

inductive SupportArtifactClass where
  | sourceSnapshot | normalizedRender | nativeExtraction | regionCrop | ocrMetadata
  | evidenceIr | translationPatch | canonicalIr | report
deriving DecidableEq, Repr

/-- The class and the durable artifact that it selects have the same text. -/
def SupportArtifactClass.value : SupportArtifactClass → String
  | .sourceSnapshot => "source_snapshot"
  | .normalizedRender => "normalized_render"
  | .nativeExtraction => "native_extraction"
  | .regionCrop => "region_crop"
  | .ocrMetadata => "ocr_metadata"
  | .evidenceIr => "evidence_ir"
  | .translationPatch => "translation_patch"
  | .canonicalIr => "canonical_ir"
  | .report => "report"

def forbiddenIdTerms : List String :=
  ["accesskey", "password", "secret", "token", "credential", "bearer", "source", "prompt",
   "translation", "ocr", "report", "image", "text", "korean", "path", "filename"]

def contentSuffixes : List String :=
  [".png", ".jpg", ".jpeg", ".webp", ".pdf", ".pptx", ".docx", ".md", ".json", ".txt"]

def isSupportIdentity (text : String) : Bool :=
  let letter (letter : Char) := Text.isAlnum letter || "_.:-".toList.elem letter
  let lowered := text.toList.map Char.toLower
  Text.isToken Text.isAlnum letter 255 text && !Text.contains text ".." &&
    !(contentSuffixes.any fun suffix => suffix.toList.isSuffixOf lowered) &&
    !Text.mentions forbiddenIdTerms text

/-- A timestamp keeps its text and the instant that the text names. -/
structure SupportTimestamp where
  text : String
  instant : Nat
  reads : Text.isTimestamp text = true ∧ Text.fromIsoformat text = some instant
deriving DecidableEq

/-- Support content and its sources are references of the durable run data. -/
structure StorageReference where
  artifact : String
  relativePath : String
  scopeRef : String
  runRef : String
deriving DecidableEq

/-- The path of a selected file must fit the class that names it. -/
def pathMatchesClass (artifactClass : SupportArtifactClass) (relativePath : String) : Bool :=
  let parts := relativePath.toList.splitOn '/'
  let top := String.ofList (parts.headD [])
  let name := parts.getLastD []
  match artifactClass with
  | .sourceSnapshot => top == "inputs" && parts.length ≥ 2
  | .normalizedRender => top == "normalized" && parts.length ≥ 2 &&
      !(["DOCUMENT_MANIFEST.json", "NORMALIZATION_ERROR.json"].elem (String.ofList name))
  | .nativeExtraction => top == "native" && parts.length ≥ 2
  | .regionCrop => top == "regions" && parts.length ≥ 3
  | .ocrMetadata => relativePath == "OCR_METADATA.json"
  | .evidenceIr => top == "evidence" && parts.length ≥ 2
  | .translationPatch => top == "translations" && parts.length ≥ 2
  | .canonicalIr => (top == "ir" && parts.length ≥ 2) || relativePath == "CONFLICT_REGISTRY.json"
  | .report => parts.length == 1 &&
      ("05_".toList.isPrefixOf name || "07_".toList.isPrefixOf name)

structure SupportApprovalEvidence where
  approvalRef : String
  status : SupportApprovalStatus
  safe : isSupportIdentity approvalRef = true
deriving DecidableEq

/-- The parts of a decision that bind it to one request. -/
structure SupportDecisionBinding where
  accessRequestRef : String
  scopeContext : AuthorizedScopeContext
  runRef : String
  supportSubjectRef : String
  supportRoleRef : String
  supportCapabilityRef : String
  purpose : SupportPurpose
  authorityRef : String
  decisionRef : String
  approvals : List SupportApprovalEvidence
  allowedArtifactClasses : List SupportArtifactClass
  allowedReferences : List StorageReference
  issuedAt : SupportTimestamp
  notBeforeAt : SupportTimestamp
  expiresAt : SupportTimestamp
  safe : ∀ identity ∈ [scopeContext.userRef, scopeContext.workspaceRef, scopeContext.scopeRef,
    accessRequestRef, runRef, supportSubjectRef, supportRoleRef, supportCapabilityRef,
    authorityRef, decisionRef], isSupportIdentity identity = true
  evidenced : approvals ≠ [] ∧ (approvals.map (·.approvalRef)).Nodup
  named : allowedArtifactClasses.Nodup ∧ (allowedArtifactClasses ≠ [] ∨ allowedReferences ≠ [])
  within : ∀ reference ∈ allowedReferences,
    reference.scopeRef = scopeContext.scopeRef ∧ reference.runRef = runRef
  finite : issuedAt.instant ≤ notBeforeAt.instant ∧ notBeforeAt.instant < expiresAt.instant
deriving DecidableEq

/-- The authority issues one decision for one exact request. -/
structure SupportAuthorizationDecision extends SupportDecisionBinding where
  status : SupportDecisionStatus
deriving DecidableEq

structure SupportContentSelection where
  artifactClass : SupportArtifactClass
  reference : StorageReference
  typed : reference.artifact = artifactClass.value
  placed : pathMatchesClass artifactClass reference.relativePath = true
deriving DecidableEq

/-- A request selects a bounded number of files that its decision allows. -/
structure ControlledSupportRequest where
  decision : SupportAuthorizationDecision
  selections : List SupportContentSelection
  bounded : selections ≠ [] ∧ selections.length ≤ 512
  allowed : ∀ selection ∈ selections,
    selection.reference.scopeRef = decision.scopeContext.scopeRef ∧
    selection.reference.runRef = decision.runRef ∧
    (selection.artifactClass ∈ decision.allowedArtifactClasses ∨
      selection.reference ∈ decision.allowedReferences)
  distinct : (selections.map (·.reference)).Nodup

/-- The identities are digests of the parts of a request. -/
class SupportIdentity where
  selection : List SupportContentSelection → String
  artifact (accessRequestRef scopeRef runRef decisionRef selectionIdentity : String) : String

inductive SupportAccessLifecycle where
  | materialized | accessed | denied | expired | revoked | cleaned | deleted
deriving DecidableEq, Repr

inductive SupportAccessResult where
  | success | denied | expired | revoked | cleaned | deleted | failed
deriving DecidableEq, Repr

/-- The record of one access has the references of its decision and no content. -/
structure SupportAccessAudit where
  occurredAt : Nat
  lifecycle : SupportAccessLifecycle
  result : SupportAccessResult
  accessRequestRef : String
  scopeContext : AuthorizedScopeContext
  runRef : String
  supportSubjectRef : String
  supportRoleRef : String
  supportCapabilityRef : String
  purpose : SupportPurpose
  authorityRef : String
  decisionRef : String
  approvals : List SupportApprovalEvidence
  allowedArtifactClasses : List SupportArtifactClass
  selectedArtifactClasses : List SupportArtifactClass
  issuedAt : SupportTimestamp
  notBeforeAt : SupportTimestamp
  expiresAt : SupportTimestamp
  supportArtifactRef : Option String
deriving DecidableEq

/-- The metadata of one support copy. -/
structure ControlledSupportArtifact where
  artifactRef : String
  reference : StorageReference
  accessRequestRef : String
  scopeContext : AuthorizedScopeContext
  runRef : String
  decisionRef : String
  supportSubjectRef : String
  supportRoleRef : String
  supportCapabilityRef : String
  purpose : SupportPurpose
  authorityRef : String
  approvals : List SupportApprovalEvidence
  allowedArtifactClasses : List SupportArtifactClass
  selectionIdentity : String
  selectedArtifactClasses : List SupportArtifactClass
  createdAt : Nat
  expiresAt : SupportTimestamp
deriving DecidableEq

/-- The authority raises, gives no typed decision or gives a decision. -/
inductive ProviderAnswer where
  | raised | untyped
  | decided (decision : SupportAuthorizationDecision)
deriving DecidableEq

/-- The authority gives its next answer to each lookup. -/
structure SupportAuthorizationProvider where
  productionAuthoritative : Bool
  callable : Bool
  resolve : Nat → ProviderAnswer

namespace SupportContent

def refused (code : ErrorCode) (message : String) : Raised := .kslide ⟨code, message, []⟩

section
variable [SupportIdentity]

def selectionIdentity (selections : List SupportContentSelection) : String :=
  SupportIdentity.selection selections

def artifactIdentity (request : ControlledSupportRequest) : String :=
  SupportIdentity.artifact request.decision.accessRequestRef
    request.decision.scopeContext.scopeRef request.decision.runRef request.decision.decisionRef
    (selectionIdentity request.selections)

end

/-- The answer is typed and differs from the decision of the request in its status only. -/
def boundDecision (request : ControlledSupportRequest) :
    ProviderAnswer → Except Raised SupportAuthorizationDecision
  | .raised => .error (refused .supportAuthorityUnavailable
      "Controlled support authority lookup failed closed.")
  | .untyped => .error (refused .supportAuthorityUnavailable
      "Controlled support authority returned an ambiguous or mismatched decision.")
  | .decided current =>
    if current.toSupportDecisionBinding = request.decision.toSupportDecisionBinding then
      .ok current
    else .error (refused .supportAuthorityUnavailable
      "Controlled support authority returned an ambiguous or mismatched decision.")

def providerDecision (request : ControlledSupportRequest) (provider : SupportAuthorizationProvider)
    (production : Bool) (turn : Nat) : Except Raised SupportAuthorizationDecision := do
  require (!production || provider.productionAuthoritative) (refused .supportAuthorityUnavailable
    "Reference controlled support authorization is not a production authority.")
  require provider.callable (refused .supportAuthorityUnavailable
    "Controlled support authority lookup is unavailable.")
  boundDecision request (provider.resolve turn)

/-- A decision holds between its times when each approval is given. -/
def currentDecision (now : Nat) (current : SupportAuthorizationDecision) :
    Except Raised SupportAuthorizationDecision := do
  require (current.status ≠ .denied) (refused .supportAuthorizationDenied
    "Controlled support authorization was denied.")
  require (current.status ≠ .revoked) (.kslide ⟨.supportAuthorizationRevoked,
    "Controlled support authorization was revoked.", [("lifecycle", .str "REVOKED")]⟩)
  require (current.issuedAt.instant ≤ now && current.notBeforeAt.instant ≤ now)
    (refused .supportAuthorizationDenied "Controlled support authorization is not yet valid.")
  require (now < current.expiresAt.instant) (.kslide ⟨.supportAuthorizationExpired,
    "Controlled support authorization has expired.", [("lifecycle", .str "EXPIRED")]⟩)
  require (current.approvals.all (·.status == .approved)) (refused .supportAuthorizationDenied
    "Controlled support authorization approvals are incomplete.")
  return current

def failureLifecycle (error : KSlideError) : SupportAccessLifecycle × SupportAccessResult :=
  if error.code = .supportAuthorizationExpired then (.expired, .expired)
  else if error.code = .supportAuthorizationRevoked then (.revoked, .revoked)
  else (.denied, .denied)

end SupportContent
end KSlide
