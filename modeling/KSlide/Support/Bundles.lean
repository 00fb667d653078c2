import KSlide.Interleaving.Program
import KSlide.Support.Access

/-
This file gives the calls that write a support copy and that read it back.
-/

namespace KSlide
open Interleaving

/-- The archive library finds a damaged archive or fails in another way. -/
inductive ArchiveFault where
  | badZip
  | raised (error : Raised)

structure SupportBundle where
  data : List UInt8
  members : Except ArchiveFault (List (String × Except ArchiveFault (List UInt8)))

/-- The run directory may have a file or a directory under the name of a support file. -/
inductive SupportEntry (Content : Type) where
  | absent | directory
  | file (content : Content)

namespace SupportEntry
variable {Content : Type}

def exists? : SupportEntry Content → Bool
  | .absent => false
  | _ => true

def content? : SupportEntry Content → Option Content
  | .file content => some content
  | _ => none

end SupportEntry

/-- A metadata file holds the result of its decoder. -/
structure SupportWorld where
  turn : Nat
  bundle : SupportEntry SupportBundle
  metadata : SupportEntry (Except Raised ControlledSupportArtifact)
  audits : List SupportAccessAudit

/-- The caller gives a time with or without a zone, or the clock gives a time for each check. -/
inductive SupportTime where
  | fixed (now : Nat)
  | zoneless
  | live (clock : Nat → Nat)

structure SupportManifest where
  supportArtifactRef : String
  accessRequestRef : String
  scopeRef : String
  runRef : String
  purpose : SupportPurpose
  selectedArtifactClasses : List SupportArtifactClass
  itemCount : Nat
  expiresAt : SupportTimestamp

/-- The arguments of a call, and what the storage answers to each of its steps. -/
structure SupportCall where
  request : ControlledSupportRequest
  provider : SupportAuthorizationProvider
  production : Bool
  time : SupportTime
  accessKey : Option String
  scopeRef : String
  runRef : String
  prepare : Except Raised Unit
  path : String → Except Raised Unit
  escapes : String → Bool
  contents : String → Option (List UInt8)
  archive : SupportManifest → List (String × List UInt8) → Except Raised SupportBundle
  sealBundle : Except Raised Unit
  save : Except Raised Unit
  sealMetadata : Except Raised Unit
  removeBundle : Except Raised Unit
  removeMetadata : Except Raised Unit

inductive SupportAction where
  | clock | authority | storage | audit
deriving DecidableEq, Repr

abbrev SupportProgram := Program SupportAction SupportWorld Raised

namespace SupportContent

def maxArtifactBytes : Nat := 256 * 1024 * 1024

def unavailable (message : String) : Raised := refused .supportContentUnavailable message

/-- The number of an item is written with at least four digits. -/
def itemName (index : Nat) (artifactClass : SupportArtifactClass) : String :=
  let digits := toString index
  "items/" ++ String.ofList (List.replicate (4 - digits.length) '0') ++ digits ++ "-" ++
    artifactClass.value

def isItemName (name : String) : Bool :=
  match name.toList with
  | 'i' :: 't' :: 'e' :: 'm' :: 's' :: '/' :: a :: b :: c :: d :: '-' :: letters =>
    [a, b, c, d].all Text.isDecimal && !letters.isEmpty &&
      letters.all fun letter => Text.isLower letter || letter == '_'
  | _ => false

/-- The metadata of a copy stands beside its archive. -/
def metadataPath (reference : StorageReference) : String :=
  let letters := reference.relativePath.toList
  String.ofList (letters.take (letters.length - 4)) ++ ".json"

def archiveRead {Value : Type} : Except ArchiveFault Value → Except Raised Value
  | .ok value => .ok value
  | .error .badZip => .error (unavailable "Controlled support artifact is unavailable.")
  | .error (.raised error) => .error error

/-- Every member of an archive has a known name and no secret. -/
def scanArchive (accessKey : Option String) (bundle : SupportBundle) : Except Raised Unit := do
  let members ← archiveRead bundle.members
  let names := members.map Prod.fst
  require (names.count "support-manifest.json" == 1 &&
      names.all fun name => name == "support-manifest.json" || isItemName name)
    (unavailable "Controlled support artifact has an invalid member set.")
  members.forM fun member => do
    let data ← archiveRead member.2
    require (!containsSecretMarker accessKey data)
      (unavailable "Controlled support artifact failed secret-safety validation.")

section
variable [SupportIdentity]

def selectionMatchesArtifact (artifact : ControlledSupportArtifact)
    (request : ControlledSupportRequest) : Except Raised Unit := do
  require (artifact.reference.scopeRef == request.decision.scopeContext.scopeRef &&
      artifact.reference.runRef == request.decision.runRef)
    (refused .executionConflict
      "Controlled support artifact is outside the authorized scope or run.")
  require (artifact.accessRequestRef == request.decision.accessRequestRef &&
      artifact.decisionRef == request.decision.decisionRef)
    (refused .executionConflict
      "Controlled support artifact belongs to a different authorization.")
  require (artifact.artifactRef == artifactIdentity request)
    (refused .executionConflict
      "Controlled support artifact identity does not match the request.")
  require (artifact.selectionIdentity == selectionIdentity request.selections)
    (refused .executionConflict
      "Controlled support artifact selection does not match the request.")

end
end SupportContent

namespace SupportCall
open SupportContent
variable (call : SupportCall)

def now (turn : Nat) : Except Raised Nat :=
  match call.time with
  | .fixed now => .ok now
  | .zoneless => .error (refused .supportAuthorizationInvalid
      "Controlled support time must include a timezone.")
  | .live clock => .ok (clock turn)

/-- The authority answers at the turn of a check, and the answer is judged at a time. -/
def answer (now turn : Nat) : Except Raised SupportAuthorizationDecision := do
  let current ← providerDecision call.request call.provider call.production turn
  currentDecision now current

def outsideRun : Raised :=
  refused .executionConflict "Controlled support storage layout is outside the authorized run."

def layoutResolve (reference : StorageReference) (authorizedScopeRef : String) :
    Except Raised Unit := do
  require (reference.scopeRef == call.scopeRef && reference.runRef == call.runRef)
    (.conflict "Storage reference is outside the authorized storage context.")
  require (reference.scopeRef == authorizedScopeRef)
    (.conflict "Storage reference is outside the authorized scope.")
  call.path reference.relativePath

def loadArtifact (reference : StorageReference) (world : SupportWorld) :
    Except Raised ControlledSupportArtifact := do
  require (reference.artifact == "support_content")
    (unavailable "Controlled support artifact reference has the wrong artifact class.")
  call.path (metadataPath reference)
  match world.metadata.content? with
  | some decoded => decoded
  | none => throw (unavailable "Controlled support artifact metadata is unavailable.")

def resolveSelected (selection : SupportContentSelection) (binding : SupportDecisionBinding) :
    Except Raised Unit := do
  require (call.scopeRef == binding.scopeContext.scopeRef && call.runRef == binding.runRef)
    outsideRun
  call.layoutResolve selection.reference binding.scopeContext.scopeRef
  require (!call.escapes selection.reference.relativePath) (refused .pathOutsideAllowedRoot
    "Controlled support selected content escaped its typed storage plane.")

def readSelected (selection : SupportContentSelection) : Except Raised (List UInt8) :=
  match call.contents selection.reference.relativePath with
  | none => .error (unavailable "Controlled support selected content is unavailable.")
  | some data =>
    if data.length ≤ maxArtifactBytes then .ok (safeContentBytes call.accessKey data)
    else .error
      (unavailable "Controlled support selected content exceeds the bounded support limit.")

def readTime : SupportProgram Nat := .read .clock fun world => call.now world.turn

def authorize (now : Nat) : SupportProgram SupportAuthorizationDecision :=
  .transact .authority fun world =>
    (call.answer now world.turn, { world with turn := world.turn + 1 })

/-- A fresh check reads the time again. -/
def check : SupportProgram SupportAuthorizationDecision := do
  let now ← call.readTime
  call.authorize now

def record (now : Nat) (lifecycle : SupportAccessLifecycle) (result : SupportAccessResult)
    (artifactRef : Option String) : SupportAccessAudit where
  occurredAt := now
  lifecycle := lifecycle
  result := result
  accessRequestRef := call.request.decision.accessRequestRef
  scopeContext := call.request.decision.scopeContext
  runRef := call.request.decision.runRef
  supportSubjectRef := call.request.decision.supportSubjectRef
  supportRoleRef := call.request.decision.supportRoleRef
  supportCapabilityRef := call.request.decision.supportCapabilityRef
  purpose := call.request.decision.purpose
  authorityRef := call.request.decision.authorityRef
  decisionRef := call.request.decision.decisionRef
  approvals := call.request.decision.approvals
  allowedArtifactClasses := call.request.decision.allowedArtifactClasses
  selectedArtifactClasses := call.request.selections.map (·.artifactClass)
  issuedAt := call.request.decision.issuedAt
  notBeforeAt := call.request.decision.notBeforeAt
  expiresAt := call.request.decision.expiresAt
  supportArtifactRef := artifactRef

def audit (now : Nat) (lifecycle : SupportAccessLifecycle) (result : SupportAccessResult)
    (artifactRef : Option String) : SupportProgram Unit :=
  .write .audit fun world =>
    { world with audits := world.audits ++ [call.record now lifecycle result artifactRef] }

/-- The handler of package errors records the failure and raises the error again. -/
def auditFailure {Result : Type} (time : SupportProgram Nat) (artifactRef : Option String) :
    Raised → SupportProgram Result
  | .kslide error => do
    let now ← time
    call.audit now (failureLifecycle error).1 (failureLifecycle error).2 artifactRef
    throw (.kslide error)
  | .other kind => throw (.other kind)

/-- Each selected file is read after a fresh check, within a bound on all of them. -/
def gather (binding : SupportDecisionBinding) :
    Nat → Nat → List SupportContentSelection → SupportProgram (List (String × List UInt8))
  | _, _, [] => return []
  | index, total, selection :: rest => do
    let _ ← call.check
    .lift (call.resolveSelected selection binding)
    let data ← .lift (call.readSelected selection)
    .lift (require (total + data.length ≤ maxArtifactBytes)
      (unavailable "Controlled support selection exceeds the bounded support limit."))
    let content ← gather binding (index + 1) (total + data.length) rest
    return (itemName index selection.artifactClass, data) :: content

def removeFiles : SupportProgram Unit := do
  .transact .storage fun world =>
    (call.removeBundle, if call.removeBundle.isOk then { world with bundle := .absent } else world)
  .transact .storage fun world => (call.removeMetadata,
    if call.removeMetadata.isOk then { world with metadata := .absent } else world)

section
variable [SupportIdentity]

def bundleReference : StorageReference :=
  ⟨"support_content", s!"support-content/{artifactIdentity call.request}.zip", call.scopeRef,
    call.runRef⟩

def manifest (binding : SupportDecisionBinding) (itemCount : Nat) : SupportManifest where
  supportArtifactRef := artifactIdentity call.request
  accessRequestRef := binding.accessRequestRef
  scopeRef := binding.scopeContext.scopeRef
  runRef := binding.runRef
  purpose := binding.purpose
  selectedArtifactClasses := call.request.selections.map (·.artifactClass)
  itemCount := itemCount
  expiresAt := binding.expiresAt

def artifact (binding : SupportDecisionBinding) (createdAt : Nat) : ControlledSupportArtifact where
  artifactRef := artifactIdentity call.request
  reference := call.bundleReference
  accessRequestRef := binding.accessRequestRef
  scopeContext := binding.scopeContext
  runRef := binding.runRef
  decisionRef := binding.decisionRef
  supportSubjectRef := binding.supportSubjectRef
  supportRoleRef := binding.supportRoleRef
  supportCapabilityRef := binding.supportCapabilityRef
  purpose := binding.purpose
  authorityRef := binding.authorityRef
  approvals := binding.approvals
  allowedArtifactClasses := binding.allowedArtifactClasses
  selectionIdentity := selectionIdentity call.request.selections
  selectedArtifactClasses := call.request.selections.map (·.artifactClass)
  createdAt := createdAt
  expiresAt := binding.expiresAt

/-- An earlier copy of the same request is returned after a second check. -/
def reuse : SupportProgram ControlledSupportArtifact := do
  .read .storage fun world =>
    require (world.bundle.content?.isSome && world.metadata.content?.isSome)
      (refused .executionConflict "Controlled support artifact identity is already occupied.")
  let existing ← .read .storage (call.loadArtifact call.bundleReference)
  .lift (selectionMatchesArtifact existing call.request)
  let _ ← call.check
  let now ← call.readTime
  call.audit now .materialized .success (some existing.artifactRef)
  return existing

def writeZip (manifest : SupportManifest) (content : List (String × List UInt8)) :
    SupportProgram Unit := do
  let bundle ← .lift (call.archive manifest content)
  .write .storage fun world => { world with bundle := .file bundle }
  .lift call.sealBundle

def writeMetadata (artifact : ControlledSupportArtifact) : SupportProgram Unit := do
  .lift call.save
  .write .storage fun world => { world with metadata := .file (.ok artifact) }
  .lift call.sealMetadata

def publish (artifact : ControlledSupportArtifact) : SupportProgram Unit := do
  let _ ← call.check
  call.writeMetadata artifact
  let _ ← call.check
  let now ← call.readTime
  call.audit now .materialized .success (some artifact.artifactRef)

def build (currentTime : Nat) (binding : SupportDecisionBinding) :
    SupportProgram ControlledSupportArtifact := do
  let content ← tryCatch (call.gather binding 1 0 call.request.selections)
    (call.auditFailure call.readTime none)
  let _ ← call.check
  call.writeZip (call.manifest binding content.length) content
  tryCatch (call.publish (call.artifact binding currentTime)) fun error => do
    call.removeFiles
    throw error
  return call.artifact binding currentTime

def materializeControlledSupportBundle : SupportProgram ControlledSupportArtifact := do
  let currentTime ← call.readTime
  let current ← tryCatch (call.authorize currentTime) (call.auditFailure (pure currentTime) none)
  if call.scopeRef != current.scopeContext.scopeRef || call.runRef != current.runRef then
    call.audit currentTime .denied .denied none
    throw outsideRun
  else
    .lift call.prepare
    let occupied ← .read .storage fun world =>
      .ok (world.bundle.exists? || world.metadata.exists?)
    if occupied then call.reuse
    else call.build currentTime current.toSupportDecisionBinding

/-- The file of a support copy is bounded and has no secret. -/
def openBundle (world : SupportWorld) : Except Raised SupportBundle :=
  match world.bundle.content? with
  | none => .error (unavailable "Controlled support artifact is unavailable.")
  | some bundle => do
    require (bundle.data.length ≤ maxArtifactBytes)
      (unavailable "Controlled support artifact exceeds the bounded support limit.")
    require (!containsSecretMarker call.accessKey bundle.data)
      (unavailable "Controlled support artifact failed secret-safety validation.")
    return bundle

def readControlledSupportBundle (artifact : ControlledSupportArtifact) :
    SupportProgram (List UInt8) := do
  let currentTime ← call.readTime
  tryCatch (do
    let _ ← call.authorize currentTime
    .lift (selectionMatchesArtifact artifact call.request)
    let stored ← .read .storage (call.loadArtifact artifact.reference)
    .lift (require (stored == artifact) (refused .executionConflict
      "Controlled support artifact metadata does not match the typed artifact."))
    .lift (call.layoutResolve stored.reference call.request.decision.scopeContext.scopeRef)
    let bundle ← .read .storage call.openBundle
    let _ ← call.check
    .lift (scanArchive call.accessKey bundle)
    let now ← call.readTime
    call.audit now .accessed .success (some artifact.artifactRef)
    return bundle.data) (call.auditFailure call.readTime (some artifact.artifactRef))

end
end SupportCall
end KSlide
