import KSlide.Digest
import KSlide.Json.Conversions
import KSlide.Readings
import KSlide.Rollout.Records
import KSlide.Scoring.Assertions
import KSlide.Text.Rewriting
import Mathlib.Algebra.Ring.Nat

/-
This file derives the vulnerability findings of a release and their dispositions, and proves that
the dispositions cover the findings exactly.
-/

namespace KSlide
open List
namespace SecurityRelease
open Python

def failed (message : String) : Raised := .other ("SecurityReleaseEvidenceError: " ++ message)

/-- The part of the pinned policy that is about vulnerabilities. -/
structure DispositionPolicy where
  id : String
  maxVulnerabilityExceptionDays : Int
  allowed : List String
  acceptedRiskSeverities : List String
  reasonCodes : List String
  approvalOwner : String

def securityReleasePolicy : DispositionPolicy where
  id := "kimhw8084-k-slide-security-release"
  maxVulnerabilityExceptionDays := 30
  allowed := ["accepted_risk", "not_affected"]
  acceptedRiskSeverities := ["LOW", "MEDIUM"]
  reasonCodes := ["upstream_disputed", "unreachable_vulnerable_code", "platform_not_affected",
    "temporary_low_severity_exception"]
  approvalOwner := "kimhw8084"

def severities : List String := ["CRITICAL", "HIGH", "MEDIUM", "LOW", "UNKNOWN"]

def expect (value : Json) (fields : List String) (label : String) : Except Raised Json :=
  if value.hasKeys fields then .ok value
  else .error (failed (label ++ " has missing or unsupported fields"))

def digest (value : Json) (label : String) : Except Raised String :=
  checkedText Text.isSha256 (failed (label ++ " is malformed")) value

/-- A time counts microseconds and needs a timezone. -/
def utc [Datetime] (value : Json) (label : String) : Except Raised Int :=
  match value with
  | .str text =>
    let offset := String.ofList (Rewriting.replace ['Z'] "+00:00".toList text.toList)
    match Datetime.fromisoformat offset with
    | .malformed => .error (failed (label ++ " is malformed"))
    | .naive => .error (failed (label ++ " must include a timezone"))
    | .aware moment => .ok moment
  | _ => .error (failed (label ++ " is missing"))

def microsecondsPerDay : Int := 86400000000

section
variable [Unicode] [Compatibility] [Printing]

/-- A vulnerability as both scanners report it. -/
structure Finding where
  scanner : String
  package : String
  version : String
  vulnerabilityId : String
  severity : String
deriving DecidableEq

def Finding.asDict (finding : Finding) : Json := .obj [
  ("package", .str finding.package), ("scanner", .str finding.scanner),
  ("severity", .str finding.severity), ("version", .str finding.version),
  ("vulnerability_id", .str finding.vulnerabilityId)]

def Finding.identity [Sha256] (finding : Finding) : String := stableRevision finding.asDict

def Finding.key (finding : Finding) : List String :=
  [finding.scanner, finding.package, finding.version, finding.vulnerabilityId, finding.severity]

def upper (text : String) : String := String.ofList (Compatibility.upper text.toList)

def casefold (text : String) : String := String.ofList (Unicode.casefold text.toList)

/-- A missing identity is empty. -/
def advisoryId (vuln : Json) : String :=
  let id := if (vuln.field "id").truthy then vuln.field "id" else .str ""
  upper (String.ofList (Text.strip (str id).toList))

def packageFinding (dependency vuln : Json) : Except Raised Finding := do
  require vuln.isObject (.other "AttributeError")
  let vulnId := advisoryId vuln
  require (vulnId != "") (failed "pip-audit vulnerability has no advisory identity")
  let name ← item dependency "name"
  let version ← item dependency "version"
  let package := (Unicode.casefold (str name).toList).map fun letter =>
    if letter = '_' then '-' else letter
  return ⟨"pip_audit", String.ofList package, str version, vulnId, "UNKNOWN"⟩

def dependencyFindings (dependency : Json) : Except Raised (List Finding) :=
  match dependency.field "vulns" with
  | .arr vulns => vulns.mapM (packageFinding dependency)
  | _ => .error (failed "dependency scan omitted a package vulnerability inventory")

def named : Json → Bool
  | .str text => text != ""
  | _ => false

def containerFinding (vuln : Json) : Except Raised Finding := do
  let row ← expect vuln ["package", "version", "vulnerability_id", "severity", "fixed_version"]
    "container vulnerability"
  let severity := upper (str (row.field "severity"))
  require (severity ∈ severities) (failed "container vulnerability severity is invalid")
  require (["package", "version", "vulnerability_id"].all fun key => named (row.field key))
    (failed "container vulnerability identity is incomplete")
  return ⟨"trivy", casefold (str (row.field "package")), str (row.field "version"),
    upper (str (row.field "vulnerability_id")), severity⟩

def packageFindings (pip : Json) : Except Raised (List (List Finding)) :=
  match pip.field "dependencies" with
  | .arr (first :: others) => (first :: others).mapM dependencyFindings
  | _ => .error (failed "dependency scan has no complete dependency inventory")

def containerFindings (trivy : Json) : Except Raised (List Finding) :=
  match trivy.field "vulnerabilities" with
  | .arr vulnerabilities => vulnerabilities.mapM containerFinding
  | _ => .error (failed "container scan has no complete vulnerability inventory")

def Finding.sorted (findings : List Finding) : List Finding :=
  findings.insertionSort fun first second => first.key ≤ second.key

/-- Both reports of vulnerabilities have a complete inventory. -/
def normalizedFindings (pip trivy : Json) : Except Raised (List Finding) := do
  let packages ← packageFindings pip
  let images ← containerFindings trivy
  return Finding.sorted (packages.flatten ++ images)

end

section
variable [Sha256] [Datetime]

/-- The evidence belongs to one candidate. -/
structure Candidate where
  subject : String
  tree : String
  deployment : String
deriving DecidableEq

structure Disposition where
  finding : Finding
  identity : String
  disposition : String
  reasonCode : String
  evidenceSha256 : String
  expiry : Int
  approvalOwner : String
  candidate : Candidate
deriving DecidableEq

def bindingFields : List String :=
  ["subject_git_sha", "source_tree_sha256", "deployment_fingerprint"]

def Candidate.binds (candidate : Candidate) (binding : Json) : Bool :=
  binding.field "subject_git_sha" == .str candidate.subject &&
    binding.field "source_tree_sha256" == .str candidate.tree &&
      binding.field "deployment_fingerprint" == .str candidate.deployment

def checkBinding (candidate : Candidate) (binding : Json) (label message : String) :
    Except Raised Unit := do
  let bound ← expect binding bindingFields label
  require (candidate.binds bound) (failed message)

/-- An empty list of dispositions needs no binding. -/
def checkBindings (candidate : Candidate) (binding : Json) (rows : List Json) :
    Except Raised Unit :=
  if rows = [] then
    if binding = .null then .ok ()
    else checkBinding candidate binding "empty disposition candidate binding"
      "empty vulnerability disposition source is replayed from another candidate"
  else checkBinding candidate binding "vulnerability disposition candidate binding"
    "vulnerability dispositions are replayed from another candidate"

/-- A list or an object is in no set. -/
def member (names : List String) (message : String) : Json → Except Raised String
  | .str text => if text ∈ names then .ok text else .error (failed message)
  | .arr _ => .error (.other "TypeError")
  | .obj _ => .error (.other "TypeError")
  | _ => .error (failed message)

/-- The findings are found by their identities, and the last of equal ones counts. -/
def findingOf (findings : List Finding) (identity : String) : Option Finding :=
  findings.reverse.find? fun finding => finding.identity == identity

variable (policy : DispositionPolicy) (candidate : Candidate) (findings : List Finding)
  (capturedAt : Int)

/-- An exception for a risk needs a low severity and its own reason. -/
def checkRisk (finding : Finding) (disposition reason : String) : Except Raised Unit :=
  if disposition = "accepted_risk" then do
    require (finding.severity ∈ policy.acceptedRiskSeverities)
      (failed "severity is not eligible for accepted-risk disposition")
    require (reason = "temporary_low_severity_exception")
      (failed "accepted-risk disposition has an invalid reason code")
  else
    require (reason ≠ "temporary_low_severity_exception")
      (failed "not-affected disposition has an invalid reason code")

/-- A disposition is read behind the identities that it must not repeat. -/
def readDisposition (seen : List String) (raw : Json) : Except Raised Disposition := do
  let row ← expect raw ["finding_identity_sha256", "disposition", "reason_code",
    "evidence_sha256", "expires_at", "approval_owner"] "vulnerability disposition"
  let identity ← digest (row.field "finding_identity_sha256") "vulnerability finding identity"
  match findingOf findings identity with
  | none => .error (failed "vulnerability dispositions are omitted, duplicated, or unrelated")
  | some finding => do
    require (decide (identity ∉ seen))
      (failed "vulnerability dispositions are omitted, duplicated, or unrelated")
    let disposition ← member policy.allowed
      "vulnerability disposition is not allowed by policy" (row.field "disposition")
    let reason ← member policy.reasonCodes
      "vulnerability disposition is not allowed by policy" (row.field "reason_code")
    let evidence ← digest (row.field "evidence_sha256")
      "vulnerability disposition evidence identity"
    require (row.field "approval_owner" == .str policy.approvalOwner)
      (failed "vulnerability disposition has no eligible approval owner")
    let expiry ← utc (row.field "expires_at") "vulnerability disposition expiry"
    require (decide (capturedAt < expiry ∧
      expiry ≤ capturedAt + policy.maxVulnerabilityExceptionDays * microsecondsPerDay))
      (failed "vulnerability disposition is stale or exceeds its policy window")
    checkRisk policy finding disposition reason
    return ⟨finding, identity, disposition, reason, evidence, expiry, policy.approvalOwner,
      candidate⟩

def addDisposition (seen : List Disposition) (raw : Json) : Except Raised (List Disposition) := do
  let row ← readDisposition policy candidate findings capturedAt
    (seen.map Disposition.identity) raw
  return seen ++ [row]

/-- Every finding needs one explicit disposition. -/
def validateDispositions (source : Json) : Except Raised (List Disposition) := do
  let doc ← expect source ["schema_version", "policy_id", "candidate_binding", "dispositions"]
    "vulnerability disposition source"
  require (doc.field "schema_version" == .str "1.0" && doc.field "policy_id" == .str policy.id)
    (failed "vulnerability disposition source is not policy-bound")
  match doc.field "dispositions" with
  | .arr rows => do
    checkBindings candidate (doc.field "candidate_binding") rows
    let normalized ← rows.foldlM (addDisposition policy candidate findings capturedAt) []
    require (findings.all fun finding =>
        (normalized.map Disposition.identity).elem finding.identity)
      (failed "every vulnerability finding requires an explicit disposition")
    return normalized.insertionSort fun first second => first.identity ≤ second.identity
  | _ => .error (failed "vulnerability disposition source is not policy-bound")

end

section
variable [Unicode] [Compatibility] [Printing] [Sha256] [Datetime]

/-- The minimized reports of the scanners and the dispositions for their findings. -/
structure Reports where
  pipAudit : Json
  gitleaks : Json
  semgrep : Json
  trivy : Json
  dispositionSource : Json

structure Counts where
  pipAudit : Nat
  gitleaks : Nat
  semgrep : Nat
  trivy : Nat
deriving DecidableEq

/-- What the earlier checks have read from the context and from the head of the image report. -/
structure SecurityContext where
  candidate : Candidate
  capturedAt : Int
  findingCounts : Counts
  errorCounts : Counts
  trivyErrors : Nat

def len : Json → Except Raised Nat
  | .arr items => .ok items.length
  | .str text => .ok text.toList.length
  | .obj fields => .ok fields.length
  | _ => .error (.other "TypeError")

def packageCount (pip : Json) : Except Raised Nat := do
  let dependencies ← tuple (get pip "dependencies" (.arr []))
  let counts ← (dependencies.filter Json.isObject).mapM fun dependency =>
    len (get dependency "vulns" (.arr []))
  return counts.sum

def reportCounts (reports : Reports) : Except Raised Counts := do
  let pipAudit ← packageCount reports.pipAudit
  let gitleaks ← len reports.gitleaks
  let semgrep ← len (get reports.semgrep "results" (.arr []))
  let trivy ← len (get reports.trivy "vulnerabilities" (.arr []))
  return ⟨pipAudit, gitleaks, semgrep, trivy⟩

/-- The part of the evidence that is about findings. -/
structure Evidence where
  counts : Counts
  errors : Counts
  vulnerabilityFindingCount : Nat
  vulnerabilityDispositionCount : Nat
  vulnerabilityDispositions : List Disposition
  unresolvedVulnerabilityCount : Nat
deriving DecidableEq

/-- The derivation of the evidence from its checked context. -/
def deriveSecurityReleaseEvidence (context : SecurityContext) (reports : Reports) :
    Except Raised Evidence := do
  let counts ← reportCounts reports
  let semgrepErrors ← len (get reports.semgrep "errors" (.arr []))
  let errors : Counts := ⟨0, 0, semgrepErrors, context.trivyErrors⟩
  require (decide (context.findingCounts = counts ∧ context.errorCounts = errors))
    (failed "scanner summary disagrees with its minimized report")
  require (decide (counts.gitleaks = 0 ∧ counts.semgrep = 0 ∧ errors.semgrep = 0 ∧
    errors.trivy = 0))
    (failed "secret, static-analysis, or image scanner findings/errors remain")
  let findings ← normalizedFindings reports.pipAudit reports.trivy
  require (decide (findings.map Finding.identity).Nodup)
    (failed "scanner results contain duplicate vulnerability findings")
  let dispositions ← validateDispositions securityReleasePolicy context.candidate findings
    context.capturedAt reports.dispositionSource
  let unresolved := dispositions.countP fun row =>
    !(["accepted_risk", "not_affected"].elem row.disposition)
  return ⟨counts, errors, findings.length, dispositions.length, dispositions, unresolved⟩

end
@[simp] theorem expect_ok {value found : Json} {fields : List String} {label : String} :
    expect value fields label = .ok found ↔ value.hasKeys fields = true ∧ value = found := by
  unfold expect
  cases value.hasKeys fields <;> simp

@[simp] theorem digest_ok {value : Json} {label text : String} :
    digest value label = .ok text ↔ value = .str text ∧ Text.isSha256 text = true :=
  checkedText_ok

@[simp] theorem member_ok {names : List String} {message text : String} {value : Json} :
    member names message value = .ok text ↔ value = .str text ∧ text ∈ names := by
  cases value with
  | str found =>
    simp only [member, Json.str.injEq]
    by_cases known : found ∈ names
    · rw [if_pos known, Except.ok.injEq]
      constructor
      · rintro rfl
        exact ⟨rfl, known⟩
      · exact And.left
    · rw [if_neg known]
      constructor
      · intro refused
        cases refused
      · rintro ⟨rfl, listed⟩
        exact absurd listed known
  | _ => simp [member]

/-- An accepted risk is low and has its own reason, which no other disposition has. -/
structure Risk (policy : DispositionPolicy) (finding : Finding) (disposition reason : String) :
    Prop where
  accepted : disposition = "accepted_risk" → finding.severity ∈ policy.acceptedRiskSeverities ∧
    reason = "temporary_low_severity_exception"
  other : disposition ≠ "accepted_risk" → reason ≠ "temporary_low_severity_exception"

@[simp] theorem checkRisk_ok {policy : DispositionPolicy} {finding : Finding}
    {disposition reason : String} {value : Unit} :
    checkRisk policy finding disposition reason = .ok value ↔
      Risk policy finding disposition reason := by
  unfold checkRisk
  split_ifs with accepted
  · simp only [bind_ok, require_ok, decide_eq_true_eq]
    constructor
    · rintro ⟨_, severity, reason⟩
      exact ⟨fun _ => ⟨severity, reason⟩, fun other => absurd accepted other⟩
    · intro risk
      exact ⟨(), risk.accepted accepted⟩
  · simp only [require_ok, decide_eq_true_eq]
    exact ⟨fun reason => ⟨fun same => absurd same accepted, fun _ => reason⟩,
      fun risk => risk.other accepted⟩

section
variable [Sha256] [Datetime] {policy : DispositionPolicy} {candidate : Candidate}
  {findings : List Finding} {capturedAt : Int}

/-- What a disposition says about its row. -/
structure Reads (policy : DispositionPolicy) (candidate : Candidate) (findings : List Finding)
    (capturedAt : Int) (raw : Json) (row : Disposition) : Prop where
  keys : raw.hasKeys ["finding_identity_sha256", "disposition", "reason_code", "evidence_sha256",
    "expires_at", "approval_owner"] = true
  identity : raw.field "finding_identity_sha256" = .str row.identity ∧
    Text.isSha256 row.identity = true
  finding : findingOf findings row.identity = some row.finding
  disposition : raw.field "disposition" = .str row.disposition ∧ row.disposition ∈ policy.allowed
  reason : raw.field "reason_code" = .str row.reasonCode ∧ row.reasonCode ∈ policy.reasonCodes
  evidence : raw.field "evidence_sha256" = .str row.evidenceSha256 ∧
    Text.isSha256 row.evidenceSha256 = true
  owner : raw.field "approval_owner" = .str policy.approvalOwner
  expiry : utc (raw.field "expires_at") "vulnerability disposition expiry" = .ok row.expiry
  window : capturedAt < row.expiry ∧
    row.expiry ≤ capturedAt + policy.maxVulnerabilityExceptionDays * microsecondsPerDay
  risk : Risk policy row.finding row.disposition row.reasonCode
  bound : row.approvalOwner = policy.approvalOwner ∧ row.candidate = candidate

theorem readDisposition_ok {seen : List String} {raw : Json} {row : Disposition} :
    readDisposition policy candidate findings capturedAt seen raw = .ok row ↔
      Reads policy candidate findings capturedAt raw row ∧ row.identity ∉ seen := by
  unfold readDisposition
  simp only [bind_ok, expect_ok, digest_ok]
  constructor
  · rintro ⟨_, ⟨keys, rfl⟩, identity, identified, rest⟩
    cases found : findingOf findings identity with
    | none =>
      rw [found] at rest
      cases rest
    | some finding =>
      rw [found] at rest
      simp only [bind_ok, require_ok, decide_eq_true_eq, member_ok, checkRisk_ok, pure_ok,
        beq_iff_eq, digest_ok] at rest
      obtain ⟨_, fresh, disposition, allowed, reason, known, evidence, hashed, _, owner, expiry,
        parsed, _, window, _, risk, same⟩ := rest
      rw [← same]
      exact ⟨⟨keys, identified, found, allowed, known, hashed, owner, parsed, window, risk, rfl,
        rfl⟩, fresh⟩
  · rintro ⟨reads, fresh⟩
    refine ⟨raw, ⟨reads.keys, rfl⟩, row.identity, reads.identity, ?_⟩
    rw [reads.finding]
    simp only [bind_ok, require_ok, decide_eq_true_eq, member_ok, checkRisk_ok, pure_ok,
      beq_iff_eq, digest_ok]
    refine ⟨(), fresh, row.disposition, reads.disposition, row.reasonCode, reads.reason,
      row.evidenceSha256, reads.evidence, (), reads.owner, row.expiry, reads.expiry, (),
      reads.window, (), reads.risk, ?_⟩
    rw [← reads.bound.1, ← reads.bound.2]

/-- Two rows are apart when they are about different findings. -/
def Apart (first second : Disposition) : Prop := first.identity ≠ second.identity

theorem addDisposition_ok (seen : List Disposition) (raw : Json) (next : List Disposition) :
    addDisposition policy candidate findings capturedAt seen raw = .ok next ↔
      ∃ row, readDisposition policy candidate findings capturedAt [] raw = .ok row ∧
        (∀ other ∈ seen, Apart other row) ∧ next = seen ++ [row] := by
  simp only [addDisposition, bind_ok, pure_ok, readDisposition_ok, not_mem_nil,
    not_false_eq_true, and_true]
  have fresh (row : Disposition) : row.identity ∉ seen.map Disposition.identity ↔
      ∀ other ∈ seen, Apart other row := by
    rw [mem_map, not_exists]
    exact ⟨fun none other listed same => none other ⟨listed, same⟩,
      fun apart other known => apart other known.1 known.2⟩
  constructor
  · rintro ⟨row, ⟨reads, absent⟩, rfl⟩
    exact ⟨row, reads, (fresh row).mp absent, rfl⟩
  · rintro ⟨row, reads, apart, rfl⟩
    exact ⟨row, ⟨reads, (fresh row).mpr apart⟩, rfl⟩

/-- The rows of an accepted source, in the order of their identities. -/
structure Validated (policy : DispositionPolicy) (candidate : Candidate) (findings : List Finding)
    (capturedAt : Int) (source : Json) (rows : List Disposition) : Prop where
  keys : source.hasKeys ["schema_version", "policy_id", "candidate_binding", "dispositions"] = true
  pinned : (source.field "schema_version" == .str "1.0" &&
    source.field "policy_id" == .str policy.id) = true
  read : ∃ raws found, source.field "dispositions" = .arr raws ∧
    checkBindings candidate (source.field "candidate_binding") raws = .ok () ∧
      raws.foldlM (addDisposition policy candidate findings capturedAt) [] = .ok found ∧
        (findings.all fun finding =>
          (found.map Disposition.identity).elem finding.identity) = true ∧
          rows = found.insertionSort fun first second => first.identity ≤ second.identity

theorem validateDispositions_ok {source : Json} {rows : List Disposition} :
    validateDispositions policy candidate findings capturedAt source = .ok rows ↔
      Validated policy candidate findings capturedAt source rows := by
  unfold validateDispositions
  simp only [bind_ok, expect_ok, require_ok]
  constructor
  · rintro ⟨_, ⟨keys, rfl⟩, _, bound, rest⟩
    cases items : source.field "dispositions" with
    | arr raws =>
      rw [items] at rest
      simp only [bind_ok, require_ok, pure_ok] at rest
      obtain ⟨_, binding, found, looped, _, covered, same⟩ := rest
      exact ⟨keys, bound, raws, found, items, binding, looped, covered, same.symm⟩
    | _ =>
      rw [items] at rest
      cases rest
  · rintro ⟨keys, bound, raws, found, items, binding, looped, covered, same⟩
    refine ⟨source, ⟨keys, rfl⟩, (), bound, ?_⟩
    rw [items]
    simp only [bind_ok, require_ok, pure_ok]
    exact ⟨(), binding, found, looped, (), covered, same.symm⟩

theorem Validated.rows {source : Json} {rows : List Disposition}
    (validated : Validated policy candidate findings capturedAt source rows) :
    (∀ row ∈ rows, ∃ raw, Reads policy candidate findings capturedAt raw row) ∧
      (rows.map Disposition.identity).Nodup ∧
        ∀ finding ∈ findings, finding.identity ∈ rows.map Disposition.identity := by
  obtain ⟨raws, found, items, binding, looped, covered, same⟩ := validated.read
  have split := (foldlM_apart (fun seen _ => addDisposition_ok seen) List.Pairwise.nil).mp looped
  obtain ⟨values, parsed, whole, distinct⟩ := split
  rw [nil_append] at whole
  have sorted : rows.Perm found := same ▸ perm_insertionSort _ found
  refine ⟨?_, ?_, ?_⟩
  · intro row listed
    rw [mapM_forall] at parsed
    obtain ⟨raw, _, reads⟩ := related_item parsed (whole ▸ sorted.mem_iff.mp listed)
    exact ⟨raw, (readDisposition_ok.mp reads).1⟩
  · rw [(sorted.map Disposition.identity).nodup_iff]
    exact pairwise_map.mpr distinct
  · intro finding listed
    have known := all_eq_true.mp covered finding listed
    rw [(sorted.map Disposition.identity).mem_iff]
    simpa using known

omit [Datetime] in
theorem findingOf_some {identity : String} {finding : Finding}
    (found : findingOf findings identity = some finding) :
    finding ∈ findings ∧ finding.identity = identity :=
  ⟨mem_reverse.mp (mem_of_find?_eq_some found), by simpa using find?_some found⟩

theorem Validated.exact {source : Json} {rows : List Disposition}
    (validated : Validated policy candidate findings capturedAt source rows)
    (distinct : (findings.map Finding.identity).Nodup) :
    (rows.map Disposition.finding).Perm findings ∧
      ∀ row ∈ rows, row.identity = row.finding.identity := by
  obtain ⟨each, apart, covered⟩ := validated.rows
  have bound : ∀ row ∈ rows, row.finding ∈ findings ∧ row.finding.identity = row.identity := by
    intro row listed
    obtain ⟨raw, reads⟩ := each row listed
    exact findingOf_some reads.finding
  have same : rows.map Disposition.identity =
      (rows.map Disposition.finding).map Finding.identity := by
    rw [map_map]
    exact map_congr_left fun row listed => (bound row listed).2.symm
  refine ⟨?_, fun row listed => (bound row listed).2.symm⟩
  rw [same] at apart
  rw [perm_ext_iff_of_nodup (List.Nodup.of_map _ apart) (List.Nodup.of_map _ distinct)]
  intro finding
  constructor
  · intro listed
    obtain ⟨row, known, rfl⟩ := mem_map.mp listed
    exact (bound row known).1
  · intro listed
    obtain ⟨row, known, equal⟩ := mem_map.mp (covered finding listed)
    have about := bound row known
    have one := inj_on_of_nodup_map distinct about.1 listed (about.2.trans equal)
    exact mem_map.mpr ⟨row, known, one⟩

end

section
variable [Unicode] [Compatibility] [Printing]

/-- A vulnerability as one scanner reports it. -/
inductive RawFinding where
  | package (dependency vuln : Json)
  | image (vuln : Json)

def RawFinding.normalized : RawFinding → Except Raised Finding
  | .package dependency vuln => packageFinding dependency vuln
  | .image vuln => containerFinding vuln

def items : Json → List Json
  | .arr values => values
  | _ => []

def rawFindings (pip trivy : Json) : List RawFinding :=
  (items (pip.field "dependencies")).flatMap
      (fun dependency => (items (dependency.field "vulns")).map (.package dependency)) ++
    (items (trivy.field "vulnerabilities")).map .image

/-- The dependencies of a complete report are read one by one. -/
theorem dependencyFindings_ok {dependency : Json} {found : List Finding} :
    dependencyFindings dependency = .ok found ↔ ∃ vulns, dependency.field "vulns" = .arr vulns ∧
      vulns.mapM (packageFinding dependency) = .ok found := by
  unfold dependencyFindings
  cases dependency.field "vulns" <;> simp

theorem packageFindings_ok {pip : Json} {found : List (List Finding)} :
    packageFindings pip = .ok found ↔ ∃ dependencies, pip.field "dependencies" = .arr dependencies ∧
      dependencies ≠ [] ∧ dependencies.mapM dependencyFindings = .ok found := by
  unfold packageFindings
  cases pip.field "dependencies" with
  | arr dependencies =>
    cases dependencies with
    | nil => simp
    | cons first others => simp
  | _ => simp

theorem containerFindings_ok {trivy : Json} {found : List Finding} :
    containerFindings trivy = .ok found ↔ ∃ vulnerabilities,
      trivy.field "vulnerabilities" = .arr vulnerabilities ∧
        vulnerabilities.mapM containerFinding = .ok found := by
  unfold containerFindings
  cases trivy.field "vulnerabilities" <;> simp

/-- Both inventories of accepted reports are complete and read. -/
structure Inventories (pip trivy : Json) (findings : List Finding) : Prop where
  read : ∃ packages images, packageFindings pip = .ok packages ∧
    containerFindings trivy = .ok images ∧ findings = Finding.sorted (packages.flatten ++ images)

theorem normalizedFindings_ok {pip trivy : Json} {findings : List Finding} :
    normalizedFindings pip trivy = .ok findings ↔ Inventories pip trivy findings := by
  simp only [normalizedFindings, bind_ok, pure_ok]
  constructor
  · rintro ⟨packages, first, images, second, same⟩
    exact ⟨packages, images, first, second, same.symm⟩
  · rintro ⟨packages, images, first, second, same⟩
    exact ⟨packages, first, images, second, same.symm⟩

theorem Inventories.raw {pip trivy : Json} {findings : List Finding}
    (inventories : Inventories pip trivy findings) :
    ∃ found, (rawFindings pip trivy).mapM RawFinding.normalized = .ok found ∧
      findings.Perm found := by
  obtain ⟨packages, images, package, container, same⟩ := inventories.read
  obtain ⟨dependencies, known, _, first⟩ := packageFindings_ok.mp package
  obtain ⟨vulnerabilities, listed, second⟩ := containerFindings_ok.mp container
  have each : (dependencies.map fun dependency =>
      (items (dependency.field "vulns")).map (RawFinding.package dependency)).mapM
        (fun list => list.mapM RawFinding.normalized) = .ok packages := by
    rw [mapM_forall] at first ⊢
    rw [forall₂_map_left_iff]
    refine first.imp fun dependency found read => ?_
    obtain ⟨vulns, field, parsed⟩ := dependencyFindings_ok.mp read
    rw [mapM_forall] at parsed ⊢
    rw [field, items, forall₂_map_left_iff]
    exact parsed
  have whole := mapM_flatten each
  have image : (vulnerabilities.map RawFinding.image).mapM RawFinding.normalized = .ok images := by
    rw [mapM_forall] at second ⊢
    rw [forall₂_map_left_iff]
    exact second
  refine ⟨packages.flatten ++ images, ?_, same ▸ perm_insertionSort _ _⟩
  rw [mapM_forall] at whole image ⊢
  rw [rawFindings, known, listed, items, items, flatMap_def]
  exact rel_append whole image

omit [Unicode] [Compatibility] [Printing] in
theorem get?_arr {value : Json} {name : String} {found : List Json}
    (known : value.field name = .arr found) : value.get? name = some (.arr found) := by
  rw [Json.field] at known
  cases present : value.get? name with
  | none =>
    rw [present] at known
    cases known
  | some other =>
    rw [present] at known
    exact congrArg some known

omit [Unicode] [Compatibility] [Printing] in
theorem isObject_arr {value : Json} {name : String} {found : List Json}
    (known : value.field name = .arr found) : value.isObject = true := by
  have present := get?_arr known
  cases value with
  | obj fields => rfl
  | _ => cases present

/-- The lists of vulnerabilities of a report. -/
def inventoryCount (pip : Json) : Nat :=
  ((items (pip.field "dependencies")).map fun dependency =>
    (items (dependency.field "vulns")).length).sum

theorem Inventories.packageCount {pip trivy : Json} {findings : List Finding}
    (inventories : Inventories pip trivy findings) :
    packageCount pip = .ok (inventoryCount pip) := by
  obtain ⟨packages, images, package, _⟩ := inventories.read
  obtain ⟨dependencies, known, _, first⟩ := packageFindings_ok.mp package
  have each : ∀ dependency ∈ dependencies, ∃ vulns, dependency.field "vulns" = .arr vulns := by
    intro dependency listed
    rw [mapM_forall] at first
    obtain ⟨found, _, read⟩ := related_item first.flip listed
    obtain ⟨vulns, field, _⟩ := dependencyFindings_ok.mp read
    exact ⟨vulns, field⟩
  have objects : dependencies.filter Json.isObject = dependencies := by
    rw [filter_eq_self]
    intro dependency listed
    obtain ⟨vulns, field⟩ := each dependency listed
    exact isObject_arr field
  have lengths : dependencies.mapM (fun dependency => len (get dependency "vulns" (.arr []))) =
      .ok (dependencies.map fun dependency => (items (dependency.field "vulns")).length) := by
    rw [mapM_forall, forall₂_map_right_iff, forall₂_same]
    intro dependency listed
    obtain ⟨vulns, field⟩ := each dependency listed
    rw [Python.get, get?_arr field, field]
    rfl
  rw [SecurityRelease.packageCount, Python.get, get?_arr known]
  simp only [Option.getD_some, tuple_arr, bind_ok, pure_ok]
  exact ⟨dependencies, rfl, _, by rw [objects]; exact lengths, by rw [inventoryCount, known, items]⟩

omit [Unicode] [Compatibility] [Printing] in
/-- The counts of both reports add up to the raw findings. -/
theorem length_rawFindings (pip trivy : Json) : (rawFindings pip trivy).length =
    inventoryCount pip + (items (trivy.field "vulnerabilities")).length := by
  rw [rawFindings, length_append, length_map, length_flatMap, inventoryCount]
  simp

end

section
variable [Unicode] [Compatibility] [Printing] [Sha256] [Datetime]

/-- Two objects differ in one list only. -/
structure Reorders (key : String) (alike : List Json → List Json → Prop) (first second : Json) :
    Prop where
  objects : first.isObject = true ∧ second.isObject = true
  others : ∀ name, name ≠ key → first.get? name = second.get? name
  lists : ∃ values again, first.field key = .arr values ∧ second.field key = .arr again ∧
    alike values again

/-- The dependencies, the vulnerabilities and the dispositions come in another order. -/
structure Reports.Reordered (reports again : Reports) : Prop where
  dependencies : Reorders "dependencies" (fun values again => ∃ middle,
    List.Forall₂ (Reorders "vulns" List.Perm) values middle ∧ middle.Perm again)
    reports.pipAudit again.pipAudit
  vulnerabilities : Reorders "vulnerabilities" List.Perm reports.trivy again.trivy
  dispositions : Reorders "dispositions" List.Perm reports.dispositionSource again.dispositionSource
  gitleaks : reports.gitleaks = again.gitleaks
  semgrep : reports.semgrep = again.semgrep

variable {key : String} {alike : List Json → List Json → Prop} {first second : Json}

omit [Unicode] [Compatibility] [Printing] [Sha256] [Datetime] in
theorem Reorders.field (reorders : Reorders key alike first second) {name : String}
    (other : name ≠ key) : first.field name = second.field name := by
  rw [Json.field, Json.field, reorders.others name other]

omit [Unicode] [Compatibility] [Printing] [Sha256] [Datetime] in
theorem Reorders.hasKeys (reorders : Reorders key alike first second) {names : List String}
    (keys : first.hasKeys names = true) : second.hasKeys names = true := by
  obtain ⟨values, again, one, other, _⟩ := reorders.lists
  have same : ∀ name, (first.get? name).isSome = (second.get? name).isSome := by
    intro name
    by_cases here : name = key
    · rw [here, get?_arr one, get?_arr other]
      rfl
    · rw [reorders.others name here]
  cases second with
  | obj fields =>
    simp only [Json.hasKeys, Bool.and_eq_true, all_eq_true, decide_eq_true_eq]
    have listed (name : String) : name ∈ fields.map Prod.fst ↔
        ((Json.obj fields).get? name).isSome = true := by
      rw [Json.get?, ← Option.ne_none_iff_isSome, ne_eq, lookup_eq_none_iff]
      constructor
      · intro present absent
        obtain ⟨field, known, equal⟩ := mem_map.mp present
        simpa [equal] using absent field known
      · intro present
        by_contra missing
        refine present fun field known => ?_
        have apart : name ≠ field.1 := fun equal =>
          missing (equal ▸ mem_map_of_mem known)
        simpa using apart
    constructor
    · intro name present
      obtain ⟨value, found⟩ := Option.isSome_iff_exists.mp
        ((same name).trans ((listed name).mp present))
      exact Json.mem_of_hasKeys keys found
    · intro name wanted
      obtain ⟨value, found⟩ := Json.get?_of_hasKeys keys wanted
      rw [listed name, ← same name, found]
      rfl
  | _ => cases reorders.objects.2

omit [Sha256] [Datetime] in
theorem Reorders.dependencyFindings (reorders : Reorders "vulns" List.Perm first second)
    {found : List Finding} (read : dependencyFindings first = .ok found) :
    ∃ again, SecurityRelease.dependencyFindings second = .ok again ∧ found.Perm again := by
  obtain ⟨values, again, one, other, permuted⟩ := reorders.lists
  obtain ⟨vulns, field, parsed⟩ := dependencyFindings_ok.mp read
  have same : vulns = values := Json.arr.inj (field.symm.trans one)
  have share {name : String} (apart : name ≠ "vulns") : item first name = item second name := by
    rw [item, item, reorders.objects.1, reorders.objects.2, reorders.others name apart]
  have alike : packageFinding first = packageFinding second := by
    funext vuln
    rw [packageFinding, packageFinding, share (by decide), share (by decide)]
  rw [same, alike] at parsed
  obtain ⟨rows, parsed', sorted⟩ := mapM_perm permuted parsed
  exact ⟨rows, dependencyFindings_ok.mpr ⟨again, other, parsed'⟩, sorted⟩

omit [Unicode] [Compatibility] [Printing] [Sha256] [Datetime] in
theorem Finding.key_injective {first second : Finding} (same : first.key = second.key) :
    first = second := by
  cases first
  cases second
  simp only [Finding.key, List.cons.injEq, and_true] at same
  obtain ⟨rfl, rfl, rfl, rfl, rfl⟩ := same
  rfl

omit [Unicode] [Compatibility] [Printing] [Sha256] [Datetime] in
/-- Findings in another order are sorted alike. -/
theorem Finding.sorted_perm {found again : List Finding} (same : found.Perm again) :
    Finding.sorted found = Finding.sorted again := by
  have ordered (findings : List Finding) : (Finding.sorted findings).Pairwise
      fun first second => first.key ≤ second.key := pairwise_insertionSort _ _
  refine List.Perm.eq_of_pairwise ?_ (ordered found) (ordered again) ?_
  · intro one other _ _ before after
    exact Finding.key_injective (le_antisymm before after)
  · exact (perm_insertionSort _ _).trans (same.trans (perm_insertionSort _ _).symm)

omit [Sha256] [Datetime] in
/-- Both reports in another order have the same findings. -/
theorem Reports.Reordered.findings {reports again : Reports} (reordered : reports.Reordered again)
    {findings : List Finding}
    (read : normalizedFindings reports.pipAudit reports.trivy = .ok findings) :
    normalizedFindings again.pipAudit again.trivy = .ok findings := by
  obtain ⟨packages, images, package, container, same⟩ := (normalizedFindings_ok.mp read).read
  obtain ⟨dependencies, known, occupied, first⟩ := packageFindings_ok.mp package
  obtain ⟨vulnerabilities, listed, second⟩ := containerFindings_ok.mp container
  obtain ⟨values, others, one, other, middle, related, permuted⟩ := reordered.dependencies.lists
  rw [Json.arr.inj (known.symm.trans one)] at first occupied
  obtain ⟨lists, between, alikes⟩ :=
    mapM_related (fun _ _ _ reorders => reorders.dependencyFindings) related first
  obtain ⟨rows, parsed, turned⟩ := mapM_perm permuted between
  have filled : others ≠ [] := by
    intro empty
    rw [empty] at permuted
    rw [permuted.eq_nil] at related
    exact occupied (forall₂_nil_right_iff.mp related)
  obtain ⟨found, shuffled, here, there, swapped⟩ := reordered.vulnerabilities.lists
  rw [Json.arr.inj (listed.symm.trans here)] at second
  obtain ⟨pictures, scanned, exchanged⟩ := mapM_perm swapped second
  have joined : (packages.flatten ++ images).Perm (rows.flatten ++ pictures) :=
    ((List.Perm.flatten_congr alikes).trans turned.flatten).append exchanged
  refine normalizedFindings_ok.mpr ⟨rows, pictures, ?_, ?_, ?_⟩
  · exact packageFindings_ok.mpr ⟨others, other, filled, parsed⟩
  · exact containerFindings_ok.mpr ⟨shuffled, there, scanned⟩
  · rw [same]
    exact Finding.sorted_perm joined

variable {policy : DispositionPolicy} {candidate : Candidate} {findings : List Finding}
  {capturedAt : Int}

omit [Unicode] [Compatibility] [Printing] [Sha256] [Datetime] in
theorem checkBindings_perm {binding : Json} {raws again : List Json} (same : raws.Perm again) :
    checkBindings candidate binding raws = checkBindings candidate binding again := by
  cases raws with
  | nil => rw [nil_perm.mp same]
  | cons raw raws =>
    cases again with
    | nil => cases same.eq_nil
    | cons other again => rfl

omit [Unicode] [Compatibility] [Printing] [Sha256] [Datetime] in
/-- Rows about different findings are sorted alike. -/
theorem sorted_perm {found again : List Disposition} (distinct : found.Pairwise Apart)
    (same : found.Perm again) :
    found.insertionSort (fun first second => first.identity ≤ second.identity) =
      again.insertionSort fun first second => first.identity ≤ second.identity := by
  have ordered (rows : List Disposition) :
      (rows.insertionSort fun first second => first.identity ≤ second.identity).Pairwise
        fun first second => first.identity ≤ second.identity := pairwise_insertionSort _ _
  refine List.Perm.eq_of_pairwise ?_ (ordered found) (ordered again) ?_
  · intro one other here there before after
    rw [mem_insertionSort] at here there
    exact inj_on_of_nodup_map (pairwise_map.mpr distinct) here
      (same.mem_iff.mpr there) (le_antisymm before after)
  · exact (perm_insertionSort _ _).trans (same.trans (perm_insertionSort _ _).symm)

omit [Unicode] [Compatibility] [Printing] in
/-- Dispositions in another order are the same rows. -/
theorem Reorders.validated (reorders : Reorders "dispositions" List.Perm first second)
    {rows : List Disposition}
    (validated : Validated policy candidate findings capturedAt first rows) :
    Validated policy candidate findings capturedAt second rows := by
  obtain ⟨raws, found, items, binding, looped, covered, same⟩ := validated.read
  obtain ⟨values, again, one, other, permuted⟩ := reorders.lists
  rw [Json.arr.inj (items.symm.trans one)] at binding looped
  obtain ⟨shuffled, turned, exchanged⟩ := foldlM_perm (fun seen _ => addDisposition_ok seen)
    (fun {_ _} => Ne.symm) permuted looped
  obtain ⟨_, _, whole, distinct⟩ :=
    (foldlM_apart (fun seen _ => addDisposition_ok seen) List.Pairwise.nil).mp looped
  refine ⟨reorders.hasKeys validated.keys, ?_, again, shuffled, other, ?_, turned, ?_, ?_⟩
  · rw [← reorders.field (by decide), ← reorders.field (by decide)]
    exact validated.pinned
  · rw [← reorders.field (by decide), ← checkBindings_perm permuted]
    exact binding
  · rw [all_eq_true] at covered ⊢
    intro finding listed
    have known := covered finding listed
    rw [elem_eq_mem, decide_eq_true_eq] at known ⊢
    exact (exchanged.map _).mem_iff.mp known
  · rw [same]
    exact sorted_perm distinct exchanged

omit [Unicode] [Compatibility] [Printing] [Sha256] [Datetime] in
theorem Reorders.inventory (reorders : Reorders "vulns" List.Perm first second) :
    (items (first.field "vulns")).length = (items (second.field "vulns")).length := by
  obtain ⟨values, again, one, other, permuted⟩ := reorders.lists
  rw [one, other]
  exact permuted.length_eq

omit [Unicode] [Compatibility] [Printing] [Sha256] [Datetime] in
theorem Reports.Reordered.inventoryCount {reports again : Reports}
    (reordered : reports.Reordered again) :
    inventoryCount reports.pipAudit = SecurityRelease.inventoryCount again.pipAudit := by
  obtain ⟨values, others, one, other, middle, related, permuted⟩ := reordered.dependencies.lists
  have lengths : values.map (fun dependency => (items (dependency.field "vulns")).length) =
      middle.map fun dependency => (items (dependency.field "vulns")).length := by
    rw [← forall₂_eq_eq_eq, forall₂_map_left_iff, forall₂_map_right_iff]
    exact related.imp fun _ _ reorders => reorders.inventory
  rw [SecurityRelease.inventoryCount, SecurityRelease.inventoryCount, one, other, items, items,
    lengths]
  exact (permuted.map _).sum_nat

end

section
variable [Unicode] [Compatibility] [Printing] [Sha256] [Datetime] {context : SecurityContext}
  {reports again : Reports} {evidence : Evidence}

/-- The checks of an accepted derivation. -/
structure Derived (context : SecurityContext) (reports : Reports) (evidence : Evidence) : Prop where
  counts : reportCounts reports = .ok evidence.counts
  errors : ∃ semgrep, len (get reports.semgrep "errors" (.arr [])) = .ok semgrep ∧
    evidence.errors = ⟨0, 0, semgrep, context.trivyErrors⟩
  summary : context.findingCounts = evidence.counts ∧ context.errorCounts = evidence.errors
  clean : evidence.counts.gitleaks = 0 ∧ evidence.counts.semgrep = 0 ∧
    evidence.errors.semgrep = 0 ∧ evidence.errors.trivy = 0
  findings : ∃ findings, normalizedFindings reports.pipAudit reports.trivy = .ok findings ∧
    (findings.map Finding.identity).Nodup ∧ evidence.vulnerabilityFindingCount = findings.length ∧
      Validated securityReleasePolicy context.candidate findings context.capturedAt
        reports.dispositionSource evidence.vulnerabilityDispositions
  rows : evidence.vulnerabilityDispositionCount = evidence.vulnerabilityDispositions.length ∧
    evidence.unresolvedVulnerabilityCount = evidence.vulnerabilityDispositions.countP fun row =>
      !(["accepted_risk", "not_affected"].elem row.disposition)

theorem derive_ok : deriveSecurityReleaseEvidence context reports = .ok evidence ↔
    Derived context reports evidence := by
  unfold deriveSecurityReleaseEvidence
  simp only [bind_ok, require_ok, decide_eq_true_eq, pure_ok, validateDispositions_ok]
  constructor
  · rintro ⟨counts, counted, semgrep, errors, _, summary, _, clean, findings, read, _, distinct,
      rows, validated, rfl⟩
    exact ⟨counted, ⟨semgrep, errors, rfl⟩, summary, clean, ⟨findings, read, distinct, rfl,
      validated⟩, rfl, rfl⟩
  · rintro ⟨counted, ⟨semgrep, errors, same⟩, summary, clean, ⟨findings, read, distinct, total,
      validated⟩, number, unresolved⟩
    refine ⟨evidence.counts, counted, semgrep, errors, (), ?_, (), ?_, findings, read, (), distinct,
      evidence.vulnerabilityDispositions, validated, ?_⟩
    · rw [← same]
      exact summary
    · rw [same] at clean
      exact clean
    · rw [← same, ← total, ← number, ← unresolved]

/-- The dispositions are an exact cover of the raw findings of both reports. -/
structure Covers (context : SecurityContext) (reports : Reports) (evidence : Evidence) : Prop where
  exact : ∃ findings,
    (rawFindings reports.pipAudit reports.trivy).mapM RawFinding.normalized = .ok findings ∧
      findings.Nodup ∧ (evidence.vulnerabilityDispositions.map Disposition.finding).Perm findings
  identities : ∀ row ∈ evidence.vulnerabilityDispositions, row.identity = row.finding.identity
  risks : ∀ row ∈ evidence.vulnerabilityDispositions, row.disposition = "accepted_risk" →
    (row.finding.severity = "LOW" ∨ row.finding.severity = "MEDIUM") ∧
      row.reasonCode = "temporary_low_severity_exception"
  bound : ∀ row ∈ evidence.vulnerabilityDispositions, row.candidate = context.candidate
  window : ∀ row ∈ evidence.vulnerabilityDispositions, context.capturedAt < row.expiry ∧
    row.expiry ≤ context.capturedAt + 30 * microsecondsPerDay
  findingCount : evidence.vulnerabilityFindingCount =
    evidence.counts.pipAudit + evidence.counts.trivy
  dispositionCount : evidence.vulnerabilityDispositionCount =
    evidence.counts.pipAudit + evidence.counts.trivy
  rawCount : (rawFindings reports.pipAudit reports.trivy).length =
    evidence.counts.pipAudit + evidence.counts.trivy

theorem Derived.rawCount (derived : Derived context reports evidence) :
    evidence.counts.pipAudit = inventoryCount reports.pipAudit ∧
      evidence.counts.trivy = (items (reports.trivy.field "vulnerabilities")).length := by
  obtain ⟨findings, read, _⟩ := derived.findings
  have inventories := normalizedFindings_ok.mp read
  have counted := derived.counts
  simp only [reportCounts, bind_ok, pure_ok, inventories.packageCount] at counted
  obtain ⟨pip, same, gitleaks, _, semgrep, _, trivy, images, whole⟩ := counted
  obtain ⟨packages, pictures, _, container, _⟩ := inventories.read
  obtain ⟨vulnerabilities, listed, _⟩ := containerFindings_ok.mp container
  rw [Python.get, get?_arr listed, Option.getD_some, len] at images
  rw [← whole, listed]
  exact ⟨(Except.ok.inj same).symm, (Except.ok.inj images).symm⟩

theorem Derived.covers (derived : Derived context reports evidence) :
    Covers context reports evidence := by
  obtain ⟨findings, read, distinct, total, validated⟩ := derived.findings
  obtain ⟨found, raw, sorted⟩ := (normalizedFindings_ok.mp read).raw
  obtain ⟨exact, identities⟩ := validated.exact distinct
  obtain ⟨each, _, _⟩ := validated.rows
  have number : (rawFindings reports.pipAudit reports.trivy).length = findings.length := by
    rw [(mapM_forall.mp raw).length_eq, sorted.length_eq]
  have sum : (rawFindings reports.pipAudit reports.trivy).length =
      evidence.counts.pipAudit + evidence.counts.trivy := by
    rw [derived.rawCount.1, derived.rawCount.2, length_rawFindings]
  have rows : evidence.vulnerabilityDispositions.length = findings.length := by
    rw [← exact.length_eq, length_map]
  refine
    { exact := ⟨found, raw, (sorted.nodup_iff).mp (List.Nodup.of_map _ distinct),
        exact.trans sorted⟩
      identities
      risks := ?_
      bound := ?_
      window := ?_
      findingCount := by rw [total, ← number, sum]
      dispositionCount := by rw [derived.rows.1, rows, ← number, sum]
      rawCount := sum }
  · intro row listed accepted
    obtain ⟨_, reads⟩ := each row listed
    have risk := reads.risk.accepted accepted
    exact ⟨by simpa [securityReleasePolicy] using risk.1, risk.2⟩
  · intro row listed
    obtain ⟨_, reads⟩ := each row listed
    exact reads.bound.2
  · intro row listed
    obtain ⟨_, reads⟩ := each row listed
    exact reads.window

/-- Reports in another order give the same evidence. -/
theorem Derived.reordered (derived : Derived context reports evidence)
    (reordered : reports.Reordered again) : Derived context again evidence := by
  obtain ⟨findings, read, distinct, total, validated⟩ := derived.findings
  have turned := reordered.findings read
  refine ⟨?_, ?_, derived.summary, derived.clean, ⟨findings, turned, distinct, total,
    reordered.dispositions.validated validated⟩, derived.rows⟩
  · have counted := derived.counts
    obtain ⟨values, others, one, other, permuted⟩ := reordered.vulnerabilities.lists
    have images : len (get again.trivy "vulnerabilities" (.arr [])) =
        len (get reports.trivy "vulnerabilities" (.arr [])) := by
      rw [Python.get, Python.get, get?_arr one, get?_arr other]
      exact congrArg Except.ok permuted.length_eq.symm
    rw [reportCounts, (normalizedFindings_ok.mp read).packageCount] at counted
    rw [reportCounts, (normalizedFindings_ok.mp turned).packageCount,
      ← reordered.inventoryCount, ← reordered.gitleaks, ← reordered.semgrep, images]
    exact counted
  · rw [← reordered.semgrep]
    exact derived.errors

theorem dispositions_exact
    (derived : deriveSecurityReleaseEvidence context reports = .ok evidence) :
    Covers context reports evidence ∧ ∀ again, reports.Reordered again →
      deriveSecurityReleaseEvidence context again = .ok evidence :=
  ⟨(derive_ok.mp derived).covers,
    fun _ reordered => derive_ok.mpr ((derive_ok.mp derived).reordered reordered)⟩

end

section

@[reducible] def unprintedSecurity : Printing := ⟨fun _ => ""⟩

attribute [local instance] Unicode.basic Compatibility.basic unprintedSecurity Sha256.polynomial
  Datetime.letters

def sampleFinding : Finding := ⟨"pip_audit", "urllib3", "1.0", "PYSEC-1", "UNKNOWN"⟩

def sampleCandidate : Candidate := ⟨"subject", "tree", "deployment"⟩

def sampleContext : SecurityContext :=
  ⟨sampleCandidate, 0, ⟨1, 0, 0, 0⟩, ⟨0, 0, 0, 0⟩, 0⟩

/-- One dependency has one vulnerability, which does not affect the candidate. -/
def sampleReports : Reports where
  pipAudit := .obj [("dependencies", .arr [.obj [("name", .str "urllib3"),
    ("version", .str "1.0"), ("vulns", .arr [.obj [("id", .str "pysec-1")]])]])]
  gitleaks := .arr []
  semgrep := .obj [("errors", .arr []), ("results", .arr [])]
  trivy := .obj [("vulnerabilities", .arr [])]
  dispositionSource := .obj [("candidate_binding", .obj [
      ("deployment_fingerprint", .str "deployment"), ("source_tree_sha256", .str "tree"),
      ("subject_git_sha", .str "subject")]),
    ("dispositions", .arr [.obj [("approval_owner", .str "kimhw8084"),
      ("disposition", .str "not_affected"), ("evidence_sha256", .str sampleFinding.identity),
      ("expires_at", .str "s"), ("finding_identity_sha256", .str sampleFinding.identity),
      ("reason_code", .str "upstream_disputed")]]),
    ("policy_id", .str "kimhw8084-k-slide-security-release"), ("schema_version", .str "1.0")]

def sampleEvidence : Evidence where
  counts := ⟨1, 0, 0, 0⟩
  errors := ⟨0, 0, 0, 0⟩
  vulnerabilityFindingCount := 1
  vulnerabilityDispositionCount := 1
  vulnerabilityDispositions := [⟨sampleFinding, sampleFinding.identity, "not_affected",
    "upstream_disputed", sampleFinding.identity, 1, "kimhw8084", sampleCandidate⟩]
  unresolvedVulnerabilityCount := 0

theorem sample_exact : Covers sampleContext sampleReports sampleEvidence ∧
    ∀ again, sampleReports.Reordered again →
      deriveSecurityReleaseEvidence sampleContext again = .ok sampleEvidence :=
  dispositions_exact (by decide +kernel)

end

end SecurityRelease
end KSlide
