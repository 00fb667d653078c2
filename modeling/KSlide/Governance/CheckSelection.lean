import KSlide.Governance.CheckRuns

/-
This file proves which jobs represent the required checks and that nothing else counts.
-/

namespace KSlide
open List

namespace Json

/-- Two objects agree on all fields but these. -/
def SameBut (keys : List String) (first second : Json) : Prop :=
  (∀ names, first.hasKeys names = second.hasKeys names) ∧
    ∀ key, key ∉ keys → first.field key = second.field key

theorem SameBut.symm {keys : List String} {first second : Json} (same : SameBut keys first second) :
    SameBut keys second first :=
  ⟨fun names => (same.1 names).symm, fun key other => (same.2 key other).symm⟩

/-- Two objects agree but for the order of one list. -/
def Reordered (key : String) (first second : Json) : Prop :=
  SameBut [key] first second ∧ ∃ rows others, first.field key = .arr rows ∧
    second.field key = .arr others ∧ rows.Perm others

theorem Reordered.symm {key : String} {first second : Json} (same : Reordered key first second) :
    Reordered key second first := by
  obtain ⟨agree, rows, others, one, two, permuted⟩ := same
  exact ⟨agree.symm, others, rows, two, one, permuted.symm⟩

/-- The second object has one more item. -/
def Extended (key : String) (item first second : Json) : Prop :=
  SameBut [key] first second ∧ ∃ rows others, first.field key = .arr rows ∧
    second.field key = .arr others ∧ others.Perm (item :: rows)

end Json

namespace Governance

theorem expectKeys_ok {value : Json} {keys : List String} {code : String} :
    expectKeys value keys code = .ok () ↔ value.hasKeys keys = true := require_ok _ _ _

theorem listOf_ok {value : Json} {code : String} {rows : List Json} :
    listOf code value = .ok rows ↔ value = .arr rows := by
  cases value <;> simp [listOf]

theorem completeList_ok {value : Json} {flag items code : String} {rows : List Json} :
    completeList value flag items code = .ok rows ↔
      value.field flag = .bool true ∧ value.field items = .arr rows := by
  unfold completeList
  simp only [bind_ok, require_ok, decide_eq_true_eq, listOf_ok, exists_const]

section
variable {Read : Type} {add : List Read → Json → Except Raised (List Read)}
  {read : Json → Except Raised Read} {apart : Read → Read → Prop} {value other : Json}
  {code incomplete : String} {found : List Read}

/-- A snapshot is a complete list of items. -/
def readList (code incomplete : String) (add : List Read → Json → Except Raised (List Read))
    (value : Json) : Except Raised (List Read) := do
  expectKeys value ["complete", "items"] code
  let items ← completeList value "complete" "items" incomplete
  items.foldlM add []

variable (step : ∀ seen item next, add seen item = .ok next ↔ ∃ value,
  read item = .ok value ∧ (∀ other ∈ seen, apart other value) ∧ next = seen ++ [value])
include step

theorem readList_ok : readList code incomplete add value = .ok found ↔
    value.hasKeys ["complete", "items"] = true ∧ value.field "complete" = .bool true ∧
      ∃ rows, value.field "items" = .arr rows ∧ rows.mapM read = .ok found ∧
        found.Pairwise apart := by
  unfold readList
  simp only [bind_ok, completeList_ok, foldlM_apart (fun seen _ => step seen) List.Pairwise.nil,
    nil_append]
  constructor
  · rintro ⟨_, keys, rows, ⟨complete, listed⟩, _, parsed, rfl, distinct⟩
    exact ⟨expectKeys_ok.mp keys, complete, rows, listed, parsed, distinct⟩
  · rintro ⟨keys, complete, rows, listed, parsed, distinct⟩
    exact ⟨(), expectKeys_ok.mpr keys, rows, ⟨complete, listed⟩, found, parsed, rfl, distinct⟩

theorem readList_reordered (symmetric : ∀ {first second}, apart first second → apart second first)
    (same : Json.Reordered "items" value other)
    (known : readList code incomplete add value = .ok found) :
    ∃ again, readList code incomplete add other = .ok again ∧ found.Perm again := by
  obtain ⟨agree, rows, others, one, two, permuted⟩ := same
  obtain ⟨keys, complete, items, listed, parsed, distinct⟩ := (readList_ok step).mp known
  rw [one] at listed
  cases listed
  obtain ⟨again, parsed', permuted'⟩ := mapM_perm permuted parsed
  refine ⟨again, (readList_ok step).mpr ⟨?_, ?_, others, two, parsed', ?_⟩, permuted'⟩
  · rw [← agree.1, keys]
  · rw [← agree.2 "complete" (by decide), complete]
  · exact (permuted'.pairwise_iff symmetric).mp distinct

end

section
variable {headSha : String} {checks again : List CheckRun} {catalog : List Workflow}
  {value other : Json}

def readCheck (headSha : String) (raw : Json) : Except Raised CheckRun := do
  let id ← readCheckId raw
  let facts ← readCheckFacts headSha raw
  return ⟨id, facts⟩

theorem addCheck_ok (seen : List CheckRun) (raw : Json) (next : List CheckRun) :
    addCheck headSha seen raw = .ok next ↔ ∃ check, readCheck headSha raw = .ok check ∧
      (∀ other ∈ seen, other.id ≠ check.id) ∧ next = seen ++ [check] := by
  unfold addCheck readCheck
  simp only [bind_ok, require_ok, pure_ok, decide_eq_true_eq, mem_map, not_exists, not_and]
  constructor
  · rintro ⟨id, named, _, fresh, facts, read, same⟩
    exact ⟨⟨id, facts⟩, ⟨id, named, facts, read, rfl⟩, fresh, same.symm⟩
  · rintro ⟨check, ⟨id, named, facts, read, rfl⟩, fresh, same⟩
    exact ⟨id, named, (), fresh, facts, read, same.symm⟩

theorem addWorkflow_ok (seen : List Workflow) (raw : Json) (next : List Workflow) :
    addWorkflow seen raw = .ok next ↔ ∃ workflow, readWorkflow raw = .ok workflow ∧
      (∀ other ∈ seen, other.id ≠ workflow.id ∧ other.path ≠ workflow.path) ∧
        next = seen ++ [workflow] := by
  unfold addWorkflow
  simp only [bind_ok, require_ok, pure_ok, decide_eq_true_eq]
  constructor
  · rintro ⟨workflow, read, _, fresh, same⟩
    exact ⟨workflow, read, fresh, same.symm⟩
  · rintro ⟨workflow, read, fresh, same⟩
    exact ⟨workflow, read, (), fresh, same.symm⟩

theorem readChecks_ok : readChecks headSha value = .ok checks ↔
    value.hasKeys ["complete", "items"] = true ∧ value.field "complete" = .bool true ∧
      ∃ rows, value.field "items" = .arr rows ∧ rows.mapM (readCheck headSha) = .ok checks ∧
        checks.Pairwise fun first second => first.id ≠ second.id := readList_ok addCheck_ok

/-- The check of an identifier. -/
def checkTable (checks : List CheckRun) (id : Int) : Option CheckRun := checks.find? (·.id == id)

def workflowTable (catalog : List Workflow) (id : Int) : Option Workflow :=
  catalog.find? (·.id == id)

theorem readChecks_reordered (same : Json.Reordered "items" value other)
    (read : readChecks headSha value = .ok checks) :
    ∃ again, readChecks headSha other = .ok again ∧ checkTable checks = checkTable again := by
  obtain ⟨again, parsed, permuted⟩ := readList_reordered addCheck_ok Ne.symm same read
  obtain ⟨-, -, _, -, -, distinct⟩ := readChecks_ok.mp read
  exact ⟨again, parsed, funext fun id => find?_perm distinct permuted id⟩

theorem readCatalog_reordered (same : Json.Reordered "items" value other)
    (read : readCatalog value = .ok catalog) :
    ∃ again, readCatalog other = .ok again ∧ workflowTable catalog = workflowTable again := by
  obtain ⟨again, parsed, permuted⟩ :=
    readList_reordered addWorkflow_ok (fun apart => ⟨apart.1.symm, apart.2.symm⟩) same read
  obtain ⟨-, -, _, -, -, distinct⟩ := (readList_ok addWorkflow_ok).mp read
  have ids := distinct.imp fun {_ _} apart => apart.1
  exact ⟨again, parsed, funext fun id => find?_perm ids permuted id⟩

end

section
variable {scope : CheckScope} {table others : Int → Option CheckRun} {run : RunHeader}
  {job : WorkflowJob} {jobs again : List (WorkflowJob × Option WorkflowAuthorization)}
  {authorization : Option WorkflowAuthorization} {raw : Json} {rows : List Json} {ids : JobIds}

def readEntry (scope : CheckScope) (table : Int → Option CheckRun) (run : RunHeader) (raw : Json) :
    Except Raised (WorkflowJob × Option WorkflowAuthorization) := do
  let ids ← readJobIds raw
  let job ← readJob scope table run ids raw
  let authorization ← qualify run job
  return (job, authorization)

/-- What a job says of itself, of its run and of its check. -/
structure JobBound (scope : CheckScope) (table : Int → Option CheckRun)
    (run : RunHeader) (ids : JobIds) (job : WorkflowJob) : Prop where
  jobId : job.jobId = ids.jobId
  attempt : job.attempt = ids.attempt
  runId : ids.runId = run.runId
  checkId : ids.jobId = ids.checkId
  within : ids.attempt ≤ run.attempt
  check : table ids.checkId = some job.check
  facts : job.check.facts = job.facts
  head : ∃ code, sha code job.facts.headSha = .ok scope.headSha

theorem readFacts_head {headSha code headCode wrongCode nameKey : String} {facts : CheckFacts}
    (read : readFacts headSha code headCode wrongCode nameKey raw = .ok facts) :
    sha headCode facts.headSha = .ok headSha := by
  unfold readFacts at read
  simp only [bind_ok, require_ok, pure_ok, decide_eq_true_eq] at read
  obtain ⟨head, known, _, same, name, -, status, -, conclusion, -, app, -, slug, -, equal⟩ := read
  rw [← equal, ← same]
  exact known

theorem readJob_bound (read : readJob scope table run ids raw = .ok job) :
    JobBound scope table run ids job := by
  unfold readJob at read
  simp only [bind_ok, require_ok, pure_ok, decide_eq_true_eq, Bool.and_eq_true] at read
  obtain ⟨_, bound, facts, stated, name, -, check, found, _, same, equal⟩ := read
  unfold checkOf at found
  split at found
  · rename_i known table
    cases found
    rw [← equal]
    exact ⟨rfl, rfl, bound.1.1, bound.1.2, bound.2, table, same, _, readFacts_head stated⟩
  · cases found

theorem addJob_ok (seen : List (WorkflowJob × Option WorkflowAuthorization)) (raw : Json)
    (next : List (WorkflowJob × Option WorkflowAuthorization)) :
    addJob scope table run seen raw = .ok next ↔ ∃ entry, readEntry scope table run raw = .ok entry ∧
      (∀ other ∈ seen, (other.1.attempt, other.1.jobId) ≠ (entry.1.attempt, entry.1.jobId)) ∧
        next = seen ++ [entry] := by
  unfold addJob readEntry
  simp only [bind_ok, require_ok, pure_ok, decide_eq_true_eq, mem_map, not_exists, not_and]
  constructor
  · rintro ⟨ids, named, _, fresh, job, read, authorization, qualified, same⟩
    have bound := readJob_bound read
    refine ⟨(job, authorization), ⟨ids, named, job, read, authorization, qualified, rfl⟩, ?_,
      same.symm⟩
    rw [bound.jobId, bound.attempt]
    exact fresh
  · rintro ⟨entry, ⟨ids, named, job, read, authorization, qualified, rfl⟩, fresh, same⟩
    have bound := readJob_bound read
    rw [bound.jobId, bound.attempt] at fresh
    exact ⟨ids, named, (), fresh, job, read, authorization, qualified, same.symm⟩

/-- The jobs of a run with their authorizations. -/
def readJobs (scope : CheckScope) (table : Int → Option CheckRun) (run : RunHeader)
    (raw : Json) : Except Raised (List (WorkflowJob × Option WorkflowAuthorization)) := do
  let items ← completeList raw "jobs_complete" "jobs" "WORKFLOW_JOB_SNAPSHOT_INCOMPLETE"
  items.foldlM (addJob scope table run) []

/-- Two jobs of a run have different attempts or different identifiers. -/
def JobsApart (first second : WorkflowJob × Option WorkflowAuthorization) : Prop :=
  (first.1.attempt, first.1.jobId) ≠ (second.1.attempt, second.1.jobId)

theorem readJobs_ok : readJobs scope table run raw = .ok jobs ↔
    raw.field "jobs_complete" = .bool true ∧ ∃ rows, raw.field "jobs" = .arr rows ∧
      rows.mapM (readEntry scope table run) = .ok jobs ∧ jobs.Pairwise JobsApart := by
  unfold readJobs
  simp only [bind_ok, completeList_ok, foldlM_apart (fun seen _ => addJob_ok seen) List.Pairwise.nil,
    nil_append]
  constructor
  · rintro ⟨rows, ⟨complete, listed⟩, _, parsed, rfl, distinct⟩
    exact ⟨complete, rows, listed, parsed, distinct⟩
  · rintro ⟨complete, rows, listed, parsed, distinct⟩
    exact ⟨rows, ⟨complete, listed⟩, jobs, parsed, rfl, distinct⟩

theorem readJobs_reordered {other : Json} (same : Json.Reordered "jobs" raw other)
    (read : readJobs scope table run raw = .ok jobs) :
    ∃ again, readJobs scope table run other = .ok again ∧ jobs.Perm again := by
  obtain ⟨agree, rows, others, one, two, permuted⟩ := same
  obtain ⟨complete, items, listed, parsed, distinct⟩ := readJobs_ok.mp read
  rw [one] at listed
  cases listed
  obtain ⟨again, parsed', permuted'⟩ := mapM_perm permuted parsed
  refine ⟨again, readJobs_ok.mpr ⟨?_, others, two, parsed', ?_⟩, permuted'⟩
  · rw [← agree.2 "jobs_complete" (by decide), complete]
  · exact (permuted'.pairwise_iff fun {_ _} => Ne.symm).mp distinct

theorem qualify_push (pushed : run.event = "push") (known : qualify run job = .ok authorization) :
    authorization = none := by
  unfold qualify at known
  by_cases older : job.attempt ≠ run.attempt
  · rw [if_pos older] at known
    cases known
    rfl
  · rw [if_neg older, if_pos pushed] at known
    cases known
    rfl

theorem qualify_older (older : job.attempt ≠ run.attempt) : qualify run job = .ok none := by
  rw [qualify, if_pos older]

theorem int_field {code : String} {minimum value : Int} {number : Json}
    (read : int code minimum number = .ok value) : number = .int value := by
  unfold int at read
  split at read
  · split at read
    · cases read
      rfl
    · cases read
  · cases read

theorem readJobIds_fields (read : readJobIds raw = .ok ids) :
    raw.field "run_attempt" = .int ids.attempt ∧ raw.field "job_id" = .int ids.jobId ∧
      raw.field "check_run_id" = .int ids.checkId := by
  unfold readJobIds at read
  simp only [bind_ok, pure_ok] at read
  obtain ⟨_, -, runId, -, jobId, job, checkId, check, attempt, tried, same⟩ := read
  rw [← same]
  exact ⟨int_field tried, int_field job, int_field check⟩

theorem readEntry_ok {entry : WorkflowJob × Option WorkflowAuthorization} :
    readEntry scope table run raw = .ok entry ↔ ∃ ids, readJobIds raw = .ok ids ∧
      readJob scope table run ids raw = .ok entry.1 ∧ qualify run entry.1 = .ok entry.2 := by
  unfold readEntry
  simp only [bind_ok, pure_ok]
  constructor
  · rintro ⟨ids, named, job, read, authorization, qualified, rfl⟩
    exact ⟨ids, named, read, qualified⟩
  · rintro ⟨ids, named, read, qualified⟩
    exact ⟨ids, named, entry.1, read, entry.2, qualified, rfl⟩

/-- An added job is well formed, belongs to an earlier attempt and has a key of its own. -/
structure OlderJob (scope : CheckScope) (table : Int → Option CheckRun) (run : RunHeader)
    (rows : List Json) (raw : Json) : Prop where
  read : ∃ ids job, readJobIds raw = .ok ids ∧ readJob scope table run ids raw = .ok job ∧
    job.attempt < run.attempt
  fresh : ∀ other ∈ rows, other.field "run_attempt" ≠ raw.field "run_attempt" ∨
    other.field "job_id" ≠ raw.field "job_id"

/-- A job of an earlier attempt adds a job that does not count. -/
theorem readJobs_extended {other item : Json} {rows : List Json}
    (extended : Json.Extended "jobs" item raw other) (listed : raw.field "jobs" = .arr rows)
    (older : OlderJob scope table run rows item) : ∃ job : WorkflowJob,
    (∀ jobs, readJobs scope table run raw = .ok jobs → ∃ again,
      readJobs scope table run other = .ok again ∧ ((job, none) :: jobs).Perm again) ∧
    ∀ again, readJobs scope table run other = .ok again → ∃ jobs,
      readJobs scope table run raw = .ok jobs ∧ ((job, none) :: jobs).Perm again := by
  obtain ⟨agree, items, others, one, two, permuted⟩ := extended
  rw [listed] at one
  cases one
  obtain ⟨⟨ids, job, named, read, below⟩, fresh⟩ := older
  have entry : readEntry scope table run item = .ok (job, none) :=
    readEntry_ok.mpr ⟨ids, named, read, qualify_older (ne_of_lt below)⟩
  have complete : raw.field "jobs_complete" = other.field "jobs_complete" :=
    agree.2 "jobs_complete" (by decide)
  refine ⟨job, ?_, ?_⟩
  · intro jobs known
    obtain ⟨whole, rows', listed', parsed, distinct⟩ := readJobs_ok.mp known
    rw [listed] at listed'
    cases listed'
    have longer : (item :: rows).mapM (readEntry scope table run) = .ok ((job, none) :: jobs) := by
      rw [mapM_cons, entry, parsed]
      rfl
    obtain ⟨again, parsed', permuted'⟩ := mapM_perm permuted.symm longer
    have apart : ((job, none) :: jobs).Pairwise JobsApart := by
      refine pairwise_cons.mpr ⟨fun found inside same => ?_, distinct⟩
      obtain ⟨row, known, read'⟩ := related_item (mapM_forall.mp parsed) inside
      obtain ⟨ids', named', job', -⟩ := readEntry_ok.mp read'
      have bound := readJob_bound read
      have bound' := readJob_bound job'
      have fields := readJobIds_fields named
      have fields' := readJobIds_fields named'
      have equal : (job.attempt, job.jobId) = (found.1.attempt, found.1.jobId) := same
      rw [Prod.mk.injEq, bound.attempt, bound.jobId, bound'.attempt, bound'.jobId] at equal
      rcases fresh row known with other | other
      · exact other (by rw [fields.1, fields'.1, equal.1])
      · exact other (by rw [fields.2.1, fields'.2.1, equal.2])
    refine ⟨again, readJobs_ok.mpr ⟨complete ▸ whole, others, two, parsed', ?_⟩, permuted'⟩
    exact (permuted'.pairwise_iff fun {_ _} => Ne.symm).mp apart
  · intro again known
    obtain ⟨whole, rows', listed', parsed, distinct⟩ := readJobs_ok.mp known
    rw [two] at listed'
    cases listed'
    obtain ⟨found, parsed', permuted'⟩ := mapM_perm permuted parsed
    rw [mapM_cons, entry] at parsed'
    simp only [bind_ok, pure_ok] at parsed'
    obtain ⟨_, first, jobs, rest, rfl⟩ := parsed'
    cases first
    have apart := (permuted'.pairwise_iff fun {_ _} => Ne.symm).mp distinct
    exact ⟨jobs, readJobs_ok.mpr ⟨complete ▸ whole, rows, listed, rest,
      (pairwise_cons.mp apart).2⟩, permuted'.symm⟩

end

section
variable [Unicode] {scope : CheckScope} {table : Int → Option CheckRun}
  {catalog : Int → Option Workflow} {raw other : Json} {run : WorkflowRun} {header : RunHeader}
  {ids : Int × Int × Int}

def readRun (scope : CheckScope) (table : Int → Option CheckRun) (catalog : Int → Option Workflow)
    (raw : Json) : Except Raised WorkflowRun := do
  let ids ← readRunId raw
  let header ← readHeader scope catalog ids raw
  let jobs ← readJobs scope table header raw
  return ⟨header, jobs⟩

omit [Unicode] in
/-- Every association that is accepted is the one of the pull request. -/
theorem readAssociations_true {value : Json} {associated : Bool}
    (read : readAssociations scope value = .ok associated) : associated = true := by
  unfold readAssociations at read
  simp only [bind_ok, pure_ok] at read
  obtain ⟨associations, -, seen, looped, same⟩ := read
  have kept : ∀ {items : List Json} {start final : List (Int × String)},
      items.foldlM (addAssociation scope) start = .ok final → start ≠ [] → final ≠ [] := by
    intro items
    induction items with
    | nil =>
      intro start final read occupied
      cases read
      exact occupied
    | cons item rest ih =>
      intro start final read occupied
      rw [foldlM_cons, bind_ok] at read
      obtain ⟨next, first, later⟩ := read
      apply ih later
      unfold addAssociation at first
      simp only [bind_ok, pure_ok] at first
      obtain ⟨_, -, _, -, _, -, _, -, _, -, _, -, same⟩ := first
      rw [← same]
      simp
  cases associations with
  | nil => exact same.symm
  | cons item rest =>
    rw [foldlM_cons, bind_ok] at looped
    obtain ⟨next, first, later⟩ := looped
    unfold addAssociation at first
    simp only [bind_ok, pure_ok] at first
    obtain ⟨_, -, number, -, head, -, _, -, _, -, _, -, added⟩ := first
    have occupied : seen ≠ [] := kept later (by rw [← added]; simp)
    rw [← same]
    cases seen with
    | nil => exact absurd rfl occupied
    | cons top others => rfl

/-- A header repeats the identifiers of its run. -/
theorem readHeader_ids (read : readHeader scope catalog ids raw = .ok header) :
    header.runId = ids.1 ∧ header.attempt = ids.2.2 ∧ header.associated = true := by
  unfold readHeader at read
  simp only [bind_ok, pure_ok] at read
  obtain ⟨_, -, _, -, _, -, _, -, _, -, _, -, _, -, _, -, _, -, _, -, _, -, _, -, associated, linked,
    same⟩ := read
  rw [← same]
  exact ⟨rfl, rfl, readAssociations_true linked⟩

theorem addRun_ok (seen : List WorkflowRun) (raw : Json) (next : List WorkflowRun) :
    addRun scope table catalog seen raw = .ok next ↔
      ∃ run, readRun scope table catalog raw = .ok run ∧
        (∀ other ∈ seen, other.header.runId ≠ run.header.runId) ∧ next = seen ++ [run] := by
  unfold addRun readRun readJobs
  simp only [bind_ok, require_ok, pure_ok, decide_eq_true_eq, mem_map, not_exists, not_and]
  constructor
  · rintro ⟨ids, named, _, fresh, header, read, rows, listed, jobs, looped, same⟩
    refine ⟨⟨header, jobs⟩, ⟨ids, named, header, read, jobs, ⟨rows, listed, looped⟩, rfl⟩, ?_,
      same.symm⟩
    rw [(readHeader_ids read).1]
    exact fresh
  · rintro ⟨run, ⟨ids, named, header, read, jobs, ⟨rows, listed, looped⟩, rfl⟩, fresh, same⟩
    rw [(readHeader_ids read).1] at fresh
    exact ⟨ids, named, (), fresh, header, read, rows, listed, jobs, looped, same.symm⟩

variable (scope catalog ids) in
/-- The jobs of a run do not change what else is read of it. -/
theorem readHeader_same (same : Json.SameBut ["jobs"] raw other) :
    readRunId raw = readRunId other ∧
      readHeader scope catalog ids raw = readHeader scope catalog ids other := by
  constructor
  · simp only [readRunId, expectKeys, same.1, same.2 "run_id" (by decide),
      same.2 "workflow_id" (by decide), same.2 "run_attempt" (by decide)]
  · simp only [readHeader, same.2 "repository_id" (by decide),
      same.2 "repository_full_name" (by decide), same.2 "workflow_path" (by decide),
      same.2 "workflow_name" (by decide), same.2 "head_sha" (by decide), same.2 "event" (by decide),
      same.2 "status" (by decide), same.2 "conclusion" (by decide),
      same.2 "pull_requests" (by decide)]

theorem readRun_ok : readRun scope table catalog raw = .ok run ↔
    ∃ ids, readRunId raw = .ok ids ∧ readHeader scope catalog ids raw = .ok run.header ∧
      readJobs scope table run.header raw = .ok run.jobs := by
  unfold readRun
  simp only [bind_ok, pure_ok]
  constructor
  · rintro ⟨ids, named, header, read, jobs, listed, same⟩
    rw [← same]
    exact ⟨ids, named, read, listed⟩
  · rintro ⟨ids, named, read, listed⟩
    exact ⟨ids, named, run.header, read, run.jobs, listed, rfl⟩

/-- The matches of one run. -/
def runMatches (run : WorkflowRun) (context : String) : List RunMatch :=
  run.jobs.filterMap fun entry =>
    if entry.1.name = context then entry.2.map fun authorization =>
      ⟨run.header, entry.1, authorization⟩
    else none

/-- Two runs count alike. -/
def Alike (first second : WorkflowRun) : Prop :=
  first.header = second.header ∧
    ∀ context, (runMatches first context).Perm (runMatches second context)

/-- The jobs of a run may stand in another order. -/
def JobsReordered (raw other : Json) : Prop := raw = other ∨ Json.Reordered "jobs" raw other

theorem readRun_reordered (same : JobsReordered raw other)
    (read : readRun scope table catalog raw = .ok run) :
    ∃ again, readRun scope table catalog other = .ok again ∧ Alike run again := by
  rcases same with same | same
  · exact ⟨run, same ▸ read, rfl, fun _ => List.Perm.refl _⟩
  · obtain ⟨ids, named, header, listed⟩ := readRun_ok.mp read
    obtain ⟨jobs, listed', permuted⟩ := readJobs_reordered same listed
    obtain ⟨equal, equal'⟩ := readHeader_same scope catalog ids same.1
    refine ⟨⟨run.header, jobs⟩, readRun_ok.mpr ⟨ids, equal ▸ named, equal' ▸ header, listed'⟩, rfl, ?_⟩
    exact fun context => permuted.filterMap _

variable {runs again : List WorkflowRun}

omit [Unicode] in
theorem runsByContext_alike (alike : List.Forall₂ Alike runs again) (context : String) :
    (runsByContext runs context).Perm (runsByContext again context) := by
  induction alike with
  | nil => exact List.Perm.refl _
  | @cons first second runs again head tail ih =>
    unfold runsByContext at ih ⊢
    rw [flatMap_cons, flatMap_cons]
    exact (head.2 context).append ih

omit [Unicode] in
theorem apart_alike (alike : List.Forall₂ Alike runs again)
    (distinct : runs.Pairwise fun first second => first.header.runId ≠ second.header.runId) :
    again.Pairwise fun first second => first.header.runId ≠ second.header.runId := by
  have headers : runs.map (·.header.runId) = again.map (·.header.runId) := by
    induction alike with
    | nil => rfl
    | @cons first second runs again head tail ih =>
      rw [map_cons, map_cons, head.1, ih (pairwise_cons.mp distinct).2]
  have known := pairwise_map.mpr distinct
  rw [headers] at known
  exact pairwise_map.mp known

omit [Unicode] in
theorem selectChecks_congr [Sha256]
    (same : ∀ context, (runsByContext runs context).Perm (runsByContext again context)) :
    selectChecks scope runs = selectChecks scope again := by
  have each : selectRun runs = selectRun again := by
    funext context
    have permuted := same context
    have size := permuted.length_eq
    unfold selectRun
    cases one : runsByContext runs context with
    | nil =>
      rw [one] at permuted
      rw [permuted.nil_eq]
    | cons first rest =>
      rw [one] at permuted size
      cases two : runsByContext again context with
      | nil =>
        rw [two] at permuted
        cases permuted.eq_nil
      | cons second others =>
        rw [two] at permuted size
        cases rest with
        | nil =>
          cases others with
          | nil => rw [perm_singleton.mp permuted.symm]
          | cons next more => cases size
        | cons next more =>
          cases others with
          | nil => cases size
          | cons last final => rfl
  unfold selectChecks
  rw [each]

/-- A snapshot of runs belongs to the candidate. -/
def Provenance (scope : CheckScope) (value : Json) : Prop :=
  value.hasKeys ["complete", "repository_id", "repository_full_name", "subject_sha",
    "pull_request_number", "pull_request_head_sha", "workflow_catalog", "items"] = true ∧
    value.field "complete" = .bool true ∧ bindProvenance scope value = .ok ()

variable {checks : List CheckRun} {workflows : List Workflow} {value : Json} {rows : List Json}

/-- The runs are read with the checks and the workflows of their snapshots. -/
def RunsRead (scope : CheckScope) (checks : List CheckRun) (workflows : List Workflow)
    (rows : List Json) (runs : List WorkflowRun) : Prop :=
  rows.mapM (readRun scope (checkTable checks) (workflowTable workflows)) = .ok runs ∧
    runs.Pairwise fun first second => first.header.runId ≠ second.header.runId

theorem readRuns_ok : readRuns scope checks value = .ok runs ↔ Provenance scope value ∧
    ∃ workflows rows, readCatalog (value.field "workflow_catalog") = .ok workflows ∧
      value.field "items" = .arr rows ∧ RunsRead scope checks workflows rows runs := by
  unfold readRuns
  simp only [bind_ok, completeList_ok, foldlM_apart (fun seen _ => addRun_ok seen) List.Pairwise.nil,
    nil_append]
  constructor
  · rintro ⟨_, keys, rows, ⟨complete, listed⟩, _, bound, workflows, read, _, parsed, rfl, distinct⟩
    exact ⟨⟨expectKeys_ok.mp keys, complete, bound⟩, workflows, rows, read, listed, parsed, distinct⟩
  · rintro ⟨⟨keys, complete, bound⟩, workflows, rows, read, listed, parsed, distinct⟩
    exact ⟨(), expectKeys_ok.mpr keys, rows, ⟨complete, listed⟩, (), bound, workflows, read, runs,
      parsed, rfl, distinct⟩

theorem provenance_same (same : Json.SameBut ["items", "workflow_catalog"] value other)
    (bound : Provenance scope value) : Provenance scope other := by
  obtain ⟨keys, complete, candidate⟩ := bound
  refine ⟨by rw [← same.1, keys], by rw [← same.2 "complete" (by decide), complete], ?_⟩
  rw [← candidate]
  simp only [bindProvenance, same.2 "repository_id" (by decide),
    same.2 "repository_full_name" (by decide), same.2 "subject_sha" (by decide),
    same.2 "pull_request_number" (by decide), same.2 "pull_request_head_sha" (by decide)]

theorem RunsRead.related {again : List CheckRun} {others : List Workflow} {list : List Json}
    (read : RunsRead scope checks workflows rows runs)
    (same : checkTable checks = checkTable again) (same' : workflowTable workflows = workflowTable others)
    (related : List.Forall₂ JobsReordered rows list) :
    ∃ found, RunsRead scope again others list found ∧ List.Forall₂ Alike runs found := by
  obtain ⟨parsed, distinct⟩ := read
  rw [same, same'] at parsed
  have each : ∀ raw other run, JobsReordered raw other →
      readRun scope (checkTable again) (workflowTable others) raw = .ok run →
        ∃ next, readRun scope (checkTable again) (workflowTable others) other = .ok next ∧
          Alike run next := fun _ _ _ => readRun_reordered
  obtain ⟨found, parsed', alike⟩ := mapM_related each related parsed
  exact ⟨found, ⟨parsed', apart_alike alike distinct⟩, alike⟩

theorem RunsRead.perm {list : List Json} (read : RunsRead scope checks workflows rows runs)
    (same : rows.Perm list) :
    ∃ found, RunsRead scope checks workflows list found ∧ runs.Perm found := by
  obtain ⟨found, parsed, permuted⟩ := mapM_perm same read.1
  exact ⟨found, ⟨parsed, (permuted.pairwise_iff fun {_ _} => Ne.symm).mp read.2⟩, permuted⟩

/-- Two snapshots of runs agree but for the order of runs, jobs and catalog entries. -/
structure RunsReordered (first second : Json) : Prop where
  same : Json.SameBut ["items", "workflow_catalog"] first second
  catalog : Json.Reordered "items" (first.field "workflow_catalog")
    (second.field "workflow_catalog")
  runs : ∃ rows middle others, first.field "items" = .arr rows ∧
    second.field "items" = .arr others ∧ List.Forall₂ JobsReordered rows middle ∧
      middle.Perm others

omit [Unicode] in
theorem JobsReordered.symm (same : JobsReordered raw other) : JobsReordered other raw :=
  same.elim (fun equal => Or.inl equal.symm) fun permuted => Or.inr permuted.symm

omit [Unicode] in
theorem RunsReordered.symm {first second : Json} (reordered : RunsReordered first second) :
    RunsReordered second first := by
  obtain ⟨rows, middle, others, one, two, related, permuted⟩ := reordered.runs
  have turned : List.Forall₂ JobsReordered middle rows :=
    (related.imp fun _ _ same => JobsReordered.symm same).flip
  obtain ⟨list, related', permuted'⟩ := perm_comp_forall₂ permuted.symm turned
  exact ⟨reordered.same.symm, reordered.catalog.symm, others, list, rows, two, one, related',
    permuted'⟩

section
variable [Sha256] {snapshot other' first second : Json} {selected : List SelectedCheck}

theorem evaluateCheckRuns_ok : evaluateCheckRuns scope snapshot value = .ok selected ↔
    ∃ checks workflows rows runs, readChecks scope.headSha snapshot = .ok checks ∧
      Provenance scope value ∧ readCatalog (value.field "workflow_catalog") = .ok workflows ∧
      value.field "items" = .arr rows ∧ RunsRead scope checks workflows rows runs ∧
      selectChecks scope runs = .ok selected := by
  unfold evaluateCheckRuns
  simp only [bind_ok, readRuns_ok]
  constructor
  · rintro ⟨checks, read, runs, ⟨bound, workflows, rows, listed, items, parsed⟩, chosen⟩
    exact ⟨checks, workflows, rows, runs, read, bound, listed, items, parsed, chosen⟩
  · rintro ⟨checks, workflows, rows, runs, read, bound, listed, items, parsed, chosen⟩
    exact ⟨checks, read, runs, ⟨bound, workflows, rows, listed, items, parsed⟩, chosen⟩

theorem evaluate_reordered (checked : Json.Reordered "items" snapshot other)
    (reordered : RunsReordered first second)
    (accepted : evaluateCheckRuns scope snapshot first = .ok selected) :
    evaluateCheckRuns scope other second = .ok selected := by
  obtain ⟨checks, workflows, rows, runs, read, bound, listed, items, parsed, chosen⟩ :=
    evaluateCheckRuns_ok.mp accepted
  obtain ⟨again, read', table⟩ := readChecks_reordered checked read
  obtain ⟨others, listed', table'⟩ := readCatalog_reordered reordered.catalog listed
  obtain ⟨known, middle, list, one, two, related, permuted⟩ := reordered.runs
  rw [items] at one
  cases one
  obtain ⟨found, parsed', alike⟩ := parsed.related table table' related
  obtain ⟨final, parsed'', permuted'⟩ := parsed'.perm permuted
  refine evaluateCheckRuns_ok.mpr ⟨again, others, list, final, read',
    provenance_same reordered.same bound, listed', two, parsed'', ?_⟩
  rw [← chosen]
  apply selectChecks_congr
  intro context
  exact ((runsByContext_alike alike context).trans (permuted'.flatMap_right _)).symm

/-- A run of the first snapshot counts like the run of the second one. -/
def Counts (scope : CheckScope) (checks again : List CheckRun) (workflows : List Workflow)
    (raw other : Json) : Prop :=
  ∀ run, readRun scope (checkTable checks) (workflowTable workflows) raw = .ok run →
    ∃ next, readRun scope (checkTable again) (workflowTable workflows) other = .ok next ∧
      Alike run next

theorem evaluate_related {others : List Json} (same : Json.SameBut ["items"] first second)
    (listed : first.field "items" = .arr rows) (listed' : second.field "items" = .arr others)
    (counts : ∀ checks, readChecks scope.headSha snapshot = .ok checks → ∃ again,
      readChecks scope.headSha other = .ok again ∧ ∀ workflows,
        readCatalog (first.field "workflow_catalog") = .ok workflows →
          List.Forall₂ (Counts scope checks again workflows) rows others)
    (accepted : evaluateCheckRuns scope snapshot first = .ok selected) :
    evaluateCheckRuns scope other second = .ok selected := by
  obtain ⟨checks, workflows, items, runs, read, bound, catalog, items', parsed, chosen⟩ :=
    evaluateCheckRuns_ok.mp accepted
  rw [listed] at items'
  cases items'
  obtain ⟨again, read', related⟩ := counts checks read
  obtain ⟨found, parsed', alike⟩ :=
    mapM_related (fun raw other run counted => counted run) (related workflows catalog) parsed.1
  have wider : Json.SameBut ["items", "workflow_catalog"] first second :=
    ⟨same.1, fun key absent => same.2 key fun inside => absent (mem_cons.mpr
      (Or.inl (mem_singleton.mp inside)))⟩
  have catalog' : readCatalog (second.field "workflow_catalog") = .ok workflows := by
    rw [← same.2 "workflow_catalog" (by decide), catalog]
  refine evaluateCheckRuns_ok.mpr ⟨again, workflows, others, found, read',
    provenance_same wider bound, catalog', listed', ⟨parsed', apart_alike alike parsed.2⟩, ?_⟩
  rw [← chosen]
  exact selectChecks_congr fun context => (runsByContext_alike alike context).symm

/-- A run is replaced by one with one more job of an earlier attempt. -/
structure JobAdded (scope : CheckScope) (snapshot first second : Json) : Prop where
  same : Json.SameBut ["items"] first second
  added : ∃ before run next after item rows, first.field "items" = .arr (before ++ run :: after) ∧
    second.field "items" = .arr (before ++ next :: after) ∧ run.field "jobs" = .arr rows ∧
      Json.Extended "jobs" item run next ∧
        ∀ checks workflows ids header, readChecks scope.headSha snapshot = .ok checks →
          readCatalog (first.field "workflow_catalog") = .ok workflows → readRunId run = .ok ids →
            readHeader scope (workflowTable workflows) ids run = .ok header →
              OlderJob scope (checkTable checks) header rows item

omit [Unicode] [Sha256] in
theorem replaced {related : Json → Json → Prop} {before after : List Json} {run next : Json}
    (reflexive : ∀ raw, related raw raw) (single : related run next) :
    List.Forall₂ related (before ++ run :: after) (before ++ next :: after) := by
  induction before with
  | nil => exact List.Forall₂.cons single (forall₂_same.mpr fun raw _ => reflexive raw)
  | cons raw before ih => exact List.Forall₂.cons (reflexive raw) ih

omit [Unicode] [Sha256] in
theorem matches_extended {job : WorkflowJob}
    {jobs again : List (WorkflowJob × Option WorkflowAuthorization)}
    (permuted : ((job, none) :: jobs).Perm again) (context : String) :
    (runMatches ⟨header, jobs⟩ context).Perm (runMatches ⟨header, again⟩ context) := by
  have kept := permuted.filterMap fun entry =>
    if entry.1.name = context then entry.2.map fun authorization =>
      RunMatch.mk header entry.1 authorization
    else none
  rw [filterMap_cons] at kept
  simpa [runMatches] using kept

/-- A well-formed job of an earlier attempt changes nothing. -/
theorem evaluate_jobAdded (added : JobAdded scope snapshot first second) :
    evaluateCheckRuns scope snapshot second = .ok selected ↔
      evaluateCheckRuns scope snapshot first = .ok selected := by
  obtain ⟨same, before, run, next, after, item, rows, one, two, listed, extended, older⟩ := added
  have refl (checks : List CheckRun) (workflows : List Workflow) (raw : Json) :
      Counts scope checks checks workflows raw raw :=
    fun run read => ⟨run, read, rfl, fun _ => List.Perm.refl _⟩
  constructor
  · apply evaluate_related same.symm two one
    intro checks read
    refine ⟨checks, read, fun workflows catalog => replaced (refl checks workflows) ?_⟩
    intro found known
    rw [← same.2 "workflow_catalog" (by decide)] at catalog
    obtain ⟨ids, named, header, jobs⟩ := readRun_ok.mp known
    obtain ⟨equal, equal'⟩ := readHeader_same scope (workflowTable workflows) ids extended.1
    rw [← equal] at named
    rw [← equal'] at header
    obtain ⟨job, -, back⟩ := readJobs_extended extended listed
      (older checks workflows ids found.header read catalog named header)
    obtain ⟨fewer, jobs', permuted⟩ := back found.jobs jobs
    refine ⟨⟨found.header, fewer⟩, readRun_ok.mpr ⟨ids, named, header, jobs'⟩, rfl, fun context => ?_⟩
    exact (matches_extended permuted context).symm
  · apply evaluate_related same one two
    intro checks read
    refine ⟨checks, read, fun workflows catalog => replaced (refl checks workflows) ?_⟩
    intro found known
    obtain ⟨ids, named, header, jobs⟩ := readRun_ok.mp known
    obtain ⟨equal, equal'⟩ := readHeader_same scope (workflowTable workflows) ids extended.1
    obtain ⟨job, forth, -⟩ := readJobs_extended extended listed
      (older checks workflows ids found.header read catalog named header)
    obtain ⟨more, jobs', permuted⟩ := forth found.jobs jobs
    rw [equal] at named
    rw [equal'] at header
    refine ⟨⟨found.header, more⟩, readRun_ok.mpr ⟨ids, named, header, jobs'⟩, rfl, fun context => ?_⟩
    exact matches_extended permuted context

omit [Sha256] in
theorem readRun_runId (read : readRun scope table catalog raw = .ok run) :
    raw.field "run_id" = .int run.header.runId := by
  obtain ⟨ids, named, header, -⟩ := readRun_ok.mp read
  rw [(readHeader_ids header).1]
  unfold readRunId at named
  simp only [bind_ok, pure_ok] at named
  obtain ⟨_, -, runId, known, _, -, _, -, same⟩ := named
  rw [← same]
  exact int_field known

omit [Sha256] in
theorem matches_push (read : readRun scope table catalog raw = .ok run)
    (pushed : run.header.event = "push") (context : String) : runMatches run context = [] := by
  obtain ⟨ids, -, -, jobs⟩ := readRun_ok.mp read
  obtain ⟨-, rows, -, parsed, -⟩ := readJobs_ok.mp jobs
  have ignored : ∀ entry ∈ run.jobs, entry.2 = none := by
    intro entry listed
    obtain ⟨item, -, known⟩ := related_item (mapM_forall.mp parsed) listed
    obtain ⟨ids, -, -, qualified⟩ := readEntry_ok.mp known
    exact qualify_push pushed qualified
  unfold runMatches
  rw [filterMap_eq_nil_iff]
  intro entry listed
  rw [ignored entry listed]
  split <;> rfl

/-- A push has a run identifier of its own and is well formed. -/
structure PushAdded (scope : CheckScope) (snapshot first second raw : Json) : Prop where
  extended : Json.Extended "items" raw first second
  fresh : ∀ rows, first.field "items" = .arr rows →
    ∀ other ∈ rows, other.field "run_id" ≠ raw.field "run_id"
  wellFormed : ∀ checks workflows, readChecks scope.headSha snapshot = .ok checks →
    readCatalog (first.field "workflow_catalog") = .ok workflows → ∃ run,
      readRun scope (checkTable checks) (workflowTable workflows) raw = .ok run ∧
        run.header.event = "push"

/-- A well-formed push changes nothing. -/
theorem evaluate_pushAdded (added : PushAdded scope snapshot first second raw) :
    evaluateCheckRuns scope snapshot second = .ok selected ↔
      evaluateCheckRuns scope snapshot first = .ok selected := by
  obtain ⟨⟨same, rows, others, one, two, permuted⟩, fresh, wellFormed⟩ := added
  have wider : Json.SameBut ["items", "workflow_catalog"] first second :=
    ⟨same.1, fun key absent => same.2 key fun inside => absent (mem_cons.mpr
      (Or.inl (mem_singleton.mp inside)))⟩
  have catalogs : first.field "workflow_catalog" = second.field "workflow_catalog" :=
    same.2 "workflow_catalog" (by decide)
  have ignored {checks : List CheckRun} {workflows : List Workflow} {run : WorkflowRun}
      {runs found : List WorkflowRun}
      (read : readRun scope (checkTable checks) (workflowTable workflows) raw = .ok run)
      (pushed : run.header.event = "push") (kept : (run :: runs).Perm found) (context : String) :
      (runsByContext runs context).Perm (runsByContext found context) := by
    have whole : (runsByContext (run :: runs) context).Perm (runsByContext found context) :=
      kept.flatMap_right _
    have skipped : runsByContext (run :: runs) context = runsByContext runs context := by
      show runMatches run context ++ _ = _
      rw [matches_push read pushed]
      rfl
    exact skipped ▸ whole
  constructor
  · intro accepted
    obtain ⟨checks, workflows, items, runs, read, bound, catalog, items', parsed, chosen⟩ :=
      evaluateCheckRuns_ok.mp accepted
    rw [two] at items'
    cases items'
    rw [← catalogs] at catalog
    obtain ⟨run, known, pushed⟩ := wellFormed checks workflows read catalog
    obtain ⟨found, ⟨parsed', distinct⟩, kept⟩ := parsed.perm permuted
    rw [mapM_cons, known] at parsed'
    simp only [bind_ok, pure_ok] at parsed'
    obtain ⟨_, head, rest, later, rfl⟩ := parsed'
    cases head
    refine evaluateCheckRuns_ok.mpr ⟨checks, workflows, rows, rest, read,
      provenance_same wider.symm bound, catalog, one, ⟨later, (pairwise_cons.mp distinct).2⟩, ?_⟩
    rw [← chosen]
    exact selectChecks_congr (ignored known pushed kept.symm)
  · intro accepted
    obtain ⟨checks, workflows, items, runs, read, bound, catalog, items', parsed, chosen⟩ :=
      evaluateCheckRuns_ok.mp accepted
    rw [one] at items'
    cases items'
    obtain ⟨run, known, pushed⟩ := wellFormed checks workflows read catalog
    have longer : RunsRead scope checks workflows (raw :: rows) (run :: runs) := by
      refine ⟨?_, pairwise_cons.mpr ⟨fun other inside equal => ?_, parsed.2⟩⟩
      · rw [mapM_cons, known, parsed.1]
        rfl
      · obtain ⟨row, listed, read'⟩ := related_item (mapM_forall.mp parsed.1) inside
        apply fresh rows one row listed
        rw [readRun_runId read', readRun_runId known, equal]
    obtain ⟨found, parsed', kept⟩ := longer.perm permuted.symm
    refine evaluateCheckRuns_ok.mpr ⟨checks, workflows, others, found, read,
      provenance_same wider bound, catalogs ▸ catalog, two, parsed', ?_⟩
    rw [← chosen]
    exact (selectChecks_congr (ignored known pushed kept)).symm

omit [Unicode] [Sha256] in
/-- A job that names no other check is read alike. -/
theorem readEntry_congr {again : Int → Option CheckRun}
    (same : ∀ id, raw.field "check_run_id" = .int id → table id = again id) :
    readEntry scope table header raw = readEntry scope again header raw := by
  unfold readEntry
  cases named : readJobIds raw with
  | error error => rfl
  | ok ids =>
    have equal := same ids.checkId (readJobIds_fields named).2.2
    show (readJob scope table header ids raw >>= _) = (readJob scope again header ids raw >>= _)
    unfold readJob checkOf
    rw [equal]

/-- A check is well formed and no job names it. -/
structure CheckAdded (scope : CheckScope) (snapshot other value raw : Json) : Prop where
  extended : Json.Extended "items" raw snapshot other
  read : ∃ check, readCheck scope.headSha raw = .ok check
  fresh : ∀ rows, snapshot.field "items" = .arr rows →
    ∀ check ∈ rows, check.field "id" ≠ raw.field "id"
  unnamed : ∀ rows, value.field "items" = .arr rows → ∀ run ∈ rows, ∀ jobs,
    run.field "jobs" = .arr jobs → ∀ job ∈ jobs, job.field "check_run_id" ≠ raw.field "id"

omit [Unicode] [Sha256] in
theorem readCheck_id {headSha : String} {check : CheckRun} (read : readCheck headSha raw = .ok check) :
    raw.field "id" = .int check.id := by
  unfold readCheck readCheckId at read
  simp only [bind_ok, pure_ok] at read
  obtain ⟨id, ⟨_, -, known⟩, facts, -, same⟩ := read
  rw [← same]
  exact int_field known

omit [Unicode] [Sha256] in
/-- One more check does not change the other checks. -/
theorem readChecks_extended {headSha : String} {check : CheckRun}
    (extended : Json.Extended "items" raw snapshot other)
    (known : readCheck headSha raw = .ok check)
    (fresh : ∀ rows, snapshot.field "items" = .arr rows →
      ∀ row ∈ rows, row.field "id" ≠ raw.field "id") :
    (∀ checks, readChecks headSha snapshot = .ok checks → ∃ again,
      readChecks headSha other = .ok again ∧
        ∀ id ≠ check.id, checkTable checks id = checkTable again id) ∧
    ∀ again, readChecks headSha other = .ok again → ∃ checks,
      readChecks headSha snapshot = .ok checks ∧
        ∀ id ≠ check.id, checkTable again id = checkTable checks id := by
  obtain ⟨same, rows, others, one, two, permuted⟩ := extended
  have table {checks again : List CheckRun} (kept : (check :: checks).Perm again)
      (distinct : again.Pairwise fun first second => first.id ≠ second.id) :
      ∀ id ≠ check.id, checkTable checks id = checkTable again id := by
    intro id different
    have whole : checkTable again id = checkTable (check :: checks) id :=
      find?_perm distinct kept.symm id
    rw [whole]
    show _ = List.find? _ (check :: checks)
    rw [find?_cons, beq_eq_false_iff_ne.mpr different.symm]
    rfl
  constructor
  · intro checks read
    obtain ⟨keys, complete, items, listed, parsed, distinct⟩ := readChecks_ok.mp read
    rw [one] at listed
    cases listed
    have longer : (raw :: rows).mapM (readCheck headSha) = .ok (check :: checks) := by
      rw [mapM_cons, known, parsed]
      rfl
    obtain ⟨again, parsed', kept⟩ := mapM_perm permuted.symm longer
    have apart : (check :: checks).Pairwise fun first second => first.id ≠ second.id := by
      refine pairwise_cons.mpr ⟨fun found inside equal => ?_, distinct⟩
      obtain ⟨row, listed, read'⟩ := related_item (mapM_forall.mp parsed) inside
      apply fresh rows one row listed
      rw [readCheck_id read', readCheck_id known, equal]
    have distinct' := (kept.pairwise_iff fun {_ _} => Ne.symm).mp apart
    exact ⟨again, readChecks_ok.mpr ⟨same.1 _ ▸ keys, same.2 "complete" (by decide) ▸ complete, others,
      two, parsed', distinct'⟩, table kept distinct'⟩
  · intro again read
    obtain ⟨keys, complete, items, listed, parsed, distinct⟩ := readChecks_ok.mp read
    rw [two] at listed
    cases listed
    obtain ⟨found, parsed', kept⟩ := mapM_perm permuted parsed
    rw [mapM_cons, known] at parsed'
    simp only [bind_ok, pure_ok] at parsed'
    obtain ⟨_, head, checks, rest, rfl⟩ := parsed'
    cases head
    have apart := (kept.pairwise_iff fun {_ _} => Ne.symm).mp distinct
    refine ⟨checks, readChecks_ok.mpr ⟨same.1 _ ▸ keys, same.2 "complete" (by decide) ▸ complete, rows,
      one, rest, (pairwise_cons.mp apart).2⟩, fun id different => ?_⟩
    exact (table kept.symm distinct id different).symm

omit [Sha256] in
/-- The runs of a snapshot are read alike when their jobs find the same checks. -/
theorem counts_same {again : List CheckRun} {workflows : List Workflow}
    (same : ∀ jobs, raw.field "jobs" = .arr jobs → ∀ job ∈ jobs, ∀ id,
      job.field "check_run_id" = .int id → checkTable checks id = checkTable again id) :
    Counts scope checks again workflows raw raw := by
  intro run known
  obtain ⟨ids, named, header, jobs⟩ := readRun_ok.mp known
  obtain ⟨complete, rows, listed, parsed, distinct⟩ := readJobs_ok.mp jobs
  have parsed' : rows.mapM (readEntry scope (checkTable again) run.header) = .ok run.jobs := by
    rw [← parsed]
    exact (mapM_congr fun job inside => readEntry_congr (same rows listed job inside)).symm
  exact ⟨run, readRun_ok.mpr ⟨ids, named, header, readJobs_ok.mpr
    ⟨complete, rows, listed, parsed', distinct⟩⟩, rfl, fun _ => List.Perm.refl _⟩

/-- A check that no job names changes nothing. -/
theorem evaluate_checkAdded (added : CheckAdded scope snapshot other value raw) :
    evaluateCheckRuns scope other value = .ok selected ↔
      evaluateCheckRuns scope snapshot value = .ok selected := by
  obtain ⟨extended, ⟨check, known⟩, fresh, unnamed⟩ := added
  obtain ⟨forth, back⟩ := readChecks_extended extended known fresh
  have counts {checks again : List CheckRun} {rows : List Json}
      (listed : value.field "items" = .arr rows)
      (table : ∀ id ≠ check.id, checkTable checks id = checkTable again id)
      (workflows : List Workflow) : List.Forall₂ (Counts scope checks again workflows) rows rows := by
    rw [forall₂_same]
    intro run inside
    apply counts_same
    intro jobs jobsListed job there id names
    apply table
    intro same
    apply unnamed rows listed run inside jobs jobsListed job there
    rw [names, same, readCheck_id known]
  have agree : Json.SameBut ["items"] value value := ⟨fun _ => rfl, fun _ _ => rfl⟩
  constructor
  · intro accepted
    obtain ⟨_, _, rows, _, _, _, _, listed, -⟩ := evaluateCheckRuns_ok.mp accepted
    apply evaluate_related agree listed listed _ accepted
    intro checks read
    obtain ⟨again, read', table⟩ := back checks read
    exact ⟨again, read', fun workflows _ => counts listed table workflows⟩
  · intro accepted
    obtain ⟨_, _, rows, _, _, _, _, listed, -⟩ := evaluateCheckRuns_ok.mp accepted
    apply evaluate_related agree listed listed _ accepted
    intro checks read
    obtain ⟨again, read', table⟩ := forth checks read
    exact ⟨again, read', fun workflows _ => counts listed table workflows⟩

end

section
variable {job : WorkflowJob} {authorization : Option WorkflowAuthorization}
  {allowed : WorkflowAuthorization} {context : String} {found : RunMatch}
  {selected : SelectedCheck}

/-- A job counts when it belongs to the latest attempt and no push started it. -/
def Current (run : RunHeader) (job : WorkflowJob) : Prop :=
  job.attempt = run.attempt ∧ run.event ≠ "push"

instance (run : RunHeader) (job : WorkflowJob) : Decidable (Current run job) :=
  inferInstanceAs (Decidable (_ ∧ _))

/-- The current jobs with the name of a context. -/
def candidates (runs : List WorkflowRun) (context : String) : List (RunHeader × WorkflowJob) :=
  runs.flatMap fun run => run.jobs.filterMap fun entry =>
    if entry.1.name = context ∧ Current run.header entry.1 then some (run.header, entry.1) else none

/-- A required context is represented by exactly one job, and the selection repeats it. -/
structure Represents [Sha256] (scope : CheckScope) (checks : List CheckRun)
    (runs : List WorkflowRun) (context : String) (selected : SelectedCheck)
    (found : RunMatch) : Prop where
  only : candidates runs context = [(found.run, found.job)]
  event : found.run.event = "pull_request"
  latest : found.job.attempt = found.run.attempt
  authorized : found.authorization ∈ authorizedWorkflows ∧ found.authorization.context = context ∧
    found.run.workflowPath = found.authorization.workflowPath ∧
      found.run.workflowName = found.authorization.workflowName
  finished : succeeded found.run.status found.run.conclusion = true
  reported : found.job.check ∈ checks ∧ found.job.check.id = found.job.jobId ∧
    found.job.check.facts = found.job.facts
  checked : found.job.check.facts.name = context ∧
    succeeded found.job.check.facts.status found.job.check.facts.conclusion = true
  head : ∃ code, sha code found.job.check.facts.headSha = .ok scope.headSha
  app : found.job.check.facts.appId = some integrationAppId ∧
    found.job.check.facts.appSlug = some integrationSlug ∧
      scope.effectiveChecks.lookup context = some integrationAppId
  returned : selected = ⟨found.run.runId, found.run.workflowId, found.authorization.workflowPath,
    found.run.attempt, found.job.jobId, found.job.check.id,
    checkIdentity scope context found integrationAppId, integrationAppId⟩

omit [Unicode] in
theorem qualify_known (known : authorizedWorkflows.find? (·.context == job.name) = some allowed)
    (associated : header.associated = true) (read : qualify header job = .ok authorization) :
    (Current header job → authorization = some allowed ∧ header.event = "pull_request" ∧
      job.name = job.facts.name ∧ header.workflowPath = allowed.workflowPath ∧
        header.workflowName = allowed.workflowName) ∧
    (¬ Current header job → authorization = none) := by
  unfold qualify at read
  by_cases older : job.attempt ≠ header.attempt
  · rw [if_pos older] at read
    cases read
    exact ⟨fun current => absurd current.1 older, fun _ => rfl⟩
  · rw [if_neg older] at read
    by_cases pushed : header.event = "push"
    · rw [if_pos pushed] at read
      cases read
      exact ⟨fun current => absurd pushed current.2, fun _ => rfl⟩
    · rw [if_neg pushed, known] at read
      have current : Current header job := ⟨not_not.mp older, pushed⟩
      refine ⟨fun _ => ?_, fun other => absurd current other⟩
      dsimp only at read
      split at read
      · cases read
      · rename_i event
        rw [if_neg (by rw [associated]; decide)] at read
        split at read
        · cases read
        · rename_i named
          split at read
          · cases read
          · rename_i workflow
            cases read
            rw [not_or, not_not, not_not] at workflow
            exact ⟨rfl, not_not.mp event, not_not.mp named, workflow⟩

omit [Unicode] in
theorem required_authorized : ∀ context ∈ requiredContexts, ∃ allowed ∈ authorizedWorkflows,
    authorizedWorkflows.find? (·.context == context) = some allowed ∧ allowed.context = context := by
  decide

theorem RunsRead.entry (read : RunsRead scope checks workflows rows runs) {run : WorkflowRun}
    (listed : run ∈ runs) : run.header.associated = true ∧ ∀ entry ∈ run.jobs,
      qualify run.header entry.1 = .ok entry.2 ∧
        ∃ ids, JobBound scope (checkTable checks) run.header ids entry.1 := by
  obtain ⟨raw, -, known⟩ := related_item (mapM_forall.mp read.1) listed
  obtain ⟨ids, -, header, jobs⟩ := readRun_ok.mp known
  obtain ⟨-, items, -, parsed, -⟩ := readJobs_ok.mp jobs
  refine ⟨(readHeader_ids header).2.2, fun entry inside => ?_⟩
  obtain ⟨item, -, known'⟩ := related_item (mapM_forall.mp parsed) inside
  obtain ⟨ids', -, job, qualified⟩ := readEntry_ok.mp known'
  exact ⟨qualified, ids', readJob_bound job⟩

/-- The matches of a required context are the current jobs with its name. -/
theorem candidates_matches (read : RunsRead scope checks workflows rows runs)
    (required : context ∈ requiredContexts) :
    candidates runs context = (runsByContext runs context).map fun found => (found.run, found.job) := by
  obtain ⟨allowed, -, known, -⟩ := required_authorized context required
  unfold candidates runsByContext
  rw [map_flatMap]
  apply flatMap_congr
  intro run listed
  obtain ⟨associated, entries⟩ := read.entry listed
  rw [map_filterMap]
  apply filterMap_congr
  intro entry inside
  obtain ⟨qualified, -⟩ := entries entry inside
  by_cases named : entry.1.name = context
  · have known' : authorizedWorkflows.find? (·.context == entry.1.name) = some allowed := by
      rw [named]
      exact known
    obtain ⟨counted, ignored⟩ := qualify_known known' associated qualified
    by_cases current : Current run.header entry.1
    · rw [if_pos ⟨named, current⟩, if_pos named, (counted current).1]
      rfl
    · rw [if_neg fun both => current both.2, if_pos named, ignored current]
      rfl
  · rw [if_neg fun both => named both.1, if_neg named]
    rfl

omit [Unicode] in
theorem selectRun_ok : selectRun runs context = .ok found ↔ runsByContext runs context = [found] := by
  unfold selectRun
  split
  · rename_i selected single
    rw [single, Except.ok.injEq, singleton_inj]
  · rename_i other
    constructor
    · intro chosen
      cases chosen
    · intro single
      exact absurd single (other found)

variable [Sha256]

omit [Unicode] in
theorem describeCheck_ok (read : describeCheck scope context found = .ok selected) :
    succeeded found.run.status found.run.conclusion = true ∧
    succeeded found.job.check.facts.status found.job.check.facts.conclusion = true ∧
    (found.job.facts.appId = some integrationAppId ∧
      found.job.facts.appSlug = some integrationSlug ∧
        scope.effectiveChecks.lookup context = some integrationAppId) ∧
    selected = ⟨found.run.runId, found.run.workflowId, found.authorization.workflowPath,
      found.run.attempt, found.job.jobId, found.job.check.id,
      checkIdentity scope context found integrationAppId, integrationAppId⟩ := by
  unfold describeCheck at read
  simp only [bind_ok, require_ok, pure_ok, Bool.and_eq_true, decide_eq_true_eq] at read
  obtain ⟨app, known, _, ⟨⟨same, slug⟩, effective⟩, _, finished, _, ⟨-, checked⟩, equal⟩ := read
  have named : found.job.facts.appId = some app := by
    unfold appOf at known
    split at known
    · rename_i value stated
      split at known
      · cases known
        exact stated
      · cases known
    · cases known
  rw [same] at named effective equal
  exact ⟨finished, checked, ⟨named, slug, effective⟩, equal.symm⟩

theorem represents (read : RunsRead scope checks workflows rows runs)
    (required : context ∈ requiredContexts) (chosen : selectRun runs context = .ok found)
    (described : describeCheck scope context found = .ok selected) :
    Represents scope checks runs context selected found := by
  have single := selectRun_ok.mp chosen
  have inside : found ∈ runsByContext runs context := by
    rw [single]
    exact mem_singleton_self _
  obtain ⟨run, listed, matched⟩ := mem_flatMap.mp inside
  obtain ⟨entry, there, shape⟩ := mem_filterMap.mp matched
  obtain ⟨associated, entries⟩ := read.entry listed
  obtain ⟨qualified, ids, bound⟩ := entries entry there
  obtain ⟨allowed, authorized, known, named'⟩ := required_authorized context required
  split at shape
  · rename_i named
    have known' : authorizedWorkflows.find? (·.context == entry.1.name) = some allowed := by
      rw [named]
      exact known
    obtain ⟨counted, ignored⟩ := qualify_known known' associated qualified
    by_cases current : Current run.header entry.1
    · obtain ⟨granted, event, checkName, workflow⟩ := counted current
      rw [granted, Option.map_some, Option.some.injEq] at shape
      obtain ⟨finished, checked, app, returned⟩ := describeCheck_ok described
      rw [← shape] at finished checked app returned ⊢
      have stated : entry.1.check.facts = entry.1.facts := bound.facts
      have found' : checkTable checks ids.checkId = some entry.1.check := bound.check
      have same : entry.1.check.id = ids.checkId := by
        simpa using find?_some found'
      constructor
      · rw [candidates_matches read required, single, map_singleton, ← shape]
      · exact event
      · exact current.1
      · exact ⟨authorized, named', workflow⟩
      · exact finished
      · exact ⟨mem_of_find?_eq_some found',
          by rw [same, bound.jobId, bound.checkId], stated⟩
      · exact ⟨by rw [stated, ← checkName, named], checked⟩
      · rw [stated]
        exact bound.head
      · rw [stated]
        exact app
      · exact returned
    · rw [ignored current] at shape
      cases shape
  · cases shape

theorem selectChecks_represents {checked : List SelectedCheck}
    (read : RunsRead scope checks workflows rows runs)
    (accepted : selectChecks scope runs = .ok checked) :
    List.Forall₂ (fun context selected => ∃ found,
      Represents scope checks runs context selected found) requiredContexts checked := by
  unfold selectChecks at accepted
  rw [bind_ok] at accepted
  obtain ⟨matched, chosen, described⟩ := accepted
  rw [mapM_forall] at chosen described
  have all : ∀ contexts : List String, (∀ context ∈ contexts, context ∈ requiredContexts) →
      ∀ (matched : List RunMatch) (checked : List SelectedCheck),
      List.Forall₂ (fun context found => selectRun runs context = .ok found) contexts matched →
      List.Forall₂ (fun pair selected => describeCheck scope pair.1 pair.2 = .ok selected)
        (contexts.zip matched) checked →
      List.Forall₂ (fun context selected => ∃ found,
        Represents scope checks runs context selected found) contexts checked := by
    intro contexts
    induction contexts with
    | nil =>
      intro _ matched checked one two
      cases one
      cases two
      exact List.Forall₂.nil
    | cons context contexts ih =>
      intro required matched checked one two
      rw [forall_mem_cons] at required
      cases one with
      | cons chosen others =>
        cases two with
        | cons described rest =>
          exact List.Forall₂.cons ⟨_, represents read required.1 chosen described⟩
            (ih required.2 _ _ others rest)
  exact all requiredContexts (fun _ inside => inside) matched checked chosen described

/-- The selected checks represent the required contexts, and neither the order of the snapshots nor
pushes, jobs of earlier attempts or checks without jobs change the selection. -/
theorem checkRuns_selection (scope : CheckScope) (snapshot value : Json) :
    (∀ checked, evaluateCheckRuns scope snapshot value = .ok checked → ∃ checks runs,
      readChecks scope.headSha snapshot = .ok checks ∧ readRuns scope checks value = .ok runs ∧
        List.Forall₂ (fun context selected => ∃ found,
          Represents scope checks runs context selected found) requiredContexts checked) ∧
    (∀ other second, Json.Reordered "items" snapshot other → RunsReordered value second →
      ∀ checked, evaluateCheckRuns scope other second = .ok checked ↔
        evaluateCheckRuns scope snapshot value = .ok checked) ∧
    (∀ second raw, PushAdded scope snapshot value second raw → ∀ checked,
      evaluateCheckRuns scope snapshot second = .ok checked ↔
        evaluateCheckRuns scope snapshot value = .ok checked) ∧
    (∀ second, JobAdded scope snapshot value second → ∀ checked,
      evaluateCheckRuns scope snapshot second = .ok checked ↔
        evaluateCheckRuns scope snapshot value = .ok checked) ∧
    ∀ other raw, CheckAdded scope snapshot other value raw → ∀ checked,
      evaluateCheckRuns scope other value = .ok checked ↔
        evaluateCheckRuns scope snapshot value = .ok checked := by
  refine ⟨?_, ?_, ?_, ?_, ?_⟩
  · intro checked accepted
    obtain ⟨checks, workflows, rows, runs, read, bound, catalog, listed, parsed, chosen⟩ :=
      evaluateCheckRuns_ok.mp accepted
    exact ⟨checks, runs, read, readRuns_ok.mpr ⟨bound, workflows, rows, catalog, listed, parsed⟩,
      selectChecks_represents parsed chosen⟩
  · intro other second checks runs checked
    exact ⟨evaluate_reordered checks.symm runs.symm, evaluate_reordered checks runs⟩
  · exact fun second raw added checked => evaluate_pushAdded added
  · exact fun second added checked => evaluate_jobAdded added
  · exact fun other raw added checked => evaluate_checkAdded added

end

end

end Governance
end KSlide
