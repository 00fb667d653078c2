import KSlide.Bilingual.Contract
import KSlide.Readings
import Mathlib.Data.List.Pairwise

/-
This file proves what the loops over the bilingual ledgers promise.
-/

namespace KSlide
open List
namespace Bilingual

section
variable {Key : Type} [LinearOrder Key] {values : Json} {key : Json → Key} {label : String}
  {items : List Json}

/-- A list is in the order of its keys. -/
def SortedBy (key : Json → Key) (values : Json) : Prop :=
  ∃ items, values = .arr items ∧
    Json.equalItems items (items.mergeSort fun first second => key first ≤ key second) = true

theorem ordered_ok : ordered values key label = .ok items ↔
    items = entries values ∧ SortedBy key values := by
  unfold ordered SortedBy entries
  cases values with
  | arr found =>
    simp only [bind_ok, require_ok, pure_ok, Json.arr.injEq, exists_eq_left']
    constructor
    · rintro ⟨_, sorted, same⟩
      exact ⟨same.symm, sorted⟩
    · rintro ⟨same, sorted⟩
      exact ⟨(), sorted, same.symm⟩
  | _ => simp

theorem findBy_ok {records : List Json} {name : String} {value : Json} {found : Option Json} :
    findBy records name value = .ok found ↔ value.hashable = true ∧
      records.find? (fun record => record.field name == value) = found := by
  unfold findBy
  split <;> simp_all

theorem elim_ok {found : Option Json} {error : Raised} {value : Json} :
    found.elim (.error error) .ok = (.ok value : Except Raised Json) ↔ found = some value := by
  cases found with
  | none => simp
  | some other => simp

theorem hash_ok {value : Json} {done : Unit} :
    hash label value = .ok done ↔ isDigest value = true := require_ok _ _ _

theorem validateShape_ok {value : Json} {fields : List String} {done : Unit} :
    validateShape value fields label = .ok done ↔ value.hasKeys fields = true := require_ok _ _ _

end

section
variable [Python.Printing] {manifest : CorpusManifest} {work other truth : Json}
  {seen works known next : List Json}

/-- A truth unit has an identity and a metric. -/
structure TruthRead (truth : Json) : Prop where
  shape : truth.hasKeys truthUnitFields = true
  id : isDigest (truth.field "truth_unit_id") = true
  metric : isMetric (truth.field "metric") = true

omit [Python.Printing] in
theorem checkTruth_ok (known : List Json) (truth : Json) (next : List Json) :
    checkTruth known truth = .ok next ↔ TruthRead truth ∧ truth.field "truth_unit_id" ∉ known ∧
      next = known ++ [truth.field "truth_unit_id"] := by
  unfold checkTruth
  simp only [bind_ok, validateShape_ok, hash_ok, require_ok, pure_ok, Bool.and_eq_true,
    Bool.not_eq_true', elem_eq_mem, decide_eq_false_iff_not]
  constructor
  · rintro ⟨_, shape, _, id, _, ⟨metric, fresh⟩, same⟩
    exact ⟨⟨shape, id, metric⟩, fresh, same.symm⟩
  · rintro ⟨⟨shape, id, metric⟩, fresh, same⟩
    exact ⟨(), shape, (), id, (), ⟨metric, fresh⟩, same.symm⟩

def truthsOf (work : Json) : List Json := entries (work.field "truth_units")

omit [Python.Printing] in
theorem mem_truthIds {id : Json} : id ∈ truthIds works ↔
    ∃ work ∈ works, ∃ truth ∈ truthsOf work, truth.field "truth_unit_id" = id := by
  unfold truthIds truthsOf
  simp only [mem_flatMap, mem_map]

/-- A work unit binds an active item and lists distinct truth units. -/
structure WorkRead (manifest : CorpusManifest) (work : Json) : Prop where
  shape : work.hasKeys workUnitFields = true
  bound : bindsItem manifest work = true
  id : isDigest (work.field "work_unit_id") = true
  artifact : isDigest (work.field "artifact_id") = true
  content : isDigest (work.field "artifact_sha256") = true
  sorted : SortedBy (textKey "truth_unit_id") (work.field "truth_units")
  present : truthsOf work ≠ []
  truths : ∀ truth ∈ truthsOf work, TruthRead truth
  distinct : ((truthsOf work).map (·.field "truth_unit_id")).Nodup

/-- Two work units share neither their identities nor a truth unit, and one artifact has one
binding. -/
structure WorksApart (first second : Json) : Prop where
  id : first.field "work_unit_id" ≠ second.field "work_unit_id"
  artifact : first.field "artifact_id" = second.field "artifact_id" →
    artifactBinding first = artifactBinding second
  truths : ∀ truth ∈ truthsOf first, ∀ other ∈ truthsOf second,
    truth.field "truth_unit_id" ≠ other.field "truth_unit_id"

omit [Python.Printing] in
theorem WorksApart.symm (apart : WorksApart work other) : WorksApart other work :=
  ⟨apart.id.symm, fun same => (apart.artifact same.symm).symm,
    fun truth listed first known => (apart.truths first known truth listed).symm⟩

omit [Python.Printing] in
theorem worksApart_of_ne (apart : works.Pairwise WorksApart) (listed : work ∈ works)
    (known : other ∈ works) (different : work ≠ other) : WorksApart work other :=
  have : Std.Symm WorksApart := ⟨fun _ _ => WorksApart.symm⟩
  apart.forall listed known different

omit [Python.Printing] in
theorem keepsArtifact_iff (apart : seen.Pairwise WorksApart) : keepsArtifact seen work = true ↔
    ∀ other ∈ seen, other.field "artifact_id" = work.field "artifact_id" →
      artifactBinding other = artifactBinding work := by
  unfold keepsArtifact
  cases found : seen.find? fun other => other.field "artifact_id" == work.field "artifact_id" with
  | none =>
    rw [find?_eq_none] at found
    constructor
    · intro _ other listed same
      exact absurd same (by simpa using found other listed)
    · exact fun _ => rfl
  | some first =>
    have listed := mem_of_find?_eq_some found
    have same : first.field "artifact_id" = work.field "artifact_id" := by
      simpa using find?_some found
    rw [Option.map_some, Option.all_some, beq_iff_eq]
    constructor
    · intro kept other known equal
      rw [← kept]
      by_cases itself : other = first
      · rw [itself]
      · exact (worksApart_of_ne apart known listed itself).artifact (equal.trans same.symm)
    · intro kept
      exact kept first listed same

theorem checkWork_ok (seen : List Json) (apart : seen.Pairwise WorksApart) (work : Json)
    (next : List Json) : checkWork manifest seen work = .ok next ↔ WorkRead manifest work ∧
      (∀ other ∈ seen, WorksApart other work) ∧ next = seen ++ [work] := by
  unfold checkWork
  simp only [bind_ok, validateShape_ok, require_ok, hash_ok, ordered_ok, keepsArtifact_iff apart,
    foldlM_fresh checkTruth_ok, pure_ok, Bool.not_eq_true', elem_eq_mem,
    decide_eq_false_iff_not, isEmpty_eq_false_iff]
  constructor
  · rintro ⟨_, shape, _, bound, _, id, _, artifact, _, content, _, fresh, _, kept, _, ⟨rfl, sorted⟩,
      _, present, _, ⟨truths, distinct, new, -⟩, same⟩
    refine ⟨⟨shape, bound, id, artifact, content, sorted, present, truths, distinct⟩,
      fun other listed => ⟨?_, kept other listed, ?_⟩, same.symm⟩
    · exact fun equal => fresh (mem_map.mpr ⟨other, listed, equal⟩)
    · exact fun truth held first known equal =>
        new first known (mem_truthIds.mpr ⟨other, listed, truth, held, equal⟩)
  · rintro ⟨read, apart', same⟩
    refine ⟨(), read.shape, (), read.bound, (), read.id, (), read.artifact, (), read.content, (),
      ?_, (), fun other listed => (apart' other listed).artifact, _, ⟨rfl, read.sorted⟩, (),
      read.present, _, ⟨read.truths, read.distinct, ?_, rfl⟩, same.symm⟩
    · intro listed
      obtain ⟨other, held, equal⟩ := mem_map.mp listed
      exact (apart' other held).id equal
    · intro truth listed known
      obtain ⟨other, held, first, found, equal⟩ := mem_truthIds.mp known
      exact (apart' other held).truths first found truth listed equal

/-- The accepted work units of a contract. -/
structure WorksRead (contract : Json) (manifest : CorpusManifest) (works : List Json) : Prop where
  sorted : SortedBy workKey (contract.field "work_units")
  listed : works = entries (contract.field "work_units")
  many : 200 ≤ works.length
  each : ∀ work ∈ works, WorkRead manifest work
  apart : works.Pairwise WorksApart
  artifacts : 50 ≤ (works.map (·.field "artifact_id")).dedup.length
  covered : coversMetrics ((truthUnits works).map fun entry => entry.2.field "metric") = true

theorem validateWorkUnits_ok {contract : Json} :
    validateWorkUnits contract manifest = .ok works ↔ WorksRead contract manifest works := by
  unfold validateWorkUnits
  simp only [bind_ok, ordered_ok, require_ok, pure_ok, decide_eq_true_eq,
    foldlM_kept checkWork_ok]
  constructor
  · rintro ⟨_, ⟨rfl, sorted⟩, _, many, _, ⟨each, apart, rfl⟩, _, artifacts, _, covered, rfl⟩
    exact ⟨sorted, rfl, many, each, apart, artifacts, covered⟩
  · rintro ⟨sorted, rfl, many, each, apart, artifacts, covered⟩
    exact ⟨_, ⟨rfl, sorted⟩, (), many, _, ⟨each, apart, rfl⟩, (), artifacts, (), covered, rfl⟩

end
section
variable [Sha256] {contract work record other outcome : Json} {label : String}
  {works seen reviews next : List Json}

/-- Two records differ in every value that identifies a record. -/
def FieldsApart (names : List String) (first second : Json) : Prop :=
  ∀ name ∈ names, first.field name ≠ second.field name

omit [Sha256] in
theorem FieldsApart.symm {names : List String} (apart : FieldsApart names record other) :
    FieldsApart names other record := fun name listed => (apart name listed).symm

omit [Sha256] in
theorem isFresh_iff {names : List String} : isFresh names seen record = true ↔
    ∀ other ∈ seen, FieldsApart names other record := by
  unfold isFresh FieldsApart
  simp only [all_eq_true, Bool.not_eq_true', elem_eq_mem, decide_eq_false_iff_not,
    mem_map, not_exists, not_and]
  exact ⟨fun fresh other listed name named => fresh name named other listed,
    fun apart name named other listed => apart other listed name named⟩

/-- A sealed record holds the digest of its other fields. -/
structure Sealed (record : Json) (digestField : String) : Prop where
  shape : isDigest (record.field digestField) = true
  digest : record.field digestField = .str (stableRevision (record.without digestField))

theorem recordDigest_ok {digestField : String} {done : Unit} :
    recordDigest record digestField label = .ok done ↔ Sealed record digestField := by
  unfold recordDigest
  simp only [bind_ok, hash_ok, require_ok, beq_iff_eq]
  constructor
  · rintro ⟨_, shape, digest⟩
    exact ⟨shape, digest⟩
  · rintro ⟨shape, digest⟩
    exact ⟨(), shape, digest⟩

/-- An outcome of a review has the metric of a truth unit. -/
structure OutcomeRead (work outcome : Json) : Prop where
  shape : outcome.hasKeys reviewOutcomeFields = true
  id : isDigest (outcome.field "truth_unit_id") = true
  metric : outcome.field "metric" = expectedMetric work (outcome.field "truth_unit_id")
  decided : isOutcome (outcome.field "outcome") = true

omit [Sha256] in
theorem checkOutcome_ok (known : List Json) (outcome : Json) (next : List Json) :
    checkOutcome work known outcome = .ok next ↔ OutcomeRead work outcome ∧
      outcome.field "truth_unit_id" ∉ known ∧
      next = known ++ [outcome.field "truth_unit_id"] := by
  unfold checkOutcome
  simp only [bind_ok, validateShape_ok, hash_ok, require_ok, pure_ok, Bool.and_eq_true,
    Bool.not_eq_true', elem_eq_mem, decide_eq_false_iff_not, beq_iff_eq]
  constructor
  · rintro ⟨_, shape, _, id, _, ⟨⟨fresh, metric⟩, decided⟩, same⟩
    exact ⟨⟨shape, id, metric, decided⟩, fresh, same.symm⟩
  · rintro ⟨⟨shape, id, metric, decided⟩, fresh, same⟩
    exact ⟨(), shape, (), id, (), ⟨⟨fresh, metric⟩, decided⟩, same.symm⟩

def outcomesOf (record : Json) : List Json := entries (record.field "truth_unit_outcomes")

def judgedIds (record : Json) : List Json := (outcomesOf record).map (·.field "truth_unit_id")

/-- A review judges every truth unit of its work unit once. -/
structure Judges (work record : Json) : Prop where
  sorted : SortedBy (keyText "truth_unit_id") (record.field "truth_unit_outcomes")
  each : ∀ outcome ∈ outcomesOf record, OutcomeRead work outcome
  distinct : (judgedIds record).Nodup
  exact : ∀ id, id ∈ judgedIds record ↔ id ∈ truthIds [work]

structure ReviewRead (contract : Json) (works : List Json) (record : Json) : Prop where
  shape : record.hasKeys reviewFields = true
  id : isDigest (record.field "review_record_id") = true
  digest : Sealed record "review_record_sha256"
  artifact : isDigest (record.field "review_artifact_id") = true
  content : isDigest (record.field "review_artifact_sha256") = true
  reviewer : isDigest (record.field "reviewer_id") = true
  human : isHumanReview record = true
  hashable : (record.field "work_unit_id").hashable = true
  judged : ∃ work, works.find? (fun work => work.field "work_unit_id" ==
    record.field "work_unit_id") = some work ∧ isBound contract work record = true ∧
    Judges work record
  assisted : isIdList (record.field "ai_assistance_ids") = true

theorem checkReview_ok (seen : List Json) (record : Json) (next : List Json) :
    checkReview contract works seen record = .ok next ↔ ReviewRead contract works record ∧
      (∀ other ∈ seen, FieldsApart reviewNames other record) ∧ next = seen ++ [record] := by
  unfold checkReview
  simp only [bind_ok, validateShape_ok, hash_ok, require_ok, recordDigest_ok, isFresh_iff,
    findBy_ok, elim_ok, ordered_ok, foldlM_fresh checkOutcome_ok, pure_ok, Bool.and_eq_true,
    all_eq_true, elem_eq_mem, decide_eq_true_eq, nil_append]
  constructor
  · rintro ⟨_, shape, _, id, _, digest, _, artifact, _, content, _, reviewer, _, fresh, _, human,
      _, ⟨hashable, rfl⟩, work, found, _, bound, _, ⟨rfl, sorted⟩, _,
      ⟨each, distinct, -, rfl⟩, _, ⟨all, only⟩, _, assisted, same⟩
    exact ⟨⟨shape, id, digest, artifact, content, reviewer, human, hashable,
      ⟨work, found, bound, sorted, each, distinct, fun id => ⟨only id, all id⟩⟩, assisted⟩,
      fresh, same.symm⟩
  · rintro ⟨read, fresh, same⟩
    obtain ⟨work, found, bound, sorted, each, distinct, exact⟩ := read.judged
    exact ⟨(), read.shape, (), read.id, (), read.digest, (), read.artifact, (), read.content, (),
      read.reviewer, (), fresh, (), read.human, _, ⟨read.hashable, rfl⟩, work, found, (), bound, _,
      ⟨rfl, sorted⟩, _, ⟨each, distinct, fun _ _ => not_mem_nil, rfl⟩, (),
      ⟨fun id => (exact id).mpr, fun id => (exact id).mp⟩, (), read.assisted, same.symm⟩

variable [Python.Printing]

/-- The accepted reviews of a contract. -/
structure ReviewsRead (contract : Json) (works reviews : List Json) : Prop where
  sorted : SortedBy (textKey "review_record_id") (contract.field "review_records")
  listed : reviews = entries (contract.field "review_records")
  twice : reviews.length = works.length * 2
  each : ∀ record ∈ reviews, ReviewRead contract works record
  apart : reviews.Pairwise (FieldsApart reviewNames)
  pairs : ∀ work ∈ works, reviewsOf reviews work = [] ∨ isPair (reviewsOf reviews work) = true

theorem validateReviews_ok :
    validateReviews contract works = .ok reviews ↔ ReviewsRead contract works reviews := by
  unfold validateReviews
  simp only [bind_ok, ordered_ok, require_ok, pure_ok, decide_eq_true_eq, all_eq_true,
    Bool.or_eq_true, List.isEmpty_iff, foldlM_kept (fun seen _ => checkReview_ok seen)]
  constructor
  · rintro ⟨_, ⟨rfl, sorted⟩, _, twice, _, ⟨each, apart, rfl⟩, _, pairs, rfl⟩
    exact ⟨sorted, rfl, twice, each, apart, pairs⟩
  · rintro ⟨sorted, rfl, twice, each, apart, pairs⟩
    exact ⟨_, ⟨rfl, sorted⟩, (), twice, _, ⟨each, apart, rfl⟩, (), pairs, rfl⟩

end

section
variable [Sha256] {contract work record review other assistance : Json}
  {works reviews seen next suggestions : List Json}

structure AssistanceRead (contract : Json) (works reviews : List Json) (assistance : Json) :
    Prop where
  shape : assistance.hasKeys assistanceFields = true
  id : isDigest (assistance.field "assistance_record_id") = true
  digest : Sealed assistance "assistance_record_sha256"
  artifact : isDigest (assistance.field "assistance_artifact_id") = true
  content : isDigest (assistance.field "assistance_artifact_sha256") = true
  suggests : isSuggestion assistance = true
  hashable : (assistance.field "review_record_id").hashable = true
  assists : ∃ review work, reviews.find? (fun review => review.field "review_record_id" ==
    assistance.field "review_record_id") = some review ∧
    works.find? (fun work => work.field "work_unit_id" == review.field "work_unit_id") =
      some work ∧ isBound contract work assistance = true

theorem checkAssistance_ok (seen : List Json) (assistance : Json) (next : List Json) :
    checkAssistance contract works reviews seen assistance = .ok next ↔
      AssistanceRead contract works reviews assistance ∧
      (∀ other ∈ seen, FieldsApart assistanceNames other assistance) ∧
      next = seen ++ [assistance] := by
  unfold checkAssistance workOf
  simp only [bind_ok, validateShape_ok, hash_ok, require_ok, recordDigest_ok, isFresh_iff,
    findBy_ok, elim_ok, pure_ok]
  constructor
  · rintro ⟨_, shape, _, id, _, digest, _, artifact, _, content, _, fresh, _, suggests, _,
      ⟨hashable, rfl⟩, review, found, work, known, _, bound, same⟩
    exact ⟨⟨shape, id, digest, artifact, content, suggests, hashable,
      ⟨review, work, found, known, bound⟩⟩, fresh, same.symm⟩
  · rintro ⟨read, fresh, same⟩
    obtain ⟨review, work, found, known, bound⟩ := read.assists
    exact ⟨(), read.shape, (), read.id, (), read.digest, (), read.artifact, (), read.content, (),
      fresh, (), read.suggests, _, ⟨read.hashable, rfl⟩, review, found, work, known, (), bound,
      same.symm⟩

variable [Python.Printing]

/-- The accepted suggestions of a contract. -/
structure SuggestionsRead (contract : Json) (works reviews suggestions : List Json) : Prop where
  sorted : SortedBy (textKey "assistance_record_id") (contract.field "ai_assistance_records")
  listed : suggestions = entries (contract.field "ai_assistance_records")
  each : ∀ assistance ∈ suggestions, AssistanceRead contract works reviews assistance
  apart : suggestions.Pairwise (FieldsApart assistanceNames)
  cited : ∀ record ∈ reviews,
    record.field "ai_assistance_ids" = .arr (assistanceOf suggestions record)

theorem validateAssistance_ok : validateAssistance contract works reviews = .ok suggestions ↔
    SuggestionsRead contract works reviews suggestions := by
  unfold validateAssistance
  simp only [bind_ok, ordered_ok, require_ok, pure_ok, all_eq_true, beq_iff_eq,
    foldlM_kept (fun seen _ => checkAssistance_ok seen)]
  constructor
  · rintro ⟨_, ⟨rfl, sorted⟩, _, ⟨each, apart, rfl⟩, _, cited, rfl⟩
    exact ⟨sorted, rfl, each, apart, cited⟩
  · rintro ⟨sorted, rfl, each, apart, cited⟩
    exact ⟨_, ⟨rfl, sorted⟩, _, ⟨each, apart, rfl⟩, (), cited, rfl⟩

end

section
variable [Sha256] {contract work truth adjudication : Json} {entry : Json × Json}
  {works reviews adjudications pair seen : List Json} {resolved next : List Resolution}
  {resolution : Resolution}

structure AdjudicationRead (contract work truth : Json) (pair : List Json) (adjudication : Json) :
    Prop where
  shape : adjudication.hasKeys adjudicationFields = true
  id : isDigest (adjudication.field "adjudication_record_id") = true
  digest : Sealed adjudication "adjudication_record_sha256"
  artifact : isDigest (adjudication.field "adjudication_artifact_id") = true
  content : isDigest (adjudication.field "adjudication_artifact_sha256") = true
  adjudicator : isDigest (adjudication.field "adjudicator_id") = true
  human : isHumanAdjudication adjudication = true
  bound : isBound contract work adjudication = true
  metric : adjudication.field "metric" = truth.field "metric"
  cites : adjudication.field "review_record_refs" = reviewRefs pair
  decided : isOutcome (adjudication.field "resolution_outcome") = true

theorem checkAdjudication_ok {done : Unit} :
    checkAdjudication contract work truth pair seen adjudication = .ok done ↔
      AdjudicationRead contract work truth pair adjudication ∧
      ∀ other ∈ seen, FieldsApart adjudicationNames other adjudication := by
  unfold checkAdjudication
  simp only [bind_ok, validateShape_ok, hash_ok, require_ok, recordDigest_ok, isFresh_iff,
    Bool.and_eq_true, beq_iff_eq, bne_iff_ne]
  constructor
  · rintro ⟨_, shape, _, id, _, digest, _, artifact, _, content, _, fresh, _, -, _, adjudicator,
      _, human, _, bound, _, ⟨metric, cites⟩, decided⟩
    exact ⟨⟨shape, id, digest, artifact, content, adjudicator, human, bound, metric, cites,
      decided⟩, fresh⟩
  · rintro ⟨read, fresh⟩
    have present : adjudication.field "adjudicator_id" ≠ .null := by
      intro absent
      have shape := read.adjudicator
      rw [absent] at shape
      cases shape
    exact ⟨(), read.shape, (), read.id, (), read.digest, (), read.artifact, (), read.content, (),
      fresh, (), present, (), read.adjudicator, (), read.human, (), read.bound, (),
      ⟨read.metric, read.cites⟩, read.decided⟩

/-- A resolution comes from two reviews that agree or from an adjudication of two others. -/
structure Resolves (contract : Json) (reviews adjudications : List Json) (entry : Json × Json)
    (resolution : Resolution) : Prop where
  work : resolution.work = entry.1
  truth : resolution.truth = entry.2
  pair : resolution.pair = sortedReviews reviews entry.1
  settled : ∃ first second rest, resolution.pair = first :: second :: rest ∧
    ((reviewOutcome first entry.2 = reviewOutcome second entry.2 ∧
        resolution.adjudication = none ∧ resolution.outcome = reviewOutcome first entry.2) ∨
      (reviewOutcome first entry.2 ≠ reviewOutcome second entry.2 ∧
        ∃ adjudication, findAdjudication adjudications entry.2 = some adjudication ∧
          AdjudicationRead contract entry.1 entry.2 resolution.pair adjudication ∧
          resolution.adjudication = some adjudication ∧
          resolution.outcome = adjudication.field "resolution_outcome"))

/-- Two resolutions do not use two adjudications that share an identity. -/
def AdjudicationsApart (first second : Resolution) : Prop :=
  ∀ one ∈ first.adjudication, ∀ other ∈ second.adjudication,
    FieldsApart adjudicationNames one other

theorem resolveTruth_short (short : ∀ first second rest,
      sortedReviews reviews entry.1 ≠ first :: second :: rest) :
    ¬ Resolves contract reviews adjudications entry resolution := by
  intro resolves
  obtain ⟨first, second, rest, listed, -⟩ := resolves.settled
  rw [resolves.pair] at listed
  exact short first second rest listed

theorem resolveTruth_ok (seen : List Resolution) (entry : Json × Json) (next : List Resolution) :
    resolveTruth contract reviews adjudications seen entry = .ok next ↔ ∃ resolution,
      Resolves contract reviews adjudications entry resolution ∧
      (∀ other ∈ seen, AdjudicationsApart other resolution) ∧ next = seen ++ [resolution] := by
  unfold resolveTruth
  split
  · rename_i first second rest listed
    dsimp only
    split
    · rename_i agree
      rw [Except.ok.injEq]
      constructor
      · intro same
        exact ⟨_, ⟨rfl, rfl, listed.symm, first, second, rest, rfl, .inl ⟨agree, rfl, rfl⟩⟩,
          fun _ _ _ _ _ absent => (Option.not_mem_none _ absent).elim, same.symm⟩
      · rintro ⟨resolution, ⟨work, truth, pair, first', second', rest', whole, settled⟩, -, same⟩
        obtain ⟨rfl, rfl, rfl⟩ : first' = first ∧ second' = second ∧ rest' = rest := by
          rw [pair, listed] at whole
          simpa using whole.symm
        rcases settled with ⟨-, unused, outcome⟩ | ⟨disagree, -⟩
        · rw [same, ← work, ← outcome, ← truth, ← whole, ← unused]
        · exact absurd agree disagree
    · rename_i disagree
      split
      · rename_i missing
        simp only [reduceCtorEq, false_iff]
        rintro ⟨resolution, ⟨-, -, pair, first', second', rest', whole, settled⟩, -, -⟩
        obtain ⟨rfl, rfl, -⟩ : first' = first ∧ second' = second ∧ rest' = rest := by
          rw [pair, listed] at whole
          simpa using whole.symm
        rcases settled with ⟨agree, -⟩ | ⟨-, adjudication, found, -⟩
        · exact disagree agree
        · rw [missing] at found
          cases found
      · rename_i adjudication found
        simp only [bind_ok, checkAdjudication_ok, pure_ok]
        constructor
        · rintro ⟨_, ⟨read, fresh⟩, same⟩
          refine ⟨_, ⟨rfl, rfl, listed.symm, first, second, rest, rfl,
            .inr ⟨disagree, adjudication, found, read, rfl, rfl⟩⟩, ?_, same.symm⟩
          intro other held one used last final
          cases final
          exact fresh one (mem_filterMap.mpr ⟨other, held, used⟩)
        · rintro ⟨resolution, ⟨work, truth, pair, first', second', rest', whole, settled⟩, fresh,
            same⟩
          obtain ⟨rfl, rfl, rfl⟩ : first' = first ∧ second' = second ∧ rest' = rest := by
            rw [pair, listed] at whole
            simpa using whole.symm
          rcases settled with ⟨agree, -⟩ | ⟨-, other, found', read, used, outcome⟩
          · exact absurd agree disagree
          · rw [found, Option.some.injEq] at found'
            rw [← found'] at read used outcome
            rw [whole] at read
            refine ⟨(), ⟨read, fun one held => ?_⟩, ?_⟩
            · obtain ⟨earlier, known, used'⟩ := mem_filterMap.mp held
              exact fresh earlier known one used' adjudication used
            · rw [same, ← work, ← truth, ← whole, ← used, ← outcome]
  · rename_i short
    simp only [reduceCtorEq, false_iff]
    rintro ⟨resolution, resolves, -, -⟩
    exact resolveTruth_short short resolves

variable [Python.Printing] {measures : List (Metric × Measure)} {summary : List Json}

/-- The accepted adjudications of a contract with the truth units that they resolve. -/
structure ResolutionsRead (contract : Json) (works reviews adjudications : List Json)
    (resolved : List Resolution) : Prop where
  sorted : SortedBy (textKey "adjudication_record_id") (contract.field "adjudication_records")
  listed : adjudications = entries (contract.field "adjudication_records")
  related : List.Forall₂ (Resolves contract reviews adjudications) (sortedTruths works) resolved
  apart : resolved.Pairwise AdjudicationsApart
  used : adjudications.length = (resolved.filterMap (·.adjudication)).length
  supplied : contract.field "truth_unit_decisions" = .arr (decisions resolved)
  covered : coversMetrics (resolved.map fun resolution => resolution.truth.field "metric") = true

theorem validateAdjudications_ok : validateAdjudications contract works reviews = .ok resolved ↔
    ∃ adjudications, ResolutionsRead contract works reviews adjudications resolved := by
  unfold validateAdjudications
  simp only [bind_ok, ordered_ok, require_ok, pure_ok, decide_eq_true_eq, beq_iff_eq,
    foldlM_related (fun seen _ => resolveTruth_ok seen) List.Pairwise.nil, nil_append]
  constructor
  · rintro ⟨adjudications, ⟨listed, sorted⟩, _, ⟨_, related, rfl, apart⟩, _, used, _, supplied, _,
      covered, rfl⟩
    exact ⟨adjudications, sorted, listed, related, apart, used, supplied, covered⟩
  · rintro ⟨adjudications, sorted, listed, related, apart, used, supplied, covered⟩
    exact ⟨adjudications, ⟨listed, sorted⟩, _, ⟨_, related, rfl, apart⟩, (), used, (), supplied, (),
      covered, rfl⟩

/-- The accepted ledgers of a contract. -/
structure ContractRead (contract : Json) (manifest : CorpusManifest)
    (works reviews suggestions adjudications : List Json) (resolved : List Resolution) : Prop where
  header : validateHeader contract = .ok manifest
  listed : WorksRead contract manifest works
  judged : ReviewsRead contract works reviews
  assisted : SuggestionsRead contract works reviews suggestions
  settled : ResolutionsRead contract works reviews adjudications resolved

theorem validateContract_ok : validateContract contract = .ok (measures, summary) ↔
    ∃ manifest works reviews suggestions adjudications resolved,
      ContractRead contract manifest works reviews suggestions adjudications resolved ∧
      measures = derive resolved ∧ summary = decisions resolved := by
  unfold validateContract
  simp only [bind_ok, validateWorkUnits_ok, validateReviews_ok, validateAssistance_ok,
    validateAdjudications_ok, pure_ok, Prod.mk.injEq]
  constructor
  · rintro ⟨manifest, header, works, listed, reviews, judged, suggestions, assisted, resolved,
      ⟨adjudications, settled⟩, same, same'⟩
    exact ⟨manifest, works, reviews, suggestions, adjudications, resolved,
      ⟨header, listed, judged, assisted, settled⟩, same.symm, same'.symm⟩
  · rintro ⟨manifest, works, reviews, suggestions, adjudications, resolved,
      ⟨header, listed, judged, assisted, settled⟩, same, same'⟩
    exact ⟨manifest, header, works, listed, reviews, judged, suggestions, assisted, resolved,
      ⟨adjudications, settled⟩, same.symm, same'.symm⟩

end
end Bilingual
end KSlide
