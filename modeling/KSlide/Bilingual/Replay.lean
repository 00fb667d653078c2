import KSlide.Bilingual.Ledger
import KSlide.Tally

/-
This file proves when an accepted bilingual ledger is not replayed.
-/

namespace KSlide
open List
namespace Bilingual

def units (contract : Json) : List Json := entries (contract.field "work_units")

def records (contract : Json) : List Json := entries (contract.field "review_records")

def suggestions (contract : Json) : List Json := entries (contract.field "ai_assistance_records")

def adjudications (contract : Json) : List Json := entries (contract.field "adjudication_records")

/-- The reviews that give an outcome to a truth unit. -/
def judgements (contract truth : Json) : List Json :=
  (records contract).filter fun record => (judgedIds record).elem (truth.field "truth_unit_id")

/-- The adjudications that name a truth unit. -/
def rulings (contract truth : Json) : List Json :=
  (adjudications contract).filter fun ruling =>
    ruling.field "truth_unit_id" == truth.field "truth_unit_id"

/-- The agreed or adjudicated outcome of a truth unit. -/
def settled (contract truth : Json) : Json :=
  match judgements contract truth with
  | [first, second] =>
    if reviewOutcome first truth = reviewOutcome second truth then reviewOutcome first truth
    else ((rulings contract truth).head?.map (·.field "resolution_outcome")).getD .null
  | _ => .null

def settledOutcomes (contract : Json) (metric : Metric) : List Json :=
  ((truthUnits (units contract)).filter fun entry => entry.2.field "metric" == metric.name).map
    fun entry => settled contract entry.2

/-- Two reviewers judge a truth unit differently. -/
def Disagree (contract truth : Json) : Prop :=
  ∃ first second, judgements contract truth = [first, second] ∧
    reviewOutcome first truth ≠ reviewOutcome second truth

/-- An honest ledger has independent artifacts, reviewers and adjudicators, uses each record once
and counts the outcomes of its truth units. -/
structure Honest (contract : Json) (measures : List (Metric × Measure)) : Prop where
  artifacts : ∀ work ∈ units contract, ∀ other ∈ units contract,
    work.field "item_id" ≠ other.field "item_id" →
      work.field "artifact_id" ≠ other.field "artifact_id" ∧
        work.field "artifact_sha256" ≠ other.field "artifact_sha256"
  contents : 50 ≤ ((units contract).map (·.field "artifact_sha256")).dedup.length
  reviewed : ∀ entry ∈ truthUnits (units contract), ∃ first second,
    judgements contract entry.2 = [first, second] ∧
      first.field "reviewer_id" ≠ second.field "reviewer_id"
  adjudicated : ∀ entry ∈ truthUnits (units contract), ∀ first second,
    judgements contract entry.2 = [first, second] →
      reviewOutcome first entry.2 ≠ reviewOutcome second entry.2 →
      ∃ ruling, rulings contract entry.2 = [ruling] ∧
        ruling.field "adjudicator_id" ≠ first.field "reviewer_id" ∧
        ruling.field "adjudicator_id" ≠ second.field "reviewer_id"
  reviews : ∀ record ∈ records contract, ∃ work, ((units contract).filter fun work =>
    work.field "work_unit_id" == record.field "work_unit_id") = [work]
  assistance : ∀ suggestion ∈ suggestions contract, ∃ record,
    ((records contract).filter fun record => (entries (record.field "ai_assistance_ids")).elem
      (suggestion.field "assistance_record_id")) = [record]
  rulings : ∀ ruling ∈ adjudications contract, ∃ entry,
    ((truthUnits (units contract)).filter fun entry =>
      entry.2.field "truth_unit_id" == ruling.field "truth_unit_id") = [entry] ∧
      Disagree contract entry.2
  errors : ∀ metric ∈ Metric.critical,
    measures.lookup metric = some (.count ((settledOutcomes contract metric).count incorrect))
  fractions : ∀ metric ∈ Metric.rates, 0 < (settledOutcomes contract metric).length ∧
    measures.lookup metric = some (.rate (((settledOutcomes contract metric).count correct : ℚ) /
      (settledOutcomes contract metric).length))

/-- Items do not share contents, there are enough contents, and nobody adjudicates an own review. -/
structure Independent (contract : Json) : Prop where
  items : ∀ work ∈ units contract, ∀ other ∈ units contract,
    work.field "item_id" ≠ other.field "item_id" →
      work.field "artifact_sha256" ≠ other.field "artifact_sha256"
  contents : 50 ≤ ((units contract).map (·.field "artifact_sha256")).dedup.length
  adjudicators : ∀ ruling ∈ adjudications contract, ∀ record ∈ records contract,
    record.field "work_unit_id" = ruling.field "work_unit_id" →
      ruling.field "adjudicator_id" ≠ record.field "reviewer_id"

section
variable [Sha256] [Python.Printing] {contract work other record truth ruling : Json}
  {manifest : CorpusManifest} {works reviews assistance given : List Json}
  {resolved : List Resolution} {entry : Json × Json}

omit [Sha256] in
theorem WorksRead.ids (read : WorksRead contract manifest works) :
    (works.map (·.field "work_unit_id")).Nodup := by
  rw [List.Nodup, pairwise_map]
  exact read.apart.imp fun apart => apart.id

omit [Sha256] in
theorem WorksRead.truthIds (read : WorksRead contract manifest works) :
    (truthIds works).Nodup := by
  unfold Bilingual.truthIds
  rw [nodup_flatMap]
  refine ⟨fun work listed => (read.each work listed).distinct, read.apart.imp ?_⟩
  intro work other apart id first second
  obtain ⟨truth, held, same⟩ := mem_map.mp first
  obtain ⟨truth', held', same'⟩ := mem_map.mp second
  exact apart.truths truth held truth' held' (same.trans same'.symm)

omit [Sha256] [Python.Printing] in
theorem mem_truthUnits : entry ∈ truthUnits works ↔
    entry.1 ∈ works ∧ entry.2 ∈ truthsOf entry.1 := by
  unfold truthUnits truthsOf
  obtain ⟨work, truth⟩ := entry
  simp only [mem_flatMap, mem_map, Prod.mk.injEq]
  constructor
  · rintro ⟨other, listed, found, held, rfl, rfl⟩
    exact ⟨listed, held⟩
  · rintro ⟨listed, held⟩
    exact ⟨work, listed, truth, held, rfl, rfl⟩

omit [Sha256] [Python.Printing] in
theorem truthUnits_ids : (truthUnits works).map (fun entry => entry.2.field "truth_unit_id") =
    truthIds works := by
  unfold truthUnits truthIds
  rw [map_flatMap]
  simp only [map_map, Function.comp_def]

omit [Sha256] in
theorem WorksRead.owner (read : WorksRead contract manifest works) (listed : work ∈ works)
    (held : truth ∈ truthsOf work) (known : other ∈ works)
    (named : truth.field "truth_unit_id" ∈ Bilingual.truthIds [other]) : other = work := by
  obtain ⟨_, single, found, held', same⟩ := mem_truthIds.mp named
  rw [mem_singleton.mp single] at held'
  by_contra different
  exact (worksApart_of_ne read.apart known listed different).truths found held' truth held same

theorem judgements_eq (read : WorksRead contract manifest works)
    (judged : ReviewsRead contract works reviews) (listed : work ∈ works)
    (held : truth ∈ truthsOf work) : judgements contract truth = reviewsOf reviews work := by
  unfold judgements reviewsOf records
  rw [← judged.listed]
  refine filter_congr fun record known => ?_
  obtain ⟨owner, found, bound, judges⟩ := (judged.each record known).judged
  have owned := mem_of_find?_eq_some found
  have same : owner.field "work_unit_id" = record.field "work_unit_id" := by
    simpa using find?_some found
  rw [Bool.eq_iff_iff, elem_iff, beq_iff_eq, judges.exact]
  constructor
  · intro named
    rw [← same, read.owner listed held owned named]
  · intro equal
    have itself : owner = work :=
      inj_on_of_nodup_map read.ids owned listed (same.trans equal)
    rw [itself]
    exact mem_truthIds.mpr ⟨work, mem_singleton_self _, truth, held, rfl⟩

omit [Sha256] [Python.Printing] in
theorem isPair_length {pair : List Json} (two : isPair pair = true) : pair.length = 2 := by
  unfold isPair at two
  split at two
  · rfl
  · cases two

/-- Every work unit has exactly two reviews. -/
theorem ReviewsRead.pair (read : WorksRead contract manifest works)
    (judged : ReviewsRead contract works reviews) (listed : work ∈ works) :
    ∃ first second, reviewsOf reviews work = [first, second] ∧
      first.field "reviewer_id" ≠ second.field "reviewer_id" := by
  have known : ∀ record ∈ reviews,
      record.field "work_unit_id" ∈ works.map (·.field "work_unit_id") := by
    intro record held
    obtain ⟨owner, found, -⟩ := (judged.each record held).judged
    have same : owner.field "work_unit_id" = record.field "work_unit_id" := by
      simpa using find?_some found
    exact mem_map.mpr ⟨owner, mem_of_find?_eq_some found, same⟩
  have total := sum_filter_key read.ids known
  have small : ∀ number ∈ works.map fun work => (reviewsOf reviews work).length, number ≤ 2 := by
    intro number counted
    obtain ⟨other, held, rfl⟩ := mem_map.mp counted
    rcases judged.pairs other held with none | two
    · rw [none]
      exact Nat.zero_le _
    · rw [isPair_length two]
  have whole : (works.map fun work => (reviewsOf reviews work).length).sum =
      (works.map fun work => (reviewsOf reviews work).length).length * 2 := by
    rw [length_map, ← judged.twice, ← total, map_map]
    rfl
  have two := eq_of_sum_eq small whole _ (mem_map_of_mem listed)
  rcases judged.pairs work listed with none | pair
  · rw [none] at two
    cases two
  · unfold isPair at pair
    split at pair
    · rename_i first second equal
      rw [Bool.and_eq_true, bne_iff_ne, bne_iff_ne] at pair
      exact ⟨first, second, equal, pair.1⟩
    · cases pair

variable {adjudication : Json} {resolution : Resolution}

omit [Sha256] [Python.Printing] in
theorem findAdjudication_some (found : findAdjudication given truth = some adjudication) :
    adjudication ∈ given ∧
      adjudication.field "truth_unit_id" = truth.field "truth_unit_id" := by
  unfold findAdjudication at found
  have passed := find?_some found
  rw [Bool.and_eq_true, beq_iff_eq] at passed
  exact ⟨mem_of_find?_eq_some found, passed.2⟩

omit [Sha256] [Python.Printing] in
theorem findAdjudication_congr (same : truth.field "truth_unit_id" = other.field "truth_unit_id") :
    findAdjudication given truth = findAdjudication given other := by
  unfold findAdjudication
  rw [same]

omit [Python.Printing] in
/-- An adjudication that a resolution uses decides between two different outcomes. -/
theorem Resolves.adjudged (resolves : Resolves contract reviews given entry resolution)
    (used : resolution.adjudication = some adjudication) :
    findAdjudication given entry.2 = some adjudication ∧
      AdjudicationRead contract entry.1 entry.2 resolution.pair adjudication ∧
      resolution.outcome = adjudication.field "resolution_outcome" ∧
      ∃ first second rest, sortedReviews reviews entry.1 = first :: second :: rest ∧
        reviewOutcome first entry.2 ≠ reviewOutcome second entry.2 := by
  obtain ⟨first, second, rest, pair, agree | ⟨disagree, other, found, read, used', outcome⟩⟩ :=
    resolves.settled
  · rw [agree.2.1] at used
    cases used
  · rw [used', Option.some.injEq] at used
    rw [resolves.pair] at pair
    exact ⟨used ▸ found, used ▸ read, used ▸ outcome, first, second, rest, pair, disagree⟩

omit [Python.Printing] in
theorem Resolves.agreement (resolves : Resolves contract reviews given entry resolution)
    (unused : resolution.adjudication = none) :
    ∃ first second rest, sortedReviews reviews entry.1 = first :: second :: rest ∧
      reviewOutcome first entry.2 = reviewOutcome second entry.2 ∧
      resolution.outcome = reviewOutcome first entry.2 := by
  obtain ⟨first, second, rest, pair, ⟨agree, -, outcome⟩ | ⟨-, other, -, -, used, -⟩⟩ :=
    resolves.settled
  · rw [resolves.pair] at pair
    exact ⟨first, second, rest, pair, agree, outcome⟩
  · rw [unused] at used
    cases used

omit [Sha256] [Python.Printing] in
theorem mem_sortedTruths : entry ∈ sortedTruths works ↔ entry ∈ truthUnits works :=
  (mergeSort_perm _ _).mem_iff

theorem ResolutionsRead.settles (read : ResolutionsRead contract works reviews given resolved)
    (listed : entry ∈ truthUnits works) :
    ∃ resolution ∈ resolved, Resolves contract reviews given entry resolution :=
  related_item read.related.flip (mem_sortedTruths.mpr listed)

theorem ResolutionsRead.source (read : ResolutionsRead contract works reviews given resolved)
    (used : adjudication ∈ resolved.filterMap (·.adjudication)) :
    ∃ entry ∈ truthUnits works, ∃ resolution ∈ resolved,
      Resolves contract reviews given entry resolution ∧
      resolution.adjudication = some adjudication := by
  obtain ⟨resolution, known, used'⟩ := mem_filterMap.mp used
  obtain ⟨entry, listed, resolves⟩ := related_item read.related known
  exact ⟨entry, mem_sortedTruths.mp listed, resolution, known, resolves, used'⟩

/-- The adjudications of a contract are the ones that are used. -/
theorem ResolutionsRead.perm (read : ResolutionsRead contract works reviews given resolved) :
    (resolved.filterMap (·.adjudication)).Nodup ∧
      (resolved.filterMap (·.adjudication)).Perm given := by
  have distinct : (resolved.filterMap (·.adjudication)).Nodup := by
    rw [List.Nodup, pairwise_filterMap]
    refine read.apart.imp fun apart one used other used' same => ?_
    exact apart one used other used' "adjudication_record_id" (by decide) (by rw [same])
  have inside : resolved.filterMap (·.adjudication) ⊆ given := by
    intro adjudication used
    obtain ⟨entry, -, resolution, -, resolves, used'⟩ := read.source used
    exact (findAdjudication_some (resolves.adjudged used').1).1
  exact ⟨distinct, (subperm_of_subset distinct inside).perm_of_length_le
    (le_of_eq read.used)⟩

/-- A truth unit with a used adjudication has no other one. -/
theorem rulings_eq (read : ResolutionsRead contract works reviews given resolved)
    (resolves : Resolves contract reviews given entry resolution)
    (used : resolution.adjudication = some adjudication) :
    rulings contract entry.2 = [adjudication] := by
  obtain ⟨distinct, same⟩ := read.perm
  obtain ⟨found, -⟩ := resolves.adjudged used
  obtain ⟨listed, named⟩ := findAdjudication_some found
  unfold rulings adjudications
  rw [← read.listed]
  refine filter_single (same.nodup_iff.mp distinct) listed fun other known => ?_
  rw [beq_iff_eq]
  constructor
  · intro named'
    obtain ⟨entry', -, resolution', -, resolves', used'⟩ := read.source (same.mem_iff.mpr known)
    obtain ⟨found', -⟩ := resolves'.adjudged used'
    have alike := (findAdjudication_some found').2.symm.trans named'
    rw [findAdjudication_congr alike, found, Option.some.injEq] at found'
    exact found'.symm
  · intro equal
    rw [equal]
    exact named

omit [Sha256] [Python.Printing] in
theorem sortedReviews_pair {first second one next : Json} {rest : List Json}
    (pair : reviewsOf reviews work = [first, second])
    (sorted : sortedReviews reviews work = one :: next :: rest) :
    rest = [] ∧ (first = one ∧ second = next ∨ first = next ∧ second = one) := by
  have same : (one :: next :: rest).Perm [first, second] := by
    rw [← sorted, ← pair]
    exact mergeSort_perm _ _
  have short : rest = [] := by
    have lengths := same.length_eq
    simpa using lengths
  rw [short] at same
  exact ⟨short, perm_pair same.symm⟩

theorem settled_eq
    (read : ContractRead contract manifest works reviews assistance given resolved)
    (listed : entry ∈ truthUnits works)
    (resolves : Resolves contract reviews given entry resolution) :
    resolution.outcome = settled contract entry.2 := by
  obtain ⟨known, held⟩ := mem_truthUnits.mp listed
  obtain ⟨first, second, pair, -⟩ := read.judged.pair read.listed known
  have judged := (judgements_eq read.listed read.judged known held).trans pair
  unfold settled
  rw [judged]
  dsimp only
  cases used : resolution.adjudication with
  | none =>
    obtain ⟨one, other, rest, sorted, agree, outcome⟩ := resolves.agreement used
    obtain ⟨-, ⟨rfl, rfl⟩ | ⟨rfl, rfl⟩⟩ := sortedReviews_pair pair sorted
    · rw [if_pos agree, outcome]
    · rw [if_pos agree.symm, outcome, agree]
  | some adjudication =>
    obtain ⟨-, -, outcome, one, other, rest, sorted, disagree⟩ := resolves.adjudged used
    rw [rulings_eq read.settled resolves used, outcome]
    obtain ⟨-, ⟨rfl, rfl⟩ | ⟨rfl, rfl⟩⟩ := sortedReviews_pair pair sorted
    · rw [if_neg disagree]
      rfl
    · rw [if_neg (Ne.symm disagree)]
      rfl

theorem disagree_iff
    (read : ContractRead contract manifest works reviews assistance given resolved)
    (listed : entry ∈ truthUnits works)
    (resolves : Resolves contract reviews given entry resolution) :
    Disagree contract entry.2 ↔ ∃ adjudication, resolution.adjudication = some adjudication := by
  obtain ⟨known, held⟩ := mem_truthUnits.mp listed
  obtain ⟨first, second, pair, -⟩ := read.judged.pair read.listed known
  have judged := (judgements_eq read.listed read.judged known held).trans pair
  cases used : resolution.adjudication with
  | none =>
    obtain ⟨one, other, rest, sorted, agree, -⟩ := resolves.agreement used
    have same : reviewOutcome first entry.2 = reviewOutcome second entry.2 := by
      obtain ⟨-, ⟨rfl, rfl⟩ | ⟨rfl, rfl⟩⟩ := sortedReviews_pair pair sorted
      · exact agree
      · exact agree.symm
    constructor
    · rintro ⟨first', second', judged', differ⟩
      rw [judged, List.cons.injEq, List.cons.injEq] at judged'
      exact absurd (judged'.1 ▸ judged'.2.1 ▸ same) differ
    · rintro ⟨_, impossible⟩
      cases impossible
  | some adjudication =>
    obtain ⟨-, -, -, one, other, rest, sorted, differ⟩ := resolves.adjudged used
    refine ⟨fun _ => ⟨adjudication, rfl⟩, fun _ => ⟨first, second, judged, ?_⟩⟩
    obtain ⟨-, ⟨rfl, rfl⟩ | ⟨rfl, rfl⟩⟩ := sortedReviews_pair pair sorted
    · exact differ
    · exact Ne.symm differ

omit [Sha256] [Python.Printing] in
theorem metricOutcomes_eq {listed : List (Json × Json)} {metric : Metric}
    (related : List.Forall₂ (fun entry resolution => resolution.truth = entry.2 ∧
      resolution.outcome = settled contract entry.2) listed resolved) :
    metricOutcomes resolved metric =
      (listed.filter fun entry => entry.2.field "metric" == metric.name).map
        fun entry => settled contract entry.2 := by
  induction related with
  | nil => rfl
  | @cons entry resolution listed resolved same related ih =>
    obtain ⟨truth, outcome⟩ := same
    unfold metricOutcomes at ih ⊢
    rw [filter_cons, filter_cons, truth]
    split
    · rw [map_cons, map_cons, ih, outcome]
    · exact ih

theorem metricOutcomes_perm
    (read : ContractRead contract manifest works reviews assistance given resolved)
    (metric : Metric) :
    (metricOutcomes resolved metric).Perm (settledOutcomes contract metric) := by
  have related : List.Forall₂ (fun entry resolution => resolution.truth = entry.2 ∧
      resolution.outcome = settled contract entry.2) (sortedTruths works) resolved := by
    have known : ∀ entry ∈ sortedTruths works, entry ∈ truthUnits works := fun entry =>
      mem_sortedTruths.mp
    refine ((forall₂_and_left _ _).mpr ⟨known, read.settled.related⟩).imp ?_
    rintro entry resolution ⟨listed, resolves⟩
    exact ⟨resolves.truth, settled_eq read listed resolves⟩
  rw [metricOutcomes_eq related]
  unfold settledOutcomes units
  rw [← read.listed.listed]
  exact ((mergeSort_perm _ _).filter _).map _

omit [Sha256] [Python.Printing] in
theorem lookup_graph {metrics : List Metric} {metric : Metric} (measure : Metric → Measure)
    (listed : metric ∈ metrics) :
    (metrics.map fun metric => (metric, measure metric)).lookup metric = some (measure metric) := by
  induction metrics with
  | nil => cases listed
  | cons head rest ih =>
    rw [map_cons, lookup_cons]
    by_cases same : metric = head
    · rw [same, beq_self_eq_true]
    · rw [beq_eq_false_iff_ne.mpr same]
      exact ih ((mem_cons.mp listed).resolve_left same)

omit [Sha256] [Python.Printing] in
theorem derive_critical {metric : Metric} (listed : metric ∈ Metric.critical) :
    (derive resolved).lookup metric =
      some (.count ((metricOutcomes resolved metric).count incorrect)) := by
  unfold derive
  rw [lookup_append, lookup_graph (fun metric => .count
    ((metricOutcomes resolved metric).count incorrect)) listed]
  rfl

omit [Sha256] [Python.Printing] in
theorem derive_rate {metric : Metric} (listed : metric ∈ Metric.rates) :
    (derive resolved).lookup metric =
      some (.rate (((metricOutcomes resolved metric).count correct : ℚ) /
        (metricOutcomes resolved metric).length)) := by
  have other : metric ∉ Metric.critical := by
    revert metric
    decide
  unfold derive
  rw [lookup_append, lookup_eq_none_iff.mpr fun entry known => ?_, Option.none_or,
    lookup_graph (fun metric => .rate (((metricOutcomes resolved metric).count correct : ℚ) /
      (metricOutcomes resolved metric).length)) listed]
  obtain ⟨critical, listed', same⟩ := mem_map.mp known
  rw [← same, bne_iff_ne]
  exact fun equal => other (equal ▸ listed')

end
section
variable [Sha256] [Python.Printing] {contract work record ruling : Json}
  {manifest : CorpusManifest} {works reviews assistance given : List Json}
  {resolved : List Resolution} {entry : Json × Json}

/-- An artifact identity belongs to one item. -/
theorem artifact_item
    (read : ContractRead contract manifest works reviews assistance given resolved) {other : Json}
    (listed : work ∈ works) (known : other ∈ works)
    (different : work.field "item_id" ≠ other.field "item_id") :
    work.field "artifact_id" ≠ other.field "artifact_id" := by
  intro same
  have apart := worksApart_of_ne read.listed.apart listed known fun equal =>
    different (by rw [equal])
  exact different (Prod.mk.inj (apart.artifact same)).1

theorem review_unit
    (read : ContractRead contract manifest works reviews assistance given resolved)
    (listed : record ∈ reviews) : ∃ work, (works.filter fun work =>
      work.field "work_unit_id" == record.field "work_unit_id") = [work] := by
  obtain ⟨work, found, -⟩ := (read.judged.each record listed).judged
  have same : work.field "work_unit_id" = record.field "work_unit_id" := by
    simpa using find?_some found
  rw [← same]
  exact ⟨work, filter_key read.listed.ids (mem_of_find?_eq_some found)⟩

omit [Sha256] [Python.Printing] in
theorem mem_assistanceOf {suggestions : List Json} {id : Json} :
    id ∈ assistanceOf suggestions record ↔ ∃ suggestion ∈ suggestions,
      suggestion.field "review_record_id" = record.field "review_record_id" ∧
      suggestion.field "assistance_record_id" = id := by
  unfold assistanceOf
  simp only [mem_map, (mergeSort_perm _ _).mem_iff, mem_filter, beq_iff_eq,
    and_assoc]

theorem suggestion_review
    (read : ContractRead contract manifest works reviews assistance given resolved)
    {suggestion : Json} (listed : suggestion ∈ assistance) : ∃ record,
      (reviews.filter fun record => (entries (record.field "ai_assistance_ids")).elem
        (suggestion.field "assistance_record_id")) = [record] := by
  obtain ⟨review, -, found, -⟩ := (read.assisted.each suggestion listed).assists
  have known := mem_of_find?_eq_some found
  have same : review.field "review_record_id" = suggestion.field "review_record_id" := by
    simpa using find?_some found
  have ids : (reviews.map (·.field "review_record_id")).Nodup := by
    rw [List.Nodup, pairwise_map]
    exact read.judged.apart.imp fun apart => apart "review_record_id" (by decide)
  refine ⟨review, filter_single ids.of_map known fun other held => ?_⟩
  rw [elem_iff, read.assisted.cited other held]
  change _ ∈ assistanceOf assistance other ↔ _
  rw [mem_assistanceOf]
  constructor
  · rintro ⟨again, listed', named, equal⟩
    have : Std.Symm (FieldsApart assistanceNames) := ⟨fun _ _ => FieldsApart.symm⟩
    have itself : again = suggestion := by
      by_contra different
      exact read.assisted.apart.forall listed' listed different "assistance_record_id" (by decide)
        equal
    rw [itself] at named
    exact inj_on_of_nodup_map ids held known (named.symm.trans same.symm)
  · intro equal
    rw [equal]
    exact ⟨suggestion, listed, same.symm, rfl⟩

omit [Python.Printing] in
theorem isBound_unit (bound : isBound contract work record = true) :
    record.field "work_unit_id" = work.field "work_unit_id" := by
  unfold isBound at bound
  rw [all_eq_true] at bound
  have listed : ("work_unit_id", work.field "work_unit_id") ∈ bindingFor contract work := by
    simp [bindingFor]
  exact beq_iff_eq.mp (bound _ listed)

theorem ruling_entry
    (read : ContractRead contract manifest works reviews assistance given resolved)
    (listed : ruling ∈ given) : ∃ entry ∈ truthUnits works,
      ((truthUnits works).filter fun entry =>
        entry.2.field "truth_unit_id" == ruling.field "truth_unit_id") = [entry] ∧
      Disagree contract entry.2 ∧ rulings contract entry.2 = [ruling] ∧
      ruling.field "work_unit_id" = entry.1.field "work_unit_id" := by
  obtain ⟨-, same⟩ := read.settled.perm
  obtain ⟨entry, known, resolution, held, resolves, used⟩ :=
    read.settled.source (same.mem_iff.mpr listed)
  obtain ⟨found, adjudged, -⟩ := resolves.adjudged used
  have named := (findAdjudication_some found).2
  have ids : ((truthUnits works).map fun entry => entry.2.field "truth_unit_id").Nodup := by
    rw [truthUnits_ids]
    exact read.listed.truthIds
  refine ⟨entry, known, ?_, (disagree_iff read known resolves).mpr ⟨ruling, used⟩,
    rulings_eq read.settled resolves used, isBound_unit adjudged.bound⟩
  rw [named]
  exact filter_key ids known

theorem rate_present
    (read : ContractRead contract manifest works reviews assistance given resolved)
    (metric : Metric) : 0 < (settledOutcomes contract metric).length := by
  have covered := all_eq_true.mp read.settled.covered metric (Text.Enumeration.complete metric)
  obtain ⟨resolution, listed, same⟩ := mem_map.mp (elem_iff.mp covered)
  rw [← (metricOutcomes_perm read metric).length_eq]
  unfold metricOutcomes
  rw [length_map]
  exact length_pos_of_mem (mem_filter.mpr ⟨listed, beq_iff_eq.mpr same⟩)

/-- An accepted contract is honest exactly when its contents and its adjudicators are
independent. -/
theorem validateContract_honest {measures : List (Metric × Measure)} {summary : List Json}
    (accepted : validateContract contract = .ok (measures, summary)) :
    Honest contract measures ↔ Independent contract := by
  obtain ⟨manifest, works, reviews, assistance, given, resolved, read, rfl, -⟩ :=
    validateContract_ok.mp accepted
  have units_eq : units contract = works := read.listed.listed.symm
  have records_eq : records contract = reviews := read.judged.listed.symm
  have given_eq : adjudications contract = given := read.settled.listed.symm
  have judged : ∀ entry ∈ truthUnits works, ∃ first second,
      judgements contract entry.2 = [first, second] ∧
      first.field "reviewer_id" ≠ second.field "reviewer_id" ∧
      reviewsOf reviews entry.1 = [first, second] := by
    intro entry listed
    obtain ⟨known, held⟩ := mem_truthUnits.mp listed
    obtain ⟨first, second, pair, differ⟩ := read.judged.pair read.listed known
    exact ⟨first, second, (judgements_eq read.listed read.judged known held).trans pair, differ,
      pair⟩
  constructor
  · intro honest
    refine ⟨fun work listed other known different =>
      (honest.artifacts work listed other known different).2, honest.contents, ?_⟩
    rw [given_eq, records_eq]
    intro ruling listed record known same
    obtain ⟨entry, held, -, ⟨first, second, pair, differ⟩, ruled, bound⟩ :=
      ruling_entry read listed
    have adjudicated := honest.adjudicated entry (units_eq ▸ held) first second pair differ
    obtain ⟨other, ruled', one, two⟩ := adjudicated
    rw [ruled, List.cons.injEq] at ruled'
    rw [← ruled'.1] at one two
    obtain ⟨first', second', pair', -, reviewed⟩ := judged entry held
    have member : record ∈ reviewsOf reviews entry.1 := by
      unfold reviewsOf
      rw [mem_filter, beq_iff_eq, same, bound]
      exact ⟨known, rfl⟩
    rw [reviewed, ← pair', pair] at member
    rcases mem_pair.mp member with rfl | rfl
    · exact one
    · exact two
  · intro independent
    have rulings_apart := independent.adjudicators
    rw [given_eq, records_eq] at rulings_apart
    constructor
    case artifacts =>
      intro work listed other known different
      exact ⟨artifact_item read (units_eq ▸ listed) (units_eq ▸ known) different,
        independent.items work listed other known different⟩
    case contents => exact independent.contents
    case reviewed =>
      rw [units_eq]
      intro entry listed
      obtain ⟨first, second, pair, differ, -⟩ := judged entry listed
      exact ⟨first, second, pair, differ⟩
    case adjudicated =>
      rw [units_eq]
      intro entry listed first second pair differ
      obtain ⟨resolution, -, resolves⟩ := read.settled.settles listed
      have disagree : Disagree contract entry.2 := ⟨first, second, pair, differ⟩
      obtain ⟨ruling, used⟩ := (disagree_iff read listed resolves).mp disagree
      obtain ⟨found, adjudged, -⟩ := resolves.adjudged used
      obtain ⟨first', second', pair', -, reviewed⟩ := judged entry listed
      rw [pair, ← reviewed] at pair'
      have apart : ∀ record ∈ [first, second],
          ruling.field "adjudicator_id" ≠ record.field "reviewer_id" := by
        intro record held
        rw [pair'] at held
        obtain ⟨known, unit⟩ := mem_filter.mp held
        exact rulings_apart ruling (findAdjudication_some found).1 record known
          ((beq_iff_eq.mp unit).trans (isBound_unit adjudged.bound).symm)
      exact ⟨ruling, rulings_eq read.settled resolves used, apart first mem_cons_self,
        apart second (mem_cons_of_mem _ mem_cons_self)⟩
    case reviews =>
      rw [records_eq, units_eq]
      exact fun record listed => review_unit read listed
    case assistance =>
      unfold suggestions
      rw [records_eq, ← read.assisted.listed]
      exact fun suggestion listed => suggestion_review read listed
    case rulings =>
      rw [given_eq, units_eq]
      intro ruling listed
      obtain ⟨entry, -, single, disagree, -⟩ := ruling_entry read listed
      exact ⟨entry, single, disagree⟩
    case errors =>
      intro metric listed
      rw [derive_critical listed, (metricOutcomes_perm read metric).count_eq]
    case fractions =>
      intro metric listed
      rw [derive_rate listed, (metricOutcomes_perm read metric).count_eq,
        (metricOutcomes_perm read metric).length_eq]
      exact ⟨rate_present read metric, rfl⟩

end
end Bilingual
end KSlide
