import KSlide.Bilingual.Replay
import KSlide.Certification.DependencyLock
import KSlide.Corpus.NextVersion

/-
This file proves that a ledger of any length is accepted although its artifacts share one content
and a reviewer adjudicates.
-/

namespace KSlide
open List

theorem hexDigit_inj : ∀ first < 16, ∀ second < 16,
    Json.hexDigit first = Json.hexDigit second → first = second := by decide

/-- The digits of a number determine its lowest digits. -/
theorem hexDigits_inj {first second count : Nat}
    (same : hexDigits first count = hexDigits second count) :
    first % 16 ^ count = second % 16 ^ count := by
  induction count generalizing first second with
  | zero => rw [Nat.pow_zero, Nat.mod_one, Nat.mod_one]
  | succ count ih =>
    rw [hexDigits, hexDigits, List.cons.injEq] at same
    have low := hexDigit_inj _ (Nat.mod_lt first (by decide)) _ (Nat.mod_lt second (by decide))
      same.1
    rw [Nat.pow_succ', Nat.mod_mul, Nat.mod_mul, low, ih same.2]

namespace Bilingual

/-- The digest texts of a ledger have a kind and an index. -/
def digestText (kind index : Nat) : String := String.ofList (hexDigits (kind + 16 * index) 64)

theorem digestText_shape (kind index : Nat) : Text.isSha256 (digestText kind index) = true := by
  simp [digestText, Text.isSha256, Text.isExactly, hexDigits_shape]

theorem digestText_inj {kind other index next : Nat} (small : kind < 16) (small' : other < 16)
    (few : index < 16 ^ 63) (few' : next < 16 ^ 63)
    (same : digestText kind index = digestText other next) : kind = other ∧ index = next := by
  have digits := hexDigits_inj (String.ofList_injective same)
  rw [Nat.mod_eq_of_lt (by omega), Nat.mod_eq_of_lt (by omega)] at digits
  omega

/-- The letters of a text from a place on that may be a digest. -/
def windowText (start : Nat) (text : String) : String :=
  String.ofList ((text.toList.drop start).take 64)

/-- This stand-in digest repeats a digest that stands at one place of the text. -/
@[reducible] def window (start : Nat) : Sha256 where
  hexdigest text := if Text.isSha256 (windowText start text) then windowText start text
    else digestText 0 0
  shape text := by
    split
    · assumption
    · exact digestText_shape 0 0

theorem digest_length {id : String} (shape : Text.isSha256 id = true) : id.toList.length = 64 := by
  unfold Text.isSha256 Text.isExactly at shape
  rw [Bool.and_eq_true, beq_iff_eq] at shape
  exact shape.2

theorem window_hit {start : Nat} {before after : List Char} {id : String}
    (shape : Text.isSha256 id = true) (place : before.length = start) :
    (window start).hexdigest (String.ofList (before ++ (id.toList ++ after))) = id := by
  have found : windowText start (String.ofList (before ++ (id.toList ++ after))) = id := by
    unfold windowText
    rw [String.toList_ofList, ← place, drop_left, ← digest_length shape, take_left,
      String.ofList_toList]
  show (if Text.isSha256 (windowText start _) then windowText start _ else _) = id
  rw [found, if_pos shape]

/-- The text of the fields before another field. -/
def openFields (fields : List (String × Json)) : List Char :=
  fields.flatMap fun entry => Json.dumpsText entry.1 ++ ':' :: (Json.dumpsChars entry.2 ++ [','])

theorem dumpsFields_open {before after : List (String × Json)} (more : after ≠ []) :
    Json.dumpsFields (before ++ after) = openFields before ++ Json.dumpsFields after := by
  induction before with
  | nil => rfl
  | cons entry before ih =>
    have next : before ++ after ≠ [] := append_ne_nil_of_right_ne_nil before more
    obtain ⟨head, tail, shape⟩ := exists_cons_of_ne_nil next
    rw [shape] at ih
    rw [cons_append, shape]
    show Json.dumpsText entry.1 ++ ':' :: (Json.dumpsChars entry.2 ++ ',' ::
      Json.dumpsFields (head :: tail)) = _
    rw [ih]
    simp [openFields]

theorem escape_hex {letter : Char} (digit : Text.isHex letter = true) :
    Json.escape letter = [letter] := by
  have plain : ∀ point < 128, Text.isHex (Char.ofNat point) = true →
      Json.escape (Char.ofNat point) = [Char.ofNat point] := by decide +kernel
  have low : letter.toNat < 128 := by
    have bounds := digit
    simp only [Text.isHex, Text.isDigit, Bool.or_eq_true, Bool.and_eq_true, decide_eq_true_eq,
      Char.le_def, UInt32.le_iff_toNat_le] at bounds
    have last : '9'.val.toNat = 57 ∧ 'f'.val.toNat = 102 := by decide
    show letter.val.toNat < 128
    omega
  rw [← Char.ofNat_toNat letter] at digit ⊢
  exact plain letter.toNat low digit

/-- The digits of a digest stand for themselves. -/
theorem dumps_digest {id : String} (shape : Text.isSha256 id = true) :
    Json.dumpsChars (.str id) = '"' :: (id.toList ++ ['"']) := by
  unfold Text.isSha256 Text.isExactly at shape
  rw [Bool.and_eq_true, all_eq_true] at shape
  have letters : id.toList.flatMap Json.escape = id.toList := by
    rw [flatMap_congr fun letter listed => escape_hex (shape.1 letter listed)]
    exact flatMap_singleton' _
  rw [Json.dumpsChars, Json.dumpsText, letters]

theorem dumps_digest_length {id other : String} (shape : Text.isSha256 id = true)
    (shape' : Text.isSha256 other = true) :
    (Json.dumpsChars (.str id)).length = (Json.dumpsChars (.str other)).length := by
  rw [dumps_digest shape, dumps_digest shape', length_cons, length_cons,
    length_append, length_append, digest_length shape, digest_length shape']

/-- Fields whose texts are equally long have texts that are equally long. -/
theorem openFields_length {fields others : List (String × Json)}
    (same : List.Forall₂ (fun entry other => entry.1 = other.1 ∧
      (Json.dumpsChars entry.2).length = (Json.dumpsChars other.2).length) fields others) :
    (openFields fields).length = (openFields others).length := by
  induction same with
  | nil => rfl
  | @cons entry other fields others equal same ih =>
    unfold openFields at ih ⊢
    rw [flatMap_cons, flatMap_cons, length_append, length_append, ih]
    simp only [length_append, length_cons, equal.1, equal.2]

section
variable [Sha256]

def sharedSet : CorpusManifest :=
  sampleSet .privateRepresentative .active ⟨"reviewed", by decide +kernel⟩ 1

def subject : Json := .str "0123456789abcdef0123456789abcdef01234567"

def deployment : Json := .str (digestText 9 0)

def sharedMetric (index : Nat) : Metric :=
  (Text.Enumeration.all : List Metric).getD (index % 10) .lockedTerminology

def sharedTruth (index : Nat) : Json := .obj [
  ("metric", (sharedMetric index).name),
  ("truth_unit_id", .str (digestText 4 index))]

/-- The work units of the one item have fifty artifacts with one content. -/
def sharedWork (index : Nat) : Json := .obj [
  ("artifact_id", .str (digestText 1 (index % 50))),
  ("artifact_sha256", .str (digestText 2 0)),
  ("gold_sha256", .str (sampleHash 2).val),
  ("item_id", .str "item-a"),
  ("source_sha256", .str (sampleHash 1).val),
  ("truth_units", .arr [sharedTruth index]),
  ("work_unit_id", .str (digestText 3 index))]

/-- Only the first reviewer of the first work unit sees an error. -/
def sharedOutcome (index reviewer : Nat) : Json :=
  if index = 0 ∧ reviewer = 0 then incorrect else correct

def sharedJudgement (index reviewer : Nat) : Json := .obj [
  ("metric", (sharedMetric index).name),
  ("outcome", sharedOutcome index reviewer),
  ("truth_unit_id", .str (digestText 4 index))]

def reviewOpening (index : Nat) : List (String × Json) := [
  ("ai_assistance_ids", .arr []),
  ("artifact_id", .str (digestText 1 (index % 50))),
  ("artifact_sha256", .str (digestText 2 0)),
  ("corpus_item_id", .str "item-a"),
  ("corpus_item_identity_sha256", .str (corpusItemIdentity (sharedWork index))),
  ("corpus_set_identity_sha256", .str (stableRevision sharedSet.identity.asDict)),
  ("decision_authority", .str "human_review"),
  ("decision_basis", .str "direct_source_gold_comparison"),
  ("deployment_fingerprint", deployment),
  ("evaluation_purpose", .str "private_evaluation"),
  ("policy_identity_sha256", .str qualityPolicyIdentity)]

def reviewMiddle (number : Nat) : List (String × Json) := [
  ("review_artifact_sha256", .str (digestText 7 number)),
  ("review_record_id", .str (digestText 6 number))]

def reviewClosing (index reviewer : Nat) : List (String × Json) := [
  ("reviewer_id", .str (digestText 8 reviewer)),
  ("reviewer_kind", .str "independent_bilingual_human"),
  ("subject_git_sha", subject),
  ("truth_unit_outcomes", .arr [sharedJudgement index reviewer]),
  ("work_unit_id", .str (digestText 3 index))]

def reviewNumber (index reviewer : Nat) : Nat := 2 * index + reviewer

def reviewArtifact (index reviewer : Nat) : String × Json :=
  ("review_artifact_id", .str (digestText 5 (reviewNumber index reviewer)))

/-- The digest of a review repeats the identity of its artifact. -/
def sharedReview (index reviewer : Nat) : Json := .obj
  ((reviewOpening index ++ reviewArtifact index reviewer ::
    reviewMiddle (reviewNumber index reviewer)) ++
    ("review_record_sha256", .str (digestText 5 (reviewNumber index reviewer))) ::
    reviewClosing index reviewer)

end

/-- The fields of a review before its artifact, with other digests. -/
def reviewTemplate : List (String × Json) := [
  ("ai_assistance_ids", .arr []),
  ("artifact_id", .str (digestText 0 0)),
  ("artifact_sha256", .str (digestText 0 0)),
  ("corpus_item_id", .str "item-a"),
  ("corpus_item_identity_sha256", .str (digestText 0 0)),
  ("corpus_set_identity_sha256", .str (digestText 0 0)),
  ("decision_authority", .str "human_review"),
  ("decision_basis", .str "direct_source_gold_comparison"),
  ("deployment_fingerprint", .str (digestText 0 0)),
  ("evaluation_purpose", .str "private_evaluation"),
  ("policy_identity_sha256", .str (digestText 0 0))]

/-- The letters of a review before the digest of its artifact. -/
def reviewLetters (opening : List (String × Json)) : List Char :=
  '\x7b' :: (openFields opening ++ Json.dumpsText "review_artifact_id" ++ [':', '"'])

/-- The stand-in digest of the ledger. -/
@[reducible] def ledgerDigest : Sha256 := window (reviewLetters reviewTemplate).length

section
attribute [local instance] ledgerDigest

theorem reviewLetters_length (index : Nat) : (reviewLetters (reviewOpening index)).length =
    (reviewLetters reviewTemplate).length := by
  have digest (id : String) (shape : Text.isSha256 id = true) :
      (Json.dumpsChars (.str id)).length = (Json.dumpsChars (.str (digestText 0 0))).length :=
    dumps_digest_length shape (digestText_shape 0 0)
  have fields : (openFields (reviewOpening index)).length = (openFields reviewTemplate).length := by
    refine openFields_length (.cons ⟨rfl, rfl⟩ (.cons ⟨rfl, digest _ (digestText_shape _ _)⟩
      (.cons ⟨rfl, digest _ (digestText_shape _ _)⟩ (.cons ⟨rfl, rfl⟩
      (.cons ⟨rfl, digest _ (stableRevision_shape _)⟩
      (.cons ⟨rfl, digest _ (stableRevision_shape _)⟩ (.cons ⟨rfl, rfl⟩ (.cons ⟨rfl, rfl⟩
      (.cons ⟨rfl, digest _ (digestText_shape _ _)⟩ (.cons ⟨rfl, rfl⟩
      (.cons ⟨rfl, digest _ (stableRevision_shape _)⟩ .nil)))))))))))
  unfold reviewLetters
  rw [length_cons, length_cons, length_append, length_append,
    length_append, length_append, fields]

theorem sharedReview_sealed (index reviewer : Nat) :
    Sealed (sharedReview index reviewer) "review_record_sha256" := by
  have body : (sharedReview index reviewer).without "review_record_sha256" = .obj
      (reviewOpening index ++ reviewArtifact index reviewer ::
        (reviewMiddle (reviewNumber index reviewer) ++ reviewClosing index reviewer)) := by
    unfold sharedReview
    have early : "review_record_sha256" ∉ (reviewOpening index ++ reviewArtifact index reviewer ::
        reviewMiddle (reviewNumber index reviewer)).map Prod.fst := by
      show "review_record_sha256" ∉ ["ai_assistance_ids", "artifact_id", "artifact_sha256",
        "corpus_item_id", "corpus_item_identity_sha256", "corpus_set_identity_sha256",
        "decision_authority", "decision_basis", "deployment_fingerprint", "evaluation_purpose",
        "policy_identity_sha256", "review_artifact_id", "review_artifact_sha256",
        "review_record_id"]
      decide
    have late : "review_record_sha256" ∉ (reviewClosing index reviewer).map Prod.fst := by
      show "review_record_sha256" ∉ ["reviewer_id", "reviewer_kind", "subject_git_sha",
        "truth_unit_outcomes", "work_unit_id"]
      decide
    rw [Json.without_between early late, append_assoc, cons_append]
  have digest : stableRevision ((sharedReview index reviewer).without "review_record_sha256") =
      digestText 5 (reviewNumber index reviewer) := by
    have text : Json.dumpsChars (.obj (reviewOpening index ++ reviewArtifact index reviewer ::
        (reviewMiddle (reviewNumber index reviewer) ++ reviewClosing index reviewer))) =
        reviewLetters (reviewOpening index) ++
          ((digestText 5 (reviewNumber index reviewer)).toList ++ ('"' :: ',' ::
            (Json.dumpsFields (reviewMiddle (reviewNumber index reviewer) ++
              reviewClosing index reviewer) ++ ['\x7d']))) := by
      rw [Json.dumpsChars, dumpsFields_open (cons_ne_nil _ _)]
      show '\x7b' :: (openFields (reviewOpening index) ++ (Json.dumpsText "review_artifact_id" ++
        ':' :: (Json.dumpsChars (.str (digestText 5 (reviewNumber index reviewer))) ++ ',' ::
          Json.dumpsFields (reviewMiddle (reviewNumber index reviewer) ++
            reviewClosing index reviewer))) ++ ['\x7d']) = _
      rw [dumps_digest (digestText_shape _ _)]
      unfold reviewLetters
      simp only [cons_append, append_assoc, nil_append]
    rw [body]
    unfold stableRevision Json.dumps
    rw [text]
    exact window_hit (digestText_shape _ _) (reviewLetters_length index)
  have field : (sharedReview index reviewer).field "review_record_sha256" =
      .str (digestText 5 (reviewNumber index reviewer)) := rfl
  exact ⟨by rw [field]; exact digestText_shape _ _, by rw [field, digest]⟩

section
variable [Python.Printing]

def sharedWorks (count : Nat) : List Json :=
  ((List.range count).map sharedWork).mergeSort fun first second => workKey first ≤ workKey second

def sharedReviews (count : Nat) : List Json :=
  ((List.range count).flatMap fun index => [sharedReview index 0, sharedReview index 1]).mergeSort
    fun first second => textKey "review_record_id" first ≤ textKey "review_record_id" second

def rulingOpening : List (String × Json) := [
  ("adjudication_artifact_id", .str (digestText 10 0)),
  ("adjudication_artifact_sha256", .str (digestText 11 0)),
  ("adjudication_record_id", .str (digestText 12 0))]

def rulingClosing (count : Nat) : List (String × Json) := [
  ("adjudicator_id", .str (digestText 8 0)),
  ("adjudicator_kind", .str "human_bilingual_adjudicator"),
  ("artifact_id", .str (digestText 1 0)),
  ("artifact_sha256", .str (digestText 2 0)),
  ("corpus_item_id", .str "item-a"),
  ("corpus_item_identity_sha256", .str (corpusItemIdentity (sharedWork 0))),
  ("corpus_set_identity_sha256", .str (stableRevision sharedSet.identity.asDict)),
  ("decision_authority", .str "human_adjudication"),
  ("deployment_fingerprint", deployment),
  ("evaluation_purpose", .str "private_evaluation"),
  ("metric", (sharedMetric 0).name),
  ("policy_identity_sha256", .str qualityPolicyIdentity),
  ("resolution_outcome", correct),
  ("review_record_refs", reviewRefs (sortedReviews (sharedReviews count) (sharedWork 0))),
  ("subject_git_sha", subject),
  ("truth_unit_id", .str (digestText 4 0)),
  ("work_unit_id", .str (digestText 3 0))]

/-- The first reviewer adjudicates the disagreement. -/
def sharedRuling (count : Nat) : Json := .obj (rulingOpening ++ ("adjudication_record_sha256",
  .str (stableRevision (.obj (rulingOpening ++ rulingClosing count)))) :: rulingClosing count)

def sharedResolution (count : Nat) (entry : Json × Json) : Resolution :=
  ⟨entry.1, entry.2, sortedReviews (sharedReviews count) entry.1,
    if entry.2 = sharedTruth 0 then some (sharedRuling count) else none, correct⟩

def sharedResolutions (count : Nat) : List Resolution :=
  (sortedTruths (sharedWorks count)).map (sharedResolution count)

def sharedContract (count : Nat) : Json := .obj [
  ("adjudication_records", .arr [sharedRuling count]),
  ("ai_assistance_records", .arr []),
  ("corpus_manifest", sharedSet.asDict),
  ("corpus_set_identity", sharedSet.identity.asDict),
  ("deployment_fingerprint", deployment),
  ("evaluation_purpose", .str "private_evaluation"),
  ("policy_identity", policyIdentityRecord),
  ("review_records", .arr (sharedReviews count)),
  ("schema_version", .str "1.0"),
  ("subject_git_sha", subject),
  ("truth_unit_decisions", .arr (decisions (sharedResolutions count))),
  ("work_units", .arr (sharedWorks count))]

variable {count index other reviewer : Nat}

omit [Python.Printing] in
theorem sharedSet_canonical : sharedSet.Canonical :=
  sampleSet_canonical (by decide) (by decide) (by decide)

theorem sharedContract_header : validateHeader (sharedContract count) = .ok sharedSet := by
  have manifest : canonicalManifest sharedSet.asDict = .ok sharedSet :=
    canonicalManifest_asDict sharedSet_canonical
  have identity : canonicalSetIdentity sharedSet.identity.asDict = .ok sharedSet.identity :=
    canonicalSetIdentity_asDict (CorpusManifest.identity_consistent sharedSet_canonical)
  have purpose : requireSetPurpose sharedSet.identity.asDict "private_evaluation" =
      .ok sharedSet.identity :=
    requireSetPurpose_identity sharedSet_canonical rfl (by decide) (by decide)
  have hexadecimal : (Python.text? subject).any (Text.isExactly Text.isHex 40) = true := by
    decide +kernel
  unfold validateHeader
  simp only [bind_ok, validateShape_ok, require_ok, hash_ok, pure_ok]
  refine ⟨(), rfl, (), rfl, (), hexadecimal, (), digestText_shape 9 0, (), rfl, sharedSet, ?_,
    sharedSet.identity, ?_, sharedSet.identity, ?_, (), ?_, (), ?_, rfl⟩
  · show corpusBinding (canonicalManifest sharedSet.asDict) = _
    rw [manifest]
    rfl
  · show corpusBinding (canonicalSetIdentity sharedSet.identity.asDict) = _
    rw [identity]
    rfl
  · show corpusBinding (requireSetPurpose sharedSet.identity.asDict "private_evaluation") = _
    rw [purpose]
    rfl
  · rw [Bool.and_eq_true, beq_iff_eq, beq_iff_eq]
    exact ⟨rfl, rfl⟩
  · exact beq_iff_eq.mpr rfl

omit [Python.Printing] in
theorem sortedBy_mergeSort {Key : Type} [LinearOrder Key] {key : Json → Key} (items : List Json) :
    SortedBy key (.arr (items.mergeSort fun first second => key first ≤ key second)) := by
  refine ⟨_, rfl, ?_⟩
  rw [mergeSort_of_pairwise (pairwise_mergeSort ?_ ?_ _)]
  · exact Json.equalItems_self _
  · intro first second third before after
    simpa using le_trans (of_decide_eq_true before) (of_decide_eq_true after)
  · intro first second
    simpa using le_total (key first) (key second)

omit [Python.Printing] in
theorem sortedBy_single {Key : Type} [LinearOrder Key] {key : Json → Key} (item : Json) :
    SortedBy key (.arr [item]) :=
  ⟨[item], rfl, by rw [mergeSort_singleton]; exact Json.equalItems_self _⟩

theorem mem_sharedWorks {work : Json} :
    work ∈ sharedWorks count ↔ ∃ index < count, sharedWork index = work := by
  unfold sharedWorks
  rw [(mergeSort_perm _ _).mem_iff]
  simp only [mem_map, mem_range]

theorem sharedWork_read (index : Nat) : WorkRead sharedSet (sharedWork index) where
  shape := rfl
  bound := by
    have found : activeItem sharedSet (sharedWork index) =
        some (sampleItem ⟨"item-a", by decide +kernel⟩ 1 .active) := rfl
    unfold bindsItem
    rw [found, Option.any_some, Bool.and_eq_true, beq_iff_eq, beq_iff_eq]
    exact ⟨rfl, rfl⟩
  id := digestText_shape 3 index
  artifact := digestText_shape 1 (index % 50)
  content := digestText_shape 2 0
  sorted := sortedBy_single (sharedTruth index)
  present := cons_ne_nil _ _
  truths truth listed := by
    rw [mem_singleton.mp listed]
    refine ⟨rfl, digestText_shape 4 index, ?_⟩
    unfold isMetric
    rw [any_eq_true]
    exact ⟨sharedMetric index, Text.Enumeration.complete _, beq_iff_eq.mpr rfl⟩
  distinct := nodup_singleton _

omit [Python.Printing] in
theorem sharedWork_artifact (index : Nat) :
    artifactBinding (sharedWork index) = (.str "item-a", .str (digestText 2 0)) := rfl

omit [Python.Printing] in
theorem sharedWork_apart (few : index < 16 ^ 63) (few' : other < 16 ^ 63)
    (different : index ≠ other) : WorksApart (sharedWork index) (sharedWork other) where
  id same := different (digestText_inj (by decide) (by decide) few few' (Json.str.inj same)).2
  artifact _ := (sharedWork_artifact index).trans (sharedWork_artifact other).symm
  truths truth listed found listed' same := by
    rw [mem_singleton.mp listed, mem_singleton.mp listed'] at same
    exact different (digestText_inj (by decide) (by decide) few few' (Json.str.inj same)).2

theorem sharedWorks_apart (few : count ≤ 16 ^ 63) : (sharedWorks count).Pairwise WorksApart := by
  unfold sharedWorks
  rw [(mergeSort_perm _ _).pairwise_iff WorksApart.symm, pairwise_map]
  refine pairwise_lt_range.imp_of_mem fun first second smaller => ?_
  rw [mem_range] at first second
  exact sharedWork_apart (by omega) (by omega) (by omega)

theorem sharedWorks_length : (sharedWorks count).length = count := by
  unfold sharedWorks
  rw [length_mergeSort, length_map, length_range]

/-- Fifty work units have fifty artifacts. -/
theorem sharedWorks_artifacts (many : 50 ≤ count) :
    50 ≤ ((sharedWorks count).map (·.field "artifact_id")).dedup.length := by
  have distinct : ((List.range 50).map fun index => Json.str (digestText 1 index)).Nodup := by
    rw [nodup_map_iff_inj_on nodup_range]
    intro first listed second listed' same
    rw [mem_range] at listed listed'
    exact (digestText_inj (by decide) (by decide) (by omega) (by omega) (Json.str.inj same)).2
  have inside : ((List.range 50).map fun index => Json.str (digestText 1 index)) ⊆
      ((sharedWorks count).map (·.field "artifact_id")).dedup := by
    intro id listed
    obtain ⟨index, small, rfl⟩ := mem_map.mp listed
    rw [mem_range] at small
    rw [mem_dedup, mem_map]
    refine ⟨sharedWork index, mem_sharedWorks.mpr ⟨index, by omega, rfl⟩, ?_⟩
    show Json.str (digestText 1 (index % 50)) = _
    rw [Nat.mod_eq_of_lt small]
  simpa using (subperm_of_subset distinct inside).length_le

theorem mem_sharedTruths {entry : Json × Json} : entry ∈ truthUnits (sharedWorks count) ↔
    ∃ index < count, entry = (sharedWork index, sharedTruth index) := by
  rw [mem_truthUnits, mem_sharedWorks]
  obtain ⟨work, truth⟩ := entry
  constructor
  · rintro ⟨⟨index, small, rfl⟩, held⟩
    have same : truth = sharedTruth index := mem_singleton.mp held
    exact ⟨index, small, by rw [same]⟩
  · rintro ⟨index, small, same⟩
    obtain ⟨rfl, rfl⟩ := Prod.mk.inj same
    exact ⟨⟨index, small, rfl⟩, mem_singleton_self _⟩

omit [Python.Printing] in
/-- Ten work units cover the ten metrics. -/
theorem sharedWorks_covered (many : 10 ≤ count) :
    ∀ metric : Metric, ∃ index < count, sharedMetric index = metric := by
  have each : ∀ metric : Metric, ∃ index < 10, sharedMetric index = metric := by
    intro metric
    cases metric
    exacts [⟨0, by decide, rfl⟩, ⟨1, by decide, rfl⟩, ⟨2, by decide, rfl⟩, ⟨3, by decide, rfl⟩,
      ⟨4, by decide, rfl⟩, ⟨5, by decide, rfl⟩, ⟨6, by decide, rfl⟩, ⟨7, by decide, rfl⟩,
      ⟨8, by decide, rfl⟩, ⟨9, by decide, rfl⟩]
  intro metric
  obtain ⟨index, small, same⟩ := each metric
  exact ⟨index, by omega, same⟩

theorem sharedContract_works (many : 200 ≤ count) (few : count ≤ 16 ^ 63) :
    WorksRead (sharedContract count) sharedSet (sharedWorks count) where
  sorted := sortedBy_mergeSort _
  listed := rfl
  many := by rw [sharedWorks_length]; exact many
  each work listed := by
    obtain ⟨index, -, rfl⟩ := mem_sharedWorks.mp listed
    exact sharedWork_read index
  apart := sharedWorks_apart few
  artifacts := sharedWorks_artifacts (by omega)
  covered := by
    unfold coversMetrics
    rw [all_eq_true]
    intro metric _
    obtain ⟨index, small, same⟩ := sharedWorks_covered (by omega : 10 ≤ count) metric
    rw [elem_iff, mem_map]
    exact ⟨(sharedWork index, sharedTruth index), mem_sharedTruths.mpr ⟨index, small, rfl⟩,
      same ▸ rfl⟩

theorem mem_sharedReviews {record : Json} : record ∈ sharedReviews count ↔
    ∃ index < count, ∃ reviewer < 2, sharedReview index reviewer = record := by
  unfold sharedReviews
  rw [(mergeSort_perm _ _).mem_iff]
  simp only [mem_flatMap, mem_range, mem_pair]
  constructor
  · rintro ⟨index, small, rfl | rfl⟩
    · exact ⟨index, small, 0, by decide, rfl⟩
    · exact ⟨index, small, 1, by decide, rfl⟩
  · rintro ⟨index, small, reviewer, two, rfl⟩
    obtain rfl | rfl : reviewer = 0 ∨ reviewer = 1 := by omega
    · exact ⟨index, small, .inl rfl⟩
    · exact ⟨index, small, .inr rfl⟩

theorem sharedWork_found (few : count ≤ 16 ^ 63) (small : index < count) :
    (sharedWorks count).find? (fun work => work.field "work_unit_id" ==
      .str (digestText 3 index)) = some (sharedWork index) := by
  refine find_single (mem_sharedWorks.mpr ⟨index, small, rfl⟩) (beq_iff_eq.mpr rfl) ?_
  intro work listed same
  obtain ⟨other, small', rfl⟩ := mem_sharedWorks.mp listed
  have equal : other = index := (digestText_inj (by decide) (by decide) (by omega) (by omega)
    (Json.str.inj (beq_iff_eq.mp same))).2
  rw [equal]

theorem sharedReview_bound (index reviewer : Nat) :
    isBound (sharedContract count) (sharedWork index) (sharedReview index reviewer) = true := by
  unfold isBound
  rw [all_eq_true]
  intro entry listed
  rw [beq_iff_eq]
  simp only [bindingFor, mem_cons, not_mem_nil, or_false] at listed
  rcases listed with rfl | rfl | rfl | rfl | rfl | rfl | rfl | rfl | rfl | rfl
  all_goals rfl

omit [Python.Printing] in
theorem sharedOutcome_decided (index reviewer : Nat) :
    isOutcome (sharedOutcome index reviewer) = true := by
  unfold sharedOutcome
  split
  · decide
  · decide

omit [Python.Printing] in
theorem sharedReview_judges (index reviewer : Nat) :
    Judges (sharedWork index) (sharedReview index reviewer) where
  sorted := sortedBy_single (sharedJudgement index reviewer)
  each outcome listed := by
    rw [mem_singleton.mp listed]
    have expected : expectedMetric (sharedWork index) (.str (digestText 4 index)) =
        (sharedMetric index).name := by
      have found : ((entries ((sharedWork index).field "truth_units")).find? fun truth =>
          truth.field "truth_unit_id" == .str (digestText 4 index)) = some (sharedTruth index) :=
        find?_cons_of_pos (beq_iff_eq.mpr rfl)
      unfold expectedMetric
      rw [found]
      rfl
    exact ⟨rfl, digestText_shape 4 index, expected.symm, sharedOutcome_decided index reviewer⟩
  distinct := nodup_singleton _
  exact _ := Iff.rfl

theorem sharedReview_read (few : count ≤ 16 ^ 63) (small : index < count) (reviewer : Nat) :
    ReviewRead (sharedContract count) (sharedWorks count) (sharedReview index reviewer) where
  shape := rfl
  id := digestText_shape 6 (reviewNumber index reviewer)
  digest := sharedReview_sealed index reviewer
  artifact := digestText_shape 5 (reviewNumber index reviewer)
  content := digestText_shape 7 (reviewNumber index reviewer)
  reviewer := digestText_shape 8 reviewer
  human := rfl
  hashable := rfl
  judged := ⟨sharedWork index, sharedWork_found few small, sharedReview_bound index reviewer,
    sharedReview_judges index reviewer⟩
  assisted := rfl

omit [Python.Printing] in
theorem sharedReview_apart {next : Nat} (few : reviewNumber index reviewer < 16 ^ 63)
    (few' : reviewNumber other next < 16 ^ 63)
    (different : reviewNumber index reviewer ≠ reviewNumber other next) :
    FieldsApart reviewNames (sharedReview index reviewer) (sharedReview other next) := by
  have apart (kind : Nat) (low : kind < 16) :
      Json.str (digestText kind (reviewNumber index reviewer)) ≠
        .str (digestText kind (reviewNumber other next)) := fun same =>
    different (digestText_inj low low few few' (Json.str.inj same)).2
  intro name listed
  simp only [reviewNames, mem_cons, not_mem_nil, or_false] at listed
  rcases listed with rfl | rfl | rfl | rfl
  · exact apart 6 (by decide)
  · exact apart 5 (by decide)
  · exact apart 5 (by decide)
  · exact apart 7 (by decide)

theorem sharedReviews_apart (few : count ≤ 16 ^ 60) :
    (sharedReviews count).Pairwise (FieldsApart reviewNames) := by
  unfold sharedReviews
  rw [(mergeSort_perm _ _).pairwise_iff FieldsApart.symm, pairwise_flatMap]
  constructor
  · intro index listed
    rw [mem_range] at listed
    refine pairwise_pair.mpr (sharedReview_apart ?_ ?_ ?_)
    all_goals unfold reviewNumber
    all_goals omega
  · refine pairwise_lt_range.imp_of_mem fun {first second} listed listed' smaller => ?_
    rw [mem_range] at listed listed'
    intro record known record' known'
    rcases mem_pair.mp known with rfl | rfl <;> rcases mem_pair.mp known' with rfl | rfl
    all_goals
      refine sharedReview_apart ?_ ?_ ?_
      all_goals unfold reviewNumber
      all_goals omega

theorem sharedReviews_length : (sharedReviews count).length = count * 2 := by
  unfold sharedReviews
  rw [length_mergeSort, length_flatMap]
  show ((List.range count).map fun _ => 2).sum = _
  rw [map_const', sum_replicate_nat, length_range]

/-- The reviews of a work unit are its two reviews in one of two orders. -/
theorem sharedReviews_pair (few : count ≤ 16 ^ 60) (small : index < count) :
    reviewsOf (sharedReviews count) (sharedWork index) =
        [sharedReview index 0, sharedReview index 1] ∨
      reviewsOf (sharedReviews count) (sharedWork index) =
        [sharedReview index 1, sharedReview index 0] := by
  have apart : FieldsApart reviewNames (sharedReview index 0) (sharedReview index 1) := by
    refine sharedReview_apart ?_ ?_ ?_
    all_goals unfold reviewNumber
    all_goals omega
  have distinct : (sharedReviews count).Nodup := by
    refine (sharedReviews_apart few).imp fun apart same => ?_
    exact apart "review_record_id" (by decide) (by rw [same])
  refine filter_pair distinct (fun same => ?_) fun record => ?_
  · exact apart "review_record_id" (by decide) (by rw [same])
  · rw [mem_sharedReviews, beq_iff_eq]
    constructor
    · rintro ⟨⟨other, small', reviewer, two, rfl⟩, same⟩
      have equal : other = index := (digestText_inj (by decide) (by decide) (by omega) (by omega)
        (Json.str.inj same)).2
      rw [equal]
      obtain rfl | rfl : reviewer = 0 ∨ reviewer = 1 := by omega
      · exact .inl rfl
      · exact .inr rfl
    · rintro (rfl | rfl)
      · exact ⟨⟨index, small, 0, by decide, rfl⟩, rfl⟩
      · exact ⟨⟨index, small, 1, by decide, rfl⟩, rfl⟩

theorem sharedContract_reviews (few : count ≤ 16 ^ 60) :
    ReviewsRead (sharedContract count) (sharedWorks count) (sharedReviews count) where
  sorted := sortedBy_mergeSort _
  listed := rfl
  twice := by rw [sharedReviews_length, sharedWorks_length]
  each record listed := by
    obtain ⟨index, small, reviewer, -, rfl⟩ := mem_sharedReviews.mp listed
    exact sharedReview_read (by omega) small reviewer
  apart := sharedReviews_apart few
  pairs work listed := by
    obtain ⟨index, small, rfl⟩ := mem_sharedWorks.mp listed
    have reviewers : Json.str (digestText 8 0) ≠ .str (digestText 8 1) := fun same => by
      have equal := (digestText_inj (by decide) (by decide) (by decide) (by decide)
        (Json.str.inj same)).2
      omega
    have ids : Json.str (digestText 6 (reviewNumber index 0)) ≠
        .str (digestText 6 (reviewNumber index 1)) := fun same => by
      have equal := (digestText_inj (by decide) (by decide)
        (by unfold reviewNumber; omega) (by unfold reviewNumber; omega) (Json.str.inj same)).2
      unfold reviewNumber at equal
      omega
    right
    rcases sharedReviews_pair few small with pair | pair
    · rw [pair]
      exact Bool.and_eq_true_iff.mpr ⟨bne_iff_ne.mpr reviewers, bne_iff_ne.mpr ids⟩
    · rw [pair]
      exact Bool.and_eq_true_iff.mpr ⟨bne_iff_ne.mpr reviewers.symm, bne_iff_ne.mpr ids.symm⟩

theorem sharedRuling_sealed (count : Nat) :
    Sealed (sharedRuling count) "adjudication_record_sha256" := by
  have early : "adjudication_record_sha256" ∉ rulingOpening.map Prod.fst := by
    show "adjudication_record_sha256" ∉ ["adjudication_artifact_id",
      "adjudication_artifact_sha256", "adjudication_record_id"]
    decide
  have late : "adjudication_record_sha256" ∉ (rulingClosing count).map Prod.fst := by
    show "adjudication_record_sha256" ∉ ["adjudicator_id", "adjudicator_kind", "artifact_id",
      "artifact_sha256", "corpus_item_id", "corpus_item_identity_sha256",
      "corpus_set_identity_sha256", "decision_authority", "deployment_fingerprint",
      "evaluation_purpose", "metric", "policy_identity_sha256", "resolution_outcome",
      "review_record_refs", "subject_git_sha", "truth_unit_id", "work_unit_id"]
    decide
  have body : (sharedRuling count).without "adjudication_record_sha256" =
      .obj (rulingOpening ++ rulingClosing count) := Json.without_between early late
  have field : (sharedRuling count).field "adjudication_record_sha256" =
      .str (stableRevision (.obj (rulingOpening ++ rulingClosing count))) := rfl
  exact ⟨by rw [field]; exact stableRevision_shape _, by rw [field, body]⟩

theorem sharedRuling_read (count : Nat) : AdjudicationRead (sharedContract count) (sharedWork 0)
    (sharedTruth 0) (sortedReviews (sharedReviews count) (sharedWork 0)) (sharedRuling count) where
  shape := rfl
  id := digestText_shape 12 0
  digest := sharedRuling_sealed count
  artifact := digestText_shape 10 0
  content := digestText_shape 11 0
  adjudicator := digestText_shape 8 0
  human := rfl
  bound := by
    unfold isBound
    rw [all_eq_true]
    intro entry listed
    rw [beq_iff_eq]
    simp only [bindingFor, mem_cons, not_mem_nil, or_false] at listed
    rcases listed with rfl | rfl | rfl | rfl | rfl | rfl | rfl | rfl | rfl | rfl
    all_goals rfl
  metric := rfl
  cites := rfl
  decided := rfl

theorem sharedRuling_found : findAdjudication [sharedRuling count] (sharedTruth 0) =
    some (sharedRuling count) :=
  find?_cons_of_pos (beq_iff_eq.mpr rfl)

omit [Python.Printing] in
theorem sharedReview_outcome (index reviewer : Nat) :
    reviewOutcome (sharedReview index reviewer) (sharedTruth index) =
      sharedOutcome index reviewer := by
  have found : ((entries ((sharedReview index reviewer).field "truth_unit_outcomes")).find?
      fun outcome => outcome.field "truth_unit_id" == (sharedTruth index).field "truth_unit_id") =
        some (sharedJudgement index reviewer) :=
    find?_cons_of_pos (beq_iff_eq.mpr rfl)
  unfold reviewOutcome
  rw [found]
  rfl

omit [Python.Printing] in
theorem sharedTruth_inj (few : index < 16 ^ 63) (few' : other < 16 ^ 63)
    (same : sharedTruth index = sharedTruth other) : index = other := by
  have ids : Json.str (digestText 4 index) = .str (digestText 4 other) :=
    congrArg (·.field "truth_unit_id") same
  exact (digestText_inj (by decide) (by decide) few few' (Json.str.inj ids)).2

theorem sharedReviews_sorted (few : count ≤ 16 ^ 60) (small : index < count) :
    ∃ first second, sortedReviews (sharedReviews count) (sharedWork index) = [first, second] ∧
      (first = sharedReview index 0 ∧ second = sharedReview index 1 ∨
        first = sharedReview index 1 ∧ second = sharedReview index 0) := by
  have same : (sortedReviews (sharedReviews count) (sharedWork index)).Perm
      [sharedReview index 0, sharedReview index 1] := by
    refine (mergeSort_perm _ _).trans ?_
    rcases sharedReviews_pair few small with pair | pair
    · rw [pair]
    · rw [pair]
      exact List.Perm.swap _ _ _
  obtain ⟨first, second, pair⟩ := length_eq_two.mp same.length_eq
  rw [pair] at same
  exact ⟨first, second, pair, perm_pair same⟩

/-- Each truth unit is resolved, and only the first one needs the adjudication. -/
theorem sharedResolution_resolves (few : count ≤ 16 ^ 60) (small : index < count) :
    Resolves (sharedContract count) (sharedReviews count) [sharedRuling count]
      (sharedWork index, sharedTruth index)
      (sharedResolution count (sharedWork index, sharedTruth index)) := by
  obtain ⟨first, second, pair, members⟩ := sharedReviews_sorted few small
  refine ⟨rfl, rfl, rfl, first, second, [], pair, ?_⟩
  by_cases start : index = 0
  · right
    rw [start] at members ⊢
    have apart : sharedOutcome 0 0 ≠ sharedOutcome 0 1 := by decide
    have used : (sharedResolution count (sharedWork 0, sharedTruth 0)).adjudication =
        some (sharedRuling count) := by
      unfold sharedResolution
      dsimp only
      rw [if_pos rfl]
    refine ⟨?_, sharedRuling count, sharedRuling_found, sharedRuling_read count, used, rfl⟩
    rcases members with ⟨rfl, rfl⟩ | ⟨rfl, rfl⟩
    · rw [sharedReview_outcome, sharedReview_outcome]
      exact apart
    · rw [sharedReview_outcome, sharedReview_outcome]
      exact apart.symm
  · left
    have agreed : ∀ reviewer, reviewOutcome (sharedReview index reviewer) (sharedTruth index) =
        correct := by
      intro reviewer
      rw [sharedReview_outcome]
      exact if_neg fun both => start both.1
    have unused : (sharedResolution count (sharedWork index, sharedTruth index)).adjudication =
        none :=
      if_neg fun same => start (sharedTruth_inj (by omega) (by decide) same)
    rcases members with ⟨rfl, rfl⟩ | ⟨rfl, rfl⟩
    · exact ⟨(agreed 0).trans (agreed 1).symm, unused, (agreed 0).symm⟩
    · exact ⟨(agreed 1).trans (agreed 0).symm, unused, (agreed 1).symm⟩

theorem mem_sortedShared {entry : Json × Json} : entry ∈ sortedTruths (sharedWorks count) ↔
    ∃ index < count, entry = (sharedWork index, sharedTruth index) :=
  mem_sortedTruths.trans mem_sharedTruths

theorem sharedTruths_distinct (many : 200 ≤ count) (few : count ≤ 16 ^ 60) :
    (sortedTruths (sharedWorks count)).Pairwise fun first second =>
      first.2.field "truth_unit_id" ≠ second.2.field "truth_unit_id" := by
  have read := sharedContract_works many (le_trans few (by decide))
  have ids := read.truthIds
  rw [← truthUnits_ids, List.Nodup, pairwise_map] at ids
  exact ((mergeSort_perm _ _).pairwise_iff fun apart => apart.symm).mpr ids

theorem sharedContract_settled (many : 200 ≤ count) (few : count ≤ 16 ^ 60) :
    ResolutionsRead (sharedContract count) (sharedWorks count) (sharedReviews count)
      [sharedRuling count] (sharedResolutions count) where
  sorted := sortedBy_single (sharedRuling count)
  listed := rfl
  related := by
    unfold sharedResolutions
    rw [forall₂_map_right_iff, forall₂_same]
    intro entry listed
    obtain ⟨index, small, rfl⟩ := mem_sortedShared.mp listed
    exact sharedResolution_resolves few small
  apart := by
    unfold sharedResolutions
    rw [pairwise_map]
    refine (sharedTruths_distinct many few).imp fun {first second} apart one used other used' => ?_
    have start : ∀ entry : Json × Json, ∀ ruling ∈ (sharedResolution count entry).adjudication,
        entry.2 = sharedTruth 0 := by
      intro entry ruling found
      by_contra different
      have none : (sharedResolution count entry).adjudication = none := if_neg different
      rw [none] at found
      cases found
    exact absurd (by rw [start first one used, start second other used']) apart
  used := by
    have distinct : (sortedTruths (sharedWorks count)).Nodup :=
      (sharedTruths_distinct many few).imp fun apart same => apart (by rw [same])
    have listed : (sharedWork 0, sharedTruth 0) ∈ sortedTruths (sharedWorks count) :=
      mem_sortedShared.mpr ⟨0, by omega, rfl⟩
    have single : (sortedTruths (sharedWorks count)).filter
        (fun entry => (sharedResolution count entry).adjudication.isSome) =
          [(sharedWork 0, sharedTruth 0)] := by
      refine filter_single distinct listed fun entry known => ?_
      obtain ⟨index, small, rfl⟩ := mem_sortedShared.mp known
      unfold sharedResolution
      dsimp only
      constructor
      · intro used
        split at used
        · rename_i same
          rw [sharedTruth_inj (by omega) (by decide) same]
        · cases used
      · intro same
        rw [if_pos (Prod.mk.inj same).2]
        rfl
    unfold sharedResolutions
    rw [filterMap_map, length_filterMap_eq_countP, countP_eq_length_filter]
    exact (congrArg List.length single).symm
  supplied := rfl
  covered := by
    unfold coversMetrics
    rw [all_eq_true]
    intro metric _
    obtain ⟨index, small, same⟩ := sharedWorks_covered (by omega : 10 ≤ count) metric
    rw [elem_iff, mem_map]
    refine ⟨sharedResolution count (sharedWork index, sharedTruth index), ?_, same ▸ rfl⟩
    exact mem_map_of_mem (mem_sortedShared.mpr ⟨index, small, rfl⟩)

theorem sharedContract_assisted : SuggestionsRead (sharedContract count) (sharedWorks count)
    (sharedReviews count) [] where
  sorted := ⟨[], rfl, by rw [mergeSort_nil]; rfl⟩
  listed := rfl
  each _ listed := (not_mem_nil listed).elim
  apart := List.Pairwise.nil
  cited record listed := by
    obtain ⟨index, -, reviewer, -, rfl⟩ := mem_sharedReviews.mp listed
    unfold assistanceOf
    rw [filter_nil, mergeSort_nil]
    rfl

/-- A contract whose artifacts share one content and whose adjudicator is a reviewer is
accepted. -/
theorem sharedContract_accepted (many : 200 ≤ count) (few : count ≤ 16 ^ 60) :
    validateContract (sharedContract count) =
      .ok (derive (sharedResolutions count), decisions (sharedResolutions count)) :=
  validateContract_ok.mpr ⟨sharedSet, sharedWorks count, sharedReviews count, [],
    [sharedRuling count], sharedResolutions count, ⟨sharedContract_header,
      sharedContract_works many (le_trans few (by decide)), sharedContract_reviews few,
      sharedContract_assisted, sharedContract_settled many few⟩, rfl, rfl⟩

theorem sharedContract_contents (many : 200 ≤ count) :
    ((units (sharedContract count)).map (·.field "artifact_sha256")).dedup =
      [.str (digestText 2 0)] := by
  have same : (units (sharedContract count)).map (·.field "artifact_sha256") =
      List.replicate count (.str (digestText 2 0)) := by
    refine eq_replicate_iff.mpr ⟨?_, fun content listed => ?_⟩
    · rw [length_map]
      exact sharedWorks_length
    · obtain ⟨work, known, rfl⟩ := mem_map.mp listed
      obtain ⟨index, -, rfl⟩ := mem_sharedWorks.mp known
      rfl
  rw [same]
  exact replicate_dedup (by omega)

end

attribute [local instance] Python.Printing.blank

/-- The two hundred work units of the contract have one content. -/
theorem sharedContract_replayed :
    validateContract (sharedContract 200) =
        .ok (derive (sharedResolutions 200), decisions (sharedResolutions 200)) ∧
      ¬ Honest (sharedContract 200) (derive (sharedResolutions 200)) := by
  refine ⟨sharedContract_accepted (le_refl 200) (by decide), fun honest => ?_⟩
  have contents := honest.contents
  rw [sharedContract_contents (le_refl 200), length_singleton] at contents
  omega

theorem sharedContract_honest :
    Honest (sharedContract 200) (derive (sharedResolutions 200)) ↔
      Independent (sharedContract 200) :=
  validateContract_honest (sharedContract_accepted (le_refl 200) (by decide))

end

end Bilingual
end KSlide
