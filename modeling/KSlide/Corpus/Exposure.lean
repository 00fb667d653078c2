import KSlide.Corpus.Lifecycle
import KSlide.Readings

/-
This file says when a bundle is free of overlaps, and that its order does not matter.
-/

namespace KSlide
open GovernanceError Ancestry CorpusManifest List

section
variable [Sha256] {left right : ExposureRecord} {records others : List ExposureRecord}
variable {manifests manifests' : List CorpusManifest} {entries entries' : List HistoryEntry}

/-- The digests of the listed values differ. -/
def Separates (values : List Json) : Prop :=
  ∀ first ∈ values, ∀ second ∈ values, stableRevision first = stableRevision second → first = second

/-- The pair that the fingerprint of an item covers. -/
def CorpusItem.pair (item : CorpusItem) : Json := .obj [
  ("gold_sha256", .str item.goldSha256.val),
  ("source_sha256", .str item.sourceSha256.val)]

/-- Two items share their source or their gold. -/
def CorpusItem.SharesDigest (first second : CorpusItem) : Prop :=
  first.sourceSha256 = second.sourceSha256 ∨ first.goldSha256 = second.goldSha256

namespace ExposureRecord

/-- The item is active in a current manifest. -/
def CurrentActive (record : ExposureRecord) : Prop :=
  record.historical = false ∧ record.item.state = .active

/-- The item is active in the current sealed manifest. -/
def CurrentSealed (record : ExposureRecord) : Prop :=
  record.CurrentActive ∧ record.manifest.role = .sealedHeldOut

/-- The item is public, contaminated, known from a context or active in an open history. -/
def Exposed (record : ExposureRecord) : Prop :=
  record.manifest.role = .publicSyntheticRegression ∨ record.item.state = .contaminated ∨
    (record.historical = true ∧ record.context.isSome = true) ∨
    (record.historical = true ∧ record.item.state = .active ∧
      record.manifest.role ≠ .sealedHeldOut)

/-- Two records may not share a digest. -/
def Conflicts (left right : ExposureRecord) : Prop :=
  (left.CurrentActive ∧ right.CurrentActive ∧ left.manifest.role ≠ right.manifest.role) ∨
    (left.CurrentSealed ∧ right.Exposed)

end ExposureRecord
open ExposureRecord

/-- No item in a forbidden pair shares a digest. -/
def Clean (records : List ExposureRecord) : Prop :=
  ∀ (first second : Nat) (left right : ExposureRecord), first ≠ second →
    records[first]? = some left → records[second]? = some right → left.Conflicts right →
      ¬left.item.SharesDigest right.item

/-- The values that the digests of two records cover. -/
def hashedValues (record : ExposureRecord) : List Json :=
  [record.manifest.content [], record.item.pair]

/-- Only a historical record has a context. -/
def Placed (record : ExposureRecord) : Prop :=
  record.context.isSome = true → record.historical = true

variable {first second : CorpusItem} {record : ExposureRecord}

omit [Sha256] in
theorem sealedActive_iff : record.sealedActive = true ↔ record.CurrentSealed := by
  simp only [sealedActive, CurrentSealed, CurrentActive, Bool.and_eq_true, beq_iff_eq,
    Bool.not_eq_true']
  constructor
  · rintro ⟨⟨held, active⟩, current⟩
    exact ⟨⟨current, active⟩, held⟩
  · rintro ⟨⟨current, active⟩, held⟩
    exact ⟨⟨held, active⟩, current⟩

omit [Sha256] in
theorem exposed_iff (placed : Placed record) : record.exposed = true ↔ record.Exposed := by
  simp only [exposed, ExposureRecord.Exposed, Bool.or_eq_true, Bool.and_eq_true, beq_iff_eq,
    bne_iff_ne]
  constructor
  · rintro (((opened | ⟨⟨historical, role⟩, active⟩) | contaminated) | known)
    · exact Or.inl opened
    · exact Or.inr (Or.inr (Or.inr ⟨historical, active, role⟩))
    · exact Or.inr (Or.inl contaminated)
    · exact Or.inr (Or.inr (Or.inl ⟨placed known, known⟩))
  · rintro (opened | contaminated | ⟨-, known⟩ | ⟨historical, active, role⟩)
    · exact Or.inl (Or.inl (Or.inl opened))
    · exact Or.inl (Or.inr contaminated)
    · exact Or.inr known
    · exact Or.inl (Or.inl (Or.inr ⟨⟨historical, role⟩, active⟩))

omit [Sha256] in
theorem conflicts_iff : left.Conflicts right ∨ right.Conflicts left ↔
    (left.CurrentActive ∧ right.CurrentActive ∧ left.manifest.role ≠ right.manifest.role) ∨
    (left.CurrentSealed ∧ right.Exposed) ∨ (right.CurrentSealed ∧ left.Exposed) := by
  constructor
  · rintro ((roles | exposed) | (⟨other, one, roles⟩ | exposed))
    · exact Or.inl roles
    · exact Or.inr (Or.inl exposed)
    · exact Or.inl ⟨one, other, roles.symm⟩
    · exact Or.inr (Or.inr exposed)
  · rintro (roles | exposed | exposed)
    · exact Or.inl (Or.inl roles)
    · exact Or.inl (Or.inr exposed)
    · exact Or.inr (Or.inr exposed)

omit [Sha256] in
theorem role_of_content {first second : CorpusManifest}
    (same : first.content [] = second.content []) : first.role = second.role := by
  unfold content at same
  simp only [Json.obj.injEq, cons_append, List.cons.injEq, Prod.mk.injEq, true_and,
    Json.str.injEq] at same
  have access := same.1
  cases role : first.role <;> cases role' : second.role <;>
    simp [role, role', CorpusRole.accessClass] at access ⊢

/-- A fingerprint that two items share covers one pair of digests. -/
theorem source_of_fingerprint
    (separates : first.fingerprint = second.fingerprint → first.pair = second.pair)
    (same : first.fingerprint = second.fingerprint) : first.sourceSha256 = second.sourceSha256 := by
  have pairs := separates same
  simp only [CorpusItem.pair, Json.obj.injEq, List.cons.injEq, Prod.mk.injEq, true_and,
    Json.str.injEq, and_true] at pairs
  exact Subtype.ext pairs.2

theorem role_of_reference (separates : Separates (hashedValues left ++ hashedValues right))
    (same : left.manifest.reference = right.manifest.reference) :
    left.manifest.role = right.manifest.role := by
  have digests : stableRevision (left.manifest.content []) =
      stableRevision (right.manifest.content []) :=
    congrArg (fun reference => reference.manifestFingerprint.val) same
  exact role_of_content (separates _ (by simp [hashedValues]) _ (by simp [hashedValues]) digests)

theorem identities_eq_nil {Value : Type} {build : IdentityKind × String × String → Value}
    (separates : Separates (hashedValues left ++ hashedValues right)) :
    ([(.sourceSha256, left.item.sourceSha256.val, right.item.sourceSha256.val),
      (.goldSha256, left.item.goldSha256.val, right.item.goldSha256.val),
      (.itemFingerprint, left.item.fingerprint, right.item.fingerprint)] :
        List (IdentityKind × String × String)).filterMap (fun identity =>
          if identity.2.1 = identity.2.2 then some (build identity) else none) = [] ↔
      ¬left.item.SharesDigest right.item := by
  have samePair : left.item.fingerprint = right.item.fingerprint →
      left.item.sourceSha256 = right.item.sourceSha256 := by
    intro same
    apply source_of_fingerprint _ same
    apply separates left.item.pair _ right.item.pair
    all_goals simp [hashedValues]
  simp only [filterMap_eq_nil_iff, forall_mem_cons, not_mem_nil, false_implies,
    implies_true, and_true, ite_eq_right_iff, reduceCtorEq, imp_false, ← Subtype.ext_iff,
    CorpusItem.SharesDigest, not_or]
  constructor
  · rintro ⟨source, gold, _⟩
    exact ⟨source, gold⟩
  · rintro ⟨source, gold⟩
    exact ⟨source, gold, fun same => source (samePair same)⟩

theorem overlapsOf_eq_nil (placed : Placed left) (placed' : Placed right)
    (separates : Separates (hashedValues left ++ hashedValues right)) :
    overlapsOf left right = [] ↔ ((left.Conflicts right ∨ right.Conflicts left) →
      ¬left.item.SharesDigest right.item) := by
  have crossed : ((left.sealedActive && right.exposed) || (right.sealedActive && left.exposed)) =
      true ↔ (left.CurrentSealed ∧ right.Exposed) ∨ (right.CurrentSealed ∧ left.Exposed) := by
    simp only [Bool.or_eq_true, Bool.and_eq_true, sealedActive_iff, exposed_iff placed,
      exposed_iff placed']
  have active : (left.manifest.role != right.manifest.role && left.item.state == .active &&
      right.item.state == .active && !left.historical && !right.historical) = true ↔
      left.CurrentActive ∧ right.CurrentActive ∧ left.manifest.role ≠ right.manifest.role := by
    simp only [CurrentActive, Bool.and_eq_true, bne_iff_ne, beq_iff_eq, Bool.not_eq_true']
    constructor
    · rintro ⟨⟨⟨⟨roles, one⟩, other⟩, current⟩, current'⟩
      exact ⟨⟨current, one⟩, ⟨current', other⟩, roles⟩
    · rintro ⟨⟨current, one⟩, ⟨current', other⟩, roles⟩
      exact ⟨⟨⟨⟨roles, one⟩, other⟩, current⟩, current'⟩
  have apart := role_of_reference separates
  rw [conflicts_iff]
  unfold overlapsOf
  dsimp only
  split
  · rename_i skipped
    simp only [Bool.or_eq_true, Bool.and_eq_true, beq_iff_eq, Bool.not_eq_true',
      ← Bool.not_eq_true, crossed, active] at skipped
    refine iff_of_true rfl ?_
    rintro (⟨one, other, roles⟩ | exposed)
    · rcases skipped with ⟨same, -⟩ | ⟨idle, -⟩
      · exact (roles (apart same)).elim
      · exact (idle ⟨one, other, roles⟩).elim
    · rcases skipped with ⟨-, clear⟩ | ⟨-, clear⟩
      · exact (clear exposed).elim
      · exact (clear exposed).elim
  · rename_i compared
    simp only [Bool.or_eq_true, Bool.and_eq_true, beq_iff_eq, Bool.not_eq_true',
      ← Bool.not_eq_true, crossed, active] at compared
    rw [identities_eq_nil separates]
    constructor
    · intro apart _
      exact apart
    · intro held
      apply held
      by_contra clear
      exact compared (Or.inr (not_or.mp clear))

theorem pairOverlaps_eq_nil :
    pairOverlaps records = [] ↔ records.Pairwise fun left right => overlapsOf left right = [] := by
  induction records with
  | nil => exact iff_of_true rfl List.Pairwise.nil
  | cons left rest ih =>
    rw [pairOverlaps, append_eq_nil_iff, flatMap_eq_nil_iff, pairwise_cons, ih]

omit [Sha256] in
theorem CorpusItem.SharesDigest.symm (shares : first.SharesDigest second) :
    second.SharesDigest first := shares.imp Eq.symm Eq.symm

omit [Sha256] in
theorem clean_iff : Clean records ↔ records.Pairwise fun left right =>
    (left.Conflicts right ∨ right.Conflicts left) → ¬left.item.SharesDigest right.item := by
  rw [pairwise_iff_getElem]
  constructor
  · intro clean first second bounded bounded' less conflicts shares
    have one := getElem?_eq_getElem bounded
    have other := getElem?_eq_getElem bounded'
    rcases conflicts with forward | backward
    · exact clean first second _ _ (Nat.ne_of_lt less) one other forward shares
    · exact clean second first _ _ (Nat.ne_of_gt less) other one backward shares.symm
  · intro clean first second left right different one other conflicts shares
    obtain ⟨bounded, same⟩ := List.getElem?_eq_some_iff.mp one
    obtain ⟨bounded', same'⟩ := List.getElem?_eq_some_iff.mp other
    rw [← same, ← same'] at conflicts shares
    rcases Nat.lt_or_gt_of_ne different with less | more
    · exact clean first second bounded bounded' less (Or.inl conflicts) shares
    · exact clean second first bounded' bounded more (Or.inr conflicts) shares.symm

omit [Sha256] in
theorem exposureRecords_placed :
    ∀ record ∈ exposureRecords manifests entries, Placed record := by
  intro record listed known
  unfold exposureRecords at listed
  rcases mem_append.mp listed with current | prior
  · simp only [mem_flatMap, mem_map] at current
    obtain ⟨manifest, -, item, -, same⟩ := current
    rw [← same] at known
    cases known
  · simp only [mem_flatMap, mem_map] at prior
    obtain ⟨entry, -, item, -, same⟩ := prior
    rw [← same]

/-- The values that the digests of a bundle cover. -/
def bundleValues (manifests : List CorpusManifest) (entries : List HistoryEntry) : List Json :=
  (exposureRecords manifests entries).flatMap hashedValues

theorem overlapsBetween_eq_nil_iff : overlapsBetween manifests entries = [] ↔
    (exposureRecords manifests entries).Pairwise fun left right => overlapsOf left right = [] := by
  unfold overlapsBetween
  rw [← pairOverlaps_eq_nil]
  constructor
  · intro none
    have empty := (mergeSort_perm _ _).symm.trans (List.Perm.of_eq none)
    rw [perm_nil] at empty
    cases found : pairOverlaps (exposureRecords manifests entries) with
    | nil => rfl
    | cons overlap rest =>
      rw [found, eraseDups_cons] at empty
      cases empty
  · intro none
    rw [none]
    simp

theorem overlapsBetween_clean (separates : Separates (bundleValues manifests entries)) :
    overlapsBetween manifests entries = [] ↔ Clean (exposureRecords manifests entries) := by
  rw [overlapsBetween_eq_nil_iff, clean_iff]
  apply List.Pairwise.iff_of_mem
  intro left right listed listed'
  apply overlapsOf_eq_nil (exposureRecords_placed left listed) (exposureRecords_placed right listed')
  have within : hashedValues left ++ hashedValues right ⊆ bundleValues manifests entries := by
    intro value known
    rcases mem_append.mp known with one | other
    · exact mem_flatMap.mpr ⟨left, listed, one⟩
    · exact mem_flatMap.mpr ⟨right, listed', other⟩
  intro first known second known' same
  exact separates first (within known) second (within known') same

end

section
variable [Sha256] {manifests others nodes known again : List CorpusManifest}
variable {entries prior : List HistoryEntry} {left right : ExposureRecord}
variable {previous current : CorpusManifest} {item : CorpusItem} {requireComplete : Bool}

/-- Two records overlap in both orders or in none. -/
theorem overlapsOf_comm : overlapsOf left right = [] ↔ overlapsOf right left = [] := by
  have named : (right.manifest.reference == left.manifest.reference) =
      (left.manifest.reference == right.manifest.reference) := BEq.comm
  have active : (right.manifest.role != left.manifest.role && right.item.state == .active &&
      left.item.state == .active && !right.historical && !left.historical) =
      (left.manifest.role != right.manifest.role && left.item.state == .active &&
        right.item.state == .active && !left.historical && !right.historical) := by
    rw [bne_comm, Bool.and_right_comm (left.manifest.role != right.manifest.role),
      Bool.and_right_comm _ (!right.historical)]
  have crossed := Bool.or_comm (right.sealedActive && left.exposed)
    (left.sealedActive && right.exposed)
  unfold overlapsOf
  dsimp only
  rw [named, active, crossed]
  split
  · rfl
  · simp only [filterMap_eq_nil_iff, forall_mem_cons, ite_eq_right_iff, reduceCtorEq,
      imp_false, not_mem_nil, false_implies, implies_true,
      @eq_comm _ right.item.sourceSha256.val, @eq_comm _ right.item.goldSha256.val,
      @eq_comm _ right.item.fingerprint]

omit [Sha256] in
theorem exposureRecords_perm (same : manifests.Perm others) (same' : entries.Perm prior) :
    (exposureRecords manifests entries).Perm (exposureRecords others prior) :=
  List.Perm.append (same.flatMap_right _) (same'.flatMap_right _)

theorem overlapsBetween_perm (same : manifests.Perm others) (same' : entries.Perm prior)
    (exposed : overlapsBetween manifests entries = []) : overlapsBetween others prior = [] := by
  rw [overlapsBetween_eq_nil_iff] at exposed ⊢
  exact ((exposureRecords_perm same same').pairwise_iff fun none => overlapsOf_comm.mp none).mp
    exposed

omit [Sha256] in
theorem priorItem_some {reference : ItemReference} {target : CorpusItem}
    (apart : ∀ first ∈ known, ∀ second ∈ known, first.SameVersion second → first = second) :
    priorItem known reference = some target ↔ ∃ manifest ∈ known,
      manifest.setId = reference.setId ∧ manifest.version = reference.version ∧
        manifest.items.find? (·.itemId == reference.itemId) = some target := by
  unfold priorItem
  constructor
  · intro found
    obtain ⟨manifest, listed, decides⟩ := exists_of_findSome?_eq_some found
    split_ifs at decides with named
    exact ⟨manifest, mem_reverse.mp listed, named.1, named.2, decides⟩
  · rintro ⟨manifest, listed, set, version, decides⟩
    cases found : known.reverse.findSome? _ with
    | none =>
      have absent := findSome?_eq_none_iff.mp found manifest (mem_reverse.mpr listed)
      rw [if_pos ⟨set, version⟩, decides] at absent
      cases absent
    | some other =>
      obtain ⟨node, present, decides'⟩ := exists_of_findSome?_eq_some found
      split_ifs at decides' with named
      have same : node = manifest := apart node (mem_reverse.mp present) manifest listed
        ⟨named.1.trans set.symm, named.2.trans version.symm⟩
      rw [same] at decides'
      exact decides'.symm.trans decides

omit [Sha256] in
/-- What is known of an item does not depend on the order of the known manifests. -/
theorem priorItem_perm (same : known.Perm again)
    (apart : ∀ first ∈ known, ∀ second ∈ known, first.SameVersion second → first = second) :
    priorItem known = priorItem again := by
  have apart' : ∀ first ∈ again, ∀ second ∈ again, first.SameVersion second → first = second :=
    fun first one second other => apart first (same.mem_iff.mpr one) second (same.mem_iff.mpr other)
  funext reference
  apply Option.ext
  intro target
  show priorItem known reference = some target ↔ priorItem again reference = some target
  rw [priorItem_some apart, priorItem_some apart']
  simp only [same.mem_iff]

theorem checkNewItem_perm (same : known.Perm again)
    (apart : ∀ first ∈ known, ∀ second ∈ known, first.SameVersion second → first = second) :
    checkNewItem known current item = checkNewItem again current item := by
  have lineage : known.any holdsContaminated = again.any holdsContaminated := same.any_eq
  have content : item.fingerprint ∉ historicalHashes known ↔
      item.fingerprint ∉ historicalHashes again := by
    unfold historicalHashes
    rw [(same.flatMap_right _).mem_iff]
  unfold checkNewItem checkReplacement
  simp only [lineage, content, priorItem_perm same apart]

theorem findNode_perm (apart : nodes.Pairwise Apart) (same : nodes.Perm again) :
    findNode nodes = findNode again := by
  have apart' := (same.pairwise_iff fun apart => apart.symm).mp apart
  funext reference
  apply Option.ext
  intro node
  show findNode nodes reference = some node ↔ findNode again reference = some node
  rw [findNode_some apart, findNode_some apart', same.mem_iff]

/-- A transition of a bundle passes with the history in every order. -/
theorem transits_perm (apart : nodes.Pairwise Apart) (listed : previous ∈ nodes)
    (joins : current ∈ nodes) (within : known ⊆ nodes) (same : known.Perm again)
    (passed : Transits known previous current) : Transits again previous current := by
  obtain ⟨-, linked, fresh, -⟩ := checkTransition_ok.mp passed
  have within' : again ⊆ nodes := fun node present => within (same.mem_iff.mpr present)
  refine checkTransition_ok.mpr ⟨consistent_of_subset apart ?_, linked, ?_, rfl⟩
  · simp [listed, joins, within']
  · intro item added
    have unique : ∀ first ∈ previous :: known, ∀ second ∈ previous :: known,
        first.SameVersion second → first = second := by
      have covered : previous :: known ⊆ nodes := cons_subset.mpr ⟨listed, within⟩
      intro first one second other
      exact pairwise_unique apart (covered one) (covered other)
    rw [← checkNewItem_perm (same.cons previous) unique]
    exact fresh item added

/-- A governed bundle stays governed in every order. -/
theorem Governed.perm (governed : Governed requireComplete manifests entries)
    (same : manifests.Perm others) (same' : entries.Perm prior) :
    Governed requireComplete others prior where
  current node listed := governed.current node (same.mem_iff.mpr listed)
  prior entry listed := governed.prior entry (same'.mem_iff.mpr listed)
  roles := (same.map _).nodup_iff.mp governed.roles
  complete required role := (same.map _).mem_iff.mp (governed.complete required role)
  exposed := overlapsBetween_perm same same' governed.exposed
  apart := (((same'.map _).append same).pairwise_iff fun apart => apart.symm).mp governed.apart
  replayed manifest listed := by
    have known := (same'.map (·.manifest)).append same
    have start := same.mem_iff.mpr listed
    have found := findNode_perm governed.apart known
    have followed := governed.replayed manifest start
    apply followed.again
    intro above key previous chain named present
    obtain ⟨other, present', -, passed⟩ := followed.passed chain named
    cases present.symm.trans present'
    rw [← found]
    refine ⟨not_mem_nil, present, ?_⟩
    apply transits_perm governed.apart _ _ (subset_append_left _ _) (same'.map _) passed
    · exact mem_of_find?_eq_some present
    · exact versions_mem (mem_append_right _ start) chain

namespace CorpusBundle

/-- A bundle in another order is accepted or refused alike. -/
theorem accepted_perm {first second : CorpusBundle}
    (manifests : first.manifests.Perm second.manifests)
    (history : first.history.Perm second.history) (accepted : first.Accepted requireComplete) :
    second.Accepted requireComplete := by
  obtain ⟨read, known, ⟨reads, knows⟩, governed⟩ := accepted_iff.mp accepted
  obtain ⟨read', reads', same⟩ := mapM_perm manifests reads
  obtain ⟨known', knows', same'⟩ := mapM_perm history knows
  exact accepted_iff.mpr ⟨read', known', ⟨reads', knows'⟩, governed.perm same same'⟩

/-- The overlaps are empty exactly when the bundle is clean, and its order does not matter. -/
theorem exposure (requireComplete : Bool) :
    (∀ (bundle : CorpusBundle) (manifests : List CorpusManifest) (entries : List HistoryEntry),
      bundle.Reads manifests entries → Separates (bundleValues manifests entries) →
        (crossSetOverlaps bundle.manifests bundle.history = .ok [] ↔
          Clean (exposureRecords manifests entries))) ∧
    ∀ first second : CorpusBundle, first.manifests.Perm second.manifests →
      first.history.Perm second.history →
        (first.Accepted requireComplete ↔ second.Accepted requireComplete) := by
  constructor
  · intro bundle manifests entries reads separates
    rw [← overlapsBetween_clean separates]
    unfold crossSetOverlaps
    rw [reads.1, reads.2]
    show Except.ok (overlapsBetween manifests entries) = Except.ok [] ↔ _
    rw [Except.ok.injEq]
  · intro first second manifests history
    exact ⟨accepted_perm manifests history, accepted_perm manifests.symm history.symm⟩

end CorpusBundle
end

section

/-- This stand-in digest reads the first letters of a text and serves one closed run. -/
@[reducible] def Sha256.opening : Sha256 where
  hexdigest text := String.ofList (hexDigits
    ((text.toList.take 40).foldl (fun sum letter => sum * 256 + letter.toNat) 0) 64)
  shape text := by simp [Text.isSha256, Text.isExactly, hexDigits_shape]

attribute [local instance] Sha256.opening

/-- The public and the sealed set stand alone. -/
def sealedPair : CorpusBundle := ⟨[publicSet.asDict, sealedSet.asDict], []⟩

theorem sealedPair_reads : sealedPair.Reads [publicSet, sealedSet] [] :=
  ⟨@mapM_asDict _ [publicSet, sealedSet] (by simp [set_canonical]), rfl⟩

/-- The first letters of a canonical text as a number. -/
def openingNumber (value : Json) : Nat :=
  (value.dumpsChars.take 40).foldl (fun sum letter => sum * 256 + letter.toNat) 0

theorem stableRevision_opening (value : Json) :
    stableRevision value = String.ofList (hexDigits (openingNumber value) 64) := by
  show String.ofList (hexDigits (((String.ofList _).toList.take 40).foldl _ 0) 64) = _
  rw [String.toList_ofList]
  rfl

theorem sealedPair_separates : Separates (bundleValues [publicSet, sealedSet] []) := by
  have distinct : ((bundleValues [publicSet, sealedSet] []).map fun value =>
      hexDigits (openingNumber value) 64).Nodup := by
    decide +kernel
  intro first listed second listed' same
  rw [stableRevision_opening first, stableRevision_opening second] at same
  exact inj_on_of_nodup_map distinct listed listed' (String.ofList_injective same)

theorem CorpusBundle.exposure_sample :
    (crossSetOverlaps sealedPair.manifests sealedPair.history = .ok [] ↔
      Clean (exposureRecords [publicSet, sealedSet] [])) ∧
    (sealedPair.Accepted false ↔
      CorpusBundle.Accepted ⟨sealedPair.manifests.reverse, []⟩ false) :=
  ⟨(CorpusBundle.exposure false).1 _ _ _ sealedPair_reads sealedPair_separates,
    (CorpusBundle.exposure false).2 sealedPair ⟨sealedPair.manifests.reverse, []⟩
      (reverse_perm _).symm (List.Perm.refl _)⟩

end
end KSlide
