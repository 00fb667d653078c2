import KSlide.Corpus.Transition
import KSlide.Graph.Ancestry
import Mathlib.Data.List.Pairwise

/-
This file says when a corpus bundle is accepted and what a next version changes.
-/

namespace KSlide
open GovernanceError Ancestry List

section
variable [Sha256] {manifests history : List CorpusManifest} {raws : List Json}
variable {previous current : CorpusManifest}

theorem mapM_asDict (canonical : ∀ manifest ∈ manifests, manifest.Canonical) :
    (manifests.map (·.asDict)).mapM canonicalManifest = .ok manifests :=
  mapM_written fun manifest listed => canonicalManifest_asDict (canonical manifest listed)

theorem mapM_canonical (read : raws.mapM canonicalManifest = .ok manifests) :
    ∀ manifest ∈ manifests, manifest.Canonical :=
  mapM_all read fun _ _ => canonicalManifest_ok

theorem canonicalHistoryEntry_ok {value : Json} {entry : HistoryEntry}
    (read : canonicalHistoryEntry value = .ok entry) : entry.manifest.Canonical := by
  unfold canonicalHistoryEntry at read
  split at read
  · rw [bind_ok] at read
    obtain ⟨manifest, parsed, read⟩ := read
    split at read
    · simp only [bind_ok, check_ok, pure_ok] at read
      obtain ⟨_, -, _, -, _, -, rfl⟩ := read
      exact canonicalManifest_ok parsed
    · cases read
  · simp only [bind_ok, pure_ok] at read
    obtain ⟨manifest, parsed, rfl⟩ := read
    exact canonicalManifest_ok parsed

theorem mapM_history {entries : List HistoryEntry}
    (read : raws.mapM canonicalHistoryEntry = .ok entries) :
    ∀ entry ∈ entries, entry.manifest.Canonical :=
  mapM_all read fun _ _ => canonicalHistoryEntry_ok

/-- A canonical manifest needs no second parse. -/
theorem validateTransition_asDict (before : previous.Canonical) (after : current.Canonical)
    (known : ∀ manifest ∈ history, manifest.Canonical) :
    validateTransition previous.asDict current.asDict (history.map (·.asDict)) =
      checkTransition previous current history := by
  unfold validateTransition
  rw [canonicalManifest_asDict before, canonicalManifest_asDict after, mapM_asDict known]
  rfl

theorem canonicalHistoryEntry_plain {value : Json}
    (read : canonicalManifest value = .ok current) :
    canonicalHistoryEntry value = .ok { manifest := current } := by
  have plain : value.hasKeys ["manifest", "exposure_contexts"] = false := by
    unfold canonicalManifest at read
    simp only [bind_ok, check_ok] at read
    obtain ⟨_, shaped, -⟩ := read
    by_contra both
    rw [Bool.not_eq_false] at both
    have listed : "manifest" ∈ ["manifest", "exposure_contexts"] := by simp
    obtain ⟨found, present⟩ := Json.get?_of_hasKeys both listed
    cases value with
    | obj fields =>
      have listed := mem_map_of_mem (f := Prod.fst) (Json.get?_eq_some_mem present)
      simp only [Json.keysBetween, Json.keys, Bool.and_eq_true, all_eq_true,
        decide_eq_true_eq] at shaped
      have impossible := shaped.1.2 "manifest" listed
      simp at impossible
    | _ => cases present
  unfold canonicalHistoryEntry
  rw [plain, read]
  rfl

end

section
variable [Sha256] {previous current added other : CorpusManifest}
variable {history known nodes : List CorpusManifest} {item : CorpusItem}

namespace CorpusManifest

/-- Two manifests are versions of one set with one version text. -/
def SameVersion (first second : CorpusManifest) : Prop :=
  first.setId = second.setId ∧ first.version = second.version

omit [Sha256] in
theorem SameVersion.symm (same : previous.SameVersion current) : current.SameVersion previous :=
  ⟨same.1.symm, same.2.symm⟩

end CorpusManifest

/-- What a transition checks without the history. -/
structure Successor (previous current : CorpusManifest) : Prop where
  role : previous.role = current.role
  retired : previous.state = .retired → current.state = .retired
  follows : previous.SameVersion current ∧
      previous.manifestFingerprint = current.manifestFingerprint ∨
    ¬previous.SameVersion current ∧ current.predecessor = some previous.reference
  kept : ∀ item ∈ previous.items, checkKeptItem current item = .ok ()

theorem checkTransition_ok {last : CorpusManifest} :
    checkTransition previous current history = .ok last ↔
      (previous :: (history ++ [current])).Pairwise CorpusManifest.Consistent ∧
      Successor previous current ∧
      (∀ item ∈ newItems previous current,
        checkNewItem (previous :: history) current item = .ok ()) ∧ last = current := by
  unfold checkTransition
  simp only [bind_ok, check_ok, pure_ok, forM_ok, decide_eq_true_eq]
  constructor
  · rintro ⟨_, consistent, _, role, _, retired, _, changed, _, follows, _, kept, _, fresh, rfl⟩
    refine ⟨consistent, ⟨beq_iff_eq.mp role, ?_, ?_, kept⟩, fresh, rfl⟩
    · intro same
      simpa [same] using retired
    · by_cases same : previous.SameVersion current
      · refine Or.inl ⟨same, ?_⟩
        simpa [same.1, same.2] using changed
      · refine Or.inr ⟨same, ?_⟩
        simp only [Bool.or_eq_true, Bool.and_eq_true, beq_iff_eq] at follows
        exact follows.resolve_left same
  · rintro ⟨consistent, linked, fresh, rfl⟩
    refine ⟨(), consistent, (), beq_iff_eq.mpr linked.role, (), ?_, (), ?_, (), ?_, (), linked.kept,
      (), fresh, rfl⟩
    · by_cases same : previous.state = .retired
      · simp [linked.retired same]
      · simp [same]
    · rcases linked.follows with ⟨-, same⟩ | ⟨other, -⟩
      · simp [same]
      · simp only [Bool.not_eq_true', Bool.and_eq_false_iff, beq_eq_false_iff_ne]
        left
        by_cases set : previous.setId = last.setId
        · exact Or.inr fun version => other ⟨set, version⟩
        · exact Or.inl set
    · rcases linked.follows with ⟨same, -⟩ | ⟨-, follows⟩
      · simp [same.1, same.2]
      · simp [follows]

/-- What an added manifest closes for a new item without a lineage. -/
structure Unclosed (added current : CorpusManifest) (item : CorpusItem) : Prop where
  content : item.fingerprint ∉ historicalHashes [added]
  lineage : current.role = .sealedHeldOut → item.state = .active → holdsContaminated added = false

omit [Sha256] in
/-- An added version of its own does not change what is known of an item. -/
theorem priorItem_extend {reference : ItemReference} {target : CorpusItem}
    (found : priorItem known reference = some target)
    (alone : ∀ other ∈ known, other.SameVersion added → other = added) :
    priorItem (known ++ [added]) reference = some target := by
  unfold priorItem at found ⊢
  rw [reverse_append, reverse_singleton, singleton_append, findSome?_cons]
  split
  · rename_i late listed
    split_ifs at listed with same
    · obtain ⟨other, present, decides⟩ := exists_of_findSome?_eq_some found
      split_ifs at decides with named
      · have version : other.SameVersion added :=
          ⟨named.1.trans same.1.symm, named.2.trans same.2.symm⟩
        rw [alone other (mem_reverse.mp present) version] at decides
        exact listed.symm.trans decides
  · exact found

/-- A new item stays accepted exactly when the added manifest does not close it. -/
theorem checkNewItem_extend (accepted : checkNewItem known current item = .ok ())
    (alone : ∀ other ∈ known, other.SameVersion added → other = added) :
    checkNewItem (known ++ [added]) current item = .ok () ↔
      (item.replacementOf = none → Unclosed added current item) := by
  unfold checkNewItem at accepted ⊢
  rw [bind_ok] at accepted ⊢
  obtain ⟨_, lineage, content⟩ := accepted
  cases replaced : item.replacementOf with
  | some reference =>
    rw [replaced] at content lineage
    simp only [check_ok, Option.isNone_some, Bool.and_false, Bool.not_false, true_and]
    constructor
    · intro _ impossible
      cases impossible
    · intro _
      refine ⟨(), ?_⟩
      dsimp only at content ⊢
      unfold checkReplacement at content ⊢
      cases found : priorItem known reference with
      | none =>
        rw [found] at content
        cases content
      | some target =>
        rw [found] at content
        rw [priorItem_extend found alone]
        exact content
  | none =>
    rw [replaced] at content lineage
    dsimp only at content ⊢
    simp only [check_ok, Option.isNone_none, Bool.and_true, Bool.not_eq_true',
      Bool.and_eq_false_iff, decide_eq_true_eq, any_append, Bool.or_eq_false_iff,
      any_cons, any_nil, Bool.or_false] at content lineage ⊢
    have split : item.fingerprint ∉ historicalHashes (known ++ [added]) ↔
        item.fingerprint ∉ historicalHashes known ∧
          item.fingerprint ∉ historicalHashes [added] := by
      unfold historicalHashes
      rw [flatMap_append, mem_append, not_or]
    rw [split]
    constructor
    · rintro ⟨_, late, _, closed⟩ -
      refine ⟨closed, ?_⟩
      intro sealedRole active
      rcases late with (other | ⟨-, clean⟩) | inactive
      · simp [sealedRole] at other
      · exact clean
      · simp [active] at inactive
    · intro unclosed
      obtain ⟨closed, clean⟩ := unclosed trivial
      refine ⟨(), ?_, content, closed⟩
      rcases lineage with (other | before) | inactive
      · exact Or.inl (Or.inl other)
      · by_cases sealedRole : current.role = .sealedHeldOut
        · by_cases active : item.state = .active
          · exact Or.inl (Or.inr ⟨before, clean sealedRole active⟩)
          · exact Or.inr (beq_eq_false_iff_ne.mpr active)
        · exact Or.inl (Or.inl (beq_eq_false_iff_ne.mpr sealedRole))
      · exact Or.inr inactive

omit [Sha256] in
theorem kept_of_find {current : CorpusManifest} {old updated : CorpusItem}
    (found : current.items.find? (·.itemId == old.itemId) = some updated)
    (source : updated.sourceSha256 = old.sourceSha256) (gold : updated.goldSha256 = old.goldSha256)
    (states : old.state = updated.state ∨ old.state = .active ∧ updated.closed = true) :
    checkKeptItem current old = .ok () := by
  unfold checkKeptItem
  rw [found]
  simp only [bind_ok, check_ok, source, gold, beq_self_eq_true, Bool.and_self]
  refine ⟨(), trivial, (), ?_, ?_⟩
  · rcases states with same | ⟨active, -⟩
    · cases state : updated.state <;> simp [CorpusItem.closed, same, state]
    · simp [CorpusItem.closed, active]
  · rcases states with same | ⟨active, closed⟩
    · simp [same]
    · simp [active, closed]

end

section
variable [Sha256]

theorem overlapsOf_apart {left right : ExposureRecord}
    (source : left.item.sourceSha256 ≠ right.item.sourceSha256)
    (gold : left.item.goldSha256 ≠ right.item.goldSha256)
    (pair : left.item.fingerprint ≠ right.item.fingerprint) : overlapsOf left right = [] := by
  have source' : left.item.sourceSha256.val ≠ right.item.sourceSha256.val :=
    fun same => source (Subtype.ext same)
  have gold' : left.item.goldSha256.val ≠ right.item.goldSha256.val :=
    fun same => gold (Subtype.ext same)
  unfold overlapsOf
  dsimp only
  split_ifs
  · rfl
  · simp [source', gold', pair]

/-- Two records of one set that is not sealed do not overlap. -/
theorem overlapsOf_quiet {left right : ExposureRecord}
    (same : left.manifest.role = right.manifest.role)
    (open_ : left.manifest.role ≠ .sealedHeldOut) : overlapsOf left right = [] := by
  have first : left.sealedActive = false := by simp [ExposureRecord.sealedActive, open_]
  have second : right.sealedActive = false := by
    simp [ExposureRecord.sealedActive, ← same, open_]
  unfold overlapsOf
  dsimp only
  rw [first, second]
  simp [same]

/-- A bundle whose items share nothing across roles has no overlap. -/
theorem pairOverlaps_nil {records : List ExposureRecord}
    (apart : records.Pairwise fun left right => overlapsOf left right = []) :
    pairOverlaps records = [] := by
  induction records with
  | nil => rfl
  | cons left rest ih =>
    obtain ⟨first, later⟩ := pairwise_cons.mp apart
    rw [pairOverlaps, ih later, append_nil, flatMap_eq_nil_iff]
    exact first

end
section
variable [Sha256] {previous current added : CorpusManifest}
variable {nodes history manifests : List CorpusManifest} {reference : ManifestReference}

namespace CorpusManifest

/-- Two manifests of a bundle belong to different set versions. -/
def Apart (first second : CorpusManifest) : Prop := ¬first.SameVersion second

omit [Sha256] in
theorem Apart.symm (apart : previous.Apart current) : current.Apart previous :=
  fun same => apart same.symm

instance : Std.Symm Apart := ⟨fun _ _ => Apart.symm⟩

/-- Manifests apart are consistent. -/
theorem Apart.consistent (apart : previous.Apart current) : previous.Consistent current :=
  fun same => (apart same).elim

theorem sameVersion_of_reference (same : previous.reference = current.reference) :
    previous.SameVersion current :=
  ⟨congrArg ManifestReference.setId same, congrArg ManifestReference.version same⟩

end CorpusManifest
open CorpusManifest

omit [Sha256] in
/-- Each set version of a bundle has one manifest. -/
theorem pairwise_unique (apart : nodes.Pairwise Apart) (first : previous ∈ nodes)
    (second : current ∈ nodes) (same : previous.SameVersion current) : previous = current := by
  by_contra different
  exact apart.forall first second different same

theorem indexManifests_ok {earlier : List CorpusManifest} {value : Unit} :
    indexManifests earlier nodes = .ok value ↔
      nodes.Pairwise Apart ∧ ∀ before ∈ earlier, ∀ node ∈ nodes, before.Apart node := by
  induction nodes generalizing earlier with
  | nil => simp [indexManifests]
  | cons node rest ih =>
    simp only [indexManifests, bind_ok, check_ok, all_eq_true, bne_iff_ne, decide_eq_true_eq,
      ih, pairwise_cons, forall_mem_cons]
    constructor
    · rintro ⟨_, distinct, _, consistent, later, apart⟩
      refine ⟨⟨fun other listed => apart node (by simp) other listed, later⟩, ?_⟩
      intro before listed
      refine ⟨?_, fun other present => apart before (by simp [listed]) other present⟩
      intro same
      apply distinct before listed
      show (⟨_, _, _⟩ : ManifestReference) = ⟨_, _, _⟩
      rw [same.1, same.2, (consistent before listed same).1]
    · rintro ⟨⟨first, later⟩, apart⟩
      refine ⟨(), ?_, (), fun before listed => (apart before listed).1.consistent, later, ?_⟩
      · intro before listed same
        exact (apart before listed).1 (sameVersion_of_reference same)
      · intro before listed other present
        rcases mem_append.mp listed with old | new
        · exact (apart before old).2 other present
        · rw [mem_singleton.mp new]
          exact first other present

omit [Sha256] in
theorem apart_of_nodup {nodes : List CorpusManifest}
    (distinct : (nodes.map fun node => (node.setId, node.version)).Nodup) :
    nodes.Pairwise Apart := by
  refine (pairwise_map.mp distinct).imp ?_
  intro first second different same
  exact different (Prod.ext same.1 same.2)

/-- The node with a reference. -/
def findNode (nodes : List CorpusManifest) (reference : ManifestReference) :
    Option CorpusManifest := nodes.find? (·.reference == reference)

theorem findNode_some (apart : nodes.Pairwise Apart) :
    findNode nodes reference = some previous ↔
      previous ∈ nodes ∧ previous.reference = reference := by
  unfold findNode
  constructor
  · intro found
    exact ⟨mem_of_find?_eq_some found, by simpa using find?_some found⟩
  · rintro ⟨listed, named⟩
    cases found : nodes.find? (·.reference == reference) with
    | none =>
      have absent := find?_eq_none.mp found previous listed
      simp [named] at absent
    | some other =>
      have named' : other.reference = reference := by simpa using find?_some found
      rw [pairwise_unique apart (mem_of_find?_eq_some found) listed
        (sameVersion_of_reference (named'.trans named.symm))]

/-- A transition passes with a history. -/
def Transits (history : List CorpusManifest) (previous current : CorpusManifest) : Prop :=
  checkTransition previous current history = .ok current

theorem replayTransitions_ok {seen : List ManifestReference} {value : Unit}
    (canonical : ∀ node ∈ nodes, node.Canonical) (known : ∀ node ∈ history, node.Canonical)
    (start : current.Canonical) :
    replayTransitions nodes history seen current = .ok value ↔
      Followed CorpusManifest.predecessor (findNode nodes) (Transits history) seen current := by
  induction seen, current using replayTransitions.induct nodes with
  | case1 seen node root =>
    rw [replayTransitions, root]
    exact iff_of_true rfl (.root root)
  | case2 seen node reference named cycle =>
    rw [replayTransitions, named]
    dsimp only
    rw [if_pos cycle]
    constructor
    · intro impossible
      cases impossible
    · intro followed
      obtain ⟨_, -, fresh, -⟩ := followed.passed (.self node) named
      exact (fresh cycle).elim
  | case3 seen node reference named fresh missing =>
    rw [replayTransitions, named]
    dsimp only
    rw [if_neg fresh]
    constructor
    · intro impossible
      split at impossible
      · cases impossible
      · rename_i present
        rw [missing] at present
        cases present
    · intro followed
      obtain ⟨_, found, -⟩ := followed.passed (.self node) named
      cases missing.symm.trans found
  | case4 seen node reference named fresh previous found ih =>
    have before : previous.Canonical := canonical previous (mem_of_find?_eq_some found)
    rw [replayTransitions, named]
    dsimp only
    rw [if_neg fresh]
    split
    · rename_i missing
      cases missing.symm.trans found
    · rename_i other present
      cases found.symm.trans present
      rw [validateTransition_asDict before start known, bind_ok]
      constructor
      · rintro ⟨last, passed, later⟩
        have same : last = node := (checkTransition_ok.mp passed).2.2.2
        exact .link named fresh found (same ▸ passed) ((ih before).mp later)
      · intro followed
        obtain ⟨_, found', -, passed⟩ := followed.passed (.self node) named
        cases found.symm.trans found'
        cases followed with
        | root ends => cases named.symm.trans ends
        | link named' _ found' _ rest =>
          cases named.symm.trans named'
          cases found.symm.trans found'
          exact ⟨node, passed, (ih before).mpr rest⟩

/-- What the check of a bundle promises. -/
structure Governed (requireComplete : Bool) (manifests : List CorpusManifest)
    (entries : List HistoryEntry) : Prop where
  current : ∀ manifest ∈ manifests, manifest.Canonical
  prior : ∀ entry ∈ entries, entry.manifest.Canonical
  roles : (manifests.map (·.role)).Nodup
  complete : requireComplete = true → ∀ role : CorpusRole, role ∈ manifests.map (·.role)
  exposed : overlapsBetween manifests entries = []
  apart : (entries.map (·.manifest) ++ manifests).Pairwise Apart
  replayed : ∀ manifest ∈ manifests, Followed CorpusManifest.predecessor
    (findNode (entries.map (·.manifest) ++ manifests)) (Transits (entries.map (·.manifest))) []
    manifest

/-- The manifests and the history of a bundle. -/
structure CorpusBundle where
  manifests : List Json
  history : List Json

namespace CorpusBundle

/-- The bundle passes its validation. -/
def Accepted (bundle : CorpusBundle) (requireComplete : Bool) : Prop :=
  ∃ manifests, validateCorpusBundle (.arr bundle.manifests) (.arr bundle.history) requireComplete =
    .ok manifests

/-- The bundle is read as manifests and history entries. -/
def Reads (bundle : CorpusBundle) (manifests : List CorpusManifest)
    (entries : List HistoryEntry) : Prop :=
  bundle.manifests.mapM canonicalManifest = .ok manifests ∧
    bundle.history.mapM canonicalHistoryEntry = .ok entries

theorem accepted_iff {bundle : CorpusBundle} {requireComplete : Bool} :
    bundle.Accepted requireComplete ↔
      ∃ manifests entries, bundle.Reads manifests entries ∧
        Governed requireComplete manifests entries := by
  unfold Accepted validateCorpusBundle Reads crossSetOverlaps bundleList historyList
  simp only [bind_ok, check_ok, pure_ok, forM_ok, Except.ok.injEq, exists_eq_left',
    decide_eq_true_eq, Bool.or_eq_true, Bool.not_eq_true', List.isEmpty_iff]
  constructor
  · rintro ⟨_, manifests, read, _, roles, _, complete, entries, known, overlaps,
      ⟨current, again, prior, knownAgain, rfl⟩, _, exposed, _, indexed, _, replayed, rfl⟩
    cases known.symm.trans knownAgain
    have canonical := mapM_canonical read
    have historical := mapM_history known
    cases (mapM_asDict canonical).symm.trans again
    have apart := (indexManifests_ok.mp indexed).1
    have every : ∀ node ∈ entries.map (·.manifest) ++ manifests, node.Canonical := by
      intro node listed
      rcases mem_append.mp listed with old | new
      · obtain ⟨entry, present, rfl⟩ := mem_map.mp old
        exact historical entry present
      · exact canonical node new
    have known' : ∀ node ∈ entries.map (·.manifest), node.Canonical :=
      fun node listed => every node (mem_append_left _ listed)
    refine ⟨manifests, entries, ⟨read, known⟩, canonical, historical, roles, ?_, exposed, apart, ?_⟩
    · intro required role
      simp only [required, Bool.true_eq_false, false_or, all_eq_true,
        decide_eq_true_eq] at complete
      exact complete role (Text.Enumeration.complete role)
    · intro manifest listed
      exact (replayTransitions_ok every known' (canonical manifest listed)).mp
        (replayed manifest listed)
  · rintro ⟨manifests, entries, ⟨read, known⟩, governed⟩
    have every : ∀ node ∈ entries.map (·.manifest) ++ manifests, node.Canonical := by
      intro node listed
      rcases mem_append.mp listed with old | new
      · obtain ⟨entry, present, rfl⟩ := mem_map.mp old
        exact governed.prior entry present
      · exact governed.current node new
    have known' : ∀ node ∈ entries.map (·.manifest), node.Canonical :=
      fun node listed => every node (mem_append_left _ listed)
    refine ⟨_, manifests, read, (), governed.roles, (), ?_, entries, known, _,
      ⟨manifests, mapM_asDict governed.current, entries, known, rfl⟩, (), governed.exposed, (),
      indexManifests_ok.mpr ⟨governed.apart, by simp⟩, (), ?_, rfl⟩
    · cases requireComplete with
      | false => exact Or.inl rfl
      | true =>
        refine Or.inr (all_eq_true.mpr ?_)
        intro role _
        exact decide_eq_true (governed.complete rfl role)
    · intro manifest listed
      exact (replayTransitions_ok every known' (governed.current manifest listed)).mpr
        (governed.replayed manifest listed)

end CorpusBundle

end
end KSlide
