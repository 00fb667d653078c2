import KSlide.Corpus.Versioning
import Mathlib.Logic.Relation

/-
This file says when the next version of a set leaves an accepted bundle.
-/

namespace KSlide
open GovernanceError Ancestry CorpusManifest List

section
variable [Sha256] {previous node added next : CorpusManifest}
variable {nodes history known : List CorpusManifest} {item : CorpusItem}

/-- The manifests of a bundle are consistent with each other. -/
theorem consistent_of_subset (apart : nodes.Pairwise Apart) (within : known ⊆ nodes) :
    known.Pairwise Consistent := by
  apply pairwise_of_forall_mem_list
  intro first listed second present same
  rw [pairwise_unique apart (within listed) (within present) same]
  exact ⟨rfl, rfl⟩

/-- A transition of a bundle still passes when a manifest of the bundle joins the history exactly
when that manifest closes none of its new items. -/
theorem transits_extend (apart : nodes.Pairwise Apart) (within : history ⊆ nodes)
    (first : previous ∈ nodes) (second : node ∈ nodes) (joins : added ∈ nodes)
    (passed : Transits history previous node) :
    Transits (history ++ [added]) previous node ↔
      ∀ item ∈ newItems previous node, item.replacementOf = none → Unclosed added node item := by
  obtain ⟨-, linked, fresh, -⟩ := checkTransition_ok.mp passed
  have consistent : (previous :: (history ++ [added] ++ [node])).Pairwise Consistent := by
    apply consistent_of_subset apart
    simp [first, second, joins, within]
  have alone : ∀ other ∈ previous :: history, other.SameVersion added → other = added := by
    intro other listed same
    refine pairwise_unique apart ?_ joins same
    rcases mem_cons.mp listed with rfl | old
    · exact first
    · exact within old
  have each : ∀ item ∈ newItems previous node,
      (checkNewItem (previous :: (history ++ [added])) node item = .ok () ↔
        (item.replacementOf = none → Unclosed added node item)) :=
    fun item listed => checkNewItem_extend (fresh item listed) alone
  constructor
  · intro again
    obtain ⟨-, -, later, -⟩ := checkTransition_ok.mp again
    intro item listed
    exact (each item listed).mp (later item listed)
  · intro unclosed
    refine checkTransition_ok.mpr ⟨consistent, linked, ?_, rfl⟩
    intro item listed
    exact (each item listed).mpr (unclosed item listed)

/-- A linked version of a bundle passes when its new items are accepted. -/
theorem transits_of_linked {current : CorpusManifest}
    (apart : nodes.Pairwise Apart) (within : previous :: (history ++ [current]) ⊆ nodes)
    (linked : Successor previous current)
    (fresh : ∀ item ∈ newItems previous current,
      checkNewItem (previous :: history) current item = .ok ()) :
    Transits history previous current :=
  checkTransition_ok.mpr ⟨consistent_of_subset apart within, linked, fresh, rfl⟩

/-- A known manifest closes no accepted item. -/
theorem unclosed_known (accepted : checkNewItem known node item = .ok ())
    (plain : item.replacementOf = none) (listed : added ∈ known) : Unclosed added node item := by
  unfold checkNewItem at accepted
  rw [bind_ok, plain] at accepted
  obtain ⟨_, lineage, content⟩ := accepted
  simp only [check_ok, Option.isNone_none, Bool.and_true, Bool.not_eq_true',
    Bool.and_eq_false_iff, decide_eq_true_eq, any_eq_false] at lineage content
  constructor
  · intro closed
    apply content
    simp only [historicalHashes, flatMap_cons, flatMap_nil, append_nil,
      mem_flatMap] at closed ⊢
    exact ⟨added, listed, closed⟩
  · intro sealedRole active
    rcases lineage with (other | clean) | inactive
    · simp [sealedRole] at other
    · exact Bool.eq_false_iff.mpr (clean added listed)
    · simp [active] at inactive

/-- The transition to a new version passes again when its previous version joins the history. -/
theorem transits_self (apart : (next :: nodes).Pairwise Apart) (within : history ⊆ nodes)
    (joins : added ∈ nodes) (passed : Transits history added next) :
    Transits (history ++ [added]) added next := by
  obtain ⟨-, -, fresh, -⟩ := checkTransition_ok.mp passed
  have within' : history ⊆ next :: nodes :=
    fun _ listed => mem_cons_of_mem next (within listed)
  have joins' : added ∈ next :: nodes := mem_cons_of_mem next joins
  refine (transits_extend apart within' joins' mem_cons_self joins' passed).mpr ?_
  intro item listed plain
  exact unclosed_known (fresh item listed) plain mem_cons_self

end

/-- One manifest of a bundle is replaced by its next version. -/
structure VersionStep where
  front : List Json
  back : List Json
  current : Json
  next : Json
  history : List Json

namespace VersionStep
variable [Sha256] {step : VersionStep} {requireComplete : Bool}

omit [Sha256] in
def before (step : VersionStep) : CorpusBundle :=
  ⟨step.front ++ step.current :: step.back, step.history⟩

omit [Sha256] in
/-- The current manifest moves to the history. -/
def after (step : VersionStep) : CorpusBundle :=
  ⟨step.front ++ step.next :: step.back, step.history ++ [step.current]⟩

/-- The next manifest passes the transition, has a new set version and overlaps nothing. -/
structure Valid (step : VersionStep) : Prop where
  transits : ∃ entries manifest, step.history.mapM canonicalHistoryEntry = .ok entries ∧
    validateTransition step.current step.next (entries.map (·.manifest.asDict)) = .ok manifest
  fresh : ∀ manifests entries next, step.before.Reads manifests entries →
    canonicalManifest step.next = .ok next →
    ∀ node ∈ entries.map (·.manifest) ++ manifests, next.Apart node
  exposed : crossSetOverlaps step.after.manifests step.after.history = .ok []

/-- The current manifest closes no item that an earlier version of any set added without a
lineage. -/
def ReplaySafe (step : VersionStep) : Prop :=
  ∀ manifests entries added, step.before.Reads manifests entries →
    canonicalManifest step.current = .ok added → ∀ start ∈ manifests, ∀ node previous,
    Ancestor CorpusManifest.predecessor (findNode (entries.map (·.manifest) ++ manifests)) start
      node →
    Parent CorpusManifest.predecessor (findNode (entries.map (·.manifest) ++ manifests)) node
      previous →
    ∀ item ∈ newItems previous node, item.replacementOf = none → Unclosed added node item

/-- A bundle is read in one way. -/
theorem reads_unique {bundle : CorpusBundle} {manifests others : List CorpusManifest}
    {entries known : List HistoryEntry} (first : bundle.Reads manifests entries)
    (second : bundle.Reads others known) : manifests = others ∧ entries = known :=
  ⟨Except.ok.inj (first.1.symm.trans second.1), Except.ok.inj (first.2.symm.trans second.2)⟩

/-- The bundles before and after a step, once they are read. -/
structure Parsed (step : VersionStep) where
  front : List CorpusManifest
  back : List CorpusManifest
  current : CorpusManifest
  next : CorpusManifest
  entries : List HistoryEntry
  readFront : step.front.mapM canonicalManifest = .ok front
  readBack : step.back.mapM canonicalManifest = .ok back
  readCurrent : canonicalManifest step.current = .ok current
  readNext : canonicalManifest step.next = .ok next
  readHistory : step.history.mapM canonicalHistoryEntry = .ok entries

namespace Parsed
variable (parsed : Parsed step)

/-- The manifests of the history. -/
def prior : List CorpusManifest := parsed.entries.map (·.manifest)

/-- The nodes of the bundle before the step. -/
def nodes : List CorpusManifest := parsed.prior ++ (parsed.front ++ parsed.current :: parsed.back)

/-- The nodes of the bundle after the step. -/
def later : List CorpusManifest :=
  parsed.prior ++ [parsed.current] ++ (parsed.front ++ parsed.next :: parsed.back)

theorem before_reads :
    step.before.Reads (parsed.front ++ parsed.current :: parsed.back) parsed.entries := by
  refine ⟨?_, parsed.readHistory⟩
  unfold before
  rw [mapM_append, mapM_cons]
  simp only [bind_ok, pure_ok]
  exact ⟨_, parsed.readFront, _, ⟨_, parsed.readCurrent, _, parsed.readBack, rfl⟩, rfl⟩

theorem after_reads : step.after.Reads (parsed.front ++ parsed.next :: parsed.back)
    (parsed.entries ++ [{ manifest := parsed.current }]) := by
  constructor
  · unfold after
    rw [mapM_append, mapM_cons]
    simp only [bind_ok, pure_ok]
    exact ⟨_, parsed.readFront, _, ⟨_, parsed.readNext, _, parsed.readBack, rfl⟩, rfl⟩
  · unfold after
    rw [mapM_append, mapM_cons, mapM_nil]
    simp only [bind_ok, pure_ok]
    exact ⟨_, parsed.readHistory, _, ⟨_, canonicalHistoryEntry_plain parsed.readCurrent, _, rfl,
      rfl⟩, rfl⟩

theorem joins : parsed.current ∈ parsed.nodes := by
  simp [nodes]

theorem current_listed : parsed.current ∈ parsed.front ++ parsed.current :: parsed.back := by
  simp

theorem prior_subset : parsed.prior ⊆ parsed.nodes := subset_append_left _ _

theorem later_perm : parsed.later.Perm (parsed.next :: parsed.nodes) := by
  unfold later nodes
  have moved : (parsed.prior ++ [parsed.current] ++
      (parsed.front ++ parsed.next :: parsed.back)).Perm
      (parsed.prior ++ (parsed.next :: (parsed.front ++ parsed.current :: parsed.back))) := by
    rw [append_assoc]
    apply List.Perm.append_left
    rw [singleton_append]
    have first : (parsed.current :: (parsed.front ++ parsed.next :: parsed.back)).Perm
        (parsed.current :: parsed.next :: (parsed.front ++ parsed.back)) :=
      List.Perm.cons _ perm_middle
    have second : (parsed.next :: (parsed.front ++ parsed.current :: parsed.back)).Perm
        (parsed.next :: parsed.current :: (parsed.front ++ parsed.back)) :=
      List.Perm.cons _ perm_middle
    exact first.trans ((List.Perm.swap _ _ _).trans second.symm)
  exact moved.trans perm_middle

end Parsed

theorem parsed_of_valid (accepted : step.before.Accepted requireComplete) (valid : step.Valid) :
    Nonempty (Parsed step) := by
  obtain ⟨manifests, entries, ⟨read, known⟩, -⟩ := CorpusBundle.accepted_iff.mp accepted
  unfold before at read known
  rw [mapM_append, mapM_cons] at read
  simp only [bind_ok, pure_ok] at read
  obtain ⟨front, readFront, _, ⟨current, readCurrent, back, readBack, rfl⟩, rfl⟩ := read
  obtain ⟨_, _, -, transits⟩ := valid.transits
  unfold validateTransition at transits
  simp only [bind_ok] at transits
  obtain ⟨_, -, next, readNext, -⟩ := transits
  exact ⟨⟨front, back, current, next, entries, readFront, readBack, readCurrent, readNext, known⟩⟩

/-- The facts of a valid step from an accepted bundle. -/
structure Steps (parsed : Parsed step) (requireComplete : Bool) : Prop where
  governed : Governed requireComplete (parsed.front ++ parsed.current :: parsed.back) parsed.entries
  transits : Transits parsed.prior parsed.current parsed.next
  fresh : ∀ node ∈ parsed.nodes, parsed.next.Apart node
  exposed : overlapsBetween (parsed.front ++ parsed.next :: parsed.back)
    (parsed.entries ++ [{ manifest := parsed.current }]) = []

theorem steps_of_valid (parsed : Parsed step) (accepted : step.before.Accepted requireComplete)
    (valid : step.Valid) : Steps parsed requireComplete := by
  obtain ⟨manifests, entries, read, governed⟩ := CorpusBundle.accepted_iff.mp accepted
  obtain ⟨rfl, rfl⟩ := reads_unique read parsed.before_reads
  have known : ∀ node ∈ parsed.prior, node.Canonical := by
    intro node listed
    obtain ⟨entry, present, rfl⟩ := mem_map.mp listed
    exact governed.prior entry present
  refine ⟨governed, ?_, ?_, ?_⟩
  · obtain ⟨entries, last, known', transits⟩ := valid.transits
    cases known'.symm.trans parsed.readHistory
    have current : parsed.current.Canonical := canonicalManifest_ok parsed.readCurrent
    have next : parsed.next.Canonical := canonicalManifest_ok parsed.readNext
    have split : parsed.entries.map (·.manifest.asDict) = parsed.prior.map (·.asDict) := by
      rw [Parsed.prior, map_map]
      rfl
    have passed : checkTransition parsed.current parsed.next parsed.prior = .ok last := by
      rw [← validateTransition_asDict current next known, ← split]
      unfold validateTransition at transits ⊢
      rw [parsed.readCurrent, parsed.readNext] at transits
      rw [canonicalManifest_asDict current, canonicalManifest_asDict next]
      exact transits
    have same := (checkTransition_ok.mp passed).2.2.2
    exact same ▸ passed
  · exact valid.fresh _ _ _ parsed.before_reads parsed.readNext
  · have exposed := valid.exposed
    unfold crossSetOverlaps at exposed
    rw [parsed.after_reads.1, parsed.after_reads.2] at exposed
    exact Except.ok.inj exposed

namespace Steps
variable {parsed : Parsed step} (steps : Steps parsed requireComplete)
include steps

theorem apart : parsed.nodes.Pairwise Apart := steps.governed.apart

theorem later_apart : parsed.later.Pairwise Apart := by
  apply (parsed.later_perm.pairwise_iff (fun apart => apart.symm)).mpr
  exact List.Pairwise.cons steps.fresh steps.apart

/-- The nodes before the step are found after it. -/
theorem kept {reference : ManifestReference} {previous : CorpusManifest}
    (found : findNode parsed.nodes reference = some previous) :
    findNode parsed.later reference = some previous := by
  obtain ⟨listed, named⟩ := (findNode_some steps.apart).mp found
  apply (findNode_some steps.later_apart).mpr
  exact ⟨parsed.later_perm.mem_iff.mpr (mem_cons_of_mem _ listed), named⟩

/-- A chain before the step has the same links after it. -/
theorem ancestor_kept {start node : CorpusManifest}
    (ancestor : Ancestor CorpusManifest.predecessor (findNode parsed.nodes) start node) :
    Ancestor CorpusManifest.predecessor (findNode parsed.later) start node := by
  induction ancestor with
  | self node => exact .self node
  | step edge rest ih =>
    obtain ⟨reference, named, found⟩ := edge
    exact .step ⟨reference, named, steps.kept found⟩ ih

/-- The links of a chain before the step stay valid exactly when the current manifest closes none
of their new items. -/
theorem link_extend {start node previous : CorpusManifest} {reference : ManifestReference}
    (listed : start ∈ parsed.front ++ parsed.current :: parsed.back)
    (ancestor : Ancestor CorpusManifest.predecessor (findNode parsed.nodes) start node)
    (named : node.predecessor = some reference)
    (found : findNode parsed.nodes reference = some previous) :
    Transits (parsed.prior ++ [parsed.current]) previous node ↔
      ∀ item ∈ newItems previous node, item.replacementOf = none →
        Unclosed parsed.current node item := by
  have inside : node ∈ parsed.nodes := by
    have first : start ∈ parsed.nodes := mem_append_right _ listed
    clear named listed
    induction ancestor with
    | self node => exact first
    | step edge rest ih =>
      obtain ⟨reference, named, found⟩ := edge
      exact ih (mem_of_find?_eq_some found)
  obtain ⟨other, found', -, passed⟩ := (steps.governed.replayed start listed).passed ancestor named
  cases found.symm.trans found'
  exact transits_extend steps.apart parsed.prior_subset (mem_of_find?_eq_some found) inside
    parsed.joins passed

/-- A chain before the step is followed after it when its links stay valid. -/
theorem followed_after {start : CorpusManifest} {seen : List ManifestReference}
    (listed : start ∈ parsed.front ++ parsed.current :: parsed.back)
    (safe : step.ReplaySafe)
    (new : ∀ node reference previous, Ancestor CorpusManifest.predecessor (findNode parsed.nodes)
      start node → node.predecessor = some reference →
      findNode parsed.nodes reference = some previous → reference ∉ seen) :
    Followed CorpusManifest.predecessor (findNode parsed.later)
      (Transits (parsed.prior ++ [parsed.current])) seen start := by
  apply (steps.governed.replayed start listed).again
  intro node reference previous ancestor named found
  refine ⟨new node reference previous ancestor named found, steps.kept found, ?_⟩
  refine (steps.link_extend listed ancestor named found).mpr ?_
  exact safe _ _ _ parsed.before_reads parsed.readCurrent start listed node previous ancestor
    ⟨reference, named, found⟩

theorem next_predecessor : parsed.next.predecessor = some parsed.current.reference := by
  obtain ⟨-, linked, -, -⟩ := checkTransition_ok.mp steps.transits
  rcases linked.follows with ⟨same, -⟩ | ⟨-, follows⟩
  · exact (steps.fresh parsed.current parsed.joins same.symm).elim
  · exact follows

theorem found_current :
    findNode parsed.later parsed.current.reference = some parsed.current := by
  apply (findNode_some steps.later_apart).mpr
  exact ⟨parsed.later_perm.mem_iff.mpr (mem_cons_of_mem _ parsed.joins), rfl⟩

theorem followed_next (safe : step.ReplaySafe) :
    Followed CorpusManifest.predecessor (findNode parsed.later)
      (Transits (parsed.prior ++ [parsed.current])) [] parsed.next := by
  have passed : Transits (parsed.prior ++ [parsed.current]) parsed.current parsed.next := by
    apply transits_self _ parsed.prior_subset parsed.joins steps.transits
    exact List.Pairwise.cons steps.fresh steps.apart
  refine .link steps.next_predecessor not_mem_nil steps.found_current passed ?_
  apply steps.followed_after parsed.current_listed safe
  intro node reference previous ancestor named found listed
  obtain ⟨inside, same⟩ := (findNode_some steps.apart).mp found
  rw [mem_singleton] at listed
  have back : findNode parsed.nodes reference = some parsed.current := by
    apply (findNode_some steps.apart).mpr
    exact ⟨parsed.joins, listed.symm⟩
  exact (steps.governed.replayed _ parsed.current_listed).acyclic ancestor named back

/-- The roles of a bundle do not change. -/
theorem roles_kept : (parsed.front ++ parsed.next :: parsed.back).map (·.role) =
    (parsed.front ++ parsed.current :: parsed.back).map (·.role) := by
  have role := (checkTransition_ok.mp steps.transits).2.1.role
  simp [role]

theorem governed_after (safe : step.ReplaySafe) : Governed requireComplete
    (parsed.front ++ parsed.next :: parsed.back)
    (parsed.entries ++ [{ manifest := parsed.current }]) := by
  have prior : (parsed.entries ++ [({ manifest := parsed.current } : HistoryEntry)]).map
      (·.manifest) = parsed.prior ++ [parsed.current] := by
    rw [map_append]
    rfl
  have canonical := steps.governed.current
  have next : parsed.next.Canonical := canonicalManifest_ok parsed.readNext
  constructor
  · intro manifest listed
    rcases mem_append.mp listed with old | rest
    · exact canonical manifest (mem_append_left _ old)
    · rcases mem_cons.mp rest with rfl | old
      · exact next
      · exact canonical manifest (mem_append_right _ (mem_cons_of_mem _ old))
  · intro entry listed
    rcases mem_append.mp listed with old | new
    · exact steps.governed.prior entry old
    · rw [mem_singleton.mp new]
      exact canonical _ parsed.current_listed
  · rw [steps.roles_kept]
    exact steps.governed.roles
  · rw [steps.roles_kept]
    exact steps.governed.complete
  · exact steps.exposed
  · rw [prior]
    exact steps.later_apart
  · intro manifest listed
    rw [prior]
    have old : ∀ start ∈ parsed.front ++ parsed.current :: parsed.back,
        Followed CorpusManifest.predecessor (findNode parsed.later)
          (Transits (parsed.prior ++ [parsed.current])) [] start :=
      fun start present => steps.followed_after present safe (by simp)
    rcases mem_append.mp listed with before | rest
    · exact old manifest (mem_append_left _ before)
    · rcases mem_cons.mp rest with rfl | before
      · exact steps.followed_next safe
      · exact old manifest (mem_append_right _ (mem_cons_of_mem _ before))

/-- An accepted bundle after the step shows that its replays were safe. -/
theorem safe_of_after (governed : Governed requireComplete
    (parsed.front ++ parsed.next :: parsed.back)
    (parsed.entries ++ [{ manifest := parsed.current }])) : step.ReplaySafe := by
  intro manifests entries added reads current start listed node previous ancestor edge
  obtain ⟨rfl, rfl⟩ := reads_unique reads parsed.before_reads
  cases current.symm.trans parsed.readCurrent
  obtain ⟨reference, named, found⟩ := edge
  have prior : (parsed.entries ++ [({ manifest := parsed.current } : HistoryEntry)]).map
      (·.manifest) = parsed.prior ++ [parsed.current] := by
    rw [map_append]
    rfl
  refine (steps.link_extend listed ancestor named found).mp ?_
  have passed : ∀ origin ∈ parsed.front ++ parsed.next :: parsed.back,
      Ancestor CorpusManifest.predecessor (findNode parsed.later) origin node →
      Transits (parsed.prior ++ [parsed.current]) previous node := by
    intro origin present reached
    have followed := governed.replayed origin present
    rw [prior] at followed
    obtain ⟨other, found', -, transits⟩ := followed.passed reached named
    cases (steps.kept found).symm.trans found'
    exact transits
  have reached := steps.ancestor_kept ancestor
  rcases mem_append.mp listed with before | rest
  · exact passed start (mem_append_left _ before) reached
  · rcases mem_cons.mp rest with rfl | before
    · apply passed parsed.next (by simp)
      exact .step ⟨_, steps.next_predecessor, steps.found_current⟩ reached
    · exact passed start (mem_append_right _ (mem_cons_of_mem _ before)) reached

end Steps

theorem accepted_after (accepted : step.before.Accepted requireComplete) (valid : step.Valid) :
    step.after.Accepted requireComplete ↔ step.ReplaySafe := by
  obtain ⟨parsed⟩ := parsed_of_valid accepted valid
  have steps := steps_of_valid parsed accepted valid
  rw [CorpusBundle.accepted_iff]
  constructor
  · rintro ⟨manifests, entries, reads, governed⟩
    obtain ⟨rfl, rfl⟩ := reads_unique reads parsed.after_reads
    exact steps.safe_of_after governed
  · intro safe
    exact ⟨_, _, parsed.after_reads, steps.governed_after safe⟩

/-- A bundle moves to its next version by a valid step with safe replays. -/
def Moves (before after : CorpusBundle) : Prop :=
  ∃ step : VersionStep, step.Valid ∧ step.ReplaySafe ∧ step.before = before ∧ step.after = after

/-- Each valid step is accepted exactly when its replays are safe, and so is every chain of safe
steps. -/
theorem versions_accepted (requireComplete : Bool) :
    (∀ step : VersionStep, step.before.Accepted requireComplete → step.Valid →
      (step.after.Accepted requireComplete ↔ step.ReplaySafe)) ∧
    ∀ first last, Relation.ReflTransGen Moves first last → first.Accepted requireComplete →
      last.Accepted requireComplete := by
  constructor
  · intro step accepted valid
    exact accepted_after accepted valid
  · intro first last chain accepted
    induction chain with
    | refl => exact accepted
    | tail _ moves ih =>
      obtain ⟨step, valid, safe, rfl, rfl⟩ := moves
      exact (accepted_after ih valid).mpr safe

end VersionStep
section
open VersionStep
attribute [local instance] Sha256.polynomial

/-- A digest of the closed runs. -/
def sampleHash (value : Nat) : HashText :=
  ⟨String.ofList (hexDigits value 64), by simp [Text.isSha256, Text.isExactly, hexDigits_shape]⟩

/-- An item of the closed runs. -/
def sampleItem (itemId : OpaqueText) (value : Nat) (state : ItemState) : CorpusItem where
  itemId
  sourceSha256 := sampleHash value
  goldSha256 := sampleHash (value + 1)
  state

def itemA : CorpusItem := sampleItem ⟨"item-a", by decide +kernel⟩ 1 .active
def itemB (state : ItemState) : CorpusItem := sampleItem ⟨"item-b", by decide +kernel⟩ 3 state

/-- A set of one role with one active item. -/
def sampleSet (role : CorpusRole) (state : CorpusState) (setId : OpaqueText) (value : Nat) :
    CorpusManifest where
  setId
  role
  version := ⟨"v1", by decide +kernel⟩
  state
  items := [sampleItem ⟨"item-a", by decide +kernel⟩ value .active]
  recordSha256 := sampleHash 0

/-- The private set has four versions. -/
def privateSet (version : VersionText) (items : List CorpusItem)
    (predecessor : Option ManifestReference) : CorpusManifest where
  setId := ⟨"private", by decide +kernel⟩
  role := .privateRepresentative
  version
  state := .active
  items
  recordSha256 := sampleHash 0
  predecessor

def privateFirst : CorpusManifest := privateSet ⟨"v1", by decide +kernel⟩ [itemA] none
def privateSecond : CorpusManifest :=
  privateSet ⟨"v2", by decide +kernel⟩ [itemA, itemB .active] (some privateFirst.reference)
def privateThird : CorpusManifest :=
  privateSet ⟨"v3", by decide +kernel⟩ [itemA, itemB .retired] (some privateSecond.reference)
def privateFourth : CorpusManifest :=
  privateSet ⟨"v4", by decide +kernel⟩ [itemA, itemB .retired] (some privateThird.reference)

def publicSet : CorpusManifest :=
  sampleSet .publicSyntheticRegression .active ⟨"public", by decide +kernel⟩ 5
def frozenSet : CorpusManifest :=
  sampleSet .frozenHighRisk .frozen ⟨"frozen", by decide +kernel⟩ 7
def sealedSet : CorpusManifest :=
  sampleSet .sealedHeldOut .sealed ⟨"sealed", by decide +kernel⟩ 9

theorem sampleSet_canonical [Sha256] {role : CorpusRole} {state : CorpusState}
    {setId : OpaqueText} {value : Nat} (held : state ∈ role.states) (open_ : state ≠ .retired)
    (clean : state ≠ .contaminated) :
    (sampleSet role state setId value).Canonical where
  held := held
  members := ⟨by simp [sampleSet, sampleItem, CorpusItem.Fits], pairwise_singleton _ _⟩
  sorted := pairwise_singleton _ _
  present := by simp [sampleSet]
  retired same := (open_ same).elim
  eligible _ := by simp [sampleSet, sampleItem]
  contaminated _ same := (clean same).elim

theorem privateSet_canonical {version : VersionText} {items : List CorpusItem}
    {predecessor : Option ManifestReference} (members : Members .privateRepresentative items)
    (sorted : Sorted items) (active : itemA ∈ items) :
    (privateSet version items predecessor).Canonical where
  held := by
    show CorpusState.active ∈ CorpusRole.states .privateRepresentative
    decide
  members := members
  sorted := sorted
  present := ne_nil_of_mem active
  retired same := by cases same
  eligible _ := ⟨itemA, active, rfl⟩
  contaminated same := by cases same

/-- The text of a pair of digests. -/
def pairText (gold source : List Char) : List Char :=
  '\x7b' :: ('"' :: ("gold_sha256".toList ++ ['"', ':', '"'] ++ gold ++ ['"', ',', '"'] ++
    "source_sha256".toList ++ ['"', ':', '"'] ++ source ++ ['"', '\x7d']))

/-- The digits of the fingerprint of a sample item. -/
def pairDigits (source gold : Nat) : List Char :=
  hexDigits ((pairText (hexDigits gold 64) (hexDigits source 64)).foldl
    (fun sum letter => (sum * 1000003 + letter.toNat) % Nat.pow 2 256) 7) 64

theorem escape_hexDigits (value count : Nat) :
    (hexDigits value count).flatMap Json.escape = hexDigits value count := by
  induction count generalizing value with
  | zero => rfl
  | succ count ih =>
    have plain : ∀ small < 16, Json.escape (Json.hexDigit small) = [Json.hexDigit small] := by
      decide
    rw [hexDigits, flatMap_cons, ih, plain _ (Nat.mod_lt value (by decide))]
    rfl

theorem fingerprint_sample (source gold : Nat) :
    itemFingerprint (sampleHash source) (sampleHash gold) =
      String.ofList (pairDigits source gold) := by
  have first : "gold_sha256".toList.flatMap Json.escape = "gold_sha256".toList := by decide +kernel
  have second : "source_sha256".toList.flatMap Json.escape = "source_sha256".toList := by
    decide +kernel
  have text : Json.dumpsChars (.obj [("gold_sha256", .str (sampleHash gold).val),
      ("source_sha256", .str (sampleHash source).val)]) =
        pairText (hexDigits gold 64) (hexDigits source 64) := by
    simp only [Json.dumpsChars, Json.dumpsFields, Json.dumpsText, first, second, sampleHash,
      String.toList_ofList, escape_hexDigits, pairText]
    simp
  unfold itemFingerprint stableRevision Json.dumps
  rw [text]
  show String.ofList (hexDigits ((String.ofList _).toList.foldl _ _) 64) = _
  rw [String.toList_ofList]
  rfl

/-- Two values give items without a common digest. -/
theorem digits_apart : ∀ first ∈ [1, 3, 5, 7, 9], ∀ second ∈ [1, 3, 5, 7, 9], first ≠ second →
    hexDigits first 64 ≠ hexDigits second 64 ∧
    hexDigits (first + 1) 64 ≠ hexDigits (second + 1) 64 ∧
    pairDigits first (first + 1) ≠ pairDigits second (second + 1) := by
  decide +kernel

theorem sampleHash_ne {first second : Nat} (different : hexDigits first 64 ≠ hexDigits second 64) :
    sampleHash first ≠ sampleHash second := by
  intro same
  exact different (String.ofList_injective (congrArg Subtype.val same))

/-- Items of different values share nothing. -/
theorem sampleItem_apart {first second : Nat} (one : first ∈ [1, 3, 5, 7, 9])
    (other : second ∈ [1, 3, 5, 7, 9]) (different : first ≠ second) (itemId itemId' : OpaqueText)
    (state state' : ItemState) :
    (sampleItem itemId first state).sourceSha256 ≠ (sampleItem itemId' second state').sourceSha256 ∧
    (sampleItem itemId first state).goldSha256 ≠ (sampleItem itemId' second state').goldSha256 ∧
    (sampleItem itemId first state).fingerprint ≠
      (sampleItem itemId' second state').fingerprint := by
  obtain ⟨source, gold, pair⟩ := digits_apart first one second other different
  refine ⟨sampleHash_ne source, sampleHash_ne gold, ?_⟩
  show itemFingerprint (sampleHash first) (sampleHash (first + 1)) ≠
    itemFingerprint (sampleHash second) (sampleHash (second + 1))
  rw [fingerprint_sample, fingerprint_sample]
  intro same
  exact pair (String.ofList_injective same)

theorem items_members {state : ItemState} (clean : state ≠ .contaminated) :
    Members .privateRepresentative [itemA, itemB state] ∧ Sorted [itemA, itemB state] := by
  obtain ⟨source, -, pair⟩ := @sampleItem_apart 1 3 (by simp) (by simp) (by decide) itemA.itemId
    (itemB state).itemId .active state
  have named : itemA.itemId ≠ (itemB state).itemId := by
    show (⟨"item-a", _⟩ : OpaqueText) ≠ ⟨"item-b", _⟩
    simp
  refine ⟨⟨?_, ?_⟩, ?_⟩
  · intro item listed _
    rcases mem_cons.mp listed with rfl | listed
    · exact ⟨by decide, rfl⟩
    · rw [mem_singleton.mp listed]
      exact ⟨clean, rfl⟩
  · exact pairwise_pair.mpr ⟨named, fun same => (source same).elim, pair⟩
  · apply pairwise_pair.mpr
    show "item-a" ≤ "item-b"
    decide +kernel

/-- The role and the value of a sample record. -/
def Slot (record : ExposureRecord) (slot : CorpusRole × Nat) : Prop :=
  record.manifest.role = slot.1 ∧ slot.2 ∈ [1, 3, 5, 7, 9] ∧
    ∃ itemId state, record.item = sampleItem itemId slot.2 state

theorem slots_apart {records : List ExposureRecord} {slots : List (CorpusRole × Nat)}
    (placed : List.Forall₂ Slot records slots)
    (apart : slots.Pairwise fun left right =>
      left.2 ≠ right.2 ∨ left.1 = right.1 ∧ left.1 ≠ .sealedHeldOut) :
    records.Pairwise fun left right => overlapsOf left right = [] := by
  induction placed with
  | nil => exact List.Pairwise.nil
  | @cons record slot records slots first rest ih =>
    obtain ⟨clear, later⟩ := pairwise_cons.mp apart
    refine List.Pairwise.cons ?_ (ih later)
    intro other listed
    obtain ⟨slot', present, second⟩ : ∃ slot' ∈ slots, Slot other slot' := by
      clear ih clear later apart
      induction rest with
      | nil => cases listed
      | cons one _ ih =>
        rcases mem_cons.mp listed with rfl | listed
        · exact ⟨_, mem_cons_self, one⟩
        · obtain ⟨slot', present, second⟩ := ih listed
          exact ⟨slot', mem_cons_of_mem _ present, second⟩
    obtain ⟨role, known, itemId, state, item⟩ := first
    obtain ⟨role', known', itemId', state', item'⟩ := second
    rcases clear slot' present with different | ⟨same, open_⟩
    · obtain ⟨source, gold, pair⟩ :=
        sampleItem_apart known known' different itemId itemId' state state'
      rw [← item, ← item'] at source gold pair
      exact overlapsOf_apart source gold pair
    · apply overlapsOf_quiet
      · rw [role, role', same]
      · rw [role]
        exact open_

/-- The sets of the other roles stand beside the private set. -/
def beside (manifest : CorpusManifest) : List CorpusManifest :=
  [publicSet] ++ manifest :: [frozenSet, sealedSet]

theorem slots_exposed {manifests : List CorpusManifest} {entries : List HistoryEntry}
    (slots : List (CorpusRole × Nat))
    (placed : List.Forall₂ Slot (exposureRecords manifests entries) slots)
    (apart : slots.Pairwise fun left right =>
      left.2 ≠ right.2 ∨ left.1 = right.1 ∧ left.1 ≠ .sealedHeldOut) :
    overlapsBetween manifests entries = [] := by
  unfold overlapsBetween
  rw [pairOverlaps_nil (slots_apart placed apart)]
  simp

theorem slot_placed {record : ExposureRecord} {role : CorpusRole} {value : Nat}
    {itemId : OpaqueText} {state : ItemState} (held : record.manifest.role = role)
    (known : value ∈ [1, 3, 5, 7, 9]) (item : record.item = sampleItem itemId value state) :
    Slot record (role, value) := ⟨held, known, itemId, state, item⟩

theorem third_exposed : overlapsBetween (beside privateThird)
    [{ manifest := privateFirst }, { manifest := privateSecond }] = [] := by
  apply slots_exposed [(.publicSyntheticRegression, 5), (.privateRepresentative, 1),
    (.privateRepresentative, 3), (.frozenHighRisk, 7), (.sealedHeldOut, 9),
    (.privateRepresentative, 1), (.privateRepresentative, 1), (.privateRepresentative, 3)]
  · repeat' apply List.Forall₂.cons
    all_goals first | exact List.Forall₂.nil | exact slot_placed rfl (by simp) rfl
  · decide

theorem fourth_exposed : overlapsBetween (beside privateFourth)
    [{ manifest := privateFirst }, { manifest := privateSecond },
      { manifest := privateThird }] = [] := by
  apply slots_exposed [(.publicSyntheticRegression, 5), (.privateRepresentative, 1),
    (.privateRepresentative, 3), (.frozenHighRisk, 7), (.sealedHeldOut, 9),
    (.privateRepresentative, 1), (.privateRepresentative, 1), (.privateRepresentative, 3),
    (.privateRepresentative, 1), (.privateRepresentative, 3)]
  · repeat' apply List.Forall₂.cons
    all_goals first | exact List.Forall₂.nil | exact slot_placed rfl (by simp) rfl
  · decide

theorem private_canonical : privateFirst.Canonical ∧ privateSecond.Canonical ∧
    privateThird.Canonical ∧ privateFourth.Canonical := by
  have active := @items_members .active (by decide)
  have retired := @items_members .retired (by decide)
  have single : Members .privateRepresentative [itemA] :=
    ⟨fun item listed => active.1.fits item (by simp_all), pairwise_singleton _ _⟩
  exact ⟨privateSet_canonical single (pairwise_singleton _ _) (by simp),
    privateSet_canonical active.1 active.2 (by simp),
    privateSet_canonical retired.1 retired.2 (by simp),
    privateSet_canonical retired.1 retired.2 (by simp)⟩

theorem set_canonical [Sha256] : publicSet.Canonical ∧ frozenSet.Canonical ∧ sealedSet.Canonical :=
  ⟨sampleSet_canonical (by decide) (by decide) (by decide),
    sampleSet_canonical (by decide) (by decide) (by decide),
    sampleSet_canonical (by decide) (by decide) (by decide)⟩

theorem beside_canonical {manifest : CorpusManifest} (canonical : manifest.Canonical) :
    ∀ member ∈ beside manifest, member.Canonical := by
  obtain ⟨first, second, third⟩ := set_canonical
  simp [beside, canonical, first, second, third]

/-- The last step of the private set. -/
def retiredStep : VersionStep where
  front := [publicSet.asDict]
  back := [frozenSet.asDict, sealedSet.asDict]
  current := privateThird.asDict
  next := privateFourth.asDict
  history := [privateFirst.asDict, privateSecond.asDict]

def retiredEntries : List HistoryEntry :=
  [{ manifest := privateFirst }, { manifest := privateSecond }]

theorem retired_reads : retiredStep.before.Reads (beside privateThird) retiredEntries := by
  obtain ⟨first, second, third, -⟩ := private_canonical
  constructor
  · exact mapM_asDict (beside_canonical third)
  · show [privateFirst.asDict, privateSecond.asDict].mapM canonicalHistoryEntry = _
    rw [mapM_cons, mapM_cons, mapM_nil,
      canonicalHistoryEntry_plain (canonicalManifest_asDict first),
      canonicalHistoryEntry_plain (canonicalManifest_asDict second)]
    rfl

def retiredNodes : List CorpusManifest := [privateFirst, privateSecond] ++ beside privateThird

theorem retired_apart : (privateFourth :: retiredNodes).Pairwise Apart := by
  apply apart_of_nodup
  decide +kernel

/-- The private set keeps the two items. -/
theorem kept_pair {current : CorpusManifest} {state : ItemState}
    (items : current.items = [itemA, itemB state]) :
    checkKeptItem current itemA = .ok () ∧
      ∀ before, before = state ∨ before = .active ∧ (itemB state).closed = true →
        checkKeptItem current (itemB before) = .ok () := by
  have named : ∀ before, (itemA.itemId == (itemB before).itemId) = false := by
    intro before
    show ((⟨"item-a", _⟩ : OpaqueText) == ⟨"item-b", _⟩) = false
    simp
  constructor
  · apply @kept_of_find current itemA itemA
    · rw [items, find?_cons, beq_self_eq_true]
    · rfl
    · rfl
    · exact Or.inl rfl
  · intro before states
    apply @kept_of_find current (itemB before) (itemB state)
    · rw [items, find?_cons, named before, find?_cons]
      simp [itemB, sampleItem]
    · rfl
    · rfl
    · exact states

theorem linked_of_kept {version version' : VersionText} {items items' : List CorpusItem}
    {before : Option ManifestReference} (different : version ≠ version')
    (kept : ∀ item ∈ items, checkKeptItem (privateSet version' items'
      (some (privateSet version items before).reference)) item = .ok ()) :
    Successor (privateSet version items before) (privateSet version' items'
      (some (privateSet version items before).reference)) where
  role := rfl
  retired same := by cases same
  follows := Or.inr ⟨fun same => different same.2, rfl⟩
  kept := kept

/-- Each version of the private set is linked to the version before it. -/
theorem private_linked : Successor privateFirst privateSecond ∧ Successor privateSecond privateThird ∧
    Successor privateThird privateFourth := by
  have active := @kept_pair privateSecond .active rfl
  have retired := @kept_pair privateThird .retired rfl
  have last := @kept_pair privateFourth .retired rfl
  refine ⟨linked_of_kept (by simp) ?_, linked_of_kept (by simp) ?_, linked_of_kept (by simp) ?_⟩
  · intro item listed
    rw [mem_singleton.mp listed]
    exact active.1
  · intro item listed
    rcases mem_cons.mp listed with rfl | listed
    · exact retired.1
    · rw [mem_singleton.mp listed]
      exact retired.2 .active (Or.inr ⟨rfl, rfl⟩)
  · intro item listed
    rcases mem_cons.mp listed with rfl | listed
    · exact last.1
    · rw [mem_singleton.mp listed]
      exact last.2 .retired (Or.inl rfl)

theorem private_new : newItems privateFirst privateSecond = [itemB .active] ∧
    newItems privateSecond privateThird = [] ∧ newItems privateThird privateFourth = [] := by
  decide +kernel

theorem retired_governed : Governed true (beside privateThird) retiredEntries := by
  obtain ⟨first, second, third, -⟩ := private_canonical
  obtain ⟨firstLinked, secondLinked, -⟩ := private_linked
  obtain ⟨firstNew, secondNew, -⟩ := private_new
  have apart : retiredNodes.Pairwise Apart := (pairwise_cons.mp retired_apart).2
  have found : ∀ node ∈ retiredNodes, findNode retiredNodes node.reference = some node :=
    fun node listed => (findNode_some apart).mpr ⟨listed, rfl⟩
  have passedFirst : Transits [privateFirst, privateSecond] privateFirst privateSecond := by
    apply transits_of_linked apart (by simp [retiredNodes, beside]) firstLinked
    rw [firstNew]
    intro item listed
    rw [mem_singleton.mp listed]
    rfl
  have passedSecond : Transits [privateFirst, privateSecond] privateSecond privateThird := by
    apply transits_of_linked apart (by simp [retiredNodes, beside]) secondLinked
    rw [secondNew]
    simp
  have followed : Followed CorpusManifest.predecessor (findNode retiredNodes)
      (Transits [privateFirst, privateSecond]) [] privateThird := by
    refine .link rfl not_mem_nil (found privateSecond (by simp [retiredNodes])) passedSecond ?_
    refine .link rfl ?_ (found privateFirst (by simp [retiredNodes])) passedFirst (.root rfl)
    intro same
    have version := congrArg ManifestReference.version (mem_singleton.mp same)
    simp [reference, privateFirst, privateSecond, privateSet] at version
  constructor
  · exact beside_canonical third
  · simp only [retiredEntries, forall_mem_cons, not_mem_nil, false_implies, implies_true,
      and_true]
    exact ⟨first, second⟩
  · show [CorpusRole.publicSyntheticRegression, .privateRepresentative, .frozenHighRisk,
      .sealedHeldOut].Nodup
    decide
  · intro _ role
    show role ∈ [CorpusRole.publicSyntheticRegression, .privateRepresentative, .frozenHighRisk,
      .sealedHeldOut]
    cases role <;> decide
  · exact third_exposed
  · exact apart
  · simp only [beside, singleton_append, forall_mem_cons, not_mem_nil,
      false_implies, implies_true, and_true]
    exact ⟨.root rfl, followed, .root rfl, .root rfl⟩

theorem retired_accepted : retiredStep.before.Accepted true :=
  CorpusBundle.accepted_iff.mpr ⟨_, _, retired_reads, retired_governed⟩

/-- The last step of the private set, once it is read. -/
def retiredParsed : Parsed retiredStep where
  front := [publicSet]
  back := [frozenSet, sealedSet]
  current := privateThird
  next := privateFourth
  entries := retiredEntries
  readFront := @mapM_asDict _ [publicSet] (by simp [set_canonical])
  readBack := @mapM_asDict _ [frozenSet, sealedSet] (by simp [set_canonical])
  readCurrent := canonicalManifest_asDict private_canonical.2.2.1
  readNext := canonicalManifest_asDict private_canonical.2.2.2
  readHistory := retired_reads.2

theorem retired_valid : retiredStep.Valid := by
  obtain ⟨first, second, third, fourth⟩ := private_canonical
  have passed : Transits [privateFirst, privateSecond] privateThird privateFourth := by
    apply transits_of_linked retired_apart (by simp [retiredNodes, beside]) private_linked.2.2
    rw [private_new.2.2]
    simp
  have known : ∀ node ∈ [privateFirst, privateSecond], node.Canonical := by
    simp [first, second]
  constructor
  · refine ⟨retiredEntries, privateFourth, retired_reads.2, ?_⟩
    exact (validateTransition_asDict third fourth known).trans passed
  · intro manifests entries next reads read node listed
    obtain ⟨rfl, rfl⟩ := reads_unique reads retired_reads
    cases (canonicalManifest_asDict fourth).symm.trans read
    exact (pairwise_cons.mp retired_apart).1 node listed
  · unfold crossSetOverlaps
    rw [retiredParsed.after_reads.1, retiredParsed.after_reads.2]
    exact congrArg Except.ok fourth_exposed

theorem retired_unsafe : ¬retiredStep.ReplaySafe := by
  obtain ⟨-, -, third, -⟩ := private_canonical
  have apart : retiredNodes.Pairwise Apart := (pairwise_cons.mp retired_apart).2
  have found : ∀ node ∈ retiredNodes, findNode retiredNodes node.reference = some node :=
    fun node listed => (findNode_some apart).mpr ⟨listed, rfl⟩
  intro safe
  have edge : Parent CorpusManifest.predecessor (findNode retiredNodes) privateThird
      privateSecond := ⟨_, rfl, found privateSecond (by simp [retiredNodes])⟩
  have above : Parent CorpusManifest.predecessor (findNode retiredNodes) privateSecond
      privateFirst := ⟨_, rfl, found privateFirst (by simp [retiredNodes])⟩
  have unclosed := safe _ _ _ retired_reads (canonicalManifest_asDict third) privateThird
    (by simp [beside]) privateSecond privateFirst (.step edge (.self _)) above (itemB .active)
    (by rw [private_new.1]; simp) rfl
  apply unclosed.content
  show (itemB .active).fingerprint ∈ [(itemB .retired).fingerprint]
  exact mem_singleton.mpr rfl

/-- A bundle with a retired item cannot be versioned on, although its step is valid. -/
theorem retired_refused : retiredStep.before.Accepted true ∧ retiredStep.Valid ∧
    ¬retiredStep.after.Accepted true := by
  refine ⟨retired_accepted, retired_valid, ?_⟩
  rw [accepted_after retired_accepted retired_valid]
  exact retired_unsafe

end
end KSlide
