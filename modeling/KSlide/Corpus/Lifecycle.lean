import KSlide.Corpus.NextVersion

/-
This file proves that the items of a set live on through all of its versions.
-/

namespace KSlide
open GovernanceError Ancestry CorpusManifest List

section
variable [Sha256] {old middle updated item : CorpusItem} {previous current : CorpusManifest}

namespace CorpusItem

/-- An item goes on with its content, and only an active item is closed. -/
structure Continues (old updated : CorpusItem) : Prop where
  itemId : updated.itemId = old.itemId
  source : updated.sourceSha256 = old.sourceSha256
  gold : updated.goldSha256 = old.goldSha256
  state : updated.state = old.state ∨ old.state = .active ∧ updated.closed = true

namespace Continues

omit [Sha256] in
theorem refl (item : CorpusItem) : item.Continues item := ⟨rfl, rfl, rfl, Or.inl rfl⟩

omit [Sha256] in
/-- A closed item keeps its state. -/
theorem settled (continues : old.Continues updated) (closed : old.closed = true) :
    updated.state = old.state := by
  rcases continues.state with same | ⟨active, -⟩
  · exact same
  · simp [CorpusItem.closed, active] at closed

omit [Sha256] in
theorem trans (first : old.Continues middle) (second : middle.Continues updated) :
    old.Continues updated where
  itemId := second.itemId.trans first.itemId
  source := second.source.trans first.source
  gold := second.gold.trans first.gold
  state := by
    rcases first.state with same | ⟨active, closed⟩
    · rw [← same]
      exact second.state
    · have same := second.settled closed
      refine Or.inr ⟨active, ?_⟩
      rw [CorpusItem.closed, same]
      exact closed

end Continues
end CorpusItem

omit [Sha256] in
theorem continues_of_kept (kept : checkKeptItem current old = .ok ()) :
    ∃ updated ∈ current.items, old.Continues updated := by
  unfold checkKeptItem at kept
  split at kept
  · cases kept
  · rename_i updated found
    simp only [bind_ok, check_ok, Bool.and_eq_true, beq_iff_eq, Bool.or_eq_true] at kept
    obtain ⟨_, ⟨source, gold⟩, _, -, states⟩ := kept
    have named := find?_some found
    refine ⟨updated, mem_of_find?_eq_some found, beq_iff_eq.mp named, source, gold, ?_⟩
    exact states.imp Eq.symm id

theorem content_ne (members : Members current.role current.items) (listed : item ∈ current.items)
    (present : updated ∈ current.items) (different : item.itemId ≠ updated.itemId) :
    ¬(item.sourceSha256 = updated.sourceSha256 ∧ item.goldSha256 = updated.goldSha256) := by
  rintro ⟨source, gold⟩
  have : Std.Symm CorpusItem.Compatible := ⟨fun _ _ compatible => compatible.symm⟩
  have apart := members.compatible.forall listed present
    (fun same => different (congrArg CorpusItem.itemId same))
  apply apart.2.2
  show itemFingerprint _ _ = itemFingerprint _ _
  rw [source, gold]

end

section
variable [Sha256] {manifests nodes : List CorpusManifest} {entries : List HistoryEntry}
variable {requireComplete : Bool} {start later earlier node previous : CorpusManifest}

/-- The predecessors of a manifest are looked up among the nodes of its bundle. -/
abbrev Versions (nodes : List CorpusManifest) : CorpusManifest → CorpusManifest → Prop :=
  Ancestor CorpusManifest.predecessor (findNode nodes)

abbrev Predecessor (nodes : List CorpusManifest) : CorpusManifest → CorpusManifest → Prop :=
  Parent CorpusManifest.predecessor (findNode nodes)

/-- Every predecessor on the chain of a current manifest passed its transition. -/
theorem Governed.successor (governed : Governed requireComplete manifests entries)
    (listed : start ∈ manifests)
    (version : Versions (entries.map (·.manifest) ++ manifests) start node)
    (edge : Predecessor (entries.map (·.manifest) ++ manifests) node previous) :
    Successor previous node := by
  obtain ⟨key, named, found⟩ := edge
  obtain ⟨other, found', -, passed⟩ := (governed.replayed start listed).passed version named
  cases found.symm.trans found'
  exact (checkTransition_ok.mp passed).2.1

omit [Sha256] in
theorem versions_mem [Sha256] (listed : start ∈ nodes) (version : Versions nodes start node) :
    node ∈ nodes := by
  induction version with
  | self => exact listed
  | step edge rest ih =>
    obtain ⟨key, -, found⟩ := edge
    exact ih (mem_of_find?_eq_some found)

theorem Governed.canonical (governed : Governed requireComplete manifests entries)
    (listed : node ∈ entries.map (·.manifest) ++ manifests) : node.Canonical := by
  rcases mem_append.mp listed with old | new
  · obtain ⟨entry, present, same⟩ := mem_map.mp old
    rw [← same]
    exact governed.prior entry present
  · exact governed.current node new

theorem Governed.continues (governed : Governed requireComplete manifests entries)
    (listed : start ∈ manifests)
    (version : Versions (entries.map (·.manifest) ++ manifests) start later)
    (chain : Versions (entries.map (·.manifest) ++ manifests) later earlier) :
    ∀ old ∈ earlier.items, ∃ item ∈ later.items, old.Continues item := by
  induction chain with
  | self node => exact fun old present => ⟨old, present, CorpusItem.Continues.refl old⟩
  | step edge rest ih =>
    intro old present
    obtain ⟨middle, known, first⟩ := ih (version.snoc edge) old present
    have kept := (governed.successor listed version edge).kept middle known
    obtain ⟨item, last, second⟩ := continues_of_kept kept
    exact ⟨item, last, first.trans second⟩

/-- What the versions of one set keep. -/
structure KeepsItems (nodes : List CorpusManifest) (start : CorpusManifest) : Prop where
  /-- An item stays present with its source and its gold. -/
  kept : ∀ later earlier, Versions nodes start later → Versions nodes later earlier →
    ∀ old ∈ earlier.items, ∃ item ∈ later.items, item.itemId = old.itemId ∧
      item.sourceSha256 = old.sourceSha256 ∧ item.goldSha256 = old.goldSha256
  /-- An item changes its state at most once and only from active to retired or contaminated. -/
  settled : ∀ later middle earlier, Versions nodes start later → Versions nodes later middle →
    Versions nodes middle earlier → ∀ old ∈ earlier.items, ∀ item ∈ middle.items,
    ∀ last ∈ later.items, item.itemId = old.itemId → last.itemId = old.itemId →
      item.state ≠ old.state →
        old.state = .active ∧ (item.state = .retired ∨ item.state = .contaminated) ∧
          last.state = item.state
  /-- A new active item has the content of no closed item of an earlier version. -/
  fresh : ∀ node previous earlier, Versions nodes start node → Predecessor nodes node previous →
    Versions nodes previous earlier → ∀ item ∈ node.items,
    (∀ other ∈ previous.items, other.itemId ≠ item.itemId) → item.state = .active →
      ∀ old ∈ earlier.items, old.state = .retired ∨ old.state = .contaminated →
        ¬(item.sourceSha256 = old.sourceSha256 ∧ item.goldSha256 = old.goldSha256)

/-- An item of a version is found by its identity. -/
theorem item_unique {item other : CorpusItem} (members : Members node.role node.items)
    (listed : item ∈ node.items) (present : other ∈ node.items)
    (same : item.itemId = other.itemId) : item = other := by
  have : Std.Symm CorpusItem.Compatible := ⟨fun _ _ compatible => compatible.symm⟩
  by_contra different
  exact (members.compatible.forall listed present different).1 same

theorem Governed.keepsItems (governed : Governed requireComplete manifests entries)
    (listed : start ∈ manifests) : KeepsItems (entries.map (·.manifest) ++ manifests) start where
  kept later earlier version chain old present := by
    obtain ⟨item, last, continues⟩ := governed.continues listed version chain old present
    exact ⟨item, last, continues.itemId, continues.source, continues.gold⟩
  settled later middle earlier version upper lower old present item known last found named same
      changed := by
    have joins : start ∈ entries.map (·.manifest) ++ manifests := mem_append_right _ listed
    have reached := versions_mem joins version
    have between := versions_mem reached upper
    obtain ⟨item', known', first⟩ := governed.continues listed (version.trans upper) lower old present
    obtain ⟨last', found', second⟩ := governed.continues listed version upper item known
    cases item_unique (governed.canonical between).members known' known
      (first.itemId.trans named.symm)
    cases item_unique (governed.canonical reached).members found' found
      (second.itemId.trans (named.trans same.symm))
    obtain ⟨active, closed⟩ := first.state.resolve_left changed
    refine ⟨active, ?_, second.settled closed⟩
    simpa [CorpusItem.closed] using closed
  fresh node previous earlier version edge chain item known absent _ old present _ content := by
    have joins : start ∈ entries.map (·.manifest) ++ manifests := mem_append_right _ listed
    have canonical := governed.canonical (versions_mem joins version)
    obtain ⟨before, there, first⟩ :=
      governed.continues listed (version.snoc edge) chain old present
    obtain ⟨updated, here, second⟩ :=
      governed.continues listed version (.step edge (.self previous)) before there
    have different : item.itemId ≠ updated.itemId := by
      rw [second.itemId]
      exact (absent before there).symm
    apply content_ne canonical.members known here different
    rw [second.source, second.gold, first.source, first.gold]
    exact content

/-- The chain of every current manifest of an accepted bundle loses no item and revives none. -/
theorem CorpusBundle.lifecycle {bundle : CorpusBundle} (accepted : bundle.Accepted requireComplete)
    (reads : bundle.Reads manifests entries) :
    ∀ start ∈ manifests, KeepsItems (entries.map (·.manifest) ++ manifests) start := by
  obtain ⟨others, known, read, governed⟩ := CorpusBundle.accepted_iff.mp accepted
  obtain ⟨same, equal⟩ := VersionStep.reads_unique read reads
  intro start listed
  rw [same, equal] at governed
  exact governed.keepsItems listed

end

section
attribute [local instance] Sha256.polynomial

/-- The private set retires its second item in the third version. -/
theorem CorpusBundle.lifecycle_private : KeepsItems retiredNodes privateThird :=
  CorpusBundle.lifecycle retired_accepted retired_reads privateThird (by simp [beside])

end
end KSlide
