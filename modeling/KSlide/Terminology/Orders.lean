import KSlide.Terminology.Precedence
import Mathlib.Data.List.Chain

/-
This file proves that all permitted overlay orders give one effective termbase.
-/

namespace KSlide
open Layers DeclaredTerm List

theorem zip_tail_chain {Item : Type} {related : Item → Item → Prop} {items : List Item}
    (each : ∀ pair ∈ items.zip items.tail, related pair.1 pair.2) : items.IsChain related := by
  induction items with
  | nil => exact isChain_nil
  | cons first rest ih =>
    cases rest with
    | nil => exact isChain_singleton first
    | cons second rest =>
      rw [isChain_cons_cons]
      constructor
      · exact each (first, second) mem_cons_self
      · apply ih
        intro pair listed
        exact each pair (mem_cons_of_mem _ listed)

namespace TermbaseGovernance

/-- The order names all overlays and never descends. -/
structure Permitted (governance : TermbaseGovernance) : Prop where
  central : governance.core.scope = .core
  distinct : governance.identities.Nodup
  listed : ∀ identity ∈ governance.identities, identity ∈ governance.overlayOrder
  ranked : governance.orderedRanks.Pairwise (· ≤ ·)

variable {governance other : TermbaseGovernance} {core : LoadedSource}
  {overlays : List LoadedSource} {files : TermbaseFiles}

theorem check_permitted (checked : governance.check = .ok ()) : governance.Permitted := by
  unfold check at checked
  simp only [bind_ok, require_ok, exists_const, Bool.and_eq_true, beq_iff_eq, decide_eq_true_eq,
    all_eq_true] at checked
  obtain ⟨⟨central, _⟩, distinct, _, _, _, ⟨⟨_, listed⟩, _⟩, ranked, _⟩ := checked
  constructor
  · exact central
  · exact distinct
  · exact listed
  · exact (zip_tail_chain ranked).pairwise

/-- The overlay with an identity is the one the order names. -/
theorem Permitted.find (permitted : governance.Permitted) {source : GovernedTermbaseSource}
    (listed : source ∈ governance.overlays) :
    governance.overlays.find? (·.identity == source.identity) = some source := by
  cases known : governance.overlays.find? (·.identity == source.identity) with
  | none =>
    have absent := find?_eq_none.mp known source listed
    exact absurd (beq_self_eq_true _) absent
  | some found =>
    have same : found.identity = source.identity := by simpa using find?_some known
    rw [inj_on_of_nodup_map permitted.distinct (mem_of_find?_eq_some known) listed same]

theorem Permitted.rank_le (permitted : governance.Permitted)
    {first second : GovernedTermbaseSource} (one : first ∈ governance.overlays)
    (two : second ∈ governance.overlays)
    (before : governance.position first ≤ governance.position second) :
    first.rank ≤ second.rank := by
  have there : second.identity ∈ governance.overlayOrder :=
    permitted.listed _ (mem_map_of_mem two)
  have inRange := idxOf_lt_length_of_mem there
  unfold position at before
  rcases Nat.eq_or_lt_of_le before with same | below
  · have here : first.identity ∈ governance.overlayOrder :=
      permitted.listed _ (mem_map_of_mem one)
    have equal := (idxOf_inj here).mp same
    rw [inj_on_of_nodup_map permitted.distinct one two equal]
  · have ranked := permitted.ranked
    unfold orderedRanks at ranked
    rw [pairwise_filterMap, pairwise_iff_getElem] at ranked
    have placed := ranked _ _ (Nat.lt_trans below inRange) inRange below
    rw [getElem_idxOf, getElem_idxOf, permitted.find one, permitted.find two] at placed
    exact placed _ rfl _ rfl

theorem Permitted.ascends (permitted : governance.Permitted) (first : core.1 = governance.core)
    (declared : overlays.map Prod.fst = governance.overlays) :
    (governance.declaredTerms core overlays).Pairwise fun earlier later =>
      rank earlier ≤ rank later := by
  have listed : ∀ loaded ∈ overlays, loaded.1 ∈ governance.overlays := by
    intro loaded member
    rw [← declared]
    exact mem_map_of_mem member
  have ranked : ∀ loaded : LoadedSource, ∀ term ∈ loaded.terms, rank term = loaded.1.rank := by
    intro loaded term member
    obtain ⟨record, _, same⟩ := mem_map.mp member
    rw [← same]
    rfl
  unfold declaredTerms ordered
  rw [pairwise_flatMap]
  constructor
  · intro loaded _
    rw [pairwise_iff_forall_sublist]
    intro earlier later sublist
    rw [ranked loaded earlier (sublist.subset mem_cons_self),
      ranked loaded later (sublist.subset (mem_cons_of_mem _ mem_cons_self))]
  · rw [pairwise_cons]
    constructor
    · intro later _ one member two _
      rw [ranked core one member]
      have central := permitted.central
      rw [← first] at central
      show core.1.scope.rank ≤ _
      rw [central]
      exact Nat.zero_le _
    · have sorted := pairwise_insertionSort (fun first second : LoadedSource =>
        governance.position first.1 ≤ governance.position second.1) overlays
      apply sorted.imp_of_mem
      intro earlier later here there before one member two memberTwo
      rw [ranked earlier one member, ranked later two memberTwo]
      rw [mem_insertionSort] at here there
      exact permitted.rank_le (listed earlier here) (listed later there) before

/-- Every order declares the same terms. -/
theorem declaredTerms_perm :
    (governance.declaredTerms core overlays).Perm (other.declaredTerms core overlays) := by
  apply List.Perm.flatMap_right
  apply List.Perm.cons
  exact (perm_insertionSort _ _).trans (perm_insertionSort _ _).symm

theorem mem_declaredTerms {term : DeclaredTerm} :
    term ∈ governance.declaredTerms core overlays ↔
      ∃ loaded ∈ core :: overlays, term.declared = loaded.1 ∧ term.record ∈ loaded.2.records := by
  unfold declaredTerms ordered
  rw [mem_flatMap]
  have terms (loaded : LoadedSource) : term ∈ loaded.terms ↔
      term.declared = loaded.1 ∧ term.record ∈ loaded.2.records := by
    unfold LoadedSource.terms
    rw [mem_map]
    constructor
    · intro listed
      obtain ⟨record, member, same⟩ := listed
      rw [← same]
      exact ⟨rfl, member⟩
    · intro listed
      use term.record
      use listed.2
      rw [← listed.1]
  simp only [terms, mem_cons, mem_insertionSort]

end TermbaseGovernance

theorem loadSource_declares {files : TermbaseFiles} {source : GovernedTermbaseSource}
    {loaded : String × LoadedSource} (read : loadSource files source = .ok loaded) :
    loaded.2.1 = source := by
  unfold loadSource at read
  simp only [bind_ok, pure_ok] at read
  obtain ⟨path, _, _, _, _, _, parsed, _, _, _, same⟩ := read
  rw [← same]

theorem loadSources_declare {files : TermbaseFiles} {sources : List GovernedTermbaseSource}
    {loaded : List (String × LoadedSource)} (read : sources.mapM (loadSource files) = .ok loaded) :
    loaded.map (·.2.1) = sources := by
  induction sources generalizing loaded with
  | nil =>
    rw [← Except.ok.inj read]
    rfl
  | cons source sources ih =>
    rw [mapM_cons] at read
    simp only [bind_ok, pure_ok] at read
    obtain ⟨first, one, rest, more, same⟩ := read
    rw [← same, map_cons, loadSource_declares one, ih more]

section
variable {files : TermbaseFiles} {governance : TermbaseGovernance} {core : LoadedSource}
  {overlays : List LoadedSource}

/-- Loaded sources are the declared ones in a permitted order. -/
theorem loadSources_permitted (loaded : loadSources files governance = .ok (core, overlays)) :
    governance.Permitted ∧ core.1 = governance.core ∧
      overlays.map Prod.fst = governance.overlays := by
  unfold loadSources at loaded
  simp only [bind_ok, pure_ok] at loaded
  obtain ⟨_, checked, first, read, rest, more, _, _, same⟩ := loaded
  obtain ⟨one, two⟩ := Prod.mk.inj same
  use TermbaseGovernance.check_permitted checked
  constructor
  · rw [← one]
    exact loadSource_declares read
  · rw [← two, map_map]
    exact loadSources_declare more

/-- The overlay order does not change what is loaded. -/
theorem loadSources_order {order : List String} {core' : LoadedSource}
    {overlays' : List LoadedSource} (loaded : loadSources files governance = .ok (core, overlays))
    (permitted : loadSources files { governance with overlayOrder := order } =
      .ok (core', overlays')) : core' = core ∧ overlays' = overlays := by
  unfold loadSources at loaded permitted
  simp only [bind_ok, pure_ok] at loaded permitted
  obtain ⟨_, _, first, read, rest, more, _, _, same⟩ := loaded
  obtain ⟨_, _, first', read', rest', more', _, _, same'⟩ := permitted
  have equal : first' = first := Except.ok.inj (read'.symm.trans read)
  have equalRest : rest' = rest := Except.ok.inj (more'.symm.trans more)
  rw [equal, equalRest, same] at same'
  obtain ⟨one, two⟩ := Prod.mk.inj same'
  exact ⟨one.symm, two.symm⟩

end

/-- The records are those of the highest sources, and a locked record is never replaced. -/
structure Precedence (sources : List LoadedSource) (records : List TermRecord) : Prop where
  distinct : (records.map (·.source)).Nodup
  covers : ∀ loaded ∈ sources, ∀ record ∈ loaded.2.records,
    ∃ winner ∈ records, winner.source = record.source
  highest : ∀ winner ∈ records, ∃ loaded ∈ sources, winner ∈ loaded.2.records ∧
    ∀ other ∈ sources, (∃ record ∈ other.2.records, record.source = winner.source) →
      other.1 = loaded.1 ∨ other.1.rank < loaded.1.rank
  locked : ∀ loaded ∈ sources, ∀ record ∈ loaded.2.records, record.status = .locked →
    record ∈ records
  teams : ∀ loaded ∈ sources, loaded.1.scope = .team → ∀ record ∈ loaded.2.records,
    ∀ other ∈ sources, (∃ replaced ∈ other.2.records, replaced.source = record.source) →
      other.1 = loaded.1 ∨ other.1.scope = .core ∨ other.1.scope = .bu

theorem TermScope.rank_le (scope : TermScope) : scope.rank ≤ 2 := by
  cases scope <;> decide

theorem TermScope.rank_lt {scope : TermScope} (below : scope.rank < 2) :
    scope = .core ∨ scope = .bu := by
  cases scope with
  | core => exact Or.inl rfl
  | bu => exact Or.inr rfl
  | team => exact absurd below (by decide)

section
variable {governance : TermbaseGovernance} {core : LoadedSource} {overlays : List LoadedSource}
  {state : MergedTerms}

theorem MergedTerms.After.precedence
    (found : After (governance.declaredTerms core overlays) state) :
    Precedence (core :: overlays) (state.merged.map (·.record)) := by
  have declared {loaded : LoadedSource} (listed : loaded ∈ core :: overlays) {record : TermRecord}
      (member : record ∈ loaded.2.records) :
      (⟨loaded.1, record⟩ : DeclaredTerm) ∈ governance.declaredTerms core overlays :=
    TermbaseGovernance.mem_declaredTerms.mpr ⟨loaded, listed, rfl, member⟩
  constructor
  · rw [map_map]
    exact found.merged.distinct
  · intro loaded listed record member
    obtain ⟨winner, won, same⟩ := found.merged.covers _ (declared listed member)
    exact ⟨winner.record, mem_map_of_mem won, same⟩
  · intro record listed
    obtain ⟨winner, won, same⟩ := mem_map.mp listed
    obtain ⟨present, above⟩ := found.merged.highest winner won
    obtain ⟨loaded, source, one, member⟩ := TermbaseGovernance.mem_declaredTerms.mp present
    use loaded
    use source
    rw [← same]
    use member
    intro other known declares
    obtain ⟨found, memberFound, equal⟩ := declares
    rcases above _ (declared known memberFound) equal with here | below
    · left
      rw [← one, ← here]
    · right
      rw [← one]
      exact below
  · intro loaded listed record member closed
    have present := declared listed member
    obtain ⟨winner, won, same⟩ := found.merged.covers _ present
    obtain ⟨known, above⟩ := found.merged.highest winner won
    rcases above _ present same.symm with here | below
    · rw [← here] at won
      exact mem_map_of_mem won
    · have opened := found.merged.yields _ present winner known same.symm below
      rw [DeclaredTerm.locked, closed] at opened
      exact absurd opened (by decide)
  · intro loaded listed team record member other known declares
    obtain ⟨replaced, memberReplaced, equal⟩ := declares
    have present := declared listed member
    have below := declared known memberReplaced
    obtain ⟨winner, won, same⟩ := found.merged.covers _ present
    obtain ⟨_, above⟩ := found.merged.highest winner won
    have top : winner = ⟨loaded.1, record⟩ := by
      rcases above _ present same.symm with here | beyond
      · exact here.symm
      · have most := winner.declared.scope.rank_le
        have least : loaded.1.scope.rank < winner.declared.scope.rank := beyond
        rw [team] at least
        change 2 < _ at least
        omega
    rcases above _ below (equal.trans same.symm) with here | under
    · left
      rw [top] at here
      exact congrArg (·.declared) here
    · right
      rw [top] at under
      have lower : other.1.scope.rank < loaded.1.scope.rank := under
      rw [team] at lower
      exact TermScope.rank_lt lower

end
end KSlide
