import Mathlib.Data.List.Nodup
import Mathlib.Data.List.Perm.Basic

/-
This file merges items with keys in layers, where a higher layer replaces an open item.
-/

namespace Layers
open List
variable {Item Key : Type}

/-- The second item may replace the first one. -/
def Yields (key : Item → Key) (layer : Item → Nat) (closed : Item → Bool)
    (first second : Item) : Prop :=
  key first = key second → layer first < layer second ∧ closed first = false

/-- The merged items are the highest ones of the items. -/
structure Merged (key : Item → Key) (layer : Item → Nat) (closed : Item → Bool)
    (items merged : List Item) : Prop where
  distinct : (merged.map key).Nodup
  highest : ∀ item ∈ merged, item ∈ items ∧
    ∀ other ∈ items, key other = key item → other = item ∨ layer other < layer item
  covers : ∀ item ∈ items, ∃ winner ∈ merged, key winner = key item
  yields : ∀ first ∈ items, ∀ second ∈ items, key first = key second →
    layer first < layer second → closed first = false

section
variable {key : Item → Key} {layer : Item → Nat} {closed : Item → Bool}
  {items merged : List Item} {item : Item}

theorem Merged.nil : Merged key layer closed [] [] where
  distinct := nodup_nil
  highest := by simp
  covers := by simp
  yields := by simp

theorem Merged.mem_iff (found : Merged key layer closed items merged) :
    item ∈ merged ↔ item ∈ items ∧
      ∀ other ∈ items, key other = key item → other = item ∨ layer other < layer item := by
  constructor
  · exact found.highest item
  · intro above
    obtain ⟨winner, won, same⟩ := found.covers item above.1
    obtain ⟨listed, top⟩ := found.highest winner won
    rcases above.2 winner listed same with equal | below
    · rw [← equal]
      exact won
    · rcases top item above.1 same.symm with equal | beyond
      · rw [equal]
        exact won
      · omega

/-- The merged items do not depend on the order of the items. -/
theorem Merged.perm (found : Merged key layer closed items merged) {others next : List Item}
    (other : Merged key layer closed others next) (same : items.Perm others) :
    merged.Perm next := by
  rw [perm_ext_iff_of_nodup found.distinct.of_map other.distinct.of_map]
  intro item
  rw [found.mem_iff, other.mem_iff, same.mem_iff]
  simp only [same.mem_iff]

theorem yields_append
    (known : ∀ first ∈ items, ∀ second ∈ items, key first = key second →
      layer first < layer second → closed first = false)
    (each : ∀ other ∈ items, Yields key layer closed other item) :
    ∀ first ∈ items ++ [item], ∀ second ∈ items ++ [item], key first = key second →
      layer first < layer second → closed first = false := by
  intro first one second two same below
  rcases mem_append.mp one with earlier | last
  · rcases mem_append.mp two with other | final
    · exact known first earlier second other same below
    · rw [mem_singleton.mp final] at same
      exact (each first earlier same).2
  · rw [mem_singleton.mp last] at same below
    rcases mem_append.mp two with other | final
    · have above := (each second other same.symm).1
      omega
    · rw [mem_singleton.mp final] at below
      omega

theorem Merged.append (found : Merged key layer closed items merged)
    (fresh : ∀ other ∈ merged, key other ≠ key item) :
    Merged key layer closed (items ++ [item]) (merged ++ [item]) := by
  have absent : ∀ other ∈ items, key other ≠ key item := by
    intro other listed same
    obtain ⟨winner, won, equal⟩ := found.covers other listed
    exact fresh winner won (equal.trans same)
  constructor
  · rw [map_append, nodup_append]
    use found.distinct
    use nodup_singleton _
    intro first one second two same
    obtain ⟨winner, won, equal⟩ := mem_map.mp one
    rw [map_singleton, mem_singleton] at two
    exact fresh winner won (by rw [equal, same, two])
  · intro winner won
    rcases mem_append.mp won with earlier | last
    · obtain ⟨present, above⟩ := found.highest winner earlier
      use mem_append_left _ present
      intro other listed same
      rcases mem_append.mp listed with before | final
      · exact above other before same
      · rw [mem_singleton.mp final] at same
        exact absurd same.symm (fresh winner earlier)
    · rw [mem_singleton.mp last]
      use mem_append_right _ mem_cons_self
      intro other listed same
      rcases mem_append.mp listed with before | final
      · exact absurd same (absent other before)
      · left
        exact mem_singleton.mp final
  · intro other listed
    rcases mem_append.mp listed with before | final
    · obtain ⟨winner, won, same⟩ := found.covers other before
      exact ⟨winner, mem_append_left _ won, same⟩
    · use item
      use mem_append_right _ mem_cons_self
      rw [mem_singleton.mp final]
  · apply yields_append found.yields
    intro other listed same
    exact absurd same (absent other listed)

theorem Merged.yields_iff (found : Merged key layer closed items merged) {prior : Item}
    (listed : prior ∈ merged) (same : key prior = key item) :
    (∀ other ∈ items, Yields key layer closed other item) ↔
      layer prior < layer item ∧ closed prior = false := by
  obtain ⟨present, above⟩ := found.highest prior listed
  constructor
  · intro each
    exact each prior present same
  · intro allowed other known equal
    rcases above other known (equal.trans same.symm) with here | below
    · rw [here]
      exact allowed
    · have opened := found.yields other known prior present (equal.trans same.symm) below
      exact ⟨by omega, opened⟩

theorem Merged.yields_fresh (found : Merged key layer closed items merged)
    (fresh : ∀ other ∈ merged, key other ≠ key item) :
    ∀ other ∈ items, Yields key layer closed other item := by
  intro other listed same
  obtain ⟨winner, won, equal⟩ := found.covers other listed
  exact absurd (equal.trans same) (fresh winner won)

variable [DecidableEq Key]

/-- The item replaces the merged item with its key. -/
def replace (key : Item → Key) (merged : List Item) (item : Item) : List Item :=
  merged.map fun other => if key other = key item then item else other

theorem map_replace (item : Item) : (replace key merged item).map key = merged.map key := by
  unfold replace
  rw [map_map]
  apply map_congr_left
  intro other _
  show key (if key other = key item then item else other) = key other
  by_cases here : key other = key item
  · rw [if_pos here, here]
  · rw [if_neg here]

theorem mem_replace {winner : Item} (won : winner ∈ replace key merged item) :
    winner = item ∨ (winner ∈ merged ∧ key winner ≠ key item) := by
  obtain ⟨before, listed, change⟩ := mem_map.mp won
  by_cases here : key before = key item
  · rw [if_pos here] at change
    left
    exact change.symm
  · rw [if_neg here] at change
    right
    rw [← change]
    exact ⟨listed, here⟩

theorem Merged.replace (found : Merged key layer closed items merged) {prior : Item}
    (listed : prior ∈ merged) (same : key prior = key item)
    (each : ∀ other ∈ items, Yields key layer closed other item) :
    Merged key layer closed (items ++ [item]) (Layers.replace key merged item) := by
  constructor
  · rw [map_replace]
    exact found.distinct
  · intro winner won
    rcases mem_replace won with new | kept
    · rw [new]
      use mem_append_right _ mem_cons_self
      intro other known equal
      rcases mem_append.mp known with earlier | final
      · right
        exact (each other earlier equal).1
      · left
        exact mem_singleton.mp final
    · obtain ⟨kept, other⟩ := kept
      obtain ⟨present, above⟩ := found.highest winner kept
      use mem_append_left _ present
      intro next known equal
      rcases mem_append.mp known with earlier | final
      · exact above next earlier equal
      · rw [mem_singleton.mp final] at equal
        exact absurd equal.symm other
  · intro other known
    have covered : ∃ winner ∈ merged, key winner = key other := by
      rcases mem_append.mp known with earlier | final
      · exact found.covers other earlier
      · rw [mem_singleton.mp final]
        exact ⟨prior, listed, same⟩
    obtain ⟨winner, won, equal⟩ := covered
    have mapped := mem_map_of_mem (f := key) won
    rw [← map_replace item] at mapped
    obtain ⟨next, one, two⟩ := mem_map.mp mapped
    exact ⟨next, one, two.trans equal⟩
  · exact yields_append found.yields each

end

theorem yields_perm {key : Item → Key} {layer : Item → Nat} {closed : Item → Bool}
    {items others : List Item} (same : items.Perm others)
    (sorted : items.Pairwise fun first second => layer first ≤ layer second)
    (sortedOthers : others.Pairwise fun first second => layer first ≤ layer second) :
    items.Pairwise (Yields key layer closed) ↔ others.Pairwise (Yields key layer closed) := by
  have either : ∀ list : List Item,
      list.Pairwise (fun first second => layer first ≤ layer second) →
        (list.Pairwise (Yields key layer closed) ↔ list.Pairwise fun first second =>
          key first = key second → (layer first < layer second ∧ closed first = false) ∨
            (layer second < layer first ∧ closed second = false)) := by
    intro list ordered
    constructor
    · intro yields
      apply yields.imp
      intro first second known equal
      left
      exact known equal
    · intro apart
      apply (ordered.and apart).imp
      intro first second known equal
      rcases known.2 equal with below | above
      · exact below
      · have ordered := known.1
        omega
  rw [either items sorted, either others sortedOthers]
  apply same.pairwise_iff
  intro first second known equal
  exact (known equal.symm).symm

end Layers
