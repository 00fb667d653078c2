import Mathlib.Algebra.BigOperators.Group.List.Basic
import Mathlib.Algebra.Order.BigOperators.Group.List
import Mathlib.Algebra.Order.Group.Nat
import Mathlib.Algebra.Ring.Nat
import Mathlib.Data.List.Nodup

/-
This file counts the items of a list by their keys.
-/

namespace KSlide
open List
variable {Item Key : Type} {items others : List Item} {item : Item}

theorem filter_single {passes : Item → Bool} (distinct : items.Nodup) (listed : item ∈ items)
    (only : ∀ other ∈ items, passes other = true ↔ other = item) :
    items.filter passes = [item] := by
  induction items with
  | nil => cases listed
  | cons head rest ih =>
    obtain ⟨fresh, distinct'⟩ := nodup_cons.mp distinct
    have only' : ∀ other ∈ rest, passes other = true ↔ other = item := fun other known =>
      only other (mem_cons_of_mem _ known)
    rw [filter_cons]
    by_cases same : head = item
    · rw [if_pos ((only head mem_cons_self).mpr same), same, List.cons.injEq]
      refine ⟨rfl, filter_eq_nil_iff.mpr fun other known passed => ?_⟩
      rw [(only' other known).mp passed, ← same] at known
      exact fresh known
    · rw [if_neg (mt (only head mem_cons_self).mp same)]
      exact ih distinct' ((mem_cons.mp listed).resolve_left (Ne.symm same)) only'

/-- A key that no two items share selects one item. -/
theorem filter_key [DecidableEq Key] {key : Item → Key} (distinct : (items.map key).Nodup)
    (listed : item ∈ items) : (items.filter fun other => key other == key item) = [item] := by
  refine filter_single distinct.of_map listed fun other known => ?_
  rw [beq_iff_eq]
  exact ⟨fun same => inj_on_of_nodup_map distinct known listed same, fun same => by rw [same]⟩

/-- The occurrences of a value are counted one by one. -/
theorem sum_indicator [DecidableEq Item] :
    (items.map fun other => if other = item then 1 else 0).sum = items.count item := by
  induction items with
  | nil => rfl
  | cons head rest ih =>
    rw [map_cons, sum_cons, ih, count_cons, Nat.add_comm]
    simp only [beq_iff_eq]

theorem find_single {passes : Item → Bool} (listed : item ∈ items) (passed : passes item = true)
    (only : ∀ other ∈ items, passes other = true → other = item) :
    items.find? passes = some item := by
  cases found : items.find? passes with
  | none => exact absurd passed (by simpa using find?_eq_none.mp found item listed)
  | some other => rw [only other (mem_of_find?_eq_some found) (find?_some found)]

theorem sum_filter_key [DecidableEq Key] {key : Item → Key} {keys : List Key}
    (distinct : keys.Nodup) (known : ∀ item ∈ items, key item ∈ keys) :
    (keys.map fun wanted => (items.filter fun item => key item == wanted).length).sum =
      items.length := by
  induction items with
  | nil =>
    rw [length_nil]
    exact sum_eq_zero fun _ listed => by
      obtain ⟨_, -, rfl⟩ := mem_map.mp listed
      rfl
  | cons item items ih =>
    have step : (fun wanted => ((item :: items).filter fun other => key other == wanted).length) =
        fun wanted => (if wanted = key item then 1 else 0) +
          (items.filter fun other => key other == wanted).length := by
      funext wanted
      rw [filter_cons]
      by_cases same : wanted = key item
      · rw [if_pos (beq_iff_eq.mpr same.symm), if_pos same, length_cons, Nat.add_comm]
      · rw [if_neg (by simpa using Ne.symm same), if_neg same, Nat.zero_add]
    have once : (keys.map fun wanted => if wanted = key item then 1 else 0).sum = 1 := by
      rw [sum_indicator]
      exact count_eq_one_of_mem distinct (known item mem_cons_self)
    rw [step, sum_map_add,
      ih fun other listed => known other (mem_cons_of_mem _ listed),
      once, length_cons, Nat.add_comm]

theorem eq_of_sum_eq {numbers : List Nat} {bound : Nat} (small : ∀ number ∈ numbers, number ≤ bound)
    (total : numbers.sum = numbers.length * bound) : ∀ number ∈ numbers, number = bound := by
  induction numbers with
  | nil => exact fun _ listed => absurd listed not_mem_nil
  | cons head rest ih =>
    have first := small head mem_cons_self
    have later : ∀ number ∈ rest, number ≤ bound := fun number listed =>
      small number (mem_cons_of_mem _ listed)
    have whole : rest.sum ≤ rest.length * bound := sum_le_card_nsmul rest bound later
    rw [sum_cons, length_cons, Nat.succ_mul] at total
    intro number listed
    rcases mem_cons.mp listed with same | known
    · rw [same]
      omega
    · exact ih later (by omega) number known
/-- Two items stand in one of two orders. -/
theorem perm_pair {first second one other : Item} (same : [first, second].Perm [one, other]) :
    first = one ∧ second = other ∨ first = other ∧ second = one := by
  have listed : first ∈ [one, other] := same.subset mem_cons_self
  rcases mem_pair.mp listed with rfl | rfl
  · exact .inl ⟨rfl, singleton_perm_singleton.mp ((perm_cons first).mp same)⟩
  · have swapped := same.trans (List.Perm.swap first one [])
    exact .inr ⟨rfl, singleton_perm_singleton.mp ((perm_cons first).mp swapped)⟩

/-- A filter of distinct items that two items pass keeps them in one of two orders. -/
theorem filter_pair {first second : Item} {passes : Item → Bool} (distinct : items.Nodup)
    (different : first ≠ second) (passing : ∀ item, item ∈ items ∧ passes item = true ↔
      item = first ∨ item = second) :
    items.filter passes = [first, second] ∨ items.filter passes = [second, first] := by
  have pair : [first, second].Nodup := by simpa using different
  have same : (items.filter passes).Perm [first, second] := by
    rw [perm_ext_iff_of_nodup (distinct.filter _) pair]
    intro item
    rw [mem_filter, passing, mem_pair]
  obtain ⟨one, other, two⟩ := length_eq_two.mp same.length_eq
  rw [two] at same ⊢
  rcases perm_pair same with ⟨rfl, rfl⟩ | ⟨rfl, rfl⟩
  · exact .inl rfl
  · exact .inr rfl

end KSlide
