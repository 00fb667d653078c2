import Mathlib.Data.List.Count
import Mathlib.Data.List.Sort
import Mathlib.Order.OrderDual

/-
This file says which item of a sorted list has a given rank.
-/

namespace Rank
open List
variable {Item Value : Type}

theorem getElem?_strict {before : Item → Item → Bool} {items : List Item}
    (strict : items.Pairwise fun first second => before first second = true)
    (irrefl : ∀ item, before item item = false)
    (asymm : ∀ first second, before first second = true → before second first = false)
    {rank : Nat} {item : Item} :
    items[rank]? = some item ↔ item ∈ items ∧ items.countP (before · item) = rank := by
  induction items generalizing rank with
  | nil => simp
  | cons head tail ih =>
    obtain ⟨first, rest⟩ := pairwise_cons.mp strict
    have least : (head :: tail).countP (before · head) = 0 := by
      rw [countP_eq_zero]
      intro other listed
      rcases mem_cons.mp listed with same | later
      · rw [same, irrefl]
        exact Bool.false_ne_true
      · rw [asymm head other (first other later)]
        exact Bool.false_ne_true
    have above (listed : item ∈ tail) :
        (head :: tail).countP (before · item) = tail.countP (before · item) + 1 :=
      countP_cons_of_pos (first item listed)
    cases rank with
    | zero =>
      rw [getElem?_cons_zero, Option.some.injEq]
      constructor
      · intro same
        rw [← same]
        exact ⟨mem_cons_self, least⟩
      · intro parts
        obtain ⟨listed, zero⟩ := parts
        rcases mem_cons.mp listed with same | later
        · exact same.symm
        · have positive := above later
          omega
    | succ rank =>
      rw [getElem?_cons_succ, ih rest]
      constructor
      · intro parts
        obtain ⟨listed, count⟩ := parts
        have one := above listed
        exact ⟨mem_cons_of_mem head listed, by omega⟩
      · intro parts
        obtain ⟨listed, count⟩ := parts
        rcases mem_cons.mp listed with same | later
        · rw [same, least] at count
          omega
        · have one := above later
          exact ⟨later, by omega⟩

theorem getElem?_sorted [LinearOrder Value] {key : Item → Value} {items : List Item}
    (distinct : (items.map key).Nodup) {rank : Nat} {item : Item} :
    (items.insertionSort fun first second => key first ≤ key second)[rank]? = some item ↔
      item ∈ items ∧ items.countP (fun other => decide (key other < key item)) = rank := by
  have same := items.perm_insertionSort fun first second => key first ≤ key second
  have sorted := items.pairwise_insertionSort fun first second => key first ≤ key second
  have apart := pairwise_map.mp ((same.map key).nodup_iff.mpr distinct)
  have strict : (items.insertionSort fun first second => key first ≤ key second).Pairwise
      fun first second => decide (key first < key second) = true := by
    apply (sorted.and apart).imp
    intro first second ⟨below, different⟩
    exact decide_eq_true (lt_of_le_of_ne below different)
  rw [getElem?_strict strict, same.mem_iff, same.countP_eq]
  · intro item
    exact decide_eq_false (lt_irrefl _)
  · intro first second below
    exact decide_eq_false (lt_asymm (of_decide_eq_true below))

/-- The same holds from the other end. -/
theorem getElem?_sortedDown [LinearOrder Value] {key : Item → Value} {items : List Item}
    (distinct : (items.map key).Nodup) {rank : Nat} {item : Item} :
    (items.insertionSort fun first second => key second ≤ key first)[rank]? = some item ↔
      item ∈ items ∧ items.countP (fun other => decide (key item < key other)) = rank :=
  @getElem?_sorted Item (OrderDual Value) _ (fun item => OrderDual.toDual (key item)) items distinct
    rank item

end Rank
