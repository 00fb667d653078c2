import KSlide.Interleaving.Reads
import KSlide.Rollout.Control

/-
This file gives the histories that hold one file for each revision.
-/

namespace KSlide
open Interleaving Program List

/-- The file of each revision holds the item at its place. -/
structure Numbered {Value : Type} (history : AList fun _ : Nat => Value) (items : List Value) :
    Prop where
  size : history.keys.length = items.length
  item : ∀ index (listed : index < items.length), history.lookup (index + 1) = some items[index]

section
variable {Value : Type} {history : AList fun _ : Nat => Value} {items : List Value}

theorem Numbered.mem (numbered : Numbered history items) {revision : Nat} :
    revision ∈ history.keys ↔ 1 ≤ revision ∧ revision ≤ items.length := by
  have listed : List.range' 1 items.length ⊆ history.keys := by
    intro revision within
    obtain ⟨positive, bound⟩ := mem_range'_1.mp within
    have found := numbered.item (revision - 1) (by omega)
    rw [show revision - 1 + 1 = revision by omega] at found
    apply AList.mem_keys.mp
    apply AList.lookup_isSome.mp
    rw [found]
    rfl
  have subperm := subperm_of_subset nodup_range' listed
  have same : (List.range' 1 items.length).Perm history.keys :=
    subperm.perm_of_length_le (by rw [numbered.size, length_range'])
  rw [← same.mem_iff, mem_range'_1]
  omega

theorem Numbered.complete (numbered : Numbered history items) :
    Control.complete items.length history = true := by
  unfold Control.complete
  rw [numbered.size, beq_self_eq_true, Bool.true_and, all_eq_true]
  intro revision within
  have bounds := mem_range'_1.mp within
  exact decide_eq_true (numbered.mem.mpr ⟨bounds.1, by omega⟩)

theorem Numbered.complete_iff (numbered : Numbered history items) {revision : Nat} :
    Control.complete revision history = true ↔ revision = items.length := by
  constructor
  · intro complete
    simp only [Control.complete, Bool.and_eq_true, beq_iff_eq] at complete
    rw [← complete.1, numbered.size]
  · rintro rfl
    exact numbered.complete

theorem complete_numbered {revision : Nat} (complete : Control.complete revision history = true) :
    ∃ items, items.length = revision ∧ Numbered history items := by
  simp only [Control.complete, Bool.and_eq_true, beq_iff_eq, all_eq_true] at complete
  obtain ⟨size, listed⟩ := complete
  have found : ∀ index : Fin revision, ∃ value, history.lookup (index.val + 1) = some value := by
    intro index
    have within : index.val + 1 ∈ List.range' 1 revision := by
      have := index.isLt
      exact mem_range'_1.mpr ⟨by omega, by omega⟩
    exact Option.isSome_iff_exists.mp
      (AList.lookup_isSome.mpr (AList.mem_keys.mpr (of_decide_eq_true (listed _ within))))
  choose value found using found
  refine ⟨List.ofFn value, length_ofFn, ⟨?_, ?_⟩⟩
  · rw [size, length_ofFn]
  · intro index within
    rw [List.getElem_ofFn]
    exact found ⟨index, by simpa using within⟩

theorem Numbered.lookup (numbered : Numbered history items) (index : Nat) :
    history.lookup (index + 1) = items[index]? := by
  by_cases within : index < items.length
  · rw [numbered.item index within, getElem?_eq_getElem within]
  · rw [getElem?_eq_none (by omega)]
    apply AList.lookup_eq_none.mpr
    intro listed
    have := (numbered.mem.mp (AList.mem_keys.mp listed)).2
    omega

theorem Numbered.entry (numbered : Numbered history items)
    {entry : Sigma fun _ : Nat => Value} (listed : entry ∈ history.entries) : entry.2 ∈ items := by
  have found : history.lookup entry.1 = some entry.2 := AList.mem_lookup_iff.mpr listed
  have bounds := numbered.mem.mp
    (AList.mem_keys.mp (AList.lookup_isSome.mp (by rw [found]; rfl)))
  have same := numbered.lookup (entry.1 - 1)
  rw [show entry.1 - 1 + 1 = entry.1 by omega, found] at same
  exact List.mem_of_getElem? same.symm

theorem Numbered.listed (numbered : Numbered history items) {value : Value}
    (member : value ∈ items) : ∃ entry ∈ history.entries, entry.2 = value := by
  obtain ⟨index, within, rfl⟩ := getElem_of_mem member
  exact ⟨⟨index + 1, items[index]⟩, AList.mem_lookup_iff.mp (numbered.item index within), rfl⟩

theorem numbered_empty : Numbered (∅ : AList fun _ : Nat => Value) [] :=
  ⟨rfl, fun _ impossible => (Nat.not_lt_zero _ impossible).elim⟩

/-- The file of the next revision extends the history. -/
theorem Numbered.insert (numbered : Numbered history items) (value : Value) :
    Numbered (history.insert (items.length + 1) value) (items ++ [value]) := by
  have fresh : items.length + 1 ∉ history := by
    intro listed
    have := (numbered.mem.mp (AList.mem_keys.mp listed)).2
    omega
  constructor
  · rw [AList.keys_insert, length_cons, erase_of_not_mem fresh, numbered.size,
      length_append, length_singleton]
  · intro index within
    rw [length_append, length_singleton] at within
    by_cases last : index = items.length
    · subst last
      rw [AList.lookup_insert, getElem_concat_length rfl]
    · rw [AList.lookup_insert_ne (by omega), getElem_append_left (by omega)]
      exact numbered.item index (by omega)

/-- Two lists with the same files are the same list. -/
theorem Numbered.unique {other : List Value} (first : Numbered history items)
    (second : Numbered history other) : items = other := by
  apply List.ext_getElem?
  intro index
  rw [← first.lookup, second.lookup]

end

section
variable {Value Carry Label State Error : Type}

/-- A loop over the files of a history is a loop over its items. -/
theorem run_numbered {history : AList fun _ : Nat => Value} {items : List Value}
    (numbered : Numbered history items) (fetch : Nat → Program Label State Error Value)
    (step : Carry → Nat → Value → Except Error Carry) (state : State)
    (fetched : ∀ revision value, history.lookup revision = some value →
      (fetch revision).run state = (.ok value, state)) (carry : Carry) :
    ((List.range' 1 items.length).foldlM (fun carry revision => do
        let value ← fetch revision
        lift (step carry revision value)) carry).run state =
      ((items.zipIdx 1).foldlM (fun carry entry => step carry entry.2 entry.1) carry, state) := by
  have each : ∀ (rest : List Value) (offset : Nat) (carry : Carry),
      (∀ index (listed : index < rest.length),
        history.lookup (offset + index) = some rest[index]) →
      ((List.range' offset rest.length).foldlM (fun carry revision => do
          let value ← fetch revision
          lift (step carry revision value)) carry).run state =
        ((rest.zipIdx offset).foldlM (fun carry entry => step carry entry.2 entry.1) carry,
          state) := by
    intro rest
    induction rest with
    | nil =>
      intro offset carry _
      rfl
    | cons value rest ih =>
      intro offset carry found
      have first : (fetch offset).run state = (.ok value, state) :=
        fetched offset value (found 0 (by simp))
      rw [length_cons, range'_succ, foldlM_cons, zipIdx_cons,
        foldlM_cons, run_bind, run_bind_ok first, run_lift]
      cases step carry offset value with
      | error error => rfl
      | ok next =>
        apply ih
        intro index within
        have later := found (index + 1) (by rw [length_cons]; omega)
        rw [getElem_cons_succ] at later
        rw [← later]
        congr 1
        omega
  apply each
  intro index within
  rw [Nat.add_comm]
  exact numbered.item index within

end
end KSlide
