import KSlide.Order.Layers
import KSlide.Terminology.Merge
import Mathlib.Data.List.GetD

/-
This file proves that the merged termbase does not depend on the overlay order.
-/

namespace KSlide
open Layers List

namespace DeclaredTerm

def source (term : DeclaredTerm) : String := term.record.source
def rank (term : DeclaredTerm) : Nat := term.declared.rank
def locked (term : DeclaredTerm) : Bool := term.record.status == .locked
def termIds (terms : List DeclaredTerm) : List String :=
  terms.flatMap fun term => term.record.termId.toList

/-- The first term may be replaced by the second one. -/
def Yields : DeclaredTerm → DeclaredTerm → Prop := Layers.Yields source rank locked

@[simp] theorem termIds_append (first second : List DeclaredTerm) :
    termIds (first ++ second) = termIds first ++ termIds second := flatMap_append

@[simp] theorem termIds_singleton (term : DeclaredTerm) :
    termIds [term] = term.record.termId.toList := by simp [termIds]

end DeclaredTerm

open DeclaredTerm

namespace MergedTerms

/-- The state after the terms holds the highest of them. -/
structure After (terms : List DeclaredTerm) (state : MergedTerms) : Prop where
  merged : Merged source rank locked terms state.merged
  termIds : state.termIds = DeclaredTerm.termIds terms

theorem after_nil : After [] ⟨[], []⟩ := ⟨Merged.nil, rfl⟩

variable {terms : List DeclaredTerm} {state : MergedTerms} {term : DeclaredTerm}
  {merged next : List DeclaredTerm}

theorem place_ok (found : Merged source rank locked terms merged) :
    (∃ next, place merged term = .ok next) ↔ ∀ other ∈ terms, Yields other term := by
  unfold place
  cases known : merged.find? fun other => other.record.source = term.record.source with
  | none =>
    have fresh := find?_eq_none.mp known
    have yields : ∀ other ∈ terms, Yields other term :=
      found.yields_fresh fun other listed same => fresh other listed (decide_eq_true same)
    exact iff_of_true ⟨_, rfl⟩ yields
  | some prior =>
    have listed := mem_of_find?_eq_some known
    have same : prior.record.source = term.record.source := by
      simpa using find?_some known
    rw [show (∀ other ∈ terms, Yields other term) ↔ _ from found.yields_iff listed same]
    simp only [bind_ok, require_ok, pure_ok, bne_iff_ne, decide_eq_true_eq, exists_and_left,
      exists_const, exists_eq', and_true]
    show (prior.declared.rank ≠ term.declared.rank ∧ prior.declared.rank < term.declared.rank ∧
      prior.record.status ≠ .locked) ↔
        prior.declared.rank < term.declared.rank ∧ (prior.record.status == .locked) = false
    rw [beq_eq_false_iff_ne]
    constructor
    · intro passed
      exact passed.2
    · intro allowed
      exact ⟨by omega, allowed⟩

theorem place_keeps (found : Merged source rank locked terms merged)
    (placed : place merged term = .ok next) :
    Merged source rank locked (terms ++ [term]) next := by
  have yields := (place_ok found).mp ⟨next, placed⟩
  unfold place at placed
  cases known : merged.find? fun other => other.record.source = term.record.source with
  | none =>
    rw [known] at placed
    have fresh := find?_eq_none.mp known
    rw [← Except.ok.inj placed]
    apply found.append
    intro other listed same
    exact fresh other listed (decide_eq_true same)
  | some prior =>
    rw [known] at placed
    have listed := mem_of_find?_eq_some known
    have same : prior.record.source = term.record.source := by
      simpa using find?_some known
    simp only [bind_ok, require_ok, pure_ok] at placed
    obtain ⟨_, _, _, _, _, _, same'⟩ := placed
    rw [← same']
    exact found.replace listed same yields

/-- A step succeeds for a new term identifier whose earlier terms yield. -/
theorem step_ok (found : After terms state) :
    (∃ next, step state term = .ok next) ↔
      (∀ id ∈ term.record.termId, id ∉ DeclaredTerm.termIds terms) ∧
        ∀ other ∈ terms, Yields other term := by
  rw [← place_ok found.merged, ← found.termIds]
  unfold step
  simp

theorem step_keeps (found : After terms state) {next : MergedTerms}
    (stepped : step state term = .ok next) : After (terms ++ [term]) next := by
  unfold step at stepped
  simp only [bind_ok, pure_ok] at stepped
  obtain ⟨_, _, placed, accepted, same⟩ := stepped
  rw [← same]
  constructor
  · exact place_keeps found.merged accepted
  · show state.termIds ++ _ = _
    rw [found.termIds, termIds_append, termIds_singleton]

/-- A run succeeds when the identifiers are distinct and earlier terms yield to later ones. -/
theorem run_ok (found : After terms state) (distinct : (DeclaredTerm.termIds terms).Nodup)
    (yields : terms.Pairwise Yields) {rest : List DeclaredTerm} :
    (∃ final, rest.foldlM step state = .ok final) ↔
      (DeclaredTerm.termIds (terms ++ rest)).Nodup ∧ (terms ++ rest).Pairwise Yields := by
  induction rest generalizing terms state with
  | nil =>
    rw [append_nil]
    exact iff_of_true ⟨state, rfl⟩ ⟨distinct, yields⟩
  | cons term rest ih =>
    rw [foldlM_cons, append_cons]
    simp only [bind_ok]
    constructor
    · intro success
      obtain ⟨final, next, stepped, ran⟩ := success
      obtain ⟨fresh, allowed⟩ := (step_ok found).mp ⟨next, stepped⟩
      have distinct' : (DeclaredTerm.termIds (terms ++ [term])).Nodup := by
        rw [termIds_append, termIds_singleton, nodup_append]
        use distinct
        use Option.toList_nodup _
        intro first one second two same
        rw [same] at one
        exact fresh second (Option.mem_toList.mp two) one
      have yields' : (terms ++ [term]).Pairwise Yields := by
        rw [pairwise_append]
        use yields
        use pairwise_singleton _ _
        intro other listed last final
        rw [mem_singleton.mp final]
        exact allowed other listed
      exact (ih (step_keeps found stepped) distinct' yields').mp ⟨final, ran⟩
    · intro allowed
      have distinct' : (DeclaredTerm.termIds (terms ++ [term])).Nodup := by
        have all := allowed.1
        rw [termIds_append] at all
        exact (nodup_append.mp all).1
      have yields' : (terms ++ [term]).Pairwise Yields := (pairwise_append.mp allowed.2).1
      have accepted : ∃ next, step state term = .ok next := by
        rw [step_ok found]
        constructor
        · intro id present listed
          rw [termIds_append, termIds_singleton, nodup_append] at distinct'
          exact distinct'.2.2 id listed id (Option.mem_toList.mpr present) rfl
        · intro other listed
          exact (pairwise_append.mp yields').2.2 other listed term mem_cons_self
      obtain ⟨next, stepped⟩ := accepted
      obtain ⟨final, ran⟩ := (ih (step_keeps found stepped) distinct' yields').mpr allowed
      exact ⟨final, next, stepped, ran⟩

theorem run_keeps (found : After terms state) {rest : List DeclaredTerm} {final : MergedTerms}
    (ran : rest.foldlM step state = .ok final) : After (terms ++ rest) final := by
  induction rest generalizing terms state with
  | nil =>
    rw [append_nil, ← Except.ok.inj ran]
    exact found
  | cons term rest ih =>
    rw [foldlM_cons] at ran
    simp only [bind_ok] at ran
    obtain ⟨next, stepped, later⟩ := ran
    rw [append_cons]
    exact ih (step_keeps found stepped) later

end MergedTerms
end KSlide
