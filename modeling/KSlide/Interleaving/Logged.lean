import KSlide.Interleaving.Discipline

/-
This file gives the actions that a program performs and the log that it leaves behind.
-/

namespace Interleaving.Program
open Relation
variable {Label State Error Result Other : Type}

/-- A program that runs alone changes the first state to the second state by one action. -/
def Performs : Program Label State Error Result → State → Label → State → State → Prop
  | .done _, _, _, _, _ => False
  | .fail _, _, _, _, _ => False
  | .action label update next, state, performed, before, after =>
    (performed = label ∧ before = state ∧ after = update state) ∨
      (next state).Performs (update state) performed before after

/-- The labels of the actions of a program that runs alone. -/
def performed : Program Label State Error Result → State → List Label
  | .done _, _ => []
  | .fail _, _ => []
  | .action label update next, state => label :: (next state).performed (update state)

theorem performs_of_mem {program : Program Label State Error Result} {state : State}
    {label : Label} (listed : label ∈ program.performed state) :
    ∃ before after, program.Performs state label before after := by
  induction program generalizing state with
  | done value => cases listed
  | fail error => cases listed
  | action name update next ih =>
    rcases List.mem_cons.mp listed with rfl | later
    · exact ⟨state, update state, Or.inl ⟨rfl, rfl, rfl⟩⟩
    · obtain ⟨before, after, performs⟩ := ih state later
      exact ⟨before, after, Or.inr performs⟩

/-- Every action of a disciplined program that runs alone keeps the guarantee. -/
theorem Meets.performs {discipline : Discipline Label State} {post : Result → State → Prop}
    {raised : Error → State → Prop} {program : Program Label State Error Result}
    {state before after : State} {label : Label}
    (meets : program.Meets discipline post raised state) (solo : discipline.Solo)
    (start : discipline.invariant state)
    (performed : program.Performs state label before after) :
    discipline.guarantee label before after := by
  induction program generalizing state with
  | done value => exact performed.elim
  | fail error => exact performed.elim
  | action name update next ih =>
    obtain ⟨kept, step, rest⟩ := meets state .refl start (solo.free name state)
    rcases performed with ⟨rfl, rfl, rfl⟩ | later
    · exact step
    · exact ih state rest kept later

/-- Every action that the program can take has one of the labels. -/
def Uses (labels : Label → Prop) : Program Label State Error Result → Prop
  | .done _ => True
  | .fail _ => True
  | .action label _ next => labels label ∧ ∀ state, (next state).Uses labels

section
variable {labels : Label → Prop}

@[simp] theorem uses_pure (value : Result) :
    (pure value : Program Label State Error Result).Uses labels := trivial

@[simp] theorem uses_throw (error : Error) :
    (throw error : Program Label State Error Result).Uses labels := trivial

theorem uses_transact {label : Label} (used : labels label)
    (body : State → Except Error Result × State) : (transact label body).Uses labels := by
  refine ⟨used, fun state => ?_⟩
  dsimp only
  cases (body state).1 <;> trivial

theorem uses_bind {program : Program Label State Error Result}
    {rest : Result → Program Label State Error Other} (first : program.Uses labels)
    (second : ∀ value, (rest value).Uses labels) : (program >>= rest).Uses labels := by
  change (program.bind rest).Uses labels
  induction program with
  | done value => exact second value
  | fail error => trivial
  | action label update next ih => exact ⟨first.1, fun state => ih state (first.2 state)⟩

theorem uses_performs {program : Program Label State Error Result} {state before after : State}
    {label : Label} (uses : program.Uses labels)
    (performed : program.Performs state label before after) : labels label := by
  induction program generalizing state with
  | done value => exact performed.elim
  | fail error => exact performed.elim
  | action name update next ih =>
    rcases performed with ⟨rfl, -, -⟩ | later
    · exact uses.1
    · exact ih state (uses.2 state) later

end

/-- The state also keeps the labels of the actions so far. -/
def logged : Program Label State Error Result →
    Program Label (State × List Label) Error Result
  | .done value => .done value
  | .fail error => .fail error
  | .action label update next => .action label
      (fun state => (update state.1, state.2 ++ [label])) fun state => (next state.1).logged

@[simp] theorem logged_pure (value : Result) :
    (pure value : Program Label State Error Result).logged = pure value := rfl

@[simp] theorem logged_throw (error : Error) :
    (throw error : Program Label State Error Result).logged = throw error := rfl

@[simp] theorem logged_lift (value : Except Error Result) :
    (lift value : Program Label State Error Result).logged = lift value := by
  cases value <;> rfl

@[simp] theorem logged_bind (program : Program Label State Error Result)
    (rest : Result → Program Label State Error Other) :
    (program >>= rest).logged = program.logged >>= fun value => (rest value).logged := by
  change (program.bind rest).logged = program.logged.bind fun value => (rest value).logged
  induction program with
  | done value => rfl
  | fail error => rfl
  | action label update next ih => simp only [bind, logged, ih]

@[simp] theorem logged_transact (label : Label) (body : State → Except Error Result × State) :
    (transact label body).logged = transact label fun state =>
      ((body state.1).1, ((body state.1).2, state.2 ++ [label])) := by
  simp only [transact, logged]
  congr 1
  funext state
  cases (body state.1).1 <;> rfl

@[simp] theorem logged_read (label : Label) (body : State → Except Error Result) :
    (read label body).logged = transact label fun state =>
      (body state.1, (state.1, state.2 ++ [label])) := by
  simp [read]

/-- A program that keeps its invariant also keeps it beside its log. -/
theorem Meets.logged {discipline : Discipline Label State}
    {tagged : State × List Label → Prop} {post : Result → State → Prop}
    {raised : Error → State → Prop} {program : Program Label State Error Result} {state : State}
    {log : List Label} (meets : program.Meets discipline post raised state)
    (solo : discipline.Solo) (start : discipline.invariant state)
    (kept : ∀ state log, discipline.invariant state → tagged (state, log)) :
    program.logged.Meets (Discipline.alone tagged)
      (fun value state => discipline.invariant state.1 ∧ post value state.1)
      (fun error state => discipline.invariant state.1 ∧ raised error state.1) (state, log) := by
  induction program generalizing state log with
  | done value => exact ⟨start, meets⟩
  | fail error => exact ⟨start, meets⟩
  | action label update next ih =>
    intro current reached _ _
    cases solo_unchanged (Discipline.alone_solo tagged) reached
    obtain ⟨after, -, rest⟩ := meets state .refl start (solo.free label state)
    exact ⟨kept _ _ after, trivial, ih state rest after⟩

theorem crashes_logged {program : Program Label State Error Result} {state left : State}
    {log labels : List Label} (crashed : program.logged.Crashes (state, log) (left, labels)) :
    program.Crashes state left := by
  induction program generalizing state log with
  | done value => exact (Prod.mk.inj crashed).1
  | fail error => exact (Prod.mk.inj crashed).1
  | action label update next ih =>
    rcases crashed with same | later
    · exact Or.inl (Prod.mk.inj same).1
    · exact Or.inr (ih state later)

end Interleaving.Program
