import KSlide.Interleaving.Reads

/-
This file gives the changes that a program can leave behind, whether it ends or crashes.
-/

namespace Interleaving.Program
open List
variable {Label State Error Result Other : Type}
variable {relation : State → State → Prop}

/-- Every crash of the program leaves a state that is related to its start. -/
def Within (relation : State → State → Prop) (program : Program Label State Error Result) : Prop :=
  ∀ state left, program.Crashes state left → relation state left

variable {program : Program Label State Error Result}
  {rest : Result → Program Label State Error Other}

/-- The end of a program is one of its crashes. -/
theorem Within.run (within : program.Within relation)
    (state : State) : relation state (program.run state).2 :=
  within state _ (crashes_run program state)

theorem Still.within (still : program.Still)
    (refl : ∀ state, relation state state) : program.Within relation := by
  intro state left crashed
  rw [still.crashes crashed]
  exact refl state

theorem within_bind (trans : ∀ first second third, relation first second →
      relation second third → relation first third)
    {program : Program Label State Error Result} {rest : Result → Program Label State Error Other}
    (first : program.Within relation) (second : ∀ value, (rest value).Within relation) :
    (program >>= rest).Within relation := by
  intro state left crashed
  rcases (crashes_bind program rest state left).mp crashed with early | ⟨value, after, ran, late⟩
  · exact first state left early
  · have before := first.run state
    rw [ran] at before
    exact trans _ _ _ before (second value after left late)

/-- The actions of a sequence are the actions of its parts. -/
theorem performed_bind_ok {state after : State} {value : Result}
    (ran : program.run state = (.ok value, after)) :
    (program >>= rest).performed state = program.performed state ++ (rest value).performed after := by
  change (program.bind rest).performed state = _
  induction program generalizing state with
  | done result =>
    cases ran
    rfl
  | fail error => cases ran
  | action label update next ih =>
    change label :: ((next state).bind rest).performed (update state) = _
    rw [ih state ran]
    rfl

/-- The actions of the first part are actions of the sequence. -/
theorem performed_bind_left {state : State} {label : Label}
    (performed : label ∈ program.performed state) :
    label ∈ (program >>= rest).performed state := by
  change label ∈ (program.bind rest).performed state
  induction program generalizing state with
  | done result => cases performed
  | fail error => cases performed
  | action name update next ih =>
    rcases mem_cons.mp performed with rfl | later
    · exact mem_cons_self
    · exact mem_cons_of_mem _ (ih state later)

theorem performed_tryCatch_left
    {handler : Error → Program Label State Error Result} {state : State} {label : Label}
    (performed : label ∈ program.performed state) :
    label ∈ (tryCatch program handler).performed state := by
  change label ∈ (program.handle handler).performed state
  induction program generalizing state with
  | done result => cases performed
  | fail error => cases performed
  | action name update next ih =>
    rcases mem_cons.mp performed with rfl | later
    · exact mem_cons_self
    · exact mem_cons_of_mem _ (ih state later)

end Interleaving.Program
