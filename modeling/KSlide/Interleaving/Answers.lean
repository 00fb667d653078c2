import KSlide.Interleaving.Program

/-
This file gives programs whose actions an environment answers, with exceptions and crashes.
-/

namespace Interleaving

/-- A program stops with an exception or with the end of its process. -/
inductive Interrupt (Error : Type) where
  | raised (error : Error)
  | crashed
deriving DecidableEq

/-- The environment lets an action through or interrupts it. -/
abbrev Answer (Error Value : Type) : Type := Except (Interrupt Error) Value

/-- A failed computation raises its error. -/
def Answer.raise {Error Value : Type} : Except Error Value → Answer Error Value
  | .ok value => .ok value
  | .error error => .error (.raised error)

theorem Answer.ok_bind {Error Value Other : Type} (value : Value)
    (rest : Value → Answer Error Other) : (Except.ok value >>= rest) = rest value := rfl

namespace Program
variable {Label State Error Result : Type}

/-- The environment answers an action before the action changes the state. -/
def perform (label : Label) (answer : Answer Error Unit) (update : State → State) :
    Program Label State (Interrupt Error) Unit :=
  .transact label fun state =>
    match answer with
    | .ok () => (.ok (), update state)
    | .error interrupt => (.error interrupt, state)

/-- A handler sees the exceptions of its program, and no crash. -/
def rescue (program : Program Label State (Interrupt Error) Result)
    (handler : Error → Program Label State (Interrupt Error) Result) :
    Program Label State (Interrupt Error) Result :=
  tryCatch program fun interrupt =>
    match interrupt with
    | .raised error => handler error
    | .crashed => throw .crashed

variable (label : Label) {program : Program Label State (Interrupt Error) Result}
  {handler : Error → Program Label State (Interrupt Error) Result}

theorem run_perform (answer : Answer Error Unit) (update : State → State) (state : State) :
    (perform label answer update).run state =
      match answer with
      | .ok () => (.ok (), update state)
      | .error interrupt => (.error interrupt, state) :=
  run_transact _ _ _

@[simp] theorem run_perform_ok (value : Unit) (update : State → State) (state : State) :
    (perform label (.ok value : Answer Error Unit) update).run state = (.ok (), update state) :=
  run_perform _ _ _ _

@[simp] theorem run_perform_error (interrupt : Interrupt Error)
    (update : State → State) (state : State) :
    (perform label (.error interrupt) update).run state = (.error interrupt, state) :=
  run_perform _ _ _ _

theorem run_rescue (program : Program Label State (Interrupt Error) Result)
    (handler : Error → Program Label State (Interrupt Error) Result) (state : State) :
    (rescue program handler).run state =
      match program.run state with
      | (.ok value, after) => (.ok value, after)
      | (.error (.raised error), after) => (handler error).run after
      | (.error .crashed, after) => (.error .crashed, after) := by
  rw [rescue, run_tryCatch]
  rcases program.run state with ⟨_ | _, after⟩
  · rename_i interrupt
    cases interrupt <;> rfl
  · rfl

theorem run_rescue_ok {state after : State}
    {value : Result} (reached : program.run state = (.ok value, after)) :
    (rescue program handler).run state = (.ok value, after) := by
  rw [run_rescue, reached]

theorem run_rescue_raised {state after : State}
    {error : Error} (reached : program.run state = (.error (.raised error), after)) :
    (rescue program handler).run state = (handler error).run after := by
  rw [run_rescue, reached]

theorem run_rescue_crashed {state after : State}
    (reached : program.run state = (.error .crashed, after)) :
    (rescue program handler).run state = (.error .crashed, after) := by
  rw [run_rescue, reached]

end Program
end Interleaving
