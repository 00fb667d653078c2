import Mathlib.Control.Basic

/-
This file gives programs of atomic actions on a shared state, with errors and handlers.
-/

namespace Interleaving

/-- A program runs labelled atomic actions on a shared state and ends with a value or an error. -/
inductive Program (Label State Error Result : Type) where
  | done (value : Result)
  | fail (error : Error)
  | action (label : Label) (update : State → State)
      (next : State → Program Label State Error Result)

namespace Program
variable {Label Name State Error Result Other Last Inner : Type}

def bind : Program Label State Error Result → (Result → Program Label State Error Other) →
    Program Label State Error Other
  | .done value, rest => rest value
  | .fail error, _ => .fail error
  | .action label update next, rest => .action label update fun state => (next state).bind rest

/-- The handler runs only when the program ends with an error. -/
def handle : Program Label State Error Result → (Error → Program Label State Error Result) →
    Program Label State Error Result
  | .done value, _ => .done value
  | .fail error, handler => handler error
  | .action label update next, handler => .action label update fun state => (next state).handle handler

instance : Monad (Program Label State Error) where
  pure := .done
  bind := bind

instance : MonadExceptOf Error (Program Label State Error) where
  throw := .fail
  tryCatch := handle

variable (label : Label) (value : Result) (program : Program Label State Error Result)
  (handler : Error → Program Label State Error Result) (state : State)

theorem tryCatch_pure :
    tryCatch (pure value : Program Label State Error Result) handler = pure value := rfl

theorem bind_done : program.bind .done = program := by
  induction program with
  | done value => rfl
  | fail error => rfl
  | action label update next ih => simp only [bind, ih]

theorem bind_bind
    (first : Result → Program Label State Error Other) (second : Other → Program Label State Error Last) :
    (program.bind first).bind second = program.bind fun value => (first value).bind second := by
  induction program with
  | done value => rfl
  | fail error => rfl
  | action label update next ih => simp only [bind, ih]

instance : LawfulMonad (Program Label State Error) :=
  LawfulMonad.mk' _ bind_done (fun _ _ => rfl) bind_bind

/-- One action evaluates a fallible function of the state and changes the state. -/
def transact (label : Label) (body : State → Except Error Result × State) :
    Program Label State Error Result :=
  .action label (fun state => (body state).2) fun state =>
    match (body state).1 with
    | .ok value => .done value
    | .error error => .fail error

/-- A read leaves the state unchanged. -/
def read (label : Label) (body : State → Except Error Result) :
    Program Label State Error Result :=
  transact label fun state => (body state, state)

/-- A write cannot fail. -/
def write (label : Label) (update : State → State) : Program Label State Error Unit :=
  transact label fun state => (.ok (), update state)

/-- A computation without an action. -/
def lift (value : Except Error Result) : Program Label State Error Result :=
  match value with
  | .ok value => .done value
  | .error error => .fail error

/-- The program runs alone from the given state. -/
def run : Program Label State Error Result → State → Except Error Result × State
  | .done value, state => (.ok value, state)
  | .fail error, state => (.error error, state)
  | .action _ update next, state => (next state).run (update state)

/-- A caller renames the labels of the program that it calls. -/
def relabel (rename : Name → Label) : Program Name State Error Result →
    Program Label State Error Result
  | .done value => .done value
  | .fail error => .fail error
  | .action label update next => .action (rename label) update fun state =>
    (next state).relabel rename

/-- The program acts on one part of a larger state. -/
def zoom (view : State → Inner) (replace : Inner → State → State) :
    Program Label Inner Error Result → Program Label State Error Result
  | .done value => .done value
  | .fail error => .fail error
  | .action label update next => .action label (fun state => replace (update (view state)) state)
      fun state => (next (view state)).zoom view replace

@[simp] theorem run_pure :
    (pure value : Program Label State Error Result).run state = (.ok value, state) := rfl

@[simp] theorem run_throw (error : Error) (state : State) :
    (throw error : Program Label State Error Result).run state = (.error error, state) := rfl

@[simp] theorem run_transact (body : State → Except Error Result × State)
    (state : State) : (transact label body).run state = body state := by
  simp only [transact, run]
  rcases body state with ⟨_ | _, _⟩ <;> rfl

@[simp] theorem run_read (body : State → Except Error Result) (state : State) :
    (read label body).run state = (body state, state) := by
  simp [read]

@[simp] theorem run_write (update : State → State) (state : State) :
    (@write Label State Error label update).run state = (.ok (), update state) := by
  simp [write]

@[simp] theorem run_lift (value : Except Error Result) (state : State) :
    (lift value : Program Label State Error Result).run state = (value, state) := by
  cases value <;> rfl

/-- A sequence runs its second part only after a value of its first part. -/
theorem run_bind (rest : Result → Program Label State Error Other) (state : State) :
    (program >>= rest).run state =
      match program.run state with
      | (.ok value, after) => (rest value).run after
      | (.error error, after) => (.error error, after) := by
  change (program.bind rest).run state = _
  induction program generalizing state with
  | done value => rfl
  | fail error => rfl
  | action label update next ih => simp only [bind, run, ih]

theorem run_bind_ok {program : Program Label State Error Result}
    {rest : Result → Program Label State Error Other} {state after : State} {value : Result}
    (reached : program.run state = (.ok value, after)) :
    (program >>= rest).run state = (rest value).run after := by
  rw [run_bind, reached]

theorem run_bind_error {program : Program Label State Error Result}
    {rest : Result → Program Label State Error Other} {state after : State} {error : Error}
    (reached : program.run state = (.error error, after)) :
    (program >>= rest).run state = (.error error, after) := by
  rw [run_bind, reached]

/-- A handler sees the state that the failed program left. -/
theorem run_tryCatch : (tryCatch program handler).run state =
      match program.run state with
      | (.ok value, after) => (.ok value, after)
      | (.error error, after) => (handler error).run after := by
  change (program.handle handler).run state = _
  induction program generalizing state with
  | done value => rfl
  | fail error => rfl
  | action label update next ih => simp only [handle, run, ih]

end Program
end Interleaving
