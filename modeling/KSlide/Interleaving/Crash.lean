import KSlide.Interleaving.Program

namespace Interleaving.Program
variable {Label State Error Result Other : Type}

/-- A crash leaves the state that some prefix of the actions reached. -/
def Crashes : Program Label State Error Result → State → State → Prop
  | .done _, state, left => left = state
  | .fail _, state, left => left = state
  | .action _ update next, state, left => left = state ∨ (next state).Crashes (update state) left

variable (label : Label) (program : Program Label State Error Result)

/-- A crash can come before the first action. -/
theorem crashes_start (state : State) : program.Crashes state state := by
  cases program with
  | done value => rfl
  | fail error => rfl
  | action label update next => exact Or.inl rfl

/-- A crash can come after the last action. -/
theorem crashes_run (state : State) : program.Crashes state (program.run state).2 := by
  induction program generalizing state with
  | done value => rfl
  | fail error => rfl
  | action label update next ih => exact Or.inr (ih state (update state))

@[simp] theorem crashes_pure (value : Result) (state left : State) :
    (pure value : Program Label State Error Result).Crashes state left ↔ left = state := Iff.rfl

@[simp] theorem crashes_throw (error : Error) (state left : State) :
    (throw error : Program Label State Error Result).Crashes state left ↔ left = state := Iff.rfl

@[simp] theorem crashes_transact (body : State → Except Error Result × State) (state left : State) :
    (transact label body).Crashes state left ↔ left = state ∨ left = (body state).2 := by
  simp only [transact, Crashes]
  cases (body state).1 <;> simp [Crashes]

@[simp] theorem crashes_read (body : State → Except Error Result) (state left : State) :
    (read label body).Crashes state left ↔ left = state := by
  simp [read]

@[simp] theorem crashes_write (update : State → State) (state left : State) :
    (@write Label State Error label update).Crashes state left ↔ left = state ∨ left = update state := by
  simp [write]

@[simp] theorem crashes_lift (value : Except Error Result) (state left : State) :
    (lift value : Program Label State Error Result).Crashes state left ↔ left = state := by
  cases value <;> rfl

/-- A crash of a sequence falls in its first part or after a value of its first part. -/
theorem crashes_bind (rest : Result → Program Label State Error Other) (state left : State) :
    (program >>= rest).Crashes state left ↔ program.Crashes state left ∨
      ∃ value after, program.run state = (.ok value, after) ∧
        (rest value).Crashes after left := by
  change (program.bind rest).Crashes state left ↔ _
  induction program generalizing state with
  | done value =>
    constructor
    · intro crashed
      exact Or.inr ⟨value, state, rfl, crashed⟩
    · rintro (same | ⟨_, _, reached, crashed⟩)
      · rw [show left = state from same]
        exact crashes_start _ _
      · cases reached
        exact crashed
  | fail error => simp [bind, Crashes, run]
  | action label update next ih => simp only [bind, Crashes, run, ih, or_assoc]

/-- A crash inside a handled program falls in the program or in its handler. -/
theorem crashes_tryCatch (handler : Error → Program Label State Error Result) (state left : State) :
    (tryCatch program handler).Crashes state left ↔ program.Crashes state left ∨
      ∃ error after, program.run state = (.error error, after) ∧
        (handler error).Crashes after left := by
  change (program.handle handler).Crashes state left ↔ _
  induction program generalizing state with
  | done value => simp [handle, Crashes, run]
  | fail error =>
    constructor
    · intro crashed
      exact Or.inr ⟨error, state, rfl, crashed⟩
    · rintro (same | ⟨_, _, reached, crashed⟩)
      · rw [show left = state from same]
        exact crashes_start _ _
      · cases reached
        exact crashed
  | action label update next ih => simp only [handle, Crashes, run, ih, or_assoc]

end Interleaving.Program
