import KSlide.Interleaving.Crash
import Mathlib.Logic.Relation

/-
This file gives the proof rules for programs whose actions other programs can interrupt.
-/

namespace Interleaving
open Relation

/-- A discipline bounds the actions of a program and the changes between its actions. -/
structure Discipline (Label State : Type) where
  invariant : State → Prop
  rely : State → State → Prop
  guarantee : Label → State → State → Prop
  allowed : Label → State → Prop
  idle : ∀ label state, guarantee label state state

namespace Discipline
variable {Label Name State : Type}

/-- No other program acts, and every intermediate state keeps the invariant. -/
def alone (invariant : State → Prop) : Discipline Label State where
  invariant := invariant
  rely _ _ := False
  guarantee _ _ _ := True
  allowed _ _ := True
  idle _ _ := trivial

/-- Nothing happens between the actions of the program, and each of them is allowed. -/
structure Solo (discipline : Discipline Label State) : Prop where
  quiet : ∀ before after, ¬discipline.rely before after
  free : ∀ label state, discipline.allowed label state

theorem alone_solo (invariant : State → Prop) :
    (alone invariant : Discipline Label State).Solo :=
  ⟨fun _ _ impossible => impossible, fun _ _ => trivial⟩

end Discipline

namespace Program
variable {Label Name State Error Result Other : Type}
variable {discipline : Discipline Label State}

/-- Each action keeps the discipline, and the program ends in an expected state. -/
def Meets (discipline : Discipline Label State) (post : Result → State → Prop)
    (raised : Error → State → Prop) : Program Label State Error Result → State → Prop
  | .done value, state => post value state
  | .fail error, state => raised error state
  | .action label update next, state => ∀ current, ReflTransGen discipline.rely state current →
      discipline.invariant current → discipline.allowed label current →
      discipline.invariant (update current) ∧
      discipline.guarantee label current (update current) ∧
      (next current).Meets discipline post raised (update current)

section
variable {post weaker : Result → State → Prop} {raised laxer : Error → State → Prop}

variable {label : Label} {program : Program Label State Error Result}

theorem meets_mono {state : State} (meets : program.Meets discipline post raised state)
    (value : ∀ value state, post value state → weaker value state)
    (error : ∀ error state, raised error state → laxer error state) :
    program.Meets discipline weaker laxer state := by
  induction program generalizing state with
  | done result => exact value _ _ meets
  | fail failure => exact error _ _ meets
  | action label update next ih =>
    intro current reached kept permitted
    obtain ⟨after, step, rest⟩ := meets current reached kept permitted
    exact ⟨after, step, ih current rest⟩

@[simp] theorem meets_pure (value : Result) (state : State) :
    (pure value : Program Label State Error Result).Meets discipline post raised state ↔
      post value state := Iff.rfl

@[simp] theorem meets_lift (value : Except Error Result) (state : State) :
    (lift value : Program Label State Error Result).Meets discipline post raised state ↔
      match value with
      | .ok value => post value state
      | .error error => raised error state := by
  cases value <;> rfl

/-- The second part starts in a state that the first part promises. -/
theorem meets_bind {rest : Result → Program Label State Error Other} {last : Other → State → Prop}
    {state : State} (first : program.Meets discipline post raised state)
    (second : ∀ value state, post value state →
      (rest value).Meets discipline last raised state) :
    (program >>= rest).Meets discipline last raised state := by
  change (program.bind rest).Meets discipline last raised state
  induction program generalizing state with
  | done value => exact second _ _ first
  | fail error => exact first
  | action label update next ih =>
    intro current reached kept permitted
    obtain ⟨after, step, meets⟩ := first current reached kept permitted
    exact ⟨after, step, ih current meets⟩

/-- A computation without an action answers for its value and its error. -/
theorem meets_lift_bind {value : Except Error Result}
    {rest : Result → Program Label State Error Other} {last : Other → State → Prop}
    {state : State} (found : ∀ result, value = .ok result →
      (rest result).Meets discipline last raised state)
    (failed : ∀ error, value = .error error → raised error state) :
    (lift value >>= rest).Meets discipline last raised state := by
  cases value with
  | ok result => exact found result rfl
  | error error => exact failed error rfl

/-- The handler starts in a state that the failed program promises. -/
theorem meets_tryCatch {handler : Error → Program Label State Error Result} {state : State}
    (first : program.Meets discipline post raised state)
    (second : ∀ error state, raised error state →
      (handler error).Meets discipline post laxer state) :
    (tryCatch program handler).Meets discipline post laxer state := by
  change (program.handle handler).Meets discipline post laxer state
  induction program generalizing state with
  | done value => exact first
  | fail error => exact second _ _ first
  | action label update next ih =>
    intro current reached kept permitted
    obtain ⟨after, step, meets⟩ := first current reached kept permitted
    exact ⟨after, step, ih current meets⟩

/-- One action answers for the state that it finds. -/
theorem meets_transact {body : State → Except Error Result × State} {state : State}
    (body_meets : ∀ current, ReflTransGen discipline.rely state current →
      discipline.invariant current → discipline.allowed label current →
      discipline.invariant (body current).2 ∧ discipline.guarantee label current (body current).2 ∧
      match (body current).1 with
      | .ok value => post value (body current).2
      | .error error => raised error (body current).2) :
    (transact label body).Meets discipline post raised state := by
  intro current reached kept permitted
  obtain ⟨after, step, ends⟩ := body_meets current reached kept permitted
  refine ⟨after, step, ?_⟩
  cases result : (body current).1 <;> simp only [result] at ends ⊢ <;> exact ends

/-- A read answers for the state that it finds and changes nothing. -/
theorem meets_read {body : State → Except Error Result} {state : State}
    (body_meets : ∀ current, ReflTransGen discipline.rely state current →
      discipline.invariant current → discipline.allowed label current →
      match body current with
      | .ok value => post value current
      | .error error => raised error current) :
    (read label body).Meets discipline post raised state :=
  meets_transact fun current reached kept permitted =>
    ⟨kept, discipline.idle label current, body_meets current reached kept permitted⟩

end

section
variable {post : Result → State → Prop} {raised : Error → State → Prop}

theorem solo_unchanged (solo : discipline.Solo) {state current : State}
    (reached : ReflTransGen discipline.rely state current) : current = state := by
  induction reached with
  | refl => rfl
  | tail _ step _ => exact (solo.quiet _ _ step).elim

/-- A program that runs alone answers for the states that it makes itself. -/
theorem meets_transact_solo (solo : discipline.Solo) {label : Label}
    {body : State → Except Error Result × State} {state : State}
    (kept : discipline.invariant (body state).2)
    (guaranteed : discipline.guarantee label state (body state).2)
    (ends : match (body state).1 with
      | .ok value => post value (body state).2
      | .error error => raised error (body state).2) :
    (transact label body).Meets discipline post raised state := by
  refine meets_transact fun current reached _ _ => ?_
  cases solo_unchanged solo reached
  exact ⟨kept, guaranteed, ends⟩

/-- A program that runs alone reads the state that it left. -/
theorem meets_read_bind_solo (solo : discipline.Solo) {label : Label}
    {body : State → Except Error Other} {rest : Other → Program Label State Error Result}
    {state : State} (found : ∀ value, body state = .ok value →
      (rest value).Meets discipline post raised state)
    (failed : ∀ error, body state = .error error → raised error state) :
    (read label body >>= rest).Meets discipline post raised state := by
  refine @meets_bind _ _ _ _ _ _ (fun value after => after = state ∧ body state = .ok value)
    _ _ _ _ _ ?_ ?_
  · refine meets_read fun current reached _ _ => ?_
    cases solo_unchanged solo reached
    cases same : body state with
    | ok value => exact ⟨rfl, rfl⟩
    | error error => exact failed error same
  · rintro value after ⟨rfl, same⟩
    exact found value same

/-- A program that runs alone goes on from the state that it wrote. -/
theorem meets_write_bind_solo (solo : discipline.Solo) {label : Label} {update : State → State}
    {rest : Unit → Program Label State Error Result} {state : State}
    (kept : discipline.invariant (update state))
    (guaranteed : discipline.guarantee label state (update state))
    (later : (rest ()).Meets discipline post raised (update state)) :
    (write label update >>= rest).Meets discipline post raised state := by
  intro current reached _ _
  cases solo_unchanged solo reached
  exact ⟨kept, guaranteed, later⟩

variable {program : Program Label State Error Result} {state : State}

/-- A program that runs alone ends as its proof promises. -/
theorem Meets.run (meets : program.Meets discipline post raised state) (solo : discipline.Solo)
    (start : discipline.invariant state) :
    discipline.invariant (program.run state).2 ∧
      match (program.run state).1 with
      | .ok value => post value (program.run state).2
      | .error error => raised error (program.run state).2 := by
  induction program generalizing state with
  | done value => exact ⟨start, meets⟩
  | fail error => exact ⟨start, meets⟩
  | action label update next ih =>
    obtain ⟨after, _, rest⟩ := meets state .refl start (solo.free label state)
    exact ih state rest after

/-- A program that runs alone ends with the value and the state of its run. -/
theorem Meets.reached
    (meets : program.Meets discipline post raised state) (solo : discipline.Solo) :
    program.Meets discipline
      (fun value after => program.run state = (.ok value, after) ∧ post value after) raised
      state := by
  induction program generalizing state with
  | done value => exact ⟨rfl, meets⟩
  | fail error => exact meets
  | action label update next ih =>
    intro current reached kept permitted
    cases solo_unchanged solo reached
    obtain ⟨after, step, rest⟩ := meets state reached kept permitted
    exact ⟨after, step, ih state rest⟩

/-- A crash of a program that runs alone leaves the invariant. -/
theorem Meets.crashes {state left : State}
    (meets : program.Meets discipline post raised state) (solo : discipline.Solo)
    (start : discipline.invariant state) (crashed : program.Crashes state left) :
    discipline.invariant left := by
  induction program generalizing state with
  | done value => rwa [show left = state from crashed]
  | fail error => rwa [show left = state from crashed]
  | action label update next ih =>
    rcases crashed with same | crashed
    · rwa [same]
    · obtain ⟨after, _, rest⟩ := meets state .refl start (solo.free label state)
      exact ih state rest after crashed

/-- Every action of the program keeps the condition. -/
def Preserves (kept : State → Prop) : Program Label State Error Result → Prop
  | .done _ => True
  | .fail _ => True
  | .action _ update next =>
    (∀ state, kept state → kept (update state)) ∧ ∀ state, (next state).Preserves kept

section
variable {kept : State → Prop}

theorem preserves_transact {label : Label} {body : State → Except Error Result × State}
    (steps : ∀ state, kept state → kept (body state).2) : (transact label body).Preserves kept := by
  refine ⟨steps, fun state => ?_⟩
  dsimp only
  cases (body state).1 <;> trivial

theorem preserves_read (label : Label) (body : State → Except Error Result) :
    (read label body).Preserves kept := preserves_transact fun _ => id

theorem preserves_bind {program : Program Label State Error Result}
    {rest : Result → Program Label State Error Other} (first : program.Preserves kept)
    (second : ∀ value, (rest value).Preserves kept) : (program >>= rest).Preserves kept := by
  change (program.bind rest).Preserves kept
  induction program with
  | done value => exact second value
  | fail error => trivial
  | action label update next ih => exact ⟨first.1, fun state => ih state (first.2 state)⟩

/-- A program on one part of the state keeps what does not depend on the part. -/
theorem preserves_zoom {Inner : Type} {view : State → Inner} {replace : Inner → State → State}
    (frame : ∀ inner state, kept state → kept (replace inner state))
    (program : Program Label Inner Error Result) :
    (program.zoom view replace).Preserves kept := by
  induction program with
  | done value => trivial
  | fail error => trivial
  | action label update next ih =>
    exact ⟨fun state => frame _ state, fun state => ih (view state)⟩

theorem preserves_relabel {rename : Name → Label} {program : Program Name State Error Result}
    (preserves : program.Preserves kept) :
    (program.relabel rename : Program Label State Error Result).Preserves kept := by
  induction program with
  | done value => trivial
  | fail error => trivial
  | action label update next ih =>
    exact ⟨preserves.1, fun state => ih state (preserves.2 state)⟩

/-- A kept condition holds at the end of the program and gives its invariant. -/
theorem preserves_meets {invariant : State → Prop} {program : Program Label State Error Result}
    {state : State} (preserves : program.Preserves kept)
    (enough : ∀ state, kept state → invariant state) (start : kept state) :
    program.Meets (.alone invariant) (fun _ => kept) (fun _ => kept) state := by
  induction program generalizing state with
  | done value => exact start
  | fail error => exact start
  | action label update next ih =>
    intro current reached _ _
    cases solo_unchanged (Discipline.alone_solo invariant) reached
    have after := preserves.1 state start
    exact ⟨enough _ after, trivial, ih state (preserves.2 state) after⟩

end

/-- A program that runs alone keeps the invariant after each of its actions. -/
abbrev Keeps (invariant : State → Prop) (program : Program Label State Error Result)
    (state : State) : Prop :=
  program.Meets (.alone invariant) (fun _ _ => True) (fun _ _ => True) state

theorem Keeps.crashes {invariant : State → Prop} {program : Program Label State Error Result}
    {state left : State} (keeps : program.Keeps invariant state) (start : invariant state)
    (crashed : program.Crashes state left) : invariant left :=
  Meets.crashes keeps (Discipline.alone_solo invariant) start crashed

theorem keeps_bind {invariant : State → Prop} {post : Result → State → Prop}
    {program : Program Label State Error Result} {rest : Result → Program Label State Error Other}
    {state : State} (first : program.Meets (.alone invariant) post (fun _ _ => True) state)
    (second : ∀ value state, post value state → (rest value).Keeps invariant state) :
    (program >>= rest).Keeps invariant state := meets_bind first second

end

end Program
end Interleaving
