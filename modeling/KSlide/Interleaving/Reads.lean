import KSlide.Interleaving.Logged

/-
This file gives the part of a program that remains after its reads.
-/

namespace Interleaving.Program
open Relation
variable {Label State Error Result Other : Type} {quiet : Label → Prop}

/-- The program reaches the rest by quiet actions that leave the state as it is. -/
inductive Reads (quiet : Label → Prop) :
    Program Label State Error Result → State → Program Label State Error Result → Prop
  | here (program : Program Label State Error Result) (state : State) :
      Reads quiet program state program
  | action {label : Label} {update : State → State}
      {next : State → Program Label State Error Result} {state : State}
      {rest : Program Label State Error Result} (silent : quiet label)
      (unchanged : update state = state) (later : Reads quiet (next state) state rest) :
      Reads quiet (.action label update next) state rest

theorem reads_trans {first second third : Program Label State Error Result} {state : State}
    (before : Reads quiet first state second) (after : Reads quiet second state third) :
    Reads quiet first state third := by
  induction before with
  | here program state => exact after
  | action silent unchanged later ih => exact .action silent unchanged (ih after)

variable {program rest : Program Label State Error Result} {label : Label}
  {body : State → Except Error Result} {state : State}

/-- An action that changes nothing here is a read here. -/
theorem reads_transact {body : State → Except Error Result × State} {state : State}
    (silent : quiet label) (unchanged : (body state).2 = state) :
    Reads quiet (transact label body) state (lift (body state).1) := by
  refine .action silent unchanged ?_
  cases (body state).1 <;> exact .here _ _

theorem reads_read (silent : quiet label) (body : State → Except Error Result)
    (state : State) : Reads quiet (read label body) state (lift (body state)) :=
  reads_transact silent rfl

/-- The first part of a sequence reads before its second part starts. -/
theorem reads_bind {first rest : Program Label State Error Result} {state : State}
    (reads : Reads quiet first state rest) (second : Result → Program Label State Error Other) :
    Reads quiet (first >>= second) state (rest >>= second) := by
  induction reads with
  | here program state => exact .here _ _
  | action silent unchanged later ih => exact .action silent unchanged ih

theorem reads_read_bind {value : Result} (silent : quiet label) (found : body state = .ok value)
    (second : Result → Program Label State Error Other) :
    Reads quiet (read label body >>= second) state (second value) := by
  have reads := reads_bind (reads_read silent body state) second
  rwa [found] at reads

theorem reads_read_error {error : Error} (silent : quiet label) (failed : body state = .error error)
    (second : Result → Program Label State Error Other) :
    Reads quiet (read label body >>= second) state (throw error) := by
  have reads := reads_bind (reads_read silent body state) second
  rwa [failed] at reads

theorem reads_run
    (reads : Reads quiet program state rest) : program.run state = rest.run state := by
  induction reads with
  | here program state => rfl
  | action silent unchanged later ih => rw [← ih, run, unchanged]

theorem reads_crashes {state left : State} (reads : Reads quiet program state rest) :
    program.Crashes state left ↔ rest.Crashes state left := by
  induction reads with
  | here program state => exact Iff.rfl
  | action silent unchanged later ih =>
    rw [← ih, Crashes, unchanged]
    constructor
    · rintro (rfl | crashed)
      · exact crashes_start _ _
      · exact crashed
    · exact Or.inr

theorem reads_performs
    {state before after : State} {label : Label} (reads : Reads quiet program state rest)
    (performed : program.Performs state label before after) :
    quiet label ∨ rest.Performs state label before after := by
  induction reads with
  | here program state => exact Or.inr performed
  | action silent unchanged later ih =>
    rcases performed with ⟨rfl, -, -⟩ | performed
    · exact Or.inl silent
    · rw [unchanged] at performed
      exact ih performed

/-- The reads of a program that runs alone keep every discipline. -/
theorem reads_meets {discipline : Discipline Label State} {post : Result → State → Prop}
    {raised : Error → State → Prop} {program rest : Program Label State Error Result}
    {state : State} (reads : Reads quiet program state rest) (solo : discipline.Solo)
    (meets : rest.Meets discipline post raised state) :
    program.Meets discipline post raised state := by
  induction reads with
  | here program state => exact meets
  | action silent unchanged later ih =>
    intro current reached kept permitted
    cases solo_unchanged solo reached
    rw [unchanged]
    exact ⟨kept, discipline.idle _ _, ih meets⟩

/-- Every action of the program is a read. -/
def Still : Program Label State Error Result → Prop
  | .done _ => True
  | .fail _ => True
  | .action _ update next => update = id ∧ ∀ state, (next state).Still

section

theorem still_pure (value : Result) : (pure value : Program Label State Error Result).Still := trivial

theorem still_lift (value : Except Error Result) :
    (lift value : Program Label State Error Result).Still := by
  cases value <;> trivial

theorem still_read (label : Label) (body : State → Except Error Result) :
    (read label body).Still := by
  refine ⟨rfl, fun state => ?_⟩
  dsimp only
  cases body state <;> trivial

variable {program : Program Label State Error Result}
  {rest : Result → Program Label State Error Other}

theorem still_bind (first : program.Still)
    (second : ∀ value, (rest value).Still) : (program >>= rest).Still := by
  change (program.bind rest).Still
  induction program with
  | done value => exact second value
  | fail error => trivial
  | action label update next ih => exact ⟨first.1, fun state => ih state (first.2 state)⟩

theorem still_tryCatch {handler : Error → Program Label State Error Result} (first : program.Still)
    (second : ∀ error, (handler error).Still) : (tryCatch program handler).Still := by
  change (program.handle handler).Still
  induction program with
  | done value => trivial
  | fail error => exact second error
  | action label update next ih => exact ⟨first.1, fun state => ih state (first.2 state)⟩

/-- A loop of reads is a read. -/
theorem still_foldlM {Item : Type} {step : Result → Item → Program Label State Error Result}
    (each : ∀ carry item, (step carry item).Still) (items : List Item) (carry : Result) :
    (items.foldlM step carry).Still := by
  induction items generalizing carry with
  | nil => exact still_pure carry
  | cons item items ih =>
    rw [List.foldlM_cons]
    exact still_bind (each carry item) ih

/-- A program of reads leaves the state as it is. -/
theorem Still.run (still : program.Still) (state : State) : (program.run state).2 = state := by
  induction program with
  | done value => rfl
  | fail error => rfl
  | action label update next ih =>
    rw [Program.run, still.1]
    exact ih state (still.2 state)

theorem Still.crashes (still : program.Still)
    {state left : State} (crashed : program.Crashes state left) : left = state := by
  induction program with
  | done value => exact crashed
  | fail error => exact crashed
  | action label update next ih =>
    rcases crashed with same | later
    · exact same
    · rw [still.1] at later
      exact ih state (still.2 state) later

/-- A sequence ends with a value when both of its parts do. -/
theorem run_bind_value {state after : State} {value : Other} :
    (program >>= rest).run state = (.ok value, after) ↔ ∃ middle between,
      program.run state = (.ok middle, between) ∧ (rest middle).run between = (.ok value, after) := by
  rw [run_bind]
  rcases program.run state with ⟨error | middle, between⟩
  · simp
  · constructor
    · intro reached
      exact ⟨middle, between, rfl, reached⟩
    · rintro ⟨_, _, same, reached⟩
      cases same
      exact reached

end

end Interleaving.Program
