import KSlide.Interleaving.Discipline

/-
This file gives pools of programs that act on one state in any order.
-/

namespace Interleaving
open Relation List

/-- One entry of a journal is an action with the states before and after it. -/
structure Entry (Label State : Type) where
  label : Label
  before : State
  after : State

/-- A thread records its own actions. -/
structure Thread (Tag Label State Error Result : Type) where
  tag : Tag
  rest : Program Label State Error Result
  journal : List (Entry Label State)

namespace Pool
variable {Tag Label State Error Result : Type}
variable {programs : Tag → Program Label State Error Result}
variable {allowed : Label → State → Prop}

/-- A new thread can start at any time, and any thread can take its next action. -/
inductive Step (programs : Tag → Program Label State Error Result)
    (allowed : Label → State → Prop) :
    List (Thread Tag Label State Error Result) × State →
    List (Thread Tag Label State Error Result) × State → Prop
  | spawn (pool : List (Thread Tag Label State Error Result)) (state : State) (tag : Tag) :
      Step programs allowed (pool, state) (pool ++ [⟨tag, programs tag, []⟩], state)
  | act (before after : List (Thread Tag Label State Error Result)) (state : State) (tag : Tag)
      (label : Label) (update : State → State)
      (next : State → Program Label State Error Result) (journal : List (Entry Label State))
      (permitted : allowed label state) :
      Step programs allowed
        (before ++ ⟨tag, .action label update next, journal⟩ :: after, state)
        (before ++ ⟨tag, next state, journal ++ [⟨label, state, update state⟩]⟩ :: after, update state)

/-- A run starts without threads. -/
def Reaches (programs : Tag → Program Label State Error Result)
    (allowed : Label → State → Prop) (start : State) :
    List (Thread Tag Label State Error Result) × State → Prop :=
  ReflTransGen (Step programs allowed) ([], start)

/-- The journal leads from the program of a thread to the rest of the thread. -/
def Follows : Program Label State Error Result → List (Entry Label State) →
    Program Label State Error Result → Prop
  | program, [], rest => rest = program
  | program, entry :: journal, rest => ∃ update next,
      program = .action entry.label update next ∧ entry.after = update entry.before ∧
      Follows (next entry.before) journal rest

theorem follows_append {program : Program Label State Error Result}
    {journal : List (Entry Label State)} {label : Label} {update : State → State}
    {next : State → Program Label State Error Result}
    (follows : Follows program journal (.action label update next)) (state : State) :
    Follows program (journal ++ [⟨label, state, update state⟩]) (next state) := by
  induction journal generalizing program with
  | nil => exact ⟨update, next, follows.symm, rfl, rfl⟩
  | cons entry journal ih =>
    obtain ⟨change, following, same, reached, follows⟩ := follows
    exact ⟨change, following, same, reached, ih follows⟩

section
variable {Other : Type} {journal : List (Entry Label State)} {result : Result} {label : Label}

theorem follows_done {value : Result}
    (follows : Follows (.done value : Program Label State Error Result) journal (.done result)) :
    journal = [] ∧ value = result := by
  cases journal with
  | nil => exact ⟨rfl, (Program.done.inj follows).symm⟩
  | cons entry journal =>
    obtain ⟨_, _, impossible, _⟩ := follows
    cases impossible

theorem follows_fail {error : Error}
    (follows : Follows (.fail error : Program Label State Error Result) journal (.done result)) :
    False := by
  cases journal with
  | nil => cases follows
  | cons entry journal =>
    obtain ⟨_, _, impossible, _⟩ := follows
    cases impossible

/-- A finished thread took the first action of its program and finished the rest. -/
theorem follows_transact_bind {body : State → Except Error Other × State}
    {rest : Other → Program Label State Error Result}
    (follows : Follows (Program.transact label body >>= rest) journal (.done result)) :
    ∃ before value tail, journal = ⟨label, before, (body before).2⟩ :: tail ∧
      (body before).1 = .ok value ∧ Follows (rest value) tail (.done result) := by
  cases journal with
  | nil => cases follows
  | cons entry journal =>
    obtain ⟨name, before, after⟩ := entry
    obtain ⟨update, next, program, after_eq, follows⟩ := follows
    obtain ⟨rfl, rfl, rfl⟩ := Program.action.inj program
    dsimp only at after_eq follows
    subst after_eq
    cases found : (body before).1 with
    | ok value =>
      rw [found] at follows
      exact ⟨before, value, journal, rfl, found, follows⟩
    | error error =>
      rw [found] at follows
      exact (follows_fail follows).elim

theorem follows_transact {body : State → Except Error Result × State}
    (follows : Follows (Program.transact label body) journal (.done result)) :
    ∃ before, journal = [⟨label, before, (body before).2⟩] ∧ (body before).1 = .ok result := by
  rw [← bind_pure (Program.transact label body)] at follows
  obtain ⟨before, value, tail, rfl, found, follows⟩ := follows_transact_bind follows
  obtain ⟨rfl, rfl⟩ := follows_done follows
  exact ⟨before, rfl, found⟩

end

theorem reaches_follows {start : State} {config : List (Thread Tag Label State Error Result) × State}
    (reached : Reaches programs allowed start config) :
    ∀ thread ∈ config.1, Follows (programs thread.tag) thread.journal thread.rest := by
  induction reached with
  | refl => simp
  | tail _ step ih =>
    cases step with
    | spawn pool state tag =>
      intro thread present
      rcases mem_append.mp present with present | present
      · exact ih thread present
      · obtain rfl := mem_singleton.mp present
        rfl
    | act before after state tag label update next journal permitted =>
      intro thread present
      simp only [mem_append, mem_cons] at present ih
      rcases present with present | rfl | present
      · exact ih thread (Or.inl present)
      · exact follows_append (ih _ (Or.inr (Or.inl rfl))) state
      · exact ih thread (Or.inr (Or.inr present))

section
variable {discipline : Discipline Label State}

/-- The rest of a thread keeps the discipline. -/
def Keeps (discipline : Discipline Label State) (program : Program Label State Error Result)
    (state : State) : Prop :=
  program.Meets discipline (fun _ _ => True) (fun _ _ => True) state

/-- An action of another thread keeps the promise of this thread. -/
theorem keeps_rely {program : Program Label State Error Result} {state current : State}
    (keeps : Keeps discipline program state) (change : discipline.rely state current) :
    Keeps discipline program current := by
  cases program with
  | done value => trivial
  | fail error => trivial
  | action label update next =>
    intro later reached
    exact keeps later (.head change reached)

theorem reaches_invariant {start : State} (initial : discipline.invariant start)
    (shared : ∀ label before after, discipline.guarantee label before after →
      discipline.rely before after)
    (threads : ∀ tag state, discipline.invariant state → Keeps discipline (programs tag) state)
    {config : List (Thread Tag Label State Error Result) × State}
    (reached : Reaches programs discipline.allowed start config) :
    discipline.invariant config.2 ∧ ∀ thread ∈ config.1, Keeps discipline thread.rest config.2 := by
  induction reached with
  | refl => exact ⟨initial, by simp⟩
  | tail _ step ih =>
    obtain ⟨kept, keeps⟩ := ih
    cases step with
    | spawn pool state tag =>
      refine ⟨kept, fun thread present => ?_⟩
      rcases mem_append.mp present with present | present
      · exact keeps thread present
      · obtain rfl := mem_singleton.mp present
        exact threads tag state kept
    | act before after state tag label update next journal permitted =>
      simp only [mem_append, mem_cons] at keeps
      obtain ⟨after_kept, change, rest⟩ :=
        keeps _ (Or.inr (Or.inl rfl)) state .refl kept permitted
      refine ⟨after_kept, fun thread present => ?_⟩
      simp only [mem_append, mem_cons] at present
      rcases present with present | rfl | present
      · exact keeps_rely (keeps thread (Or.inl present)) (shared _ _ _ change)
      · exact rest
      · exact keeps_rely (keeps thread (Or.inr (Or.inr present))) (shared _ _ _ change)

/-- A journal holds only changes that the discipline guarantees. -/
theorem reaches_journal {start : State} (initial : discipline.invariant start)
    (shared : ∀ label before after, discipline.guarantee label before after →
      discipline.rely before after)
    (threads : ∀ tag state, discipline.invariant state → Keeps discipline (programs tag) state)
    {config : List (Thread Tag Label State Error Result) × State}
    (reached : Reaches programs discipline.allowed start config) :
    ∀ thread ∈ config.1, ∀ entry ∈ thread.journal,
      discipline.guarantee entry.label entry.before entry.after := by
  induction reached with
  | refl => simp
  | tail reached step ih =>
    cases step with
    | spawn pool state tag =>
      intro thread present
      rcases mem_append.mp present with present | present
      · exact ih thread present
      · obtain rfl := mem_singleton.mp present
        simp
    | act before after state tag label update next journal permitted =>
      obtain ⟨kept, keeps⟩ := reaches_invariant initial shared threads reached
      simp only [mem_append, mem_cons] at keeps ih
      intro thread present
      simp only [mem_append, mem_cons] at present
      rcases present with present | rfl | present
      · exact ih thread (Or.inl present)
      · intro entry listed
        rcases mem_append.mp listed with listed | listed
        · exact ih _ (Or.inr (Or.inl rfl)) entry listed
        · obtain rfl := mem_singleton.mp listed
          exact (keeps _ (Or.inr (Or.inl rfl)) state .refl kept permitted).2.1
      · exact ih thread (Or.inr (Or.inr present))

/-- Each step of a run changes the state within the guarantee of some action. -/
theorem step_guarantee {start : State} (initial : discipline.invariant start)
    (shared : ∀ label before after, discipline.guarantee label before after →
      discipline.rely before after)
    (threads : ∀ tag state, discipline.invariant state → Keeps discipline (programs tag) state)
    {config next : List (Thread Tag Label State Error Result) × State}
    (reached : Reaches programs discipline.allowed start config)
    (step : Step programs discipline.allowed config next) :
    next.2 = config.2 ∨ ∃ label, discipline.guarantee label config.2 next.2 := by
  obtain ⟨kept, keeps⟩ := reaches_invariant initial shared threads reached
  cases step with
  | spawn pool state tag => exact Or.inl rfl
  | act before after state tag label update next journal permitted =>
    have present : (⟨tag, .action label update next, journal⟩ :
        Thread Tag Label State Error Result) ∈
        before ++ ⟨tag, .action label update next, journal⟩ :: after :=
      mem_append_right _ mem_cons_self
    exact Or.inr ⟨label, (keeps _ present state .refl kept permitted).2.1⟩

end

end Pool
end Interleaving
