import KSlide.Interleaving.Reads
import Mathlib.Data.Set.Basic

/-
This file gives parties that hold locks while they act on one state, and a reader without a lock.
-/

namespace Interleaving
open Relation Function Program

/-- The holder of a lock relies on what the lock protects, and every action promises to grow. -/
structure Locking (Lock Label State : Type) where
  acquires : Label → Option Lock
  releases : Label → Option Lock
  protects : Lock → State → State → Prop
  grows : State → State → Prop
  protects_refl : ∀ lock state, protects lock state state
  protects_trans : ∀ lock first second third,
    protects lock first second → protects lock second third → protects lock first third
  grows_refl : ∀ state, grows state state
  grows_trans : ∀ first second third, grows first second → grows second third → grows first third

/-- A party holds locks while it runs the rest of its call. -/
structure Party (Lock Label State Error Result : Type) where
  rest : Program Label State Error Result
  held : Set Lock

/-- The parties share one state. -/
abbrev Config (Lock Label State Error Result : Type) : Type :=
  (Nat → Party Lock Label State Error Result) × State

variable {Lock Label State Error Result Other Tag : Type}

/-- The locks that are held after an action. -/
def Locking.after (locking : Locking Lock Label State) (label : Label) (held : Set Lock) : Set Lock :=
  {lock | (lock ∈ held ∨ locking.acquires label = some lock) ∧ locking.releases label ≠ some lock}

/-- A party begins a call or takes its next action. A call that it left before the end has crashed,
and the locks of that call are free. -/
inductive Locking.Step (locking : Locking Lock Label State)
    (programs : Tag → Program Label State Error Result) :
    Config Lock Label State Error Result → Config Lock Label State Error Result → Prop
  | call (config : Config Lock Label State Error Result) (id : Nat) (tag : Tag) :
      Step locking programs config (update config.1 id ⟨programs tag, ∅⟩, config.2)
  | act (config : Config Lock Label State Error Result) (id : Nat) (label : Label)
      (change : State → State) (next : State → Program Label State Error Result)
      (held : Set Lock) (running : config.1 id = ⟨.action label change next, held⟩)
      (permitted : ∀ lock, locking.acquires label = some lock →
        ∀ other, lock ∉ (config.1 other).held) :
      Step locking programs config
        (update config.1 id ⟨next config.2, locking.after label held⟩, change config.2)

/-- A run starts before the first call of each party. -/
def Locking.Reaches (locking : Locking Lock Label State)
    (programs : Tag → Program Label State Error Result) (start : State)
    (config : Config Lock Label State Error Result) : Prop :=
  ∃ tags : Nat → Tag, ReflTransGen (locking.Step programs)
    (fun id => ⟨programs (tags id), ∅⟩, start) config

/-- A program without locks takes its actions between the steps of the parties, and the moments are
the states that pass until it returns. -/
inductive Locking.Watches (locking : Locking Lock Label State)
    (programs : Tag → Program Label State Error Result) {Cause : Type} :
    Program Label State Cause Other → Config Lock Label State Error Result → List State →
    Other → Prop
  | done (value : Other) (config : Config Lock Label State Error Result) :
      Watches locking programs (.done value) config [config.2] value
  | wait {program : Program Label State Cause Other}
      {config next : Config Lock Label State Error Result} {moments : List State} {value : Other}
      (step : locking.Step programs config next)
      (later : Watches locking programs program next moments value) :
      Watches locking programs program config (config.2 :: moments) value
  | act {label : Label} {change : State → State} {next : State → Program Label State Cause Other}
      {config : Config Lock Label State Error Result} {moments : List State} {value : Other}
      (later : Watches locking programs (next config.2) (config.1, change config.2) moments value) :
      Watches locking programs (.action label change next) config (config.2 :: moments) value

namespace Program

/-- Each action keeps its promise and what the locks of others protect, if nobody touches what the
locks of this party protect. -/
def Guarded (locking : Locking Lock Label State)
    (post : Except Error Result → Set Lock → State → Prop) :
    Program Label State Error Result → Set Lock → State → Prop
  | .done value, held, state => post (.ok value) held state
  | .fail error, held, state => post (.error error) held state
  | .action label change next, held, state => ∀ current,
      (∀ lock ∈ held, locking.protects lock state current) →
      (∀ lock, locking.acquires label = some lock → lock ∉ held) →
      locking.grows current (change current) ∧
      (∀ lock, lock ∉ held → locking.protects lock current (change current)) ∧
      (next current).Guarded locking post (locking.after label held) (change current)

section
variable {locking : Locking Lock Label State} {program : Program Label State Error Result}
variable {post weaker : Except Error Result → Set Lock → State → Prop}
variable {held : Set Lock} {state : State}

theorem guarded_mono (guarded : program.Guarded locking post held state)
    (weaken : ∀ result held state, post result held state → weaker result held state) :
    program.Guarded locking weaker held state := by
  induction program generalizing held state with
  | done value => exact weaken _ _ _ guarded
  | fail error => exact weaken _ _ _ guarded
  | action label change next ih =>
    intro current kept fresh
    obtain ⟨grows, apart, rest⟩ := guarded current kept fresh
    exact ⟨grows, apart, ih current rest⟩

theorem guarded_bind {rest : Result → Program Label State Error Other}
    {last : Except Error Other → Set Lock → State → Prop}
    (guarded : program.Guarded locking (fun result held state => match result with
      | .ok value => (rest value).Guarded locking last held state
      | .error error => last (.error error) held state) held state) :
    (program >>= rest).Guarded locking last held state := by
  change (program.bind rest).Guarded locking last held state
  induction program generalizing held state with
  | done value => exact guarded
  | fail error => exact guarded
  | action label change next ih =>
    intro current kept fresh
    obtain ⟨grows, apart, later⟩ := guarded current kept fresh
    exact ⟨grows, apart, ih current later⟩

theorem guarded_tryCatch {handler : Error → Program Label State Error Result}
    (guarded : program.Guarded locking (fun result held state => match result with
      | .ok value => post (.ok value) held state
      | .error error => (handler error).Guarded locking post held state) held state) :
    (tryCatch program handler).Guarded locking post held state := by
  change (program.handle handler).Guarded locking post held state
  induction program generalizing held state with
  | done value => exact guarded
  | fail error => exact guarded
  | action label change next ih =>
    intro current kept fresh
    obtain ⟨grows, apart, later⟩ := guarded current kept fresh
    exact ⟨grows, apart, ih current later⟩

end

/-- A calm program keeps its promise under any locks and ends with the locks that it had. -/
def Calm (locking : Locking Lock Label State) (program : Program Label State Error Result) : Prop :=
  ∀ held state, program.Guarded locking (fun _ after _ => after = held) held state

section
variable {locking : Locking Lock Label State} {program : Program Label State Error Result}

theorem calm_pure (value : Result) :
    (pure value : Program Label State Error Result).Calm locking := fun _ _ => rfl

theorem calm_lift (value : Except Error Result) :
    (lift value : Program Label State Error Result).Calm locking := by
  intro held state
  cases value <;> rfl

theorem calm_bind {rest : Result → Program Label State Error Other} (first : program.Calm locking)
    (second : ∀ value, (rest value).Calm locking) : (program >>= rest).Calm locking := by
  intro held state
  refine guarded_bind (guarded_mono (first held state) ?_)
  rintro (error | value) after state rfl
  · rfl
  · exact second value after state

theorem calm_foldlM {Item : Type} {step : Result → Item → Program Label State Error Result}
    (each : ∀ carry item, (step carry item).Calm locking) (items : List Item) (carry : Result) :
    (items.foldlM step carry).Calm locking := by
  induction items generalizing carry with
  | nil => exact calm_pure carry
  | cons item items ih =>
    rw [List.foldlM_cons]
    exact calm_bind (each carry item) ih

end

/-- The program returns the value when it reads later and later states of a growing sequence. -/
def Sees (during : State → Prop) (grows : State → State → Prop) :
    Program Label State Error Result → State → Result → Prop
  | .done value, _, result => value = result
  | .fail _, _, _ => False
  | .action _ change next, state, result => ∃ current, during current ∧ grows state current ∧
      (next current).Sees during grows (change current) result

section
variable {during : State → Prop} {grows : State → State → Prop}
variable {program : Program Label State Error Result} {state : State} {result : Result}

theorem sees_mono {always : State → Prop} (weaken : ∀ state, during state → always state)
    (sees : program.Sees during grows state result) : program.Sees always grows state result := by
  induction program generalizing state with
  | done value => exact sees
  | fail error => exact sees
  | action label change next ih =>
    obtain ⟨current, found, later, rest⟩ := sees
    exact ⟨current, weaken _ found, later, ih current rest⟩

theorem sees_bind {rest : Result → Program Label State Error Other} {value : Other}
    (sees : (program >>= rest).Sees during grows state value) :
    ∃ middle between, program.Sees during grows state middle ∧
      (rest middle).Sees during grows between value := by
  change (program.bind rest).Sees during grows state value at sees
  induction program generalizing state with
  | done middle => exact ⟨middle, state, rfl, sees⟩
  | fail error => exact sees.elim
  | action label change next ih =>
    obtain ⟨current, found, later, seen⟩ := sees
    obtain ⟨middle, between, first, second⟩ := ih current seen
    exact ⟨middle, between, ⟨current, found, later, first⟩, second⟩

/-- A handler that only raises does not return. -/
theorem sees_tryCatch {handler : Error → Program Label State Error Result}
    (raises : ∀ error, ∃ other, handler error = .fail other)
    (sees : (tryCatch program handler).Sees during grows state result) :
    program.Sees during grows state result := by
  change (program.handle handler).Sees during grows state result at sees
  induction program generalizing state with
  | done value => exact sees
  | fail error =>
    obtain ⟨other, same⟩ := raises error
    change (handler error).Sees during grows state result at sees
    rw [same] at sees
    exact sees
  | action label change next ih =>
    obtain ⟨current, found, later, seen⟩ := sees
    exact ⟨current, found, later, ih current seen⟩

end
end Program

namespace Locking
variable {locking : Locking Lock Label State} {programs : Tag → Program Label State Error Result}
variable {config next : Config Lock Label State Error Result} {state current : State}

/-- The rest of a party keeps its promise. -/
def Keeps (locking : Locking Lock Label State) (party : Party Lock Label State Error Result)
    (state : State) : Prop :=
  party.rest.Guarded locking (fun _ _ _ => True) party.held state

/-- Each party keeps its promise, and no two parties hold one lock. -/
structure Sound (locking : Locking Lock Label State)
    (config : Config Lock Label State Error Result) : Prop where
  keeps : ∀ id, locking.Keeps (config.1 id) config.2
  apart : ∀ id other, id ≠ other → ∀ lock ∈ (config.1 id).held, lock ∉ (config.1 other).held

/-- A party keeps its promise while nobody touches what its locks protect. -/
theorem keeps_rely {party : Party Lock Label State Error Result} (keeps : locking.Keeps party state)
    (kept : ∀ lock ∈ party.held, locking.protects lock state current) :
    locking.Keeps party current := by
  obtain ⟨rest, held⟩ := party
  cases rest with
  | done value => trivial
  | fail error => trivial
  | action label change next =>
    intro later reached fresh
    exact keeps later (fun lock owned => locking.protects_trans _ _ _ _ (kept lock owned)
      (reached lock owned)) fresh

/-- One party changes while the others keep what their locks protect. -/
theorem sound_update {id : Nat} {party : Party Lock Label State Error Result}
    (sound : locking.Sound config) (keeps : locking.Keeps party current)
    (others : ∀ other, other ≠ id →
      ∀ lock ∈ (config.1 other).held, locking.protects lock config.2 current)
    (apart : ∀ other, other ≠ id → ∀ lock ∈ party.held, lock ∉ (config.1 other).held) :
    locking.Sound (update config.1 id party, current) := by
  constructor
  · intro other
    by_cases same : other = id
    · subst same
      simpa only [update_self] using keeps
    · simpa only [update_of_ne same] using keeps_rely (sound.keeps other) (others other same)
  · intro first second different
    by_cases same : first = id
    · subst same
      simpa only [update_self, update_of_ne different.symm] using apart second different.symm
    · by_cases last : second = id
      · subst last
        simp only [update_self, update_of_ne same]
        exact fun lock owned taken => apart first same lock taken owned
      · simpa only [update_of_ne same, update_of_ne last] using sound.apart first second different

/-- A step keeps the parties sound, and the state grows. -/
theorem step_sound (calm : ∀ tag, (programs tag).Calm locking) (sound : locking.Sound config)
    (step : locking.Step programs config next) :
    locking.Sound next ∧ locking.grows config.2 next.2 := by
  cases step with
  | call id tag =>
    refine ⟨sound_update sound (guarded_mono (calm tag ∅ _) fun _ _ _ _ => trivial) ?_ ?_,
      locking.grows_refl _⟩
    · exact fun _ _ lock _ => locking.protects_refl lock _
    · exact fun _ _ _ owned => owned.elim
  | act id label change next held running permitted =>
    have keeps := sound.keeps id
    have alone := sound.apart id
    rw [running] at keeps alone
    obtain ⟨grows, apart, rest⟩ := keeps config.2 (fun lock _ => locking.protects_refl lock _)
      fun lock taken => by simpa [running] using permitted lock taken id
    refine ⟨sound_update sound rest ?_ ?_, grows⟩
    · intro other different lock owned
      exact apart lock fun taken => alone other different.symm lock taken owned
    · rintro other different lock ⟨owned | taken, -⟩
      · exact alone other different.symm lock owned
      · exact permitted lock taken other

theorem reaches_sound (calm : ∀ tag, (programs tag).Calm locking)
    (reached : locking.Reaches programs state config) : locking.Sound config := by
  obtain ⟨tags, reached⟩ := reached
  induction reached with
  | refl =>
    constructor
    · exact fun id => guarded_mono (calm (tags id) ∅ _) fun _ _ _ _ => trivial
    · exact fun _ _ _ _ owned => owned.elim
  | tail _ step ih => exact (step_sound calm ih step).1

/-- A program that nobody interrupts is watched, too. -/
theorem watches_run {Cause : Type} {program : Program Label State Cause Other} {value : Other}
    (parties : Nat → Party Lock Label State Error Result)
    (ran : (program.run state).1 = .ok value) :
    ∃ moments, locking.Watches programs program (parties, state) moments value := by
  induction program generalizing state with
  | done other =>
    cases ran
    exact ⟨_, .done value _⟩
  | fail error => cases ran
  | action label change next ih =>
    obtain ⟨moments, later⟩ := ih state ran
    exact ⟨_, .act later⟩

/-- A program that only reads sees a growing sequence of the moments. -/
theorem watches_sees {Cause : Type} (calm : ∀ tag, (programs tag).Calm locking)
    {program : Program Label State Cause Other} (still : program.Still) {moments : List State}
    {value : Other} (sound : locking.Sound config)
    (watches : locking.Watches programs program config moments value) :
    program.Sees (· ∈ moments) locking.grows config.2 value := by
  induction watches with
  | done value config => rfl
  | @wait program config next moments value step later ih =>
    obtain ⟨kept, grown⟩ := step_sound calm sound step
    have sees := sees_mono (fun _ => List.mem_cons_of_mem config.2) (ih still kept)
    cases program with
    | done value => exact sees
    | fail error => exact sees
    | action label change next =>
      obtain ⟨current, met, later, rest⟩ := sees
      exact ⟨current, met, locking.grows_trans _ _ _ grown later, rest⟩
  | @act label change next config moments value later ih =>
    obtain ⟨same, rest⟩ := still
    subst same
    exact ⟨config.2, List.mem_cons_self, locking.grows_refl _,
      sees_mono (fun _ => List.mem_cons_of_mem _) (ih (rest config.2) sound)⟩

end Locking
end Interleaving
