import Mathlib.Data.List.Basic

/-
This file gives chains of parents that are followed until a node has no parent.
-/

namespace Ancestry
variable {Node Key : Type} (parent : Node → Option Key) (find : Key → Option Node)

/-- The parent of a node is looked up by its key. -/
def Parent (node previous : Node) : Prop := ∃ key, parent node = some key ∧ find key = some previous

/-- A node reaches itself and the ancestors of its parent. -/
inductive Ancestor : Node → Node → Prop
  | self (node : Node) : Ancestor node node
  | step {node previous other : Node} (edge : Parent parent find node previous)
      (rest : Ancestor previous other) : Ancestor node other

/-- A chain is followed while each parent is new, is found and passes a check. -/
inductive Followed (check : Node → Node → Prop) : List Key → Node → Prop
  | root {seen : List Key} {node : Node} (ends : parent node = none) : Followed check seen node
  | link {seen : List Key} {node previous : Node} {key : Key} (named : parent node = some key)
      (fresh : key ∉ seen) (found : find key = some previous) (passed : check previous node)
      (rest : Followed check (key :: seen) previous) : Followed check seen node

variable {parent find} {check other : Node → Node → Prop} {seen later : List Key}
variable {node above previous : Node} {key : Key}

theorem Ancestor.snoc (ancestor : Ancestor parent find node above)
    (edge : Parent parent find above previous) : Ancestor parent find node previous := by
  induction ancestor with
  | self node => exact .step edge (.self previous)
  | step first rest ih => exact .step first (ih edge)

theorem Ancestor.trans {other : Node} (first : Ancestor parent find node above)
    (second : Ancestor parent find above other) : Ancestor parent find node other := by
  induction first with
  | self node => exact second
  | step edge rest ih => exact .step edge (ih second)

theorem Followed.chain (followed : Followed parent find check seen node)
    (ancestor : Ancestor parent find node above) :
    ∃ later, seen ⊆ later ∧ Followed parent find check later above := by
  induction ancestor generalizing seen with
  | self node => exact ⟨seen, List.Subset.refl seen, followed⟩
  | step edge rest ih =>
    obtain ⟨key, named, found⟩ := edge
    cases followed with
    | root ends =>
      rw [named] at ends
      cases ends
    | link named' fresh found' passed followed =>
      cases named.symm.trans named'
      cases found.symm.trans found'
      obtain ⟨later, kept, followed⟩ := ih followed
      exact ⟨later, List.Subset.trans (List.subset_cons_self key seen) kept, followed⟩

theorem Followed.passed (followed : Followed parent find check seen node)
    (ancestor : Ancestor parent find node above) (named : parent above = some key) :
    ∃ previous, find key = some previous ∧ key ∉ seen ∧ check previous above := by
  obtain ⟨later, kept, followed⟩ := followed.chain ancestor
  cases followed with
  | root ends =>
    rw [named] at ends
    cases ends
  | link named' fresh found passed followed =>
    cases named.symm.trans named'
    exact ⟨_, found, fun listed => fresh (kept listed), passed⟩

/-- A followed chain never comes back to its first node. -/
theorem Followed.acyclic (followed : Followed parent find check seen node)
    (ancestor : Ancestor parent find node above) (named : parent above = some key) :
    find key ≠ some node := by
  intro back
  -- the first parent of the node is seen when the chain comes back
  have first : ∃ start previous, parent node = some start ∧ find start = some previous ∧
      Ancestor parent find previous node ∧ Followed parent find check (start :: seen) previous := by
    cases followed with
    | root ends =>
      cases ancestor with
      | self =>
        rw [named] at ends
        cases ends
      | step edge rest =>
        obtain ⟨start, begins, -⟩ := edge
        rw [begins] at ends
        cases ends
    | link begins fresh found passed followed =>
      refine ⟨_, _, begins, found, ?_, followed⟩
      cases ancestor with
      | self =>
        cases named.symm.trans begins
        cases back.symm.trans found
        exact .self node
      | step edge rest =>
        obtain ⟨start, begins', found'⟩ := edge
        cases begins.symm.trans begins'
        cases found.symm.trans found'
        exact rest.snoc ⟨key, named, back⟩
  obtain ⟨start, previous, begins, found, returns, followed⟩ := first
  obtain ⟨later, kept, again⟩ := followed.chain returns
  obtain ⟨_, -, fresh, -⟩ := again.passed (.self node) begins
  exact fresh (kept List.mem_cons_self)

/-- A chain is followed again when each of its parents is found, is new and passes a new check. -/
theorem Followed.again {find' : Key → Option Node} (followed : Followed parent find check seen node)
    (each : ∀ above key previous, Ancestor parent find node above → parent above = some key →
      find key = some previous → key ∉ later ∧ find' key = some previous ∧ other previous above) :
    Followed parent find' other later node := by
  induction followed generalizing later with
  | root ends => exact .root ends
  | @link seen node previous key named fresh found passed followed ih =>
    obtain ⟨new, found', passed'⟩ := each node key previous (.self node) named found
    refine .link named new found' passed' (ih ?_)
    intro above key' previous' ancestor named' found''
    obtain ⟨new', kept, passed''⟩ :=
      each above key' previous' (.step ⟨key, named, found⟩ ancestor) named' found''
    obtain ⟨_, -, unseen, -⟩ := followed.passed ancestor named'
    refine ⟨?_, kept, passed''⟩
    intro listed
    rcases List.mem_cons.mp listed with same | old
    · exact unseen (same ▸ List.mem_cons_self)
    · exact new' old

end Ancestry
