import Mathlib.Logic.Relation
import Mathlib.Order.WellFounded

/-
This file gives a depth-first search that stops at a cycle, with its soundness.
-/

namespace DepthFirst
open List

inductive Failure where
  | cycle | depth
deriving DecidableEq, Repr

variable {Node : Type} (children : Node → List Node)

/-- An edge leads from a node to its child. -/
def Edge (node child : Node) : Prop := child ∈ children node

/-- The children of every finished node were finished before it. -/
def Ordered : List Node → Prop
  | [] => True
  | node :: earlier => (∀ child ∈ children node, child ∈ earlier) ∧ Ordered earlier

section
variable {children} {finished later : List Node} {node : Node}

/-- Every path from a finished node ends. -/
theorem Ordered.accessible (ordered : Ordered children finished) (listed : node ∈ finished) :
    Acc (Function.swap (Edge children)) node := by
  induction finished generalizing node with
  | nil => cases listed
  | cons first earlier ih =>
    rcases mem_cons.mp listed with same | before
    · subst same
      constructor
      intro child edge
      exact ih ordered.2 (ordered.1 child edge)
    · exact ih ordered.2 before

/-- What a successful visit keeps and adds. -/
structure Extends (children : Node → List Node) (finished later : List Node) : Prop where
  ordered : Ordered children later
  kept : finished ⊆ later

/-- A row of visits keeps what each visit keeps. -/
theorem extends_row {step : List Node → Node → Except Failure (List Node)}
    (each : ∀ finished later node, Ordered children finished → step finished node = .ok later →
      Extends children finished later ∧ node ∈ later)
    {nodes : List Node} (ordered : Ordered children finished)
    (done : nodes.foldlM step finished = .ok later) :
    Extends children finished later ∧ nodes ⊆ later := by
  induction nodes generalizing finished with
  | nil =>
    have same : finished = later := Except.ok.inj done
    subst same
    exact ⟨⟨ordered, List.Subset.refl _⟩, nil_subset _⟩
  | cons node nodes ih =>
    rw [foldlM_cons] at done
    cases visited : step finished node with
    | error failure =>
      rw [visited] at done
      cases done
    | ok middle =>
      rw [visited] at done
      obtain ⟨first, added⟩ := each finished middle node ordered visited
      obtain ⟨rest, listed⟩ := ih first.ordered done
      exact ⟨⟨rest.ordered, List.Subset.trans first.kept rest.kept⟩,
        cons_subset.mpr ⟨rest.kept added, listed⟩⟩

end

variable [DecidableEq Node]

/-- The search of a node finishes its children first and keeps its path for the cycle check. -/
def visit : Nat → List Node → List Node → Node → Except Failure (List Node)
  | 0, _, _, _ => .error .depth
  | depth + 1, path, finished, node =>
    if node ∈ path then .error .cycle
    else if node ∈ finished then .ok finished
    else do
      let later ← (children node).foldlM (visit depth (node :: path)) finished
      return node :: later

/-- A search visits each root in order. -/
def search (depth : Nat) (roots : List Node) : Except Failure (List Node) :=
  roots.foldlM (visit children depth []) []

variable {children} {depth : Nat} {path finished later : List Node} {node : Node}

theorem extends_visit (ordered : Ordered children finished)
    (done : visit children depth path finished node = .ok later) :
    Extends children finished later ∧ node ∈ later := by
  induction depth generalizing path finished later node with
  | zero => cases done
  | succ depth ih =>
    rw [visit] at done
    by_cases open_ : node ∈ path
    · rw [if_pos open_] at done
      cases done
    · rw [if_neg open_] at done
      by_cases known : node ∈ finished
      · rw [if_pos known] at done
        have same : finished = later := Except.ok.inj done
        subst same
        exact ⟨⟨ordered, List.Subset.refl _⟩, known⟩
      · rw [if_neg known] at done
        cases visited : (children node).foldlM (visit children depth (node :: path)) finished with
        | error failure =>
          rw [visited] at done
          cases done
        | ok middle =>
          rw [visited] at done
          have same : node :: middle = later := Except.ok.inj done
          subst same
          obtain ⟨rest, listed⟩ := extends_row (fun _ _ _ => ih) ordered visited
          exact ⟨⟨⟨listed, rest.ordered⟩, subset_cons_of_subset node rest.kept⟩,
            mem_cons_self⟩

/-- A successful search from every node with a child leaves no cycle. -/
theorem search_acyclic {roots : List Node} (done : search children depth roots = .ok later)
    (every : ∀ node child, Edge children node child → node ∈ roots) (node : Node) :
    ¬Relation.TransGen (Edge children) node node := by
  intro cycle
  have ⟨ended, visited⟩ := extends_row (fun _ _ _ => extends_visit) (by trivial) done
  have listed : node ∈ later := by
    obtain ⟨child, edge, -⟩ := Relation.TransGen.head'_iff.mp cycle
    exact visited (every node child edge)
  have ends : Acc (Relation.TransGen (Function.swap (Edge children))) node :=
    (ended.ordered.accessible listed).transGen
  have back : Relation.TransGen (Function.swap (Edge children)) node node :=
    Relation.transGen_swap.mpr cycle
  clear listed cycle
  induction ends with
  | intro node _ ih => exact ih node back back

end DepthFirst
