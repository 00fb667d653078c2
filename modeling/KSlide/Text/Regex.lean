import KSlide.Text.Patterns

/-
This file gives a backtracking matcher for text patterns and the scan for its matches.
-/

namespace Regex
open List

/-- A pattern reads letters and looks at the letters around them. -/
inductive Pattern where
  | empty
  | letter (accepts : Char → Bool)
  | seq (first second : Pattern)
  | alt (first second : Pattern)
  | many (inner : Pattern) (least : Nat) (most : Option Nat)
  | notBefore (accepts : Char → Bool)
  | notAfter (accepts : Char → Bool)
  | boundary (word : Char → Bool)
  | group (name : String) (inner : Pattern)

/-- One way to match takes a text and leaves the rest. -/
structure Found where
  text : List Char
  rest : List Char
  groups : List (String × List Char) := []
deriving DecidableEq

namespace Found

def prepend (first second : Found) : Found where
  text := first.text ++ second.text
  rest := second.rest
  groups := first.groups ++ second.groups

/-- The later of two groups with one name counts. -/
def group (found : Found) (name : String) : Option (List Char) :=
  (found.groups.findRev? (·.1 == name)).map Prod.snd

end Found

/-- The greedy repetition tries another round before it stops, and an empty round ends it. -/
def repeated (step : List Char → List Char → List Found) :
    Nat → Nat → Option Nat → List Char → List Char → List Found
  | 0, least, _, _, after => if least = 0 then [⟨[], after, []⟩] else []
  | fuel + 1, least, most, before, after =>
    let further := if most = some 0 then [] else
      (step before after).flatMap fun found =>
        if found.text = [] then []
        else (repeated step fuel (least - 1) (most.map (· - 1)) (found.text.reverse ++ before)
          found.rest).map found.prepend
    further ++ (if least = 0 then [⟨[], after, []⟩] else [])

/-- The ways to match stand in the order in which the matcher tries them. -/
def run : Pattern → List Char → List Char → List Found
  | .empty, _, after => [⟨[], after, []⟩]
  | .letter accepts, _, after =>
    match after with
    | [] => []
    | letter :: rest => if accepts letter then [⟨[letter], rest, []⟩] else []
  | .seq first second, before, after =>
    (run first before after).flatMap fun found =>
      (run second (found.text.reverse ++ before) found.rest).map found.prepend
  | .alt first second, before, after => run first before after ++ run second before after
  | .many inner least most, before, after =>
    repeated (run inner) (after.length + least) least most before after
  | .notBefore accepts, _, after => if after.head?.any accepts then [] else [⟨[], after, []⟩]
  | .notAfter accepts, before, after => if before.head?.any accepts then [] else [⟨[], after, []⟩]
  | .boundary word, before, after =>
    if before.head?.any word = after.head?.any word then [] else [⟨[], after, []⟩]
  | .group name inner, before, after =>
    (run inner before after).map fun found =>
      { found with groups := found.groups ++ [(name, found.text)] }

/-- A match stands behind the letters that come before it. -/
structure Match extends Found where
  before : List Char

/-- The search tries every place from the left. -/
def search (pattern : Pattern) (before : List Char) : List Char → Option Match
  | [] => (run pattern before []).head?.map fun found => { found with before }
  | letter :: rest =>
    match run pattern before (letter :: rest) with
    | found :: _ => some { found with before }
    | [] => search pattern (letter :: before) rest

/-- The matches of a scan do not overlap. -/
def scan (pattern : Pattern) : Nat → List Char → List Char → List Match
  | 0, _, _ => []
  | fuel + 1, before, after =>
    match search pattern before after with
    | none => []
    | some found =>
      found :: match found.text, found.rest with
        | [], [] => []
        | [], letter :: rest => scan pattern fuel (letter :: found.before) rest
        | text, rest => scan pattern fuel (text.reverse ++ found.before) rest

def findAll (pattern : Pattern) (text : List Char) : List Match :=
  scan pattern (text.length + 1) [] text

@[simp] theorem prepend_text (first second : Found) :
    (first.prepend second).text = first.text ++ second.text := rfl

@[simp] theorem prepend_rest (first second : Found) : (first.prepend second).rest = second.rest := rfl

/-- Every letter that a pattern reads belongs to the known letters. -/
def Pattern.Reads (known : Char → Prop) : Pattern → Prop
  | .letter accepts => ∀ letter, accepts letter = true → known letter
  | .seq first second | .alt first second => first.Reads known ∧ second.Reads known
  | .many inner _ _ | .group _ inner => inner.Reads known
  | .empty | .notBefore _ | .notAfter _ | .boundary _ => True

/-- A promise about matches is kept by every way to build one. -/
structure Promise (known : Char → Prop) (promise : List Char → Found → Prop) : Prop where
  stopped : ∀ after, promise after ⟨[], after, []⟩
  taken : ∀ letter rest, known letter → promise (letter :: rest) ⟨[letter], rest, []⟩
  joined : ∀ after first later, promise after first → promise first.rest later →
    promise after (first.prepend later)
  named : ∀ after found groups, promise after found → promise after { found with groups }

section
variable {known : Char → Prop} {promise : List Char → Found → Prop}

theorem Promise.repeated (kept : Promise known promise)
    {step : List Char → List Char → List Found}
    (round : ∀ before after, ∀ found ∈ step before after, promise after found)
    {fuel least : Nat} {most : Option Nat} {before after : List Char} {found : Found}
    (listed : found ∈ Regex.repeated step fuel least most before after) : promise after found := by
  induction fuel generalizing least most before after found with
  | zero =>
    rw [Regex.repeated] at listed
    split at listed
    · rw [mem_singleton.mp listed]
      exact kept.stopped after
    · cases listed
  | succ fuel ih =>
    rw [Regex.repeated] at listed
    rcases mem_append.mp listed with further | ended
    · split at further
      · cases further
      · obtain ⟨first, taken, later⟩ := mem_flatMap.mp further
        split at later
        · cases later
        · obtain ⟨second, repeating, same⟩ := mem_map.mp later
          rw [← same]
          exact kept.joined after first second (round before after first taken) (ih repeating)
    · split at ended
      · rw [mem_singleton.mp ended]
        exact kept.stopped after
      · cases ended

theorem Promise.looked (kept : Promise known promise) {found : Found} {after : List Char}
    {refused : Prop} [Decidable refused]
    (listed : found ∈ if refused then [] else [⟨[], after, []⟩]) : promise after found := by
  split at listed
  · cases listed
  · rw [mem_singleton.mp listed]
    exact kept.stopped after

/-- A promise holds of every match of a pattern. -/
theorem Promise.run (kept : Promise known promise) {pattern : Pattern}
    (reads : pattern.Reads known) {before after : List Char} {found : Found}
    (listed : found ∈ run pattern before after) : promise after found := by
  induction pattern generalizing before after found with
  | empty =>
    rw [Regex.run, mem_singleton] at listed
    rw [listed]
    exact kept.stopped after
  | letter accepts =>
    cases after with
    | nil => cases listed
    | cons letter rest =>
      rw [Regex.run] at listed
      split at listed
      · rename_i accepted
        rw [mem_singleton.mp listed]
        exact kept.taken letter rest (reads letter accepted)
      · cases listed
  | seq first second firstKept secondKept =>
    rw [Regex.run, mem_flatMap] at listed
    obtain ⟨one, taken, later⟩ := listed
    obtain ⟨other, following, same⟩ := mem_map.mp later
    rw [← same]
    exact kept.joined after one other (firstKept reads.1 taken) (secondKept reads.2 following)
  | alt first second firstKept secondKept =>
    rw [Regex.run, mem_append] at listed
    rcases listed with listed | listed
    · exact firstKept reads.1 listed
    · exact secondKept reads.2 listed
  | many inner least most ih =>
    rw [Regex.run] at listed
    apply kept.repeated _ listed
    intro before after found taken
    exact ih reads taken
  | notBefore accepts => exact kept.looked listed
  | notAfter accepts => exact kept.looked listed
  | boundary word => exact kept.looked listed
  | group name inner ih =>
    rw [Regex.run] at listed
    obtain ⟨one, taken, same⟩ := mem_map.mp listed
    rw [← same]
    exact kept.named after one _ (ih reads taken)

end

theorem Pattern.reads_all (pattern : Pattern) : pattern.Reads fun _ => True := by
  induction pattern with
  | seq first second ih other => exact ⟨ih, other⟩
  | alt first second ih other => exact ⟨ih, other⟩
  | many inner least most ih => exact ih
  | group name inner ih => exact ih
  | letter accepts => exact fun _ _ => trivial
  | _ => trivial

/-- No part of the pattern accepts the letter. -/
def Pattern.refuses (letter : Char) : Pattern → Bool
  | .letter accepts => !accepts letter
  | .seq first second | .alt first second => first.refuses letter && second.refuses letter
  | .many inner _ _ | .group _ inner => inner.refuses letter
  | .empty | .notBefore _ | .notAfter _ | .boundary _ => true

theorem Pattern.reads_of_refuses {pattern : Pattern} {letter : Char}
    (refused : pattern.refuses letter = true) : pattern.Reads (· ≠ letter) := by
  induction pattern with
  | letter accepts =>
    intro other accepted same
    rw [refuses, ← same, accepted] at refused
    cases refused
  | seq first second one other =>
    rw [refuses, Bool.and_eq_true] at refused
    exact ⟨one refused.1, other refused.2⟩
  | alt first second one other =>
    rw [refuses, Bool.and_eq_true] at refused
    exact ⟨one refused.1, other refused.2⟩
  | many inner least most ih => exact ih refused
  | group name inner ih => exact ih refused
  | _ => trivial

/-- Every match of the pattern takes a letter. -/
def Pattern.consumes : Pattern → Bool
  | .letter _ => true
  | .seq first second => first.consumes || second.consumes
  | .alt first second => first.consumes && second.consumes
  | .many _ least _ => 0 < least
  | .group _ inner => inner.consumes
  | .empty | .notBefore _ | .notAfter _ | .boundary _ => false

theorem repeated_consumes {step : List Char → List Char → List Found} {fuel least : Nat}
    (positive : 0 < least) {most : Option Nat} {before after : List Char} {found : Found}
    (listed : found ∈ repeated step fuel least most before after) : found.text ≠ [] := by
  have required : least ≠ 0 := by omega
  cases fuel with
  | zero =>
    rw [repeated, if_neg required] at listed
    cases listed
  | succ fuel =>
    rw [repeated, if_neg required, append_nil] at listed
    split at listed
    · cases listed
    · obtain ⟨first, _, later⟩ := mem_flatMap.mp listed
      split at later
      · cases later
      · rename_i taken
        obtain ⟨second, _, same⟩ := mem_map.mp later
        rw [← same, prepend_text]
        exact append_ne_nil_of_left_ne_nil taken _

theorem run_consumes {pattern : Pattern} (consumed : pattern.consumes = true)
    {before after : List Char} {found : Found} (listed : found ∈ run pattern before after) :
    found.text ≠ [] := by
  induction pattern generalizing before after found with
  | letter accepts =>
    cases after with
    | nil => cases listed
    | cons letter rest =>
      rw [run] at listed
      split at listed
      · rw [mem_singleton.mp listed]
        exact cons_ne_nil _ _
      · cases listed
  | seq first second one other =>
    rw [run, mem_flatMap] at listed
    obtain ⟨start, taken, later⟩ := listed
    obtain ⟨following, ended, same⟩ := mem_map.mp later
    rw [← same, prepend_text]
    rcases (Bool.or_eq_true _ _).mp consumed with consumed | consumed
    · exact append_ne_nil_of_left_ne_nil (one consumed taken) _
    · exact append_ne_nil_of_right_ne_nil _ (other consumed ended)
  | alt first second one other =>
    rw [Pattern.consumes, Bool.and_eq_true] at consumed
    rw [run, mem_append] at listed
    rcases listed with listed | listed
    · exact one consumed.1 listed
    · exact other consumed.2 listed
  | many inner least most ih =>
    rw [run] at listed
    exact repeated_consumes (of_decide_eq_true consumed) listed
  | group name inner ih =>
    rw [run] at listed
    obtain ⟨start, taken, same⟩ := mem_map.mp listed
    have nonempty : start.text ≠ [] := ih consumed taken
    rw [← same]
    exact nonempty
  | _ => cases consumed

section
variable {pattern : Pattern} {before after : List Char}

/-- A match and its rest are the letters after the cursor. -/
theorem run_split {found : Found} (listed : found ∈ run pattern before after) :
    found.text ++ found.rest = after := by
  have kept : Promise (fun _ => True) fun after found => found.text ++ found.rest = after := {
    stopped := fun after => rfl
    taken := fun letter rest _ => rfl
    joined := fun after first later one other => by
      rw [prepend_text, prepend_rest, append_assoc, other, one]
    named := fun after found groups split => split }
  exact kept.run pattern.reads_all listed

theorem run_reads {known : Char → Prop} (reads : pattern.Reads known) {found : Found}
    (listed : found ∈ run pattern before after) : ∀ letter ∈ found.text, known letter := by
  have kept : Promise known fun _ found => ∀ letter ∈ found.text, known letter := {
    stopped := fun after letter present => by cases present
    taken := fun letter rest known other present => by rwa [mem_singleton.mp present]
    joined := fun after first later one other letter present => by
      rcases mem_append.mp present with present | present
      · exact one letter present
      · exact other letter present
    named := fun after found groups letters => letters }
  exact kept.run reads listed

/-- The search finds a match at its place in the text. -/
theorem search_run {found : Match} (searched : search pattern before after = some found) :
    found.toFound ∈ run pattern found.before (found.text ++ found.rest) ∧
      found.before.reverse ++ (found.text ++ found.rest) = before.reverse ++ after := by
  induction after generalizing before with
  | nil =>
    rw [search, Option.map_eq_some_iff] at searched
    obtain ⟨one, first, same⟩ := searched
    have listed := List.mem_of_head? first
    have split := run_split listed
    rw [← same, split]
    exact ⟨listed, rfl⟩
  | cons letter rest ih =>
    rw [search] at searched
    split at searched
    · rename_i one others ways
      have listed : one ∈ run pattern before (letter :: rest) := by
        rw [ways]
        exact mem_cons_self
      have split := run_split listed
      rw [← Option.some.inj searched, split]
      exact ⟨listed, rfl⟩
    · obtain ⟨listed, split⟩ := ih searched
      exact ⟨listed, by rw [split, reverse_cons, append_assoc, singleton_append]⟩

/-- The search passes over the letters before its match. -/
theorem search_passed {found : Match} (searched : search pattern before after = some found) :
    ∃ passed, found.before = passed.reverse ++ before ∧
      after = passed ++ (found.text ++ found.rest) := by
  induction after generalizing before with
  | nil =>
    rw [search, Option.map_eq_some_iff] at searched
    obtain ⟨one, first, same⟩ := searched
    have split := run_split (List.mem_of_head? first)
    rw [← same, split]
    exact ⟨[], rfl, rfl⟩
  | cons letter rest ih =>
    rw [search] at searched
    split at searched
    · rename_i one others ways
      have listed : one ∈ run pattern before (letter :: rest) := by
        rw [ways]
        exact mem_cons_self
      rw [← Option.some.inj searched, run_split listed]
      exact ⟨[], rfl, rfl⟩
    · obtain ⟨passed, place, split⟩ := ih searched
      use letter :: passed
      rw [place, split]
      simp

/-- Every match of a scan is a match at its place in the text. -/
theorem scan_run {fuel : Nat} {found : Match} (listed : found ∈ scan pattern fuel before after) :
    found.toFound ∈ run pattern found.before (found.text ++ found.rest) ∧
      found.before.reverse ++ (found.text ++ found.rest) = before.reverse ++ after := by
  induction fuel generalizing before after with
  | zero => cases listed
  | succ fuel ih =>
    rw [scan] at listed
    split at listed
    · cases listed
    · rename_i one searched
      obtain ⟨first, split⟩ := search_run searched
      rcases mem_cons.mp listed with same | later
      · rw [same]
        exact ⟨first, split⟩
      · rw [← split]
        split at later
        · cases later
        · rename_i letter rest text following
          obtain ⟨taken, place⟩ := ih later
          refine ⟨taken, ?_⟩
          rw [place, text, following]
          simp
        · obtain ⟨taken, place⟩ := ih later
          exact ⟨taken, by rw [place]; simp⟩

theorem findAll_run {text : List Char} {found : Match} (listed : found ∈ findAll pattern text) :
    found.toFound ∈ run pattern found.before (found.text ++ found.rest) ∧
      found.before.reverse ++ (found.text ++ found.rest) = text := by
  obtain ⟨taken, place⟩ := scan_run listed
  exact ⟨taken, by rw [place]; rfl⟩

end
end Regex
