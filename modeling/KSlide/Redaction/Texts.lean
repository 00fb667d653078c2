import KSlide.Text.Rewriting
import KSlide.Text.Unicode

/-
This file gives the redaction of a diagnostic text and shows which texts it keeps.
-/

namespace KSlide
open List
namespace Redaction
open Regex Regex.Pattern

section

/-- The parts of a name may stand apart. -/
def gapLetter (letter : Char) : Bool := Text.isSpace letter || ['_', '.', ':', '/', '-'].elem letter

def gapped (first : String) (second : Pattern) : Pattern :=
  all [literal first, star (.letter gapLetter), second]

def accessKeyName : Pattern := gapped "access" (.alt (literal "key") (literal "token"))

/-- The word for a token is a secret only where no letter, digit or underscore follows. -/
def genericSecretName : Pattern :=
  .alt (all [literal "token", .notBefore fun letter => letter == '_' || isBasic letter])
    (.alt (gapped "api" (literal "key"))
      (.alt (all [literal "auth", Pattern.optional (literal "orization")])
        (.alt (oneOf ["password", "secret", "cookie"])
          (.alt (gapped "private" (literal "key"))
            (all [literal "credential", Pattern.optional (literal "s")])))))

def secretName : Pattern := .alt accessKeyName genericSecretName

def secretKey : Pattern := all [.notAfter isBasic, secretName, .notBefore isBasic]

variable [Unicode]

def wordBoundary : Pattern := .boundary Unicode.isWord

def bearer : Pattern := all [
  .group "label" (all [wordBoundary, literal "bearer", plus (.letter Text.isSpace)]),
  plus (.letter fun letter => isBasic letter || ['.', '_', '~', '+', '/', '=', '-'].elem letter)]

def assignment : Pattern := all [wordBoundary, secretName, wordBoundary, gap,
  Pattern.optional (letters "\"'"), gap, letters ":=", gap]

def credentialLetter (letter : Char) : Bool :=
  !(letter == '/' || letter == '@' || Text.isSpace letter)

def urlCredentials : Pattern := all [
  .group "scheme" (all [literal "http", Pattern.optional (literal "s"), literal "://"]),
  plus (.letter credentialLetter), letters ":", plus (.letter credentialLetter), letters "@"]

end

section
variable [Unicode]

/-- These identities are no credentials. -/
def exemptIdentities : List String :=
  ["authorization_identity", "governance_identity", "policy_identity", "order_identity",
   "core_identity"]

def contentKeys : List String :=
  ["text", "english", "source_text", "translated_text", "prompt", "content", "final_text",
   "source_candidates", "ocr_candidates"]

def loweredKey (key : String) : String := String.ofList (Unicode.lower key.toList)

def isSecretKey (key : String) : Bool :=
  !exemptIdentities.elem (loweredKey key) && (search secretKey [] key.toList).isSome

def isContentKey (key : String) : Bool := contentKeys.elem (loweredKey key)

end

section

/-- A rewrite gives a new text for a match and the text that is left behind it. -/
structure Rewrite where
  text : List Char
  rest : List Char

/-- The letters between the last match and the next one are kept. -/
def skipped (before : List Char) (found : Match) : List Char :=
  (found.before.take (found.before.length - before.length)).reverse

/-- The matches are rewritten from the left, and each search sees the letters before it. -/
def rewrite (pattern : Pattern) (change : Match → Rewrite) :
    Nat → List Char → List Char → List Char
  | 0, _, after => after
  | fuel + 1, before, after =>
    match search pattern before after with
    | none => after
    | some found =>
      let changed := change found
      let consumed := after.take (after.length - changed.rest.length)
      skipped before found ++ changed.text ++
        rewrite pattern change fuel (consumed.reverse ++ before) changed.rest

def rewriteAll (pattern : Pattern) (change : Match → Rewrite) (text : List Char) : List Char :=
  rewrite pattern change (text.length + 1) [] text

def marker : List Char := "[REDACTED]".toList

/-- A labelled value may stand between quotes. -/
structure Assigned where
  opening : List Char
  value : List Char
  closing : List Char
  rest : List Char

/-- A quoted value ends at its quote on the same line, and another value ends with its line. -/
def assigned (text : List Char) : Assigned :=
  let line := text.takeWhile (· != '\n')
  match line with
  | quote :: later =>
    if ['"', '\'', '`'].elem quote && later.elem quote then
      let inner := later.takeWhile (· != quote)
      ⟨[quote], inner, [quote], text.drop (inner.length + 2)⟩
    else ⟨[], line, [], text.drop line.length⟩
  | [] => ⟨[], [], [], text⟩

def redactValueOf (found : Match) : Rewrite :=
  let place := assigned found.rest
  ⟨found.text ++ place.opening ++ marker ++ place.closing, place.rest⟩

variable [Unicode]

def redactAssignments (text : List Char) : List Char := rewriteAll assignment redactValueOf text

def redactBearer (text : List Char) : List Char :=
  rewriteAll bearer (fun found => ⟨(found.group "label").getD [] ++ marker, found.rest⟩) text

def redactUrl (text : List Char) : List Char :=
  rewriteAll urlCredentials
    (fun found => ⟨(found.group "scheme").getD [] ++ marker ++ ['@'], found.rest⟩) text

/-- The folders of the host that a text must not show. -/
structure Host where
  home : List Char
  root : List Char
  located : root ≠ []

/-- The caller gives no secret values here. -/
def redactText (host : Host) (text : List Char) : List Char :=
  let homed := if host.home.isEmpty then text
    else Rewriting.replace host.home "$HOME".toList text
  let rooted := Rewriting.replace host.root "$KSLIDE_ROOT".toList homed
  redactUrl (redactBearer (redactAssignments rooted))

end

/-- A text that holds a quote splits at its first one. -/
theorem split_quote {quote : Char} {later : List Char} (closed : quote ∈ later) :
    ∃ tail, later = later.takeWhile (· != quote) ++ quote :: tail := by
  induction later with
  | nil => cases closed
  | cons letter rest ih =>
    by_cases same : letter = quote
    · rw [same, takeWhile_cons_of_neg (by simp)]
      exact ⟨rest, rfl⟩
    · have inside := (mem_cons.mp closed).resolve_left (Ne.symm same)
      obtain ⟨tail, whole⟩ := ih inside
      use tail
      rw [takeWhile_cons_of_pos (by simp [same]), cons_append, ← whole]

theorem drop_prefix {first text : List Char} (start : first <+: text) :
    first ++ text.drop first.length = text := by
  obtain ⟨rest, whole⟩ := start
  rw [← whole, drop_left]

theorem assigned_split (text : List Char) : (assigned text).opening ++ (assigned text).value ++
    (assigned text).closing ++ (assigned text).rest = text := by
  have started : text.takeWhile (· != '\n') <+: text := takeWhile_prefix _
  rw [assigned]
  split
  · rename_i quote later line
    split
    · rename_i quoted
      rw [Bool.and_eq_true, elem_eq_mem, elem_eq_mem, decide_eq_true_eq,
        decide_eq_true_eq] at quoted
      obtain ⟨tail, closed⟩ := split_quote quoted.2
      let inner := later.takeWhile (· != quote)
      have within : quote :: (inner ++ [quote]) <+: text := by
        apply List.IsPrefix.trans _ started
        rw [line, closed]
        exact ⟨tail, by simp [inner]⟩
      have length : (quote :: (inner ++ [quote])).length = inner.length + 2 := by simp
      have whole := drop_prefix within
      rw [length] at whole
      show [quote] ++ inner ++ [quote] ++ text.drop (inner.length + 2) = text
      rw [← whole]
      simp
    · show [] ++ text.takeWhile (· != '\n') ++ [] ++
        text.drop (text.takeWhile (· != '\n')).length = text
      rw [append_nil, nil_append]
      exact drop_prefix started
  · rfl

/-- A label and a kept value stay as they are. -/
theorem redactValueOf_kept {found : Match} (kept : (assigned found.rest).value = marker) :
    (redactValueOf found).text ++ (redactValueOf found).rest = found.text ++ found.rest := by
  have whole := assigned_split found.rest
  rw [kept] at whole
  show found.text ++ (assigned found.rest).opening ++ marker ++ (assigned found.rest).closing ++
    (assigned found.rest).rest = found.text ++ found.rest
  apply Eq.trans _ (congrArg (found.text ++ ·) whole)
  simp only [append_assoc]

variable [Unicode]

/-- The labelled values of a text, as the redaction meets them. -/
def assignedFrom : Nat → List Char → List Char → List (List Char)
  | 0, _, _ => []
  | fuel + 1, before, after =>
    match search assignment before after with
    | none => []
    | some found =>
      let place := assigned found.rest
      let consumed := after.take (after.length - place.rest.length)
      place.value :: assignedFrom fuel (consumed.reverse ++ before) place.rest

def assignedValues (text : List Char) : List (List Char) := assignedFrom (text.length + 1) [] text

/-- No folder of the host, no open value behind a label and no credentials are in the text. -/
structure KeptText (host : Host) (text : List Char) : Prop where
  home : host.home = [] ∨ ¬ host.home <:+: text
  root : ¬ host.root <:+: text
  assigned : ∀ value ∈ assignedValues text, value = marker
  bearer : search bearer [] text = none
  url : search urlCredentials [] text = none

section
variable {before after : List Char}

omit [Unicode] in
theorem skipped_passed {pattern : Pattern} {found : Match}
    (searched : search pattern before after = some found) :
    skipped before found ++ (found.text ++ found.rest) = after := by
  obtain ⟨passed, place, split⟩ := search_passed searched
  have taken : skipped before found = passed := by
    rw [skipped, place, length_append, Nat.add_sub_cancel, take_left,
      reverse_reverse]
  rw [taken, split]

theorem rewrite_assigned {fuel : Nat}
    (kept : ∀ value ∈ assignedFrom fuel before after, value = marker) :
    rewrite assignment redactValueOf fuel before after = after := by
  induction fuel generalizing before after with
  | zero => rfl
  | succ fuel ih =>
    rw [assignedFrom] at kept
    rw [rewrite]
    cases searched : search assignment before after with
    | none => rfl
    | some found =>
      rw [searched] at kept
      have here := kept _ mem_cons_self
      have later := ih fun value listed => kept value (mem_cons_of_mem _ listed)
      have same := redactValueOf_kept here
      show skipped before found ++ (redactValueOf found).text ++
        rewrite assignment redactValueOf fuel
          ((after.take (after.length - (assigned found.rest).rest.length)).reverse ++ before)
          (assigned found.rest).rest = after
      rw [later, append_assoc]
      exact (congrArg (skipped before found ++ ·) same).trans (skipped_passed searched)

omit [Unicode] in
theorem rewriteAll_none {pattern : Pattern} {change : Match → Rewrite} {text : List Char}
    (absent : search pattern [] text = none) : rewriteAll pattern change text = text := by
  rw [rewriteAll, rewrite, absent]

/-- The redaction keeps a text that holds nothing to redact. -/
theorem redactText_kept {host : Host} {text : List Char} (kept : KeptText host text) :
    redactText host text = text := by
  have homed : (if host.home.isEmpty then text
      else Rewriting.replace host.home "$HOME".toList text) = text := by
    rcases kept.home with none | absent
    · rw [none]
      rfl
    · rw [Rewriting.replace_absent absent, ite_self]
  have values : redactAssignments text = text := rewrite_assigned kept.assigned
  have bearers : redactBearer text = text := rewriteAll_none kept.bearer
  rw [redactText, homed, Rewriting.replace_absent kept.root, values, bearers]
  exact rewriteAll_none kept.url

end

end Redaction
end KSlide
