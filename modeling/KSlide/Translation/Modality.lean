import KSlide.Errors
import KSlide.Text.Enumeration
import KSlide.Text.Unicode

/-
This file gives the modality guard of translated units and proves when a negated cue is free of it.
-/

namespace KSlide
open List

inductive CommitmentStatus where
  | decided | committed | planned | scheduled | target | proposed | underReview | needsReview
  | discussionRequired | expected | forecast | possible | tentative | notDecided | completed
  | inProgress | unknown
deriving DecidableEq, Repr

instance : Text.Enumeration CommitmentStatus where
  value
    | .decided => "decided"
    | .committed => "committed"
    | .planned => "planned"
    | .scheduled => "scheduled"
    | .target => "target"
    | .proposed => "proposed"
    | .underReview => "under_review"
    | .needsReview => "needs_review"
    | .discussionRequired => "discussion_required"
    | .expected => "expected"
    | .forecast => "forecast"
    | .possible => "possible"
    | .tentative => "tentative"
    | .notDecided => "not_decided"
    | .completed => "completed"
    | .inProgress => "in_progress"
    | .unknown => "unknown"
  all := [.decided, .committed, .planned, .scheduled, .target, .proposed, .underReview,
    .needsReview, .discussionRequired, .expected, .forecast, .possible, .tentative, .notDecided,
    .completed, .inProgress, .unknown]

inductive SpeechAct where
  | fact | status | decision | plan | request | recommendation | risk | dependency | forecast
  | question | unknown
deriving DecidableEq, Repr

instance : Text.Enumeration SpeechAct where
  value
    | .fact => "fact"
    | .status => "status"
    | .decision => "decision"
    | .plan => "plan"
    | .request => "request"
    | .recommendation => "recommendation"
    | .risk => "risk"
    | .dependency => "dependency"
    | .forecast => "forecast"
    | .question => "question"
    | .unknown => "unknown"
  all := [.fact, .status, .decision, .plan, .request, .recommendation, .risk, .dependency,
    .forecast, .question, .unknown]

namespace Modality

/-- The cues are phrases of the source language for a commitment state. -/
def cues : List (CommitmentStatus × List String) := [
  (.underReview, ["검토 중", "검토중", "논의 중", "논의중"]),
  (.possible, ["가능", "수 있음", "수있음", "할 수 있다", "할수있다"]),
  (.forecast, ["전망", "예상", "예측", "전망치"]),
  (.proposed, ["제안", "제시안", "제안됨"]),
  (.tentative, ["잠정", "임시", "미정"]),
  (.completed, ["완료", "완료됨", "마침", "끝남"]),
  (.inProgress, ["진행 중", "진행중", "추진 중", "추진중"]),
  (.decided, ["결정", "확정", "의결"]),
  (.committed, ["약속", "커밋", "추진한다", "추진합니다"]),
  (.scheduled, ["예정", "일정", "하기로"]),
  (.planned, ["계획", "추진 예정", "할 계획"]),
  (.target, ["목표", "타깃"])]

def expectedSpeech : CommitmentStatus → Option SpeechAct
  | .decided => some .decision
  | _ => none

def compatibleStatuses (status : CommitmentStatus) : List CommitmentStatus := [status]

def englishStateMarkers : List (CommitmentStatus × List String) := [
  (.decided, ["decided", "approved", "finalized", "confirmed"]),
  (.committed, ["committed", "guaranteed", "will execute", "will implement", "will proceed"]),
  (.planned, ["planned", "plan to", "plans to", "intends to"]),
  (.scheduled, ["scheduled", "slated", "set for", "due to"]),
  (.target, ["target", "goal", "aim"]),
  (.proposed, ["proposed", "proposal", "recommended"]),
  (.underReview, ["under review", "in review", "being reviewed", "pending review",
    "in discussion"]),
  (.possible, ["possible", "may", "might", "could"]),
  (.tentative, ["tentative", "provisional", "subject to change"]),
  (.forecast, ["forecast", "forecasted", "projected", "expected", "estimated"]),
  (.completed, ["completed", "complete", "done", "finished"]),
  (.inProgress, ["in progress", "underway", "ongoing", "being implemented"])]

def negatedEnglishStateMarkers : List (CommitmentStatus × List String) := [
  (.decided, ["not approved", "not decided", "not finalized", "not confirmed", "unapproved",
    "undecided"]),
  (.committed, ["not committed", "not guaranteed", "will not execute", "will not implement",
    "will not proceed", "uncommitted"]),
  (.planned, ["not planned", "no plan", "does not plan"]),
  (.scheduled, ["not scheduled", "not slated", "not set for"]),
  (.target, ["not a target", "not the goal", "not targeted"]),
  (.proposed, ["not proposed", "not a proposal", "not recommended"]),
  (.underReview, ["not under review", "not in review", "not being reviewed",
    "not pending review", "not in discussion"]),
  (.possible, ["not possible", "impossible"]),
  (.forecast, ["not forecast", "not forecasted", "not projected", "not expected",
    "not estimated"]),
  (.tentative, ["not tentative", "not provisional"]),
  (.completed, ["not completed", "not complete", "not done", "not finished", "incomplete"]),
  (.inProgress, ["not in progress", "not underway", "not ongoing", "not being implemented"])]

/-- The states with a phrase that is part of a text. -/
def statesIn (table : List (CommitmentStatus × List String)) (text : List Char) :
    List CommitmentStatus :=
  (table.filter fun row => row.2.any fun phrase => decide (phrase.toList <:+: text)).map Prod.fst

def modalityCues : Option String → List CommitmentStatus
  | some text => statesIn cues text.toList
  | none => []

/-- Only a text with cues of one state has a protected state. -/
def deterministicModality (text : Option String) : Option CommitmentStatus × Option SpeechAct :=
  match modalityCues text with
  | [status] => (some status, expectedSpeech status)
  | _ => (none, none)

/-- The printed form of a state. -/
def printed (status : CommitmentStatus) : String := "'" ++ Text.Enumeration.value status ++ "'"

def printedList (statuses : List CommitmentStatus) : String :=
  "[" ++ ", ".intercalate ((statuses.mergeSort fun first second =>
    (Text.Enumeration.value first : String) ≤ Text.Enumeration.value second).map printed) ++ "]"

def modalityMismatch (source : Option String) (commitment : Option CommitmentStatus)
    (speech : Option SpeechAct) (languageBound : Bool) : Option String :=
  match if languageBound then deterministicModality source else (none, none) with
  | (none, _) => none
  | (some required, act) =>
    match commitment with
    | none => some ("deterministic source cue " ++ printed required ++
        " requires commitment_status")
    | some status =>
      if !(compatibleStatuses required).elem status then
        some ("source cue " ++ printed required ++ " requires compatible commitment_status " ++
          printedList (compatibleStatuses required) ++ ", not " ++ printed status)
      else
        match act, speech with
        | none, _ => none
        | some act, none => some ("deterministic source cue " ++ printed required ++
            " requires speech_act '" ++ Text.Enumeration.value act ++ "'")
        | some act, some other =>
          if other = act then none
          else some ("source cue " ++ printed required ++ " requires speech_act '" ++
            Text.Enumeration.value act ++ "', not '" ++ Text.Enumeration.value other ++ "'")

section
variable [Unicode]

def englishNegatedModalityCues (rendered : String) : List CommitmentStatus :=
  statesIn negatedEnglishStateMarkers (Unicode.casefold rendered.toList)

def englishModalityCues (rendered : String) : List CommitmentStatus :=
  (statesIn englishStateMarkers (Unicode.casefold rendered.toList)).filter fun status =>
    !(englishNegatedModalityCues rendered).elem status

def englishModalityMismatch (source : Option String) (rendered : String)
    (commitment : Option CommitmentStatus) (languageBound requireStatusMarker : Bool) :
    Option String :=
  match if languageBound then deterministicModality source else (none, none) with
  | (none, _) => none
  | (some required, _) =>
    let observed := englishModalityCues rendered
    let incompatible := observed.filter (· != required)
    if commitment != some required then none
    else if (englishNegatedModalityCues rendered).elem required then
      some ("rendered English negates the protected source status " ++ printed required)
    else if !incompatible.isEmpty then
      some ("source cue " ++ printed required ++
        " is incompatible with rendered English modality " ++ printedList incompatible)
    else if requireStatusMarker && !observed.elem required then
      some ("rendered English must preserve the protected source status " ++ printed required)
    else none

/-- The validation of a region or a table cell compares its modality with its source text. -/
def checkModality (details : List (String × Json)) (source : Option String) (english : String)
    (commitment : Option CommitmentStatus) (speech : Option SpeechAct) : Except Raised Unit := do
  let refuse := fun found : Option String =>
    found.elim (.ok ()) fun message => .error (.kslide ⟨.modalityMismatch, message, details⟩)
  refuse (modalityMismatch source commitment speech true)
  refuse (englishModalityMismatch source english commitment true true)

end

section

def negators : List Char := ['미', '불', '비']

def phrases : List String := cues.flatMap Prod.snd

/-- A phrase stands at a place of a text. -/
def occursAt (text : List Char) (phrase : String) (place : Nat) : Bool :=
  phrase.toList.isPrefixOf (text.drop place)

/-- A negated cue follows a negating prefix and belongs to no longer cue. -/
structure NegatedAt (text : List Char) (phrase : String) (place : Nat) : Prop where
  preceded : 0 < place ∧ ∃ letter ∈ negators, text[place - 1]? = some letter
  alone : ∀ longer ∈ phrases, ∀ start ≤ place, occursAt text longer start = true →
    place + phrase.toList.length ≤ start + longer.toList.length →
      longer.toList.length ≤ phrase.toList.length

def isNegatedAt (text : List Char) (phrase : String) (place : Nat) : Bool :=
  decide (0 < place) && negators.any (fun letter => text[place - 1]? == some letter) &&
    phrases.all fun longer => (List.range (place + 1)).all fun start =>
      !occursAt text longer start ||
        !decide (place + phrase.toList.length ≤ start + longer.toList.length) ||
        decide (longer.toList.length ≤ phrase.toList.length)

/-- Every cue of a text is negated. -/
def Negated (text : List Char) : Prop :=
  ∀ phrase ∈ phrases, ∀ place < text.length, occursAt text phrase place = true →
    NegatedAt text phrase place

def isNegated (text : List Char) : Bool :=
  phrases.all fun phrase => (List.range text.length).all fun place =>
    !occursAt text phrase place || isNegatedAt text phrase place

/-- A text has a negating prefix before a cue of a state. -/
def NegatedCue (text : List Char) (status : CommitmentStatus) : Prop :=
  ∃ row ∈ cues, row.1 = status ∧ ∃ phrase ∈ row.2, ∃ letter ∈ negators,
    letter :: phrase.toList <:+: text

variable {text : List Char} {phrase : String} {status : CommitmentStatus}

theorem negatedAt_of_check {place : Nat} (checked : isNegatedAt text phrase place = true) :
    NegatedAt text phrase place := by
  unfold isNegatedAt at checked
  simp only [Bool.and_eq_true, decide_eq_true_eq, any_eq_true, beq_iff_eq, all_eq_true,
    mem_range, Bool.or_eq_true, Bool.not_eq_true', decide_eq_false_iff_not] at checked
  obtain ⟨⟨later, preceded⟩, alone⟩ := checked
  refine ⟨⟨later, preceded⟩, fun longer listed start before occurs covered => ?_⟩
  rcases alone longer listed start (by omega) with (absent | outside) | short
  · rw [occurs] at absent
    cases absent
  · exact (outside covered).elim
  · exact short

theorem negated_of_check (checked : isNegated text = true) : Negated text := by
  unfold isNegated at checked
  simp only [all_eq_true, mem_range, Bool.or_eq_true, Bool.not_eq_true'] at checked
  intro phrase listed place inside occurs
  rcases checked phrase listed place inside with absent | negated
  · rw [occurs] at absent
    cases absent
  · exact negatedAt_of_check negated

theorem phrase_present (listed : phrase ∈ phrases) : phrase.toList ≠ [] := by
  revert phrase
  decide +kernel

theorem cues_distinct : (cues.map Prod.fst).Nodup := by decide

theorem occursAt_of_infix (listed : phrase ∈ phrases) (part : phrase.toList <:+: text) :
    ∃ place < text.length, occursAt text phrase place = true := by
  obtain ⟨before, after, joined⟩ := part
  have present := length_pos_iff.mpr (phrase_present listed)
  refine ⟨before.length, ?_, ?_⟩
  · rw [← joined, length_append, length_append]
    omega
  · unfold occursAt
    rw [← joined, append_assoc, drop_left, List.isPrefixOf_iff_prefix]
    exact prefix_append _ _

theorem Negated.prefixed (negated : Negated text) (listed : phrase ∈ phrases)
    (part : phrase.toList <:+: text) : ∃ letter ∈ negators, letter :: phrase.toList <:+: text := by
  obtain ⟨place, small, occurs⟩ := occursAt_of_infix listed part
  obtain ⟨⟨later, letter, known, found⟩, -⟩ := negated phrase listed place small occurs
  obtain ⟨inside, same⟩ := List.getElem?_eq_some_iff.mp found
  unfold occursAt at occurs
  rw [List.isPrefixOf_iff_prefix] at occurs
  obtain ⟨after, joined⟩ := occurs
  have split : text.drop (place - 1) = letter :: (phrase.toList ++ after) := by
    rw [drop_eq_getElem_cons inside, same, joined]
    congr 2
    omega
  have whole : text.take (place - 1) ++ (letter :: phrase.toList) ++ after = text := by
    rw [append_assoc, cons_append, ← split, take_append_drop]
  exact ⟨letter, known, text.take (place - 1), after, whole⟩

theorem mem_statesIn : status ∈ statesIn cues text ↔
    ∃ row ∈ cues, row.1 = status ∧ ∃ phrase ∈ row.2, phrase.toList <:+: text := by
  unfold statesIn
  simp only [mem_map, mem_filter, any_eq_true, decide_eq_true_eq]
  constructor
  · rintro ⟨row, ⟨listed, found⟩, same⟩
    exact ⟨row, listed, same, found⟩
  · rintro ⟨row, listed, same, found⟩
    exact ⟨row, ⟨listed, found⟩, same⟩

theorem Negated.mem_statesIn (negated : Negated text) :
    status ∈ statesIn cues text ↔ NegatedCue text status := by
  rw [Modality.mem_statesIn]
  unfold NegatedCue
  constructor
  · rintro ⟨row, listed, same, phrase, known, part⟩
    have all : phrase ∈ phrases := mem_flatMap.mpr ⟨row, listed, known⟩
    exact ⟨row, listed, same, phrase, known, negated.prefixed all part⟩
  · rintro ⟨row, listed, same, phrase, known, letter, -, part⟩
    exact ⟨row, listed, same, phrase, known, (suffix_cons letter _).isInfix.trans part⟩

theorem statesIn_distinct : (statesIn cues text).Nodup :=
  cues_distinct.sublist (filter_sublist.map Prod.fst)

theorem deterministicModality_free {text : String} :
    deterministicModality (some text) = (none, none) ↔
      (∀ status, status ∉ statesIn cues text.toList) ∨ ∃ first second, first ≠ second ∧
        first ∈ statesIn cues text.toList ∧ second ∈ statesIn cues text.toList := by
  have distinct := @statesIn_distinct text.toList
  unfold deterministicModality modalityCues
  dsimp only
  generalize statesIn cues text.toList = states at distinct ⊢
  match states with
  | [] => simp
  | [status] =>
    constructor
    · intro same
      cases same
    · rintro (empty | ⟨first, second, different, listed, listed'⟩)
      · exact (empty status mem_cons_self).elim
      · rw [mem_singleton] at listed listed'
        exact (different (listed.trans listed'.symm)).elim
  | first :: second :: rest =>
    constructor
    · intro _
      right
      have different : first ≠ second := by
        intro same
        rw [same, nodup_cons] at distinct
        exact distinct.1 mem_cons_self
      exact ⟨first, second, different, mem_cons_self,
        mem_cons_of_mem _ mem_cons_self⟩
    · intro _
      rfl

variable [Unicode]

/-- A text forces no state when it has no protected state and no rendering is refused for it. -/
structure Unforced (text : String) : Prop where
  undetermined : deterministicModality (some text) = (none, none)
  accepted : ∀ details english commitment speech,
    checkModality details (some text) english commitment speech = .ok ()

theorem unforced_of_free {text : String}
    (free : deterministicModality (some text) = (none, none)) : Unforced text where
  undetermined := free
  accepted details english commitment speech := by
    unfold checkModality modalityMismatch englishModalityMismatch
    rw [if_pos rfl, free]
    rfl

/-- A text whose cues are all negated forces no state exactly when it has no negated cue or negated
cues of two states. -/
theorem negated_unforced {text : String} (negated : Negated text.toList) :
    Unforced text ↔ (∀ status, ¬ NegatedCue text.toList status) ∨ ∃ first second,
      first ≠ second ∧ NegatedCue text.toList first ∧ NegatedCue text.toList second := by
  have free := @deterministicModality_free text
  simp only [negated.mem_statesIn] at free
  rw [← free]
  exact ⟨fun unforced => unforced.undetermined, unforced_of_free⟩

end

section
attribute [local instance] Unicode.basic

/-- The text says that something is impossible, and its only cue says that it is possible. -/
theorem impossible_forced : Negated "불가능".toList ∧
    deterministicModality (some "불가능") = (some .possible, none) ∧
    checkModality [] (some "불가능") "impossible" (some .possible) none = .error (.kslide
      ⟨.modalityMismatch, "rendered English negates the protected source status 'possible'", []⟩) ∧
    ¬ Unforced "불가능" := by
  have forced : deterministicModality (some "불가능") = (some .possible, none) := by decide +kernel
  have negated : Negated "불가능".toList := negated_of_check (by decide +kernel)
  refine ⟨negated, forced, by decide +kernel, fun unforced => ?_⟩
  rw [unforced.undetermined] at forced
  cases forced

/-- Two negated cues of two states do not force one. -/
theorem incomplete_unforced : Unforced "불가능 미완료" := by
  have negated : Negated "불가능 미완료".toList := negated_of_check (by decide +kernel)
  refine (negated_unforced negated).mpr (.inr ⟨.possible, .completed, by decide, ?_, ?_⟩)
  · use (.possible, ["가능", "수 있음", "수있음", "할 수 있다", "할수있다"])
    exact ⟨by decide, rfl, "가능", by decide, '불', by decide, by decide +kernel⟩
  · use (.completed, ["완료", "완료됨", "마침", "끝남"])
    exact ⟨by decide, rfl, "완료", by decide, '미', by decide, by decide +kernel⟩

end
end Modality
end KSlide
