import KSlide.Numeric.Extraction

/-
This file compares a fact of the source with a target text and says when a text keeps its own facts.
-/

namespace KSlide
open List
namespace Numeric
open Regex Regex.Pattern

section
variable [Unicode]

/-- The first currency and the first scale of a table unit count. -/
def unitCurrency (unit : List Char) : Option String :=
  ["USD", "KRW", "EUR", "JPY"].find? fun value =>
    (search (all [.boundary Unicode.isWord, literal value, .boundary Unicode.isWord]) [] unit).isSome

def unitScale (unit : List Char) : Option String :=
  ["trillion", "billion", "million", "thousand", "조", "억", "만", "천"].find? fun marker =>
    Text.within marker.toList (Unicode.casefold unit)

/-- A proven table unit stands around the text of a cell. -/
def tableNumericTargetText (target unit : Option (List Char)) : Option (List Char) :=
  match target, unit with
  | some text, some unit =>
    if text = [] ∨ unit = [] ∨ Text.strip text = [] then some text
    else
      let normalized := Text.collapse (Text.strip unit)
      match unitCurrency normalized, unitScale normalized with
      | some currency, some scale => some (currency.toList ++ ' ' :: text ++ ' ' :: scale.toList)
      | some currency, none => some (currency.toList ++ ' ' :: text)
      | none, some scale => some (text ++ ' ' :: scale.toList)
      | none, none => some (text ++ ' ' :: normalized)
  | _, _ => target

def positiveWords : List String :=
  ["increase", "increased", "growth", "gain", "improve", "improved", "up", "higher"]

def negativeWords : List String :=
  ["decrease", "decreased", "decline", "drop", "loss", "deteriorat", "down", "lower"]

/-- A word counts wherever its letters stand together. -/
def mentionsAny (words : List String) (text : List Char) : Bool :=
  words.any fun word => Text.within word.toList (Unicode.lower text)

/-- These texts name the same period. -/
def periodAliases (expected : List Char) : List (List Char) :=
  let starts (opening : String) := opening.toList.isPrefixOf expected
  [expected] ++
    (if starts "1h" || expected == "상반기".toList then ["first half".toList] else []) ++
    (if starts "2h" || expected == "하반기".toList then ["second half".toList] else []) ++
    (if starts "1q" || starts "q1" || expected == "1분기".toList then ["q1".toList] else [])

variable [Floating]

/-- The tolerance grows with the value. -/
def tolerance (canonical : Floating.Value) : Floating.Value :=
  let scaled := Floating.mul (Floating.abs canonical) Floating.tiny
  if Floating.less scaled Floating.tiny then Floating.tiny else scaled

/-- A target fact keeps the value, the kind of percentage, the currency and the direction. -/
def preserves (source target : NumericFact) : Bool :=
  match source.canonicalValue, target.canonicalValue with
  | some canonical, some other =>
    !Floating.less (tolerance canonical) (Floating.abs (Floating.sub canonical other)) &&
    !(source.semanticQuantity == .percentagePoint &&
      target.semanticQuantity != .percentagePoint) &&
    !(source.semanticQuantity == .percentage && target.semanticQuantity == .percentagePoint) &&
    !((source.currency.getD "" != "") && (target.currency.getD "" != "") &&
      source.currency != target.currency) &&
    !(source.direction.isSome && target.direction.isSome && source.direction != target.direction)
  | _, _ => false

/-- The words of the target stand against the direction of the fact. -/
def reversed (source : NumericFact) (target : List Char) : Bool :=
  (source.direction == some .positive && mentionsAny negativeWords target) ||
    (source.direction == some .negative && mentionsAny positiveWords target)

def numericFactMatches (source : NumericFact) (target tableUnit : Option (List Char)) :
    Bool × String :=
  let displayed := String.ofList source.sourceString
  if source.semanticQuantity = .period then
    let expected := Unicode.lower
      (if source.timePeriod.getD [] = [] then source.sourceString else source.timePeriod.getD [])
    let normalized := Unicode.lower (target.getD [])
    if (periodAliases expected).any (Text.within · normalized) then (true, "period equivalent")
    else (false, "period " ++ displayed ++ " is absent or changed")
  else
    let targets := extractNumericFacts
      (if source.sourceTableId.getD "" = "" then target
        else tableNumericTargetText target tableUnit) { objectId := some "target" }
    if reversed source (target.getD []) then
      (false, "direction for " ++ displayed ++ " was reversed")
    else if targets.any (preserves source) then (true, "numeric meaning preserved")
    else (false, "numeric fact " ++ displayed ++ " is absent or semantically changed")

end

section
variable [Unicode] [Floating] {text : List Char} {source : NumericSource} {fact : NumericFact}

theorem extractNumericFacts_cases
    (listed : fact ∈ extractNumericFacts (some text) source) :
    ∃ id, (∃ found ∈ findAll token text, fact = tokenFact source id found) ∨
      ∃ found ∈ findAll period text, fact = periodFact source id found := by
  unfold extractNumericFacts at listed
  obtain ⟨⟨build, index⟩, numbered, same⟩ := mem_map.mp listed
  have present := List.mem_of_getElem? (List.mem_zipIdx_iff_getElem?.mp numbered)
  use factId source.object index
  rw [← same]
  rcases mem_append.mp present with number | outside
  · obtain ⟨found, scanned, built⟩ := mem_map.mp number
    left
    use found, scanned
    dsimp only at built ⊢
    rw [← built]
  · obtain ⟨found, scanned, built⟩ := mem_map.mp outside
    right
    use found, mem_of_mem_filter scanned
    dsimp only at built ⊢
    rw [← built]

theorem tokenFact_listed {found : Match} (scanned : found ∈ findAll token text)
    (source : NumericSource) :
    ∃ id, tokenFact source id found ∈ extractNumericFacts (some text) source := by
  unfold extractNumericFacts
  have listed : (tokenFact source · found) ∈ (findAll token text).map
      (fun found => (tokenFact source · found)) ++ (periodsOutside (findAll token text) text).map
        fun found => (periodFact source · found) :=
    mem_append_left _ (mem_map_of_mem scanned)
  obtain ⟨index, present⟩ := List.mem_iff_getElem?.mp listed
  have numbered := List.mk_mem_zipIdx_iff_getElem?.mpr present
  use factId source.object index
  exact mem_map_of_mem (f := fun entry : (String → NumericFact) × Nat =>
    entry.1 (factId source.object entry.2)) numbered

omit [Unicode] in
/-- The tolerance is at least the smallest tolerance. -/
theorem tolerance_tiny (value : Floating.Value) :
    Floating.less (tolerance value) Floating.tiny = false := by
  unfold tolerance
  dsimp only
  split
  · exact Floating.less_irrefl _
  · rename_i large
    exact Bool.eq_false_iff.mpr large

omit [Unicode] in
theorem preserves_same {other : NumericFact} {value : Floating.Value}
    (valued : fact.canonicalValue = some value) (canonical : other.canonicalValue = some value)
    (quantity : other.semanticQuantity = fact.semanticQuantity)
    (currency : other.currency = fact.currency) (direction : other.direction = fact.direction) :
    preserves fact other = true := by
  have steady : Floating.less (tolerance value) (Floating.abs (Floating.sub value value)) = false :=
    Floating.steady value _ (tolerance_tiny value)
  unfold preserves
  rw [valued, canonical, quantity, currency, direction]
  cases fact.semanticQuantity <;> simp [steady]

/-- No number is a period. -/
theorem tokenFact_quantity (id : String) (found : Match) :
    (tokenFact source id found).semanticQuantity ≠ .period := by
  have known : ∀ unit, ((unitInfo.lookup unit).getD (1, .number, none)).2.1 ≠ .period := by
    intro unit
    cases looked : unitInfo.lookup unit with
    | none => simp
    | some info =>
      obtain ⟨first, last, split, _⟩ := lookup_eq_some_iff.mp looked
      have listed : (unit, info) ∈ unitInfo := by simp [split]
      have each : ∀ entry ∈ unitInfo, entry.2.2.1 ≠ .period := by decide
      exact each (unit, info) listed
  have quantity := known ((normalUnit (found.group "unit")).getD "")
  dsimp only [tokenFact]
  split
  · simp
  · exact quantity

omit [Floating] in
/-- A period is a part of its text, and its lower case is a part of the text's lower case. -/
theorem lower_period {found : Match} (scanned : found ∈ findAll period text) :
    Text.within (Unicode.lower found.text) (Unicode.lower text) = true := by
  obtain ⟨taken, place⟩ := findAll_run scanned
  have plain : period.refuses 'Σ' = true := by decide
  have absent : 'Σ' ∉ found.text := by
    intro present
    exact run_reads (reads_of_refuses plain) taken 'Σ' present rfl
  obtain ⟨left, right, same⟩ := Unicode.lower_part found.before.reverse found.text found.rest absent
  rw [append_assoc, place] at same
  unfold Text.within
  rw [decide_eq_true_eq, same]
  exact ⟨left, right, rfl⟩

omit [Unicode] [Floating] in
theorem found_period {found : Match} (scanned : found ∈ findAll period text) : found.text ≠ [] := by
  obtain ⟨taken, _⟩ := findAll_run scanned
  have consumed : period.consumes = true := by decide
  exact run_consumes consumed taken

end
end Numeric

section
open Numeric

/-- A text keeps its own fact exactly when its words do not stand against the direction of the
fact. -/
theorem numericFactMatches_own [Unicode] [Floating] {text : List Char} {source : NumericSource}
    {fact : NumericFact} (listed : fact ∈ extractNumericFacts (some text) source) :
    (numericFactMatches fact (some text) none).1 = true ↔
      (fact.direction = some .positive → mentionsAny negativeWords text = false) ∧
        (fact.direction = some .negative → mentionsAny positiveWords text = false) := by
  have against : reversed fact text = false ↔
      (fact.direction = some .positive → mentionsAny negativeWords text = false) ∧
        (fact.direction = some .negative → mentionsAny positiveWords text = false) := by
    simp [reversed]
  rw [← against]
  obtain ⟨id, ⟨found, scanned, rfl⟩ | ⟨found, scanned, rfl⟩⟩ := extractNumericFacts_cases listed
  · have target : (if (tokenFact source id found).sourceTableId.getD "" = "" then some text
        else tableNumericTargetText (some text) none) = some text := by
      split <;> rfl
    obtain ⟨other, present⟩ := tokenFact_listed scanned { objectId := some "target" }
    have kept : (extractNumericFacts (some text) { objectId := some "target" }).any
        (preserves (tokenFact source id found)) = true := by
      apply any_eq_true.mpr
      exact ⟨_, present, preserves_same rfl rfl rfl rfl rfl⟩
    unfold numericFactMatches
    dsimp only
    rw [if_neg (tokenFact_quantity id found), target, if_pos kept, Option.getD_some]
    by_cases lost : reversed (tokenFact source id found) text = true
    · rw [if_pos lost]
      simp [lost]
    · rw [if_neg lost]
      simpa using lost
  · have direction : reversed (periodFact source id found) text = false := rfl
    have expected : (if (periodFact source id found).timePeriod.getD [] = [] then
        (periodFact source id found).sourceString
          else (periodFact source id found).timePeriod.getD []) = found.text :=
      if_neg (found_period scanned)
    have named : (periodAliases (Unicode.lower found.text)).any
        (Text.within · (Unicode.lower text)) = true := by
      apply any_eq_true.mpr
      use Unicode.lower found.text
      constructor
      · unfold periodAliases
        apply mem_append_left
        apply mem_append_left
        apply mem_append_left
        exact mem_cons_self
      · exact lower_period scanned
    have period : (periodFact source id found).semanticQuantity = .period := rfl
    unfold numericFactMatches
    dsimp only [Option.getD_some]
    rw [if_pos period, expected, if_pos named]
    exact iff_of_true rfl direction

end

/-- Numbers with nine digits after the point serve the closed runs. -/
@[reducible] def Floating.fixed : Floating where
  Value := Int
  ofDecimal letters :=
    let fraction := (letters.dropWhile (· != '.')).drop 1
    Nat.ofDigitChars 10 (letters.takeWhile (· != '.') ++
      (fraction ++ List.replicate 9 '0').take 9) 0
  ofNat value := value * 1000000000
  mul first second := first * second / 1000000000
  sub first second := first - second
  abs value := value.natAbs
  less first second := first < second
  tiny := 1
  less_irrefl value := by simp
  steady value tolerance large := by
    simp only [decide_eq_false_iff_not, Int.not_lt] at large
    have zero : ((value - value).natAbs : Int) = 0 := by simp
    simp only [zero, decide_eq_false_iff_not]
    omega

section
open Numeric
attribute [local instance] Unicode.basic Floating.fixed

def gained : List Char := "+5 up".toList
def supported : List Char := "-5 support".toList

/-- The word up is a part of the word support. -/
theorem supported_lost : ∃ fact ∈ extractNumericFacts (some supported) {},
    (numericFactMatches fact (some supported) none).1 = false := by
  have found : (extractNumericFacts (some supported) {}).any
      (fun fact => !(numericFactMatches fact (some supported) none).1) = true := by
    decide +kernel
  obtain ⟨fact, listed, lost⟩ := any_eq_true.mp found
  exact ⟨fact, listed, by simpa using lost⟩

theorem gained_kept : ∃ fact ∈ extractNumericFacts (some gained) {},
    (numericFactMatches fact (some gained) none).1 = true := by
  have found : (extractNumericFacts (some gained) {}).any
      (fun fact => fact.direction == some .positive &&
        !mentionsAny negativeWords gained) = true := by
    decide +kernel
  obtain ⟨fact, listed, kept⟩ := any_eq_true.mp found
  simp only [Bool.and_eq_true, beq_iff_eq, Bool.not_eq_true'] at kept
  have other : ¬fact.direction = some .negative := by simp [kept.1]
  exact ⟨fact, listed, (numericFactMatches_own listed).mpr
    ⟨fun _ => kept.2, fun negative => absurd negative other⟩⟩

end
end KSlide
