import KSlide.Certification.ReleaseState
import KSlide.Recertification.Exemptions

/-
This file proves what a derived release state says about the evidence.
-/

namespace KSlide.Release
open List

section
variable {blockers : ReleaseState → Except Raised (List String)}

/-- Every state up to this one is free of blockers. -/
def Supported (blockers : ReleaseState → Except Raised (List String)) (state : ReleaseState) :
    Prop :=
  ∀ other ∈ requestableStates, rank other ≤ rank state → blockers other = .ok []

/-- The loop passes the states without a blocker and stops before the first state with one. -/
theorem climb_ok {states : List ReleaseState} {available result : ReleaseState}
    (climbed : climb blockers states available = .ok result) :
    ∃ passed later, states = passed ++ later ∧ (∀ state ∈ passed, blockers state = .ok []) ∧
      result = (available :: passed).getLast (cons_ne_nil _ _) ∧
        ∀ next ∈ later.head?, blockers next ≠ .ok [] := by
  induction states generalizing available with
  | nil =>
    cases climbed
    exact ⟨[], [], rfl, by simp, rfl, by simp⟩
  | cons state rest ih =>
    rw [climb] at climbed
    cases found : blockers state with
    | error _ =>
      rw [found] at climbed
      cases climbed
    | ok names =>
      rw [found] at climbed
      change (if names.isEmpty = true then _ else _) = _ at climbed
      split_ifs at climbed with empty
      · obtain ⟨passed, later, rfl, free, last, stop⟩ := ih climbed
        rw [List.isEmpty_iff] at empty
        refine ⟨state :: passed, later, rfl, ?_, ?_, stop⟩
        · rw [forall_mem_cons]
          exact ⟨by rw [found, empty], free⟩
        · rw [last, getLast_cons (cons_ne_nil _ _)]
      · cases climbed
        refine ⟨[], state :: rest, rfl, by simp, rfl, ?_⟩
        rintro next ⟨⟩ free
        rw [found, Except.ok.injEq] at free
        rw [free] at empty
        exact empty rfl

theorem climb_returns {states : List ReleaseState} {available : ReleaseState}
    (answers : ∀ state ∈ states, ∃ found, blockers state = .ok found) :
    ∃ result, climb blockers states available = .ok result := by
  induction states generalizing available with
  | nil => exact ⟨_, rfl⟩
  | cons state rest ih =>
    obtain ⟨⟨found, first⟩, others⟩ := forall_mem_cons.mp answers
    rw [climb, first]
    show ∃ result, (if found.isEmpty = true then _ else _) = _
    split_ifs
    · exact ih others
    · exact ⟨_, rfl⟩

end

section
variable {blockers : ReleaseState → Except Raised (List String)}

/-- In a list without repetition, the items up to the last of a front part are those of it. -/
theorem idxOf_le_getLast {Item : Type} [DecidableEq Item] {front back : List Item}
    (distinct : (front ++ back).Nodup) (occupied : front ≠ []) {item : Item} :
    (front ++ back).idxOf item ≤ (front ++ back).idxOf (front.getLast occupied) ↔
      item ∈ front := by
  have last : (front ++ back).idxOf (front.getLast occupied) = front.length - 1 := by
    rw [idxOf_append_of_mem (getLast_mem occupied), getLast_eq_getElem,
      (nodup_append.mp distinct).1.idxOf_getElem]
  have positive := length_pos_of_ne_nil occupied
  rw [last]
  by_cases listed : item ∈ front
  · have before := idxOf_lt_length_iff.mpr listed
    rw [idxOf_append_of_mem listed]
    simp only [listed, iff_true]
    omega
  · rw [idxOf_append_of_notMem listed]
    simp only [listed, iff_false]
    omega

theorem requestable_nodup : requestableStates.Nodup := by decide

/-- The requested state bounds the result; a text of no state bounds it by development. -/
def ceiling (requested : String) : ReleaseState :=
  (requestableStates.find? fun state => stateValue state == requested).getD .development

/-- The result is the greatest supported state up to the requested one, and only the requested
state has no blockers. -/
structure Derived (blockers : ReleaseState → Except Raised (List String)) (requested : String)
    (result : ReleaseState × List String) : Prop where
  requestable : result.1 ∈ requestableStates
  below : rank result.1 ≤ rank (ceiling requested)
  supported : Supported blockers result.1
  greatest : ∀ other ∈ requestableStates, rank other ≤ rank (ceiling requested) →
    Supported blockers other → rank other ≤ rank result.1
  complete : result.2 = [] ↔ stateValue result.1 = requested

/-- The loop over all states gives the greatest supported one. -/
theorem climb_greatest {result : ReleaseState} (free : blockers .development = .ok [])
    (climbed : climb blockers requestableStates.tail .development = .ok result) :
    result ∈ requestableStates ∧ Supported blockers result ∧
      ∀ other ∈ requestableStates, Supported blockers other → rank other ≤ rank result := by
  obtain ⟨passed, later, split, clear, rfl, stop⟩ := climb_ok climbed
  have whole : requestableStates = (.development :: passed) ++ later := by
    rw [cons_append, ← split]
    rfl
  have distinct := requestable_nodup
  have order {other : ReleaseState} : rank other ≤
      rank ((.development :: passed).getLast (cons_ne_nil _ _)) ↔
        other ∈ ReleaseState.development :: passed := by
    rw [whole] at distinct
    rw [rank, rank, whole]
    exact idxOf_le_getLast distinct (cons_ne_nil _ _)
  have front : ∀ other ∈ ReleaseState.development :: passed, blockers other = .ok [] :=
    forall_mem_cons.mpr ⟨free, clear⟩
  refine ⟨?_, fun other _ before => front other (order.mp before), ?_⟩
  · rw [whole]
    exact mem_append_left _ (getLast_mem _)
  · intro other listed supported
    by_contra beyond
    rw [order] at beyond
    have after : other ∈ later := by
      rw [whole, mem_append] at listed
      exact listed.resolve_left beyond
    obtain ⟨next, rest, rfl⟩ := exists_cons_of_ne_nil (ne_nil_of_mem after)
    have apart : next ∉ ReleaseState.development :: passed := fun kept => by
      rw [whole] at distinct
      exact disjoint_of_nodup_append distinct kept mem_cons_self
    have before : rank next ≤ rank other := by
      rw [rank, rank, whole, idxOf_append_of_notMem apart, idxOf_append_of_notMem beyond,
        idxOf_cons_self]
      omega
    have member : next ∈ requestableStates := by
      rw [whole]
      exact mem_append_right _ mem_cons_self
    exact stop next rfl (supported next member before)

variable {wanted : ReleaseState} {requested : String}

theorem ceiling_of_requestable
    (found : (requestableStates.find? fun state => stateValue state == requested) = some wanted) :
    ceiling requested = wanted ∧ wanted ∈ requestableStates ∧ stateValue wanted = requested := by
  refine ⟨by rw [ceiling, found]; rfl, mem_of_find?_eq_some found, ?_⟩
  simpa using find?_some found

theorem stateValue_injective {first second : ReleaseState}
    (same : stateValue first = stateValue second) : first = second := by
  cases first <;> cases second <;> first | rfl | exact absurd same (by decide)

theorem find_requestable
    (listed : wanted ∈ requestableStates) (named : stateValue wanted = requested) :
    (requestableStates.find? fun state => stateValue state == requested) = some wanted := by
  cases found : requestableStates.find? fun state => stateValue state == requested with
  | none =>
    have absent := find?_eq_none.mp found wanted listed
    exact absurd (by simp [named]) absent
  | some other =>
    have same : stateValue other = requested := by simpa using find?_some found
    rw [stateValue_injective (same.trans named.symm)]

theorem sortedNames_ne_nil {names : List String} {name : String} (listed : name ∈ names) :
    sortedNames names ≠ [] := by
  intro empty
  have kept := mem_sortedNames.mpr listed
  rw [empty] at kept
  exact not_mem_nil kept

theorem supported_development (free : blockers .development = .ok []) :
    Supported blockers .development := by
  intro other listed first
  have zero : rank other = 0 := Nat.le_zero.mp first
  have same : other = .development := by
    cases other with
    | development => rfl
    | _ => cases zero
  rw [same, free]

/-- Whatever is returned is the greatest supported state up to the requested one. -/
theorem deriveFrom_derived {result : ReleaseState × List String}
    (free : blockers .development = .ok [])
    (returned : deriveFrom blockers requested = .ok result) :
    Derived blockers requested result := by
  unfold deriveFrom at returned
  split at returned
  · rename_i unknown
    cases returned
    have least : ceiling requested = .development := by
      rw [ceiling, unknown]
      rfl
    have other : stateValue .development ≠ requested := by
      intro same
      have absent := find?_eq_none.mp unknown .development (by decide)
      exact absent (by simp [same])
    have member : ReleaseState.development ∈ requestableStates := mem_cons_self
    exact ⟨member, by rw [least], supported_development free,
      fun other _ below _ => by rwa [least] at below, by simp [other]⟩
  · rename_i wanted known
    obtain ⟨top, listed, named⟩ := ceiling_of_requestable known
    cases climbed : climb blockers requestableStates.tail .development with
    | error _ =>
      rw [climbed] at returned
      cases returned
    | ok available =>
      obtain ⟨member, supported, greatest⟩ := climb_greatest free climbed
      cases found : blockers wanted with
      | error _ =>
        rw [climbed, found] at returned
        cases returned
      | ok names =>
        rw [climbed, found] at returned
        change (if rank available < rank wanted then _ else _) = _ at returned
        split_ifs at returned with short
        · cases returned
          refine ⟨member, by rw [top]; exact short.le, supported,
            fun other kept _ whole => greatest other kept whole, ?_⟩
          have occupied : sortedNames (names ++
              [s!"requested {requested} exceeds evidence-derived maximum {stateValue available}"])
                ≠ [] := sortedNames_ne_nil (mem_append_right _ mem_cons_self)
          constructor
          · exact fun empty => absurd empty occupied
          · intro same
            have equal : available = wanted := stateValue_injective (same.trans named.symm)
            rw [equal] at short
            exact absurd short (lt_irrefl _)
        · cases returned
          have covered : rank wanted ≤ rank available := not_lt.mp short
          have clear := supported wanted listed covered
          rw [found, Except.ok.injEq] at clear
          exact ⟨listed, by rw [top], fun other kept below =>
            supported other kept (below.trans covered), fun other _ below _ => by rwa [top] at below,
            by simp [clear, named]⟩

end

theorem sortedNames_eq_nil {names : List String} : sortedNames names = [] ↔ names = [] := by
  constructor
  · intro empty
    by_contra occupied
    obtain ⟨name, rest, rfl⟩ := exists_cons_of_ne_nil occupied
    exact sortedNames_ne_nil mem_cons_self empty
  · rintro rfl
    rfl

section
variable {deployment : Deployment} {candidate : Option Table} {records : Records}

/-- Only the policy of an absent candidate keeps the last state from its answer. -/
def ProductionAnswers (deployment : Deployment) (candidate : Option Table) : Prop :=
  candidate = none → deployment.egress = none

theorem productionBlockers_answers :
    (∃ found, productionBlockers deployment candidate records = .ok found) ↔
      ProductionAnswers deployment candidate := by
  unfold productionBlockers ProductionAnswers egressBlockers
  cases deployment.egress with
  | none => exact ⟨fun _ _ => rfl, fun _ => ⟨_, rfl⟩⟩
  | some egress =>
    cases candidate with
    | none =>
      constructor
      · rintro ⟨_, ⟨⟩⟩
      · intro answers
        cases answers rfl
    | some fields =>
      constructor
      · rintro _ ⟨⟩
      · exact fun _ => ⟨_, rfl⟩

theorem finalBlockers_answers {state : ReleaseState} :
    (∃ found, finalBlockers deployment candidate records state = .ok found) ↔
      (state = .productionCertified → ProductionAnswers deployment candidate) := by
  unfold finalBlockers
  split_ifs with certified
  · rw [productionBlockers_answers]
    exact ⟨fun answers _ => answers, fun answers => answers certified⟩
  · exact ⟨fun _ absurd => (certified absurd).elim, fun _ => ⟨_, rfl⟩⟩

theorem missingBlockers_eq_nil {state : ReleaseState} : missingBlockers records state = [] ↔
    ∀ type ∈ stateRequirements state, (records type).isSome = true := by
  rw [missingBlockers, map_eq_nil_iff, filter_eq_nil_iff]
  constructor
  · exact fun present type listed => Option.isSome_iff_ne_none.mpr fun absent =>
      present type listed (by rw [absent]; rfl)
  · intro present type listed absent
    have kept := present type listed
    rw [Option.isNone_iff_eq_none.mp absent] at kept
    cases kept

end

section
variable [Sha256] {deployment : Deployment} {candidate : Option Table} {records : Records}

/-- The status can be looked up, and a promoted candidate has an identity. -/
def StatusAnswers (deployment : Deployment) (candidate : Option Table) (value : Table) : Prop :=
  (∃ promoted, (value.get "status").memberOf championPromotionStates = .ok promoted) ∧
    ((value.get "status").memberOf championPromotionStates = .ok true →
      ∀ fields, candidate = some fields →
        ∃ identity, deployment.reading.deploymentFingerprint (.obj fields) = .ok identity)

def ChampionAnswers (deployment : Deployment) (candidate : Option Table) : Prop :=
  ∀ value, deployment.championFile = .document (.obj value) →
    StatusAnswers deployment candidate value

variable {state : ReleaseState} {value : Table}

theorem promotionBlockers_answers :
    (∃ found, promotionBlockers deployment candidate records value = .ok found) ↔
      ∀ fields, candidate = some fields →
        ∃ identity, deployment.reading.deploymentFingerprint (.obj fields) = .ok identity := by
  cases candidate with
  | none =>
    constructor
    · rintro _ fields ⟨⟩
    · exact fun _ => ⟨_, rfl⟩
  | some fields =>
    rw [promotionBlockers]
    cases named : deployment.reading.deploymentFingerprint (.obj fields) with
    | error raised =>
      constructor
      · rintro ⟨found, absurd⟩
        cases absurd
      · intro answers
        obtain ⟨identity, known⟩ := answers fields rfl
        rw [named] at known
        cases known
    | ok identity =>
      constructor
      · rintro _ other ⟨⟩
        exact ⟨identity, named⟩
      · intro _
        change ∃ found, (if (deployment.fingerprint != identity) = true then _ else _) = _
        split_ifs
        · exact ⟨_, rfl⟩
        · split
          · exact ⟨_, rfl⟩
          · exact ⟨_, rfl⟩

theorem statusBlockers_answers :
    (∃ found, statusBlockers deployment candidate records value = .ok found) ↔
      StatusAnswers deployment candidate value := by
  have promotion : (∃ found, promotionBlockers deployment candidate records value = .ok found) ↔ _ :=
    promotionBlockers_answers
  rw [StatusAnswers, ← promotion, statusBlockers]
  cases looked : (value.get "status").memberOf championPromotionStates with
  | error _ =>
    constructor
    · rintro ⟨_, ⟨⟩⟩
    · rintro ⟨⟨_, ⟨⟩⟩, _⟩
  | ok promoted =>
    cases promoted with
    | false => exact ⟨fun _ => ⟨⟨_, rfl⟩, fun absurd => nomatch absurd⟩, fun _ => ⟨_, rfl⟩⟩
    | true =>
      cases answered : promotionBlockers deployment candidate records value with
      | error _ =>
        constructor
        · rintro ⟨_, ⟨⟩⟩
        · rintro ⟨_, answers⟩
          obtain ⟨_, ⟨⟩⟩ := answers rfl
      | ok found => exact ⟨fun _ => ⟨⟨_, rfl⟩, fun _ => ⟨_, rfl⟩⟩, fun _ => ⟨_, rfl⟩⟩

theorem statusAnswers_unset (unset : value.get "status" = .str "UNSET") :
    StatusAnswers deployment candidate value := by
  have lookup : (value.get "status").memberOf championPromotionStates = .ok false := by
    rw [unset]
    rfl
  rw [StatusAnswers, lookup]
  exact ⟨⟨false, rfl⟩, fun absurd => nomatch absurd⟩

theorem championBlockers_answers :
    (∃ found, championBlockers deployment candidate records = .ok found) ↔
      ChampionAnswers deployment candidate := by
  unfold championBlockers ChampionAnswers
  cases file : deployment.championFile with
  | missing | malformed =>
    constructor
    · rintro _ value ⟨⟩
    · exact fun _ => ⟨_, rfl⟩
  | document document =>
    cases document with
    | obj value =>
      have same : (∀ other, ChampionFile.document (.obj value) = .document (.obj other) →
          StatusAnswers deployment candidate other) ↔
            StatusAnswers deployment candidate value := by
        constructor
        · exact fun answers => answers value rfl
        · rintro answers _ ⟨⟩
          exact answers
      rw [same]
      dsimp only
      by_cases unset : (Table.get value "status" == .str "UNSET") = true
      · rw [if_pos unset]
        exact ⟨fun _ => statusAnswers_unset (beq_iff_eq.mp unset), fun _ => ⟨_, rfl⟩⟩
      · rw [if_neg unset]
        exact statusBlockers_answers
    | _ =>
      constructor
      · rintro _ value ⟨⟩
      · exact fun _ => ⟨_, rfl⟩

theorem lateBlockers_answers :
    (∃ found, lateBlockers deployment candidate records state = .ok found) ↔
      (beyondEvaluation state = true → ChampionAnswers deployment candidate) := by
  unfold lateBlockers
  split_ifs with beyond
  · rw [championBlockers_answers]
    exact ⟨fun answers _ => answers, fun answers => answers beyond⟩
  · exact ⟨fun _ absurd => (beyond absurd).elim, fun _ => ⟨_, rfl⟩⟩

theorem stateSpecificBlockers_answers :
    (∃ found, stateSpecificBlockers deployment candidate records state = .ok found) ↔
      (beyondEvaluation state = true → ChampionAnswers deployment candidate) ∧
        (state = .productionCertified → ProductionAnswers deployment candidate) := by
  have late : (∃ found, lateBlockers deployment candidate records state = .ok found) ↔ _ :=
    lateBlockers_answers
  have final : (∃ found, finalBlockers deployment candidate records state = .ok found) ↔ _ :=
    finalBlockers_answers
  rw [← late, ← final]
  unfold stateSpecificBlockers
  constructor
  · rintro ⟨found, returned⟩
    cases first : lateBlockers deployment candidate records state with
    | error _ =>
      rw [first] at returned
      cases returned
    | ok _ =>
      cases last : finalBlockers deployment candidate records state with
      | error _ =>
        rw [first, last] at returned
        cases returned
      | ok _ => exact ⟨⟨_, rfl⟩, _, rfl⟩
  · rintro ⟨⟨one, first⟩, two, last⟩
    rw [first, last]
    exact ⟨_, rfl⟩

/-- Before the champion is checked, a state needs its evidence and its candidate fields. -/
theorem stateSpecificBlockers_early (early : beyondEvaluation state = false) :
    stateSpecificBlockers deployment candidate records state =
      .ok (sortedNames (missingBlockers records state ++
        candidateBlockers deployment candidate state)) := by
  have final : state ≠ .productionCertified := by
    rintro rfl
    cases early
  have bilingual : authorityBlockers deployment records state = [] := by
    rw [authorityBlockers, if_neg]
    intro listed
    rcases listed with _ | ⟨_, _ | ⟨_, _ | ⟨_, ⟨⟩⟩⟩⟩ <;> cases early
  unfold stateSpecificBlockers lateBlockers finalBlockers engineBlockers
  rw [if_neg (by simp [early]), if_neg final, if_neg (by simp [early]), bilingual]
  have whole (names : List String) : sortedNames (names ++ [] ++ [] ++ [] ++ []) =
      sortedNames names := by
    rw [append_nil, append_nil, append_nil, append_nil]
  exact congrArg Except.ok (whole _)

theorem free_development : stateSpecificBlockers deployment candidate records .development = .ok [] := by
  rw [stateSpecificBlockers_early rfl]
  cases candidate with
  | none => rfl
  | some fields => rfl

/-- The evidence and the candidate suffice for an evaluation. -/
structure EvaluationReady (deployment : Deployment) (records : Records) (fields : Table) : Prop where
  evidence : ∀ type ∈ gemmaRequirements, (records type).isSome = true
  runtime : deployment.unresolvedFields fields .runtimeReady = []
  gemma : deployment.unresolvedFields fields .gemmaEvalReady = []

theorem evaluationReady_iff :
    (stateSpecificBlockers deployment candidate records .runtimeReady = .ok [] ∧
      stateSpecificBlockers deployment candidate records .gemmaEvalReady = .ok []) ↔
        ∃ fields, candidate = some fields ∧ EvaluationReady deployment records fields := by
  rw [stateSpecificBlockers_early rfl, stateSpecificBlockers_early rfl, Except.ok.injEq,
    Except.ok.injEq, sortedNames_eq_nil, sortedNames_eq_nil, append_eq_nil_iff,
    append_eq_nil_iff, missingBlockers_eq_nil, missingBlockers_eq_nil]
  cases candidate with
  | none =>
    constructor
    · rintro ⟨⟨_, ⟨⟩⟩, _⟩
    · rintro ⟨_, ⟨⟩, _⟩
  | some fields =>
    simp only [candidateBlockers, candidateCompleteness, map_eq_nil_iff]
    constructor
    · rintro ⟨⟨_, runtime⟩, evidence, gemma⟩
      exact ⟨fields, rfl, evidence, runtime, gemma⟩
    · rintro ⟨_, ⟨⟩, ready⟩
      refine ⟨⟨fun type listed => ready.evidence type ?_, ready.runtime⟩, ready.evidence,
        ready.gemma⟩
      exact mem_append_left [.heavyRuntime] listed

/-- The loop is answered unless it reaches a champion that is not. -/
theorem climb_answers :
    (∃ result, climb (stateSpecificBlockers deployment candidate records) requestableStates.tail
      .development = .ok result) ↔
      ∀ fields, candidate = some fields → EvaluationReady deployment records fields →
        ChampionAnswers deployment candidate := by
  constructor
  · rintro ⟨result, climbed⟩ fields known ready
    obtain ⟨runtime, gemma⟩ := evaluationReady_iff.mpr ⟨fields, known, ready⟩
    cases found : stateSpecificBlockers deployment candidate records
        .syntheticProductionCandidate with
    | error raised =>
      have stopped : climb (stateSpecificBlockers deployment candidate records)
          requestableStates.tail .development = .error raised := by
        show climb _ [.runtimeReady, .gemmaEvalReady, .syntheticProductionCandidate,
          .internalValidated, .pilotApproved, .productionCertified] _ = _
        rw [climb, runtime]
        show climb _ _ _ = _
        rw [climb, gemma]
        show climb _ _ _ = _
        rw [climb, found]
        rfl
      rw [stopped] at climbed
      cases climbed
    | ok names => exact (stateSpecificBlockers_answers.mp ⟨names, found⟩).1 rfl
  · intro answers
    by_cases ready : ∃ fields, candidate = some fields ∧ EvaluationReady deployment records fields
    · obtain ⟨fields, known, whole⟩ := ready
      apply climb_returns
      intro state _
      apply stateSpecificBlockers_answers.mpr
      exact ⟨fun _ => answers fields known whole, fun _ absent => by rw [known] at absent; cases absent⟩
    · rw [← evaluationReady_iff] at ready
      have early (state : ReleaseState) (before : beyondEvaluation state = false) :
          ∃ found, stateSpecificBlockers deployment candidate records state = .ok found :=
        ⟨_, stateSpecificBlockers_early before⟩
      obtain ⟨runtime, first⟩ := early .runtimeReady rfl
      obtain ⟨gemma, second⟩ := early .gemmaEvalReady rfl
      rw [first, second] at ready
      show ∃ result, climb _ [.runtimeReady, .gemmaEvalReady, .syntheticProductionCandidate,
        .internalValidated, .pilotApproved, .productionCertified] _ = _
      rw [climb, first]
      show ∃ result, (if runtime.isEmpty = true then climb _ _ _ else _) = _
      split_ifs with clear
      · rw [climb, second]
        show ∃ result, (if gemma.isEmpty = true then climb _ _ _ else _) = _
        split_ifs with free
        · rw [List.isEmpty_iff] at clear free
          exact absurd ⟨by rw [clear], by rw [free]⟩ ready
        · exact ⟨_, rfl⟩
      · exact ⟨_, rfl⟩

/-- Every check that the derivation of the requested state makes has an answer. -/
def Answers (deployment : Deployment) (candidate : Option Table) (records : Records)
    (requested : String) : Prop :=
  ∀ wanted ∈ requestableStates, stateValue wanted = requested →
    ((beyondEvaluation wanted = true ∨
      ∃ fields, candidate = some fields ∧ EvaluationReady deployment records fields) →
        ChampionAnswers deployment candidate) ∧
      (wanted = .productionCertified → ProductionAnswers deployment candidate)

/-- The derivation returns exactly when its checks have answers. -/
theorem deriveReleaseState_answers {requested : String} :
    (∃ result, deriveReleaseState deployment candidate records requested = .ok result) ↔
      Answers deployment candidate records requested := by
  unfold deriveReleaseState deriveFrom Answers
  cases found : requestableStates.find? fun state => stateValue state == requested with
  | none =>
    constructor
    · intro _ wanted listed named
      rw [find_requestable listed named] at found
      cases found
    · exact fun _ => ⟨_, rfl⟩
  | some wanted =>
    obtain ⟨_, member, text⟩ := ceiling_of_requestable found
    have loop : (∃ result, climb (stateSpecificBlockers deployment candidate records)
        requestableStates.tail .development = .ok result) ↔ _ := climb_answers
    have last : (∃ found, stateSpecificBlockers deployment candidate records wanted =
        .ok found) ↔ _ := stateSpecificBlockers_answers
    have both : (∀ other ∈ requestableStates, stateValue other = requested →
        ((beyondEvaluation other = true ∨
          ∃ fields, candidate = some fields ∧ EvaluationReady deployment records fields) →
            ChampionAnswers deployment candidate) ∧
          (other = .productionCertified → ProductionAnswers deployment candidate)) ↔
        (∃ result, climb (stateSpecificBlockers deployment candidate records)
          requestableStates.tail .development = .ok result) ∧
        ∃ found, stateSpecificBlockers deployment candidate records wanted = .ok found := by
      rw [loop, last]
      constructor
      · intro answers
        obtain ⟨champion, production⟩ := answers wanted member text
        exact ⟨fun fields known ready => champion (.inr ⟨fields, known, ready⟩),
          fun beyond => champion (.inl beyond), production⟩
      · rintro ⟨climbed, champion, production⟩ other _ named
        rw [stateValue_injective (named.trans text.symm)]
        refine ⟨?_, production⟩
        rintro (beyond | ⟨fields, known, ready⟩)
        · exact champion beyond
        · exact climbed fields known ready
    rw [both]
    dsimp only
    constructor
    · rintro ⟨result, returned⟩
      cases climbed : climb (stateSpecificBlockers deployment candidate records)
          requestableStates.tail .development with
      | error _ =>
        rw [climbed] at returned
        cases returned
      | ok available =>
        cases checked : stateSpecificBlockers deployment candidate records wanted with
        | error _ =>
          rw [climbed, checked] at returned
          cases returned
        | ok names => exact ⟨⟨available, rfl⟩, names, rfl⟩
    · rintro ⟨⟨available, climbed⟩, names, checked⟩
      rw [climbed, checked]
      show ∃ result, (if rank available < rank wanted then _ else _) = _
      split_ifs
      · exact ⟨_, rfl⟩
      · exact ⟨_, rfl⟩

end

section
variable {first second : Records}

/-- The second records keep every record of the first ones. -/
def Extends (first second : Records) : Prop :=
  ∀ type record, first type = some record → second type = some record

/-- Both records agree on the evidence that a state requires. -/
def Agree (first second : Records) (state : ReleaseState) : Prop :=
  ∀ type ∈ stateRequirements state, second type = first type

variable (deployment : Deployment) {state : ReleaseState}

theorem agree_of_extends (kept : Extends first second)
    (present : missingBlockers first state = []) : Agree first second state := by
  intro type listed
  obtain ⟨record, found⟩ := Option.isSome_iff_exists.mp (missingBlockers_eq_nil.mp present type listed)
  rw [found, kept type record found]

theorem missingBlockers_agree (same : Agree first second state) :
    missingBlockers second state = missingBlockers first state := by
  unfold missingBlockers
  rw [filter_congr fun type listed => by rw [same type listed]]

/-- The evidence from the model on is required wherever the champion is checked. -/
theorem synthetic_required (beyond : beyondEvaluation state = true) :
    ∀ type ∈ syntheticRequirements, type ∈ stateRequirements state := by
  cases state with
  | syntheticProductionCandidate => exact fun type listed => listed
  | internalValidated => decide
  | pilotApproved => decide
  | productionCertified => decide
  | _ => cases beyond

theorem engineBlockers_agree (same : Agree first second state) :
    engineBlockers second state = engineBlockers first state := by
  unfold engineBlockers
  cases beyond : beyondEvaluation state with
  | false => rfl
  | true => rw [same .heavyRuntime (synthetic_required beyond _ (by decide))]

theorem authorityBlockers_agree (same : Agree first second state) :
    authorityBlockers deployment second state = authorityBlockers deployment first state := by
  unfold authorityBlockers
  split_ifs with listed
  · have bound : ∀ type ∈ [EvidenceType.zeroKoreanComprehension, .internalBilingual],
        type ∈ stateRequirements state := by
      cases state with
      | internalValidated => decide
      | pilotApproved => decide
      | productionCertified => decide
      | _ => exact absurd listed (by decide)
    rw [same .zeroKoreanComprehension (bound _ (by decide)),
      same .internalBilingual (bound _ (by decide))]
  · rfl

theorem finalBlockers_agree (candidate : Option Table)
    {state : ReleaseState} (same : Agree first second state) :
    finalBlockers deployment candidate second state =
      finalBlockers deployment candidate first state := by
  unfold finalBlockers
  split_ifs with certified
  · subst certified
    unfold productionBlockers
    rw [same .security (by decide), same .heavyRuntime (by decide)]
  · rfl

theorem lateBlockers_agree [Sha256] (deployment : Deployment) (candidate : Option Table)
    {state : ReleaseState} (same : Agree first second state) :
    lateBlockers deployment candidate second state =
      lateBlockers deployment candidate first state := by
  unfold lateBlockers
  split_ifs with beyond
  · have model := synthetic_required beyond
    unfold championBlockers statusBlockers promotionBlockers
    rw [same .modelValidation (model _ (by decide)),
      same .modelHighRiskStability (model _ (by decide)),
      same .modelHeldOut (model _ (by decide))]
  · rfl

/-- A state without a blocker has none under more evidence. -/
theorem stateSpecificBlockers_extends [Sha256] {deployment : Deployment} {candidate : Option Table}
    {state : ReleaseState} (kept : Extends first second)
    (clear : stateSpecificBlockers deployment candidate first state = .ok []) :
    stateSpecificBlockers deployment candidate second state = .ok [] := by
  have present : missingBlockers first state = [] := by
    unfold stateSpecificBlockers at clear
    cases late : lateBlockers deployment candidate first state with
    | error _ =>
      rw [late] at clear
      cases clear
    | ok names =>
      cases final : finalBlockers deployment candidate first state with
      | error _ =>
        rw [late, final] at clear
        cases clear
      | ok others =>
        rw [late, final] at clear
        have empty := sortedNames_eq_nil.mp (Except.ok.inj clear)
        simp only [append_eq_nil_iff] at empty
        exact empty.1.1.1.1.1
  have same := agree_of_extends kept present
  rw [← clear]
  unfold stateSpecificBlockers
  rw [lateBlockers_agree deployment candidate same, finalBlockers_agree deployment candidate same,
    missingBlockers_agree same, authorityBlockers_agree deployment same, engineBlockers_agree same]

end

section
attribute [local instance] Sha256.polynomial

def policedDeployment : Deployment where
  reading := sampleReading
  fingerprint := "deployment"
  championFile := .missing
  unresolvedFields _ _ := []
  promotion _ _ _ _ _ := .error "EvidenceValidationError"
  egress := some ⟨"1", "hash", "identity", "route", "endpoint", true, "resolved"⟩
  bootstrap _ _ := (true, "managed")
  policyCompleteness _ := (true, "resolved")
  inferencePolicy _ := none
  authorityBinding _ _ := true

end
end KSlide.Release
