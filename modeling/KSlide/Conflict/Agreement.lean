import KSlide.Conflict.Authority
import KSlide.Conflict.Soundness

/-
This file says when the configured authority derives the supersessions that it allows.
-/

namespace KSlide
open Conflict List

section
variable {Item : Type} [DecidableEq Item]

/-- A list with one value has one distinct member. -/
theorem dedup_eq_singleton {items : List Item} {item : Item} :
    items.dedup = [item] ↔ items ≠ [] ∧ ∀ other ∈ items, other = item := by
  constructor
  · intro single
    constructor
    · intro empty
      rw [empty, dedup_nil] at single
      cases single
    · intro other listed
      rw [← mem_dedup, single] at listed
      exact mem_singleton.mp listed
  · intro parts
    obtain ⟨nonempty, same⟩ := parts
    obtain ⟨first, listed⟩ := exists_mem_of_ne_nil items nonempty
    have present : item ∈ items.dedup := by
      rw [mem_dedup, ← same first listed]
      exact listed
    have distinct := nodup_dedup items
    rcases found : items.dedup with _ | ⟨head, _ | ⟨next, rest⟩⟩
    · rw [found] at present
      cases present
    · rw [found, mem_singleton] at present
      rw [present]
    · rw [found] at distinct
      have one : head = item := same head (mem_dedup.mp (by simp [found]))
      have other : next = item := same next (mem_dedup.mp (by simp [found]))
      rw [one, other] at distinct
      simp at distinct

omit [DecidableEq Item] in
/-- Two kept places of a list are two places of the list of kept items. -/
theorem pair_sublist_filter {items : List Item} {keep : Item → Bool} {first second : Item} :
    [first, second].Sublist (items.filter keep) ↔
      [first, second].Sublist items ∧ keep first = true ∧ keep second = true := by
  constructor
  · intro kept
    have each (item : Item) (listed : item ∈ [first, second]) : keep item = true :=
      (mem_filter.mp (kept.subset listed)).2
    exact ⟨kept.trans filter_sublist, each first (by simp), each second (by simp)⟩
  · intro parts
    obtain ⟨sublist, one, other⟩ := parts
    have kept := sublist.filter keep
    rwa [filter_cons_of_pos one, filter_cons_of_pos other, filter_nil] at kept

end

/-- The highest priority bounds the others. -/
theorem highestPriority_eq_some {priorities : List Int} {highest : Int} :
    highestPriority priorities = some highest ↔
      highest ∈ priorities ∧ ∀ priority ∈ priorities, priority ≤ highest := by
  induction priorities generalizing highest with
  | nil => simp [highestPriority]
  | cons first rest ih =>
    rw [highestPriority]
    cases found : highestPriority rest with
    | none =>
      have empty : rest = [] := by
        cases rest with
        | nil => rfl
        | cons second rest =>
          rw [highestPriority] at found
          split at found <;> cases found
      simp only [empty, Option.some.injEq, mem_singleton, forall_eq]
      constructor
      · intro same
        exact ⟨same.symm, Int.le_of_eq same⟩
      · intro parts
        obtain ⟨same, _⟩ := parts
        exact same.symm
    | some other =>
      obtain ⟨listed, bound⟩ := ih.mp found
      simp only [Option.some.injEq, mem_cons, forall_eq_or_imp]
      constructor
      · intro same
        split at same
        · rename_i below
          rw [← same]
          exact ⟨Or.inr listed, Int.le_of_lt below, bound⟩
        · rename_i above
          rw [← same]
          have lower : other ≤ first := Int.not_lt.mp above
          exact ⟨Or.inl rfl, Int.le_refl _, fun priority present =>
            Int.le_trans (bound priority present) lower⟩
      · intro parts
        obtain ⟨member, head, tail⟩ := parts
        have beyond := tail other listed
        rcases member with rfl | member
        · split
          · omega
          · rfl
        · have below := bound highest member
          split
          · omega
          · omega

theorem highestPriority_exists {priorities : List Int} (nonempty : priorities ≠ []) :
    ∃ highest, highestPriority priorities = some highest := by
  cases priorities with
  | nil => exact absurd rfl nonempty
  | cons first rest =>
    rw [highestPriority]
    split
    · exact ⟨_, rfl⟩
    · exact ⟨_, rfl⟩

/-- One rule alone has the highest priority when no two places share it. -/
theorem lone_highest {rules : List AuthorityRule} {highest : Int}
    (found : highestPriority (rules.map (·.priority)) = some highest) :
    (rules.filter (·.priority == highest)).length = 1 ↔
      ¬∃ first second, [first, second].Sublist rules ∧ first.priority = second.priority ∧
        ∀ rule ∈ rules, rule.priority ≤ first.priority := by
  obtain ⟨listed, bound⟩ := highestPriority_eq_some.mp found
  obtain ⟨rule, member, same⟩ := mem_map.mp listed
  have kept : rule ∈ rules.filter (·.priority == highest) :=
    mem_filter.mpr ⟨member, beq_iff_eq.mpr same⟩
  constructor
  · intro single ⟨first, second, sublist, equal, above⟩
    have top : first.priority = highest := by
      have below := bound first.priority (mem_map_of_mem (sublist.subset (by simp)))
      have reached := above rule member
      omega
    have pair : [first, second].Sublist (rules.filter (·.priority == highest)) := by
      apply pair_sublist_filter.mpr
      exact ⟨sublist, beq_iff_eq.mpr top, beq_iff_eq.mpr (equal.symm.trans top)⟩
    have two : 2 ≤ (rules.filter (·.priority == highest)).length := pair.length_le
    omega
  · intro alone
    rcases shape : rules.filter (·.priority == highest) with _ | ⟨first, _ | ⟨second, rest⟩⟩
    · rw [shape] at kept
      cases kept
    · rw [shape]
      rfl
    · exfalso
      apply alone
      have pair : [first, second].Sublist (rules.filter (·.priority == highest)) := by
        rw [shape]
        exact (prefix_append [first, second] rest).sublist
      obtain ⟨sublist, one, other⟩ := pair_sublist_filter.mp pair
      have top : first.priority = highest := beq_iff_eq.mp one
      have next : second.priority = highest := beq_iff_eq.mp other
      exact ⟨first, second, sublist, top.trans next.symm, fun rule listed => by
        rw [top]
        exact bound rule.priority (mem_map_of_mem listed)⟩

namespace Conflict
variable {conflict : Conflict}

/-- A participant is found by its identity. -/
theorem participant_eq_some (distinct : (conflict.participants.map (·.assertionId)).Nodup)
    {assertionId : String} {reference : AssertionReference} :
    conflict.participant assertionId = some reference ↔
      reference ∈ conflict.participants ∧ reference.assertionId = assertionId := by
  unfold participant
  rw [List.findRev?_eq_find?_reverse]
  constructor
  · intro found
    have same := find?_some found
    exact ⟨mem_reverse.mp (mem_of_find?_eq_some found), beq_iff_eq.mp same⟩
  · intro parts
    obtain ⟨listed, same⟩ := parts
    have present : reference ∈ conflict.participants.reverse := mem_reverse.mpr listed
    cases found : conflict.participants.reverse.find? (·.assertionId == assertionId) with
    | none =>
      have absent := find?_eq_none.mp found reference present
      simp [same] at absent
    | some other =>
      have otherListed := mem_reverse.mp (mem_of_find?_eq_some found)
      have otherSame := find?_some found
      have known : other.assertionId = reference.assertionId :=
        (beq_iff_eq.mp otherSame).trans same.symm
      rw [inj_on_of_nodup_map distinct otherListed listed known]

/-- A rule directs the participant with the first identity against the second. -/
def Directed (conflict : Conflict) (rule : AuthorityRule) (first second : String) : Prop :=
  ∃ winner ∈ conflict.participants, ∃ loser ∈ conflict.participants,
    winner.assertionId = first ∧ loser.assertionId = second ∧ rule.directs winner loser = true

theorem directed_iff (distinct : (conflict.participants.map (·.assertionId)).Nodup)
    {rule : AuthorityRule} {winner loser : AssertionReference}
    (won : winner ∈ conflict.participants) (lost : loser ∈ conflict.participants) :
    conflict.Directed rule winner.assertionId loser.assertionId ↔
      rule.directs winner loser = true := by
  constructor
  · intro parts
    obtain ⟨first, firstListed, second, secondListed, sameFirst, sameSecond, directs⟩ := parts
    rw [inj_on_of_nodup_map distinct firstListed won sameFirst,
      inj_on_of_nodup_map distinct secondListed lost sameSecond] at directs
    exact directs
  · intro directs
    exact ⟨winner, won, loser, lost, rfl, rfl, directs⟩

end Conflict

namespace Supersession

/-- The rule belongs to the authority that the supersession names. -/
def Names (supersession : Supersession) (rule : AuthorityRule) : Prop :=
  some rule.authorityConfigId = supersession.authorityConfigId

/-- A rule of the named authority and with its winner and its loser. -/
def Backing (supersession : Supersession) (conflict : Conflict) (rule : AuthorityRule) : Prop :=
  supersession.Names rule ∧ conflict.Directed rule supersession.supersedingAssertionId
    supersession.supersededAssertionId

/-- The rules of the named authority contradict each other or share the highest priority. -/
def Ambiguous (supersession : Supersession) (policy : AuthorityPolicy) (conflict : Conflict) :
    Prop :=
  (∃ rule ∈ policy.rules, supersession.Names rule ∧ conflict.Directed rule
    supersession.supersededAssertionId supersession.supersedingAssertionId) ∨
  ∃ first second, [first, second].Sublist policy.rules ∧
    supersession.Backing conflict first ∧ supersession.Backing conflict second ∧
    first.priority = second.priority ∧
    ∀ rule ∈ policy.rules, supersession.Backing conflict rule → rule.priority ≤ first.priority

/-- Another pair has a rule, or another authority has a rule of no lower priority. -/
def Disputed (supersession : Supersession) (policy : AuthorityPolicy) (conflict : Conflict) :
    Prop :=
  ∃ rule ∈ policy.rules, ∃ first second, first ≠ second ∧ conflict.Directed rule first second ∧
    ((first, second) ≠
        (supersession.supersedingAssertionId, supersession.supersededAssertionId) ∨
      ¬supersession.Names rule ∧ ∀ other ∈ policy.rules, supersession.Backing conflict other →
        other.priority ≤ rule.priority)

end Supersession

namespace AuthorityPolicy
variable {policy : AuthorityPolicy} {conflict : Conflict} {supersession : Supersession}

theorem allows_iff (distinct : (conflict.participants.map (·.assertionId)).Nodup) :
    policy.allows supersession conflict = true ↔
      (∃ rule ∈ policy.rules, supersession.Backing conflict rule) ∧
        ¬supersession.Ambiguous policy conflict := by
  unfold allows
  cases won : conflict.participant supersession.supersedingAssertionId with
  | none =>
    have absent : ¬∃ rule ∈ policy.rules, supersession.Backing conflict rule := by
      intro parts
      obtain ⟨_, _, _, winner, listed, _, _, same, _⟩ := parts
      have found := (participant_eq_some distinct).mpr ⟨listed, same⟩
      rw [won] at found
      cases found
    simp [absent]
  | some winner =>
    cases lost : conflict.participant supersession.supersededAssertionId with
    | none =>
      have absent : ¬∃ rule ∈ policy.rules, supersession.Backing conflict rule := by
        intro parts
        obtain ⟨_, _, _, _, _, loser, listed, _, same, _⟩ := parts
        have found := (participant_eq_some distinct).mpr ⟨listed, same⟩
        rw [lost] at found
        cases found
      simp [absent]
    | some loser =>
      obtain ⟨winnerListed, winnerSame⟩ := (participant_eq_some distinct).mp won
      obtain ⟨loserListed, loserSame⟩ := (participant_eq_some distinct).mp lost
      have backing (rule : AuthorityRule) : supersession.Backing conflict rule ↔
          (some rule.authorityConfigId == supersession.authorityConfigId) = true ∧
            rule.directs winner loser = true := by
        rw [Supersession.Backing, Supersession.Names, ← winnerSame, ← loserSame,
          directed_iff distinct winnerListed loserListed, beq_iff_eq]
      have opposing (rule : AuthorityRule) : supersession.Names rule ∧ conflict.Directed rule
          supersession.supersededAssertionId supersession.supersedingAssertionId ↔
            (some rule.authorityConfigId == supersession.authorityConfigId) = true ∧
              rule.directs loser winner = true := by
        rw [Supersession.Names, ← winnerSame, ← loserSame,
          directed_iff distinct loserListed winnerListed, beq_iff_eq]
      dsimp only
      rw [filter_filter, filter_filter]
      generalize found_eq : policy.rules.filter (fun rule => rule.directs winner loser &&
        (some rule.authorityConfigId == supersession.authorityConfigId)) = found
      generalize opposite_eq : policy.rules.filter (fun rule => rule.directs loser winner &&
        (some rule.authorityConfigId == supersession.authorityConfigId)) = opposite
      have mem_found (rule : AuthorityRule) :
          rule ∈ found ↔ rule ∈ policy.rules ∧ supersession.Backing conflict rule := by
        rw [← found_eq, mem_filter, backing, Bool.and_eq_true,
          and_comm (a := rule.directs winner loser = true)]
      have mem_opposite (rule : AuthorityRule) : rule ∈ opposite ↔ rule ∈ policy.rules ∧
          supersession.Names rule ∧ conflict.Directed rule
            supersession.supersededAssertionId supersession.supersedingAssertionId := by
        rw [← opposite_eq, mem_filter, opposing, Bool.and_eq_true,
          and_comm (a := rule.directs loser winner = true)]
      have tied : (∃ first second, [first, second].Sublist found ∧
          first.priority = second.priority ∧ ∀ rule ∈ found, rule.priority ≤ first.priority) ↔
          ∃ first second, [first, second].Sublist policy.rules ∧
            supersession.Backing conflict first ∧ supersession.Backing conflict second ∧
            first.priority = second.priority ∧ ∀ rule ∈ policy.rules,
              supersession.Backing conflict rule → rule.priority ≤ first.priority := by
        apply exists_congr
        intro first
        apply exists_congr
        intro second
        rw [← found_eq, pair_sublist_filter, Bool.and_eq_true, Bool.and_eq_true, found_eq,
          and_comm (a := first.directs winner loser = true),
          and_comm (a := second.directs winner loser = true), ← backing, ← backing]
        simp only [mem_found, and_assoc, and_imp]
      by_cases empty : found = []
      · have absent : ¬∃ rule ∈ policy.rules, supersession.Backing conflict rule := by
          intro parts
          obtain ⟨rule, listed, backed⟩ := parts
          have member := (mem_found rule).mpr ⟨listed, backed⟩
          rw [empty] at member
          cases member
        simp [empty, absent]
      · have backed : ∃ rule ∈ policy.rules, supersession.Backing conflict rule := by
          obtain ⟨rule, listed⟩ := exists_mem_of_ne_nil found empty
          exact ⟨rule, (mem_found rule).mp listed⟩
        cases opposite with
        | cons rule rest =>
          have ambiguous : supersession.Ambiguous policy conflict :=
            Or.inl ⟨rule, (mem_opposite rule).mp mem_cons_self⟩
          simp [ambiguous]
        | nil =>
          have single : ¬∃ rule ∈ policy.rules, supersession.Names rule ∧
              conflict.Directed rule supersession.supersededAssertionId
                supersession.supersedingAssertionId := by
            intro parts
            obtain ⟨rule, listed, named⟩ := parts
            cases (mem_opposite rule).mpr ⟨listed, named⟩
          obtain ⟨highest, top⟩ :=
            highestPriority_exists (map_eq_nil_iff.not.mpr empty)
          rw [Supersession.Ambiguous, or_iff_right single, ← tied, ← lone_highest top]
          simp [empty, top, backed]

/-- The listed relationships are the directed pairs of distinct participants. -/
theorem mem_configuredRelationships {item : ConfiguredRelationship} :
    item ∈ policy.configuredRelationships conflict ↔
      ∃ rule ∈ policy.rules, item.winner ≠ item.loser ∧
        conflict.Directed rule item.winner item.loser ∧ item.priority = rule.priority ∧
        item.configId = rule.authorityConfigId := by
  obtain ⟨priority, configId, first, second⟩ := item
  unfold configuredRelationships
  simp only [mem_flatMap, mem_map, mem_filter, mem_insertionSort,
    Bool.and_eq_true, bne_iff_ne]
  constructor
  · intro parts
    obtain ⟨rule, listed, winner, won, loser, ⟨lost, different, directs⟩, same⟩ := parts
    obtain ⟨rfl, rfl, rfl, rfl⟩ := ConfiguredRelationship.mk.inj same
    exact ⟨rule, listed, different, ⟨winner, won, loser, lost, rfl, rfl, directs⟩, rfl, rfl⟩
  · intro parts
    obtain ⟨rule, listed, different, ⟨winner, won, loser, lost, sameWinner, sameLoser, directs⟩,
      samePriority, sameConfig⟩ := parts
    rw [← sameWinner, ← sameLoser] at different
    exact ⟨rule, listed, winner, won, loser, ⟨lost, different, directs⟩,
      by rw [samePriority, sameConfig, sameWinner, sameLoser]⟩

/-- One direction remains, and one authority has its highest priority. -/
structure Decisive (policy : AuthorityPolicy) (conflict : Conflict)
    (configId winner loser : String) : Prop where
  matched : ∃ rule ∈ policy.rules, rule.authorityConfigId = configId ∧ winner ≠ loser ∧
    conflict.Directed rule winner loser
  directed : ∀ rule ∈ policy.rules, ∀ first second, first ≠ second →
    conflict.Directed rule first second → first = winner ∧ second = loser
  highest : ∀ rule ∈ policy.rules, conflict.Directed rule winner loser →
    rule.authorityConfigId = configId ∨ ∃ other ∈ policy.rules,
      other.authorityConfigId = configId ∧ conflict.Directed other winner loser ∧
        rule.priority < other.priority

variable [Sha256]

theorem configuredSupersession_eq_some {supersession : Supersession} :
    policy.configuredSupersession conflict = some supersession ↔
      ∃ configId winner loser, policy.Decisive conflict configId winner loser ∧
        supersession = policy.supersessionFor conflict configId winner loser := by
  unfold configuredSupersession
  dsimp only
  generalize relationships : policy.configuredRelationships conflict = found
  have mem_found (item : ConfiguredRelationship) : item ∈ found ↔
      ∃ rule ∈ policy.rules, item.winner ≠ item.loser ∧
        conflict.Directed rule item.winner item.loser ∧ item.priority = rule.priority ∧
        item.configId = rule.authorityConfigId := by
    rw [← relationships]
    exact mem_configuredRelationships
  have listed {rule : AuthorityRule} (known : rule ∈ policy.rules) {first second : String}
      (different : first ≠ second) (directed : conflict.Directed rule first second) :
      ⟨rule.priority, rule.authorityConfigId, first, second⟩ ∈ found :=
    (mem_found _).mpr ⟨rule, known, different, directed, rfl, rfl⟩
  constructor
  · intro derived
    split at derived
    · cases derived
    · rename_i one
      obtain ⟨⟨winner, loser⟩, single⟩ := length_eq_one_iff.mp (not_not.mp one)
      have direction := (dedup_eq_singleton.mp single).2
      obtain ⟨highest, top, derived⟩ := Option.bind_eq_some_iff.mp derived
      obtain ⟨member, bound⟩ := highestPriority_eq_some.mp top
      split at derived
      · rename_i configId first second chosen
        have same := (dedup_eq_singleton.mp chosen).2
        obtain ⟨item, itemListed, itemTop⟩ := mem_map.mp member
        have itemSame := same _ (mem_map_of_mem
          (mem_filter.mpr ⟨itemListed, beq_iff_eq.mpr itemTop⟩))
        obtain ⟨itemConfig, itemWinner, itemLoser⟩ := by simpa using itemSame
        have pair := direction _ (mem_map_of_mem itemListed)
        obtain ⟨sameWinner, sameLoser⟩ := by simpa using pair
        obtain ⟨rule, known, different, directed, priority, config⟩ := (mem_found item).mp itemListed
        rw [itemWinner, itemLoser] at directed different
        refine ⟨configId, first, second, ?_, (Option.some.inj derived).symm⟩
        constructor
        · exact ⟨rule, known, config.symm.trans itemConfig, different, directed⟩
        · intro other otherKnown one two distinct otherDirected
          have found := direction _ (mem_map_of_mem (listed otherKnown distinct otherDirected))
          obtain ⟨oneSame, twoSame⟩ := by simpa using found
          exact ⟨oneSame.trans (sameWinner.symm.trans itemWinner),
            twoSame.trans (sameLoser.symm.trans itemLoser)⟩
        · intro other otherKnown otherDirected
          have present := listed otherKnown different otherDirected
          have below := bound _ (mem_map_of_mem present)
          rcases Int.lt_or_eq_of_le below with lower | equal
          · right
            have higher : other.priority < rule.priority := by
              rw [← priority, itemTop]
              exact lower
            exact ⟨rule, known, config.symm.trans itemConfig, directed, higher⟩
          · left
            have sameOther := same _ (mem_map_of_mem
              (mem_filter.mpr ⟨present, beq_iff_eq.mpr equal⟩))
            exact (Prod.mk.inj sameOther).1
      · cases derived
  · intro parts
    obtain ⟨configId, winner, loser, decisive, same⟩ := parts
    obtain ⟨rule, known, config, different, directed⟩ := decisive.matched
    have present := listed known different directed
    have nonempty : found ≠ [] := ne_nil_of_mem present
    have paired (item : ConfiguredRelationship) (member : item ∈ found) :
        item.winner = winner ∧ item.loser = loser := by
      obtain ⟨other, otherKnown, otherDifferent, otherDirected, _⟩ := (mem_found item).mp member
      exact decisive.directed other otherKnown _ _ otherDifferent otherDirected
    have single : (found.map fun item => (item.winner, item.loser)).dedup = [(winner, loser)] := by
      apply dedup_eq_singleton.mpr
      constructor
      · exact map_eq_nil_iff.not.mpr nonempty
      · intro pair member
        obtain ⟨item, itemListed, itemSame⟩ := mem_map.mp member
        rw [← itemSame, (paired item itemListed).1, (paired item itemListed).2]
    obtain ⟨highest, top⟩ := highestPriority_exists (map_eq_nil_iff.not.mpr nonempty
      : found.map (·.priority) ≠ [])
    obtain ⟨member, bound⟩ := highestPriority_eq_some.mp top
    have chosen : ((found.filter (·.priority == highest)).map fun item =>
        (item.configId, item.winner, item.loser)).dedup = [(configId, winner, loser)] := by
      apply dedup_eq_singleton.mpr
      constructor
      · obtain ⟨item, itemListed, itemTop⟩ := mem_map.mp member
        exact map_eq_nil_iff.not.mpr (ne_nil_of_mem
          (mem_filter.mpr ⟨itemListed, beq_iff_eq.mpr itemTop⟩))
      · intro choice chosen
        obtain ⟨item, kept, itemSame⟩ := mem_map.mp chosen
        obtain ⟨itemListed, itemTop⟩ := mem_filter.mp kept
        obtain ⟨other, otherKnown, _, otherDirected, otherPriority, otherConfig⟩ :=
          (mem_found item).mp itemListed
        obtain ⟨itemWinner, itemLoser⟩ := paired item itemListed
        rw [itemWinner, itemLoser] at otherDirected
        have named : other.authorityConfigId = configId := by
          rcases decisive.highest other otherKnown otherDirected with named | ⟨above, aboveKnown,
            _, aboveDirected, higher⟩
          · exact named
          · have aboveBound : above.priority ≤ highest := bound _ (mem_map_of_mem
              (listed aboveKnown different aboveDirected))
            have reached : item.priority = highest := beq_iff_eq.mp itemTop
            omega
        rw [← itemSame, otherConfig, named, itemWinner, itemLoser]
    rw [single, if_neg (by simp), top, same]
    simp only [bind, Option.bind_some, chosen]

end AuthorityPolicy

namespace Supersession
variable [Sha256] {supersession : Supersession} {conflict : Conflict} {conflicts : List Conflict}

/-- The registry accepts a configured supersession with these fields. -/
theorem check_configured (checked : supersession.check conflicts = .ok ())
    (basis : supersession.authorityBasis =
      Text.Enumeration.value SupersessionAuthorityBasis.configuredAuthority) :
    supersession.state = "authoritative" ∧
      supersession.supersedingAssertionId ≠ supersession.supersededAssertionId ∧
      supersession.authorityEvidence = [] ∧
      (∃ configId, supersession.authorityConfigId = some configId) ∧
      supersession.supersessionId = supersessionIdFor supersession.conflictId
        supersession.supersedingAssertionId supersession.supersededAssertionId
        supersession.authorityBasis (supersession.authorityEvidence.map (·.asDict))
        supersession.authorityConfigId supersession.authorityRelation
        supersession.authorityConfigRevision := by
  have known : Text.Enumeration.parse SupersessionAuthorityBasis supersession.authorityBasis =
      some .configuredAuthority := by
    rw [basis]
    decide
  unfold check at checked
  rw [known] at checked
  simp only [bind_ok, exists_const, require_ok] at checked
  obtain ⟨supported, checked⟩ := checked
  split at checked
  · cases checked
  · simp only [bind_ok, exists_const, require_ok, bne_iff_ne, beq_iff_eq] at checked
    obtain ⟨different, _, _, alone, stable, _⟩ := checked
    simp only [beq_self_eq_true, Bool.true_and, Bool.not_eq_true', Bool.or_eq_false_iff,
      Bool.not_eq_false', List.isEmpty_iff, Option.isNone_eq_false_iff,
      Option.isSome_iff_exists] at alone
    have state : supersession.state = "authoritative" := by
      cases parsed : Text.Enumeration.parse SupersessionState supersession.state with
      | none => simp [parsed] at supported
      | some state =>
        cases state
        exact (Text.Enumeration.parse_eq_some.mp parsed).symm
    exact ⟨state, different, alone.1, alone.2, stable⟩

/-- The registry accepts the record of a configured winner. -/
theorem supersessionFor_check {policy : AuthorityPolicy} {configId winner loser : String}
    (found : conflicts.find? (·.conflictId == conflict.conflictId) = some conflict)
    (different : winner ≠ loser) (won : winner ∈ conflict.participants.map (·.assertionId))
    (lost : loser ∈ conflict.participants.map (·.assertionId)) :
    (policy.supersessionFor conflict configId winner loser).check conflicts = .ok () := by
  have basis : Text.Enumeration.parse SupersessionAuthorityBasis
      (Text.Enumeration.value SupersessionAuthorityBasis.configuredAuthority) =
        some .configuredAuthority := Text.Enumeration.parse_value _
  have state : (Text.Enumeration.parse SupersessionState "authoritative").isSome = true := by
    decide
  unfold check
  simp only [AuthorityPolicy.supersessionFor, basis, state, found]
  simp [different, won, lost]

theorem derived_iff {policy : AuthorityPolicy}
    (found : conflicts.find? (·.conflictId == supersession.conflictId) = some conflict)
    (checked : supersession.check conflicts = .ok ())
    (basis : supersession.authorityBasis =
      Text.Enumeration.value SupersessionAuthorityBasis.configuredAuthority)
    (bound : supersession.authorityConfigRevision = some policy.revision) :
    policy.configuredSupersession conflict = some supersession ↔
      supersession.authorityRelation = none ∧
        (∃ rule ∈ policy.rules, supersession.Backing conflict rule) ∧
        ¬supersession.Disputed policy conflict := by
  obtain ⟨state, different, evidence, ⟨configId, config⟩, stable⟩ := check_configured checked basis
  have named (rule : AuthorityRule) :
      supersession.Names rule ↔ rule.authorityConfigId = configId := by
    rw [Names, config, Option.some.injEq]
  rw [AuthorityPolicy.configuredSupersession_eq_some]
  constructor
  · intro parts
    obtain ⟨chosen, winner, loser, decisive, same⟩ := parts
    have sameConfig : chosen = configId := by
      rw [same] at config
      exact Option.some.inj config
    have sameWinner : supersession.supersedingAssertionId = winner := by rw [same]; rfl
    have sameLoser : supersession.supersededAssertionId = loser := by rw [same]; rfl
    have relation : supersession.authorityRelation = none := by rw [same]; rfl
    rw [sameConfig] at decisive
    refine ⟨relation, ?_, ?_⟩
    · obtain ⟨rule, known, chosenRule, _, directed⟩ := decisive.matched
      rw [← sameWinner, ← sameLoser] at directed
      exact ⟨rule, known, (named rule).mpr chosenRule, directed⟩
    · intro parts
      obtain ⟨rule, known, first, second, distinct, directed, disputed⟩ := parts
      obtain ⟨rfl, rfl⟩ := decisive.directed rule known first second distinct directed
      rcases disputed with other | ⟨foreign, above⟩
      · exact other (by rw [sameWinner, sameLoser])
      · rcases decisive.highest rule known directed with own | ⟨higher, higherKnown, own,
          higherDirected, below⟩
        · exact foreign ((named rule).mpr own)
        · rw [← sameWinner, ← sameLoser] at higherDirected
          have reached := above higher higherKnown ⟨(named higher).mpr own, higherDirected⟩
          omega
  · intro parts
    obtain ⟨relation, ⟨rule, known, own, directed⟩, undisputed⟩ := parts
    refine ⟨configId, supersession.supersedingAssertionId, supersession.supersededAssertionId,
      ?_, ?_⟩
    · constructor
      · exact ⟨rule, known, (named rule).mp own, different, directed⟩
      · intro other otherKnown first second distinct otherDirected
        by_contra apart
        apply undisputed
        refine ⟨other, otherKnown, first, second, distinct, otherDirected, Or.inl ?_⟩
        intro pair
        exact apart (Prod.mk.inj pair)
      · intro other otherKnown otherDirected
        by_contra neither
        rw [not_or] at neither
        apply undisputed
        refine ⟨other, otherKnown, _, _, different, otherDirected, Or.inr ⟨?_, ?_⟩⟩
        · exact fun foreign => neither.1 ((named other).mp foreign)
        · intro third thirdKnown backing
          by_contra above
          apply neither.2
          exact ⟨third, thirdKnown, (named third).mp backing.1, backing.2, by omega⟩
    · have place : supersession.conflictId = conflict.conflictId := by
        have same := find?_some found
        exact (beq_iff_eq.mp same).symm
      rw [evidence, config, relation, bound, basis, place, map_nil] at stable
      obtain ⟨_, _, _, _, _, _, _, _, _, _⟩ := supersession
      simp only at place stable state basis evidence config relation bound
      subst place state basis evidence config relation bound stable
      rfl

end Supersession

/-- Derivation and validation agree on an accepted record exactly when no rule of its authority
backs it, or the rest of the policy disputes it just when that authority is ambiguous. -/
theorem configured_agreement [Sha256] {policy : AuthorityPolicy} {conflict : Conflict}
    {conflicts : List Conflict} {supersession : Supersession}
    (distinct : (conflict.participants.map (·.assertionId)).Nodup)
    (found : conflicts.find? (·.conflictId == supersession.conflictId) = some conflict)
    (checked : supersession.check conflicts = .ok ())
    (basis : supersession.authorityBasis =
      Text.Enumeration.value SupersessionAuthorityBasis.configuredAuthority)
    (bound : supersession.authorityConfigRevision = some policy.revision) :
    (policy.allows supersession conflict = true ↔
        policy.configuredSupersession conflict = some supersession) ↔
      ((∃ rule ∈ policy.rules, supersession.Backing conflict rule) →
        (supersession.Disputed policy conflict ∨ supersession.authorityRelation ≠ none ↔
          supersession.Ambiguous policy conflict)) := by
  rw [AuthorityPolicy.allows_iff distinct, Supersession.derived_iff found checked basis bound]
  by_cases backed : ∃ rule ∈ policy.rules, supersession.Backing conflict rule
  · by_cases disputed : supersession.Disputed policy conflict <;>
      by_cases related : supersession.authorityRelation = none <;>
        by_cases ambiguous : supersession.Ambiguous policy conflict <;>
          simp [backed, disputed, related, ambiguous]
  · simp [backed]

/-- Each of two authorities may prefer one unit. -/
def AuthorityRule.sample (configId winner loser : String) : AuthorityRule where
  authorityConfigId := configId
  priority := 1
  winnerSelector := ⟨none, some winner, none, none, rfl⟩
  loserSelector := ⟨none, some loser, none, none, rfl⟩

def AuthorityPolicy.single : AuthorityPolicy := ⟨[.sample "authority-1" "unit-1" "unit-2"]⟩

def AuthorityPolicy.opposed : AuthorityPolicy :=
  ⟨[.sample "authority-1" "unit-1" "unit-2", .sample "authority-2" "unit-2" "unit-1"]⟩

section
attribute [local instance] Sha256.polynomial

def contested : Conflict := .sample "unit-1" "unit-2" []

def preferred (policy : AuthorityPolicy) : Supersession :=
  policy.supersessionFor contested "authority-1" (AssertionReference.sample "unit-1").assertionId
    (AssertionReference.sample "unit-2").assertionId

theorem preferred_checked (policy : AuthorityPolicy) :
    (preferred policy).check [contested] = .ok () := by
  apply Supersession.supersessionFor_check
  · simp
  · decide +kernel
  · simp [contested, Conflict.sample]
  · simp [contested, Conflict.sample]

/-- A rule of another authority leaves a recorded winner valid that is derived no more. -/
theorem opposed_disagreement :
    (preferred .opposed).check [contested] = .ok () ∧
      (preferred .opposed).authorityConfigRevision = some AuthorityPolicy.opposed.revision ∧
      AuthorityPolicy.opposed.allows (preferred .opposed) contested = true ∧
      AuthorityPolicy.opposed.configuredSupersession contested = none :=
  ⟨preferred_checked _, rfl, by decide +kernel, by decide +kernel⟩

theorem single_agreement :
    (AuthorityPolicy.single.allows (preferred .single) contested = true ↔
        AuthorityPolicy.single.configuredSupersession contested = some (preferred .single)) ↔
      ((∃ rule ∈ AuthorityPolicy.single.rules, (preferred .single).Backing contested rule) →
        ((preferred .single).Disputed .single contested ∨
            (preferred .single).authorityRelation ≠ none ↔
          (preferred .single).Ambiguous .single contested)) := by
  have distinct : (contested.participants.map (·.assertionId)).Nodup := by decide +kernel
  have found : [contested].find? (·.conflictId == (preferred .single).conflictId) =
      some contested := by
    simp [preferred, AuthorityPolicy.supersessionFor]
  exact configured_agreement distinct found (preferred_checked _) rfl rfl

end
end KSlide
