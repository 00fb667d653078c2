import KSlide.Translation.ChartRules

/-
This file proves what the ranking rule accepts.
-/

namespace KSlide
open Translation List

/-- The numbers come with their positions, and blank points are passed over. -/
def rankedFrom : Nat → List (Option ℚ) → List (ℚ × ℚ)
  | _, [] => []
  | place, number :: rest =>
    (number.map fun value => (value, (place : ℚ))).toList ++ rankedFrom (place + 1) rest

theorem map_rankedFrom {place : Nat} {numbers : List (Option ℚ)} :
    (rankedFrom place numbers).map Prod.fst = numbers.filterMap id := by
  induction numbers generalizing place with
  | nil => rfl
  | cons number numbers ih =>
    rw [rankedFrom, map_append, ih]
    cases number with
    | none => rfl
    | some value => rfl

theorem mem_rankedFrom {place : Nat} {numbers : List (Option ℚ)} {ranked : ℚ × ℚ} :
    ranked ∈ rankedFrom place numbers ↔ ∃ index : Nat,
      numbers[index]? = some (some ranked.1) ∧ ranked.2 = ((place + index : Nat) : ℚ) := by
  induction numbers generalizing place with
  | nil => simp [rankedFrom]
  | cons number numbers ih =>
    rw [rankedFrom, mem_append, ih, Option.mem_toList, Option.map_eq_some_iff]
    constructor
    · intro listed
      rcases listed with ⟨value, found, same⟩ | ⟨index, found, same⟩
      · use 0
        rw [← same, found]
        exact ⟨rfl, rfl⟩
      · use index + 1
        rw [getElem?_cons_succ, same]
        use found
        rw [Nat.add_right_comm, Nat.add_assoc]
    · intro parts
      obtain ⟨index, found, same⟩ := parts
      cases index with
      | zero =>
        left
        use ranked.1
        use Option.some.inj found
        rw [Nat.add_zero] at same
        rw [← same]
      | succ index =>
        right
        use index
        rw [getElem?_cons_succ] at found
        use found
        rw [same, Nat.add_right_comm, Nat.add_assoc]

theorem getElem?_rankedBy {ranking : ChartRanking} {values : List (ℚ × ℚ)}
    (distinct : (values.map Prod.fst).Nodup) {rank : Nat} {item : ℚ × ℚ} :
    (rankedBy ranking values)[rank]? = some item ↔ item ∈ values ∧
      (values.map Prod.fst).countP (fun other => decide (ranking.Leads other item.1)) = rank := by
  rw [countP_map]
  cases ranking with
  | highest => exact Rank.getElem?_sortedDown distinct
  | lowest => exact Rank.getElem?_sorted distinct

namespace PlottedChart
variable [Fractions] {elementId chart claim series : Json} {index place : Nat}

omit [Fractions] in
theorem claimedRank_ok {refused : Raised} {rank : Nat} :
    claimedRank claim refused = .ok rank ↔
      ∃ below : Nat, claim.field "rank" = .int (below + 1) ∧ rank = below + 1 := by
  unfold claimedRank
  cases claim.field "rank" with
  | int found =>
    simp only [Json.int.injEq]
    constructor
    · intro read
      split at read
      · have same := Except.ok.inj read
        exact ⟨rank - 1, by omega, by omega⟩
      · cases read
    · intro parts
      obtain ⟨below, same, next⟩ := parts
      rw [if_pos (by omega), Except.ok.injEq]
      omega
  | _ => simp

omit [Fractions] in
theorem claimedRank_breaks {message : String} :
    ¬Breaks (claimedRank claim (schemaError message)) := by
  unfold claimedRank
  split
  · split
    · exact breaks_ok
    · exact breaks_schemaError
  · exact breaks_schemaError

theorem converts_none {value : Json} :
    (PlottedValue.ofJson value).Converts none ↔ value = .null := by
  unfold PlottedValue.Converts PlottedValue.Measures
  simp only [blank_ofJson, reduceCtorEq, false_and, exists_false, or_false]

/-- A value that is not blank is converted as the interpreter reads it. -/
theorem converts_some {value : Json} {number : ℚ} :
    (PlottedValue.ofJson value).Converts (some number) ↔
      value ≠ .null ∧ value.float = .ok number := by
  unfold PlottedValue.Converts PlottedValue.Measures
  simp only [Option.some.injEq, exists_eq_left']
  cases known : PlottedValue.ofJson value with
  | blank => simp [blank_ofJson.mp known]
  | number measured =>
    have read := number_ofJson.mp known
    have filled : value ≠ .null := by
      intro empty
      rw [empty] at read
      cases read
    rw [float_number read]
    simp [filled]
  | other reading =>
    have filled : value ≠ .null := by
      intro empty
      rw [blank_ofJson.mpr empty] at known
      cases known
    rw [other_ofJson known]
    simp [filled]

theorem rankedValue_ok (checked : EvidenceIR.SeriesAt index series)
    {ranked : Option (ℚ × ℚ)} : rankedValue chart claim series = .ok ranked ↔
      ∃ place, (PlottedChart.ofJson chart).Places claim place ∧ ∃ number,
        Counts place (.ofJson series) number ∧
          ranked = number.map fun value => (value, (index : ℚ)) := by
  unfold rankedValue
  rw [bind_ok]
  constructor
  · intro parts
    obtain ⟨point, read, counted⟩ := parts
    obtain ⟨place, places, reads⟩ := (chartPoint_blank checked).mp ⟨point, read, rfl⟩
    use place
    use places
    cases blank : isBlankPoint point with
    | true =>
      rw [blank, if_pos rfl, pure_ok] at counted
      rw [isBlankPoint_read checked read, beq_iff_eq] at blank
      use none
      use ⟨_, reads, converts_none.mpr blank, nofun⟩
      exact counted.symm
    | false =>
      rw [blank, if_neg Bool.false_ne_true, bind_ok] at counted
      obtain ⟨value, converted, indexed⟩ := counted
      rw [isBlankPoint_read checked read, beq_eq_false_iff_ne] at blank
      split at indexed
      · cases indexed
      · rename_i found present
        have stated : (PlottedSeries.ofJson series).statedIndex = true := by
          show (series.get? "series_index").isSome = true
          rw [present]
          rfl
        have quantity : found.quantity? = some (index : ℚ) := by
          have known := (EvidenceIR.quantity_place checked.placed).mpr ⟨stated, rfl⟩
          unfold Json.field at known
          rwa [present] at known
        rw [quantity, pure_ok] at indexed
        use some value
        use ⟨_, reads, converts_some.mpr ⟨blank, converted⟩, fun _ => stated⟩
        exact indexed.symm
  · intro parts
    obtain ⟨place, places, number, ⟨value, reads, converts, stated⟩, same⟩ := parts
    obtain ⟨point, read, plotted⟩ := (chartPoint_blank checked).mpr ⟨place, places, reads⟩
    use point
    use read
    rw [isBlankPoint_read checked read]
    rw [← plotted] at converts
    cases number with
    | none =>
      rw [converts_none.mp converts, same]
      rfl
    | some value =>
      obtain ⟨filled, converted⟩ := converts_some.mp converts
      have known := (EvidenceIR.quantity_place checked.placed).mpr ⟨stated rfl, rfl⟩
      rw [beq_false_of_ne filled, if_neg Bool.false_ne_true, converted, same]
      unfold Json.field at known
      cases present : series.get? "series_index" with
      | none =>
        rw [present] at known
        cases known
      | some found =>
        rw [present] at known
        show Except.ok (some (value, found.quantity?.getD 0)) = _
        rw [Option.getD_some] at known
        rw [known]
        rfl

theorem rankedValue_breaks (checked : EvidenceIR.SeriesAt index series) :
    Breaks (rankedValue chart claim series) ↔
      ∃ place, (PlottedChart.ofJson chart).Places claim place ∧
        Stops place (.ofJson series) := by
  unfold rankedValue
  simp only [breaks_bind, chartPoint_breaks, false_or]
  constructor
  · intro parts
    obtain ⟨point, read, broken⟩ := parts
    obtain ⟨place, places, reads⟩ := (chartPoint_blank checked).mp ⟨point, read, rfl⟩
    use place
    use places
    use .ofJson (point.field "value")
    use reads
    cases blank : isBlankPoint point with
    | true =>
      rw [blank, if_pos rfl] at broken
      exact absurd broken breaks_pure
    | false =>
      rw [blank, if_neg Bool.false_ne_true, breaks_bind] at broken
      rw [isBlankPoint_read checked read, beq_eq_false_iff_ne] at blank
      use fun empty => blank (blank_ofJson.mp empty)
      rcases broken with failed | ⟨value, converted, broken⟩
      · right
        obtain ⟨raised, same⟩ := float_breaks.mp failed
        use raised
        cases known : PlottedValue.ofJson (point.field "value") with
        | blank => exact absurd (blank_ofJson.mp known) blank
        | number measured =>
          rw [float_number (number_ofJson.mp known)] at same
          cases same
        | other reading => rw [← other_ofJson known, same]
      · left
        split at broken
        · rename_i missing
          show (series.get? "series_index").isSome = false
          rw [missing]
          rfl
        · exact absurd broken breaks_pure
  · intro parts
    obtain ⟨place, places, value, reads, filled, cause⟩ := parts
    obtain ⟨point, read, plotted⟩ := (chartPoint_blank checked).mpr ⟨place, places, reads⟩
    rw [← plotted] at filled cause
    use point
    use read
    have shown : point.field "value" ≠ .null := by
      intro empty
      exact filled (blank_ofJson.mpr empty)
    rw [isBlankPoint_read checked read, beq_false_of_ne shown, if_neg Bool.false_ne_true,
      breaks_bind]
    rcases cause with unstated | ⟨raised, failed⟩
    · cases converted : (point.field "value").float with
      | error raised =>
        left
        rw [← converted]
        exact float_breaks.mpr ⟨raised, converted⟩
      | ok number =>
        right
        use number
        use rfl
        have missing : series.get? "series_index" = none := by
          have known : (series.get? "series_index").isSome = false := unstated
          rwa [Option.isSome_eq_false_iff, Option.isNone_iff_eq_none] at known
        rw [missing]
        exact breaks_other
    · left
      exact float_breaks.mpr ⟨raised, other_ofJson failed⟩

theorem rankedValues_ok {items : List Json} (places : (PlottedChart.ofJson chart).Places claim place)
    (checked : ∀ later series, items[later]? = some series →
      EvidenceIR.SeriesAt (index + later) series) {values : List (ℚ × ℚ)} :
    rankedValues chart claim items = .ok values ↔ ∃ numbers,
      List.Forall₂ (Counts place) (items.map .ofJson) numbers ∧
        values = rankedFrom index numbers := by
  induction items generalizing index values with
  | nil =>
    rw [rankedValues, map_nil]
    simp only [forall₂_nil_left_iff, exists_eq_left, Except.ok.injEq, rankedFrom]
    exact eq_comm
  | cons series items ih =>
    have here := checked 0 series rfl
    have later (next : Nat) (found : Json) (position : items[next]? = some found) :
        EvidenceIR.SeriesAt (index + 1 + next) found := by
      have placed := checked (next + 1) found position
      rwa [Nat.add_right_comm]
    rw [rankedValues, map_cons]
    simp only [bind_ok, pure_ok, rankedValue_ok here, ih later, forall₂_cons_left_iff]
    constructor
    · intro parts
      obtain ⟨first, ⟨place', places', number, counts, one⟩, rest, ⟨numbers, each, more⟩, same⟩ :=
        parts
      rw [← places.same places'] at counts
      use number :: numbers
      constructor
      · exact ⟨number, numbers, counts, each, rfl⟩
      · rw [← same, one, more]
        rfl
    · intro parts
      obtain ⟨_, ⟨number, numbers, counts, each, listed⟩, same⟩ := parts
      use number.map fun value => (value, (index : ℚ))
      use ⟨place, places, number, counts, rfl⟩
      use rankedFrom (index + 1) numbers
      use ⟨numbers, each, rfl⟩
      rw [same, listed]
      rfl

theorem rankedValues_breaks {items : List Json}
    (checked : ∀ later series, items[later]? = some series →
      EvidenceIR.SeriesAt (index + later) series) :
    Breaks (rankedValues chart claim items) ↔
      ∃ place, (PlottedChart.ofJson chart).Places claim place ∧ ∃ before series after,
        items.map PlottedSeries.ofJson = before ++ series :: after ∧
          (∀ earlier ∈ before, ∃ number, Counts place earlier number) ∧ Stops place series := by
  induction items generalizing index with
  | nil =>
    rw [rankedValues]
    simp
  | cons series items ih =>
    have here := checked 0 series rfl
    have later (next : Nat) (found : Json) (position : items[next]? = some found) :
        EvidenceIR.SeriesAt (index + 1 + next) found := by
      have placed := checked (next + 1) found position
      rwa [Nat.add_right_comm]
    rw [rankedValues, map_cons]
    simp only [breaks_bind, rankedValue_breaks here, rankedValue_ok here, ih later, breaks_pure,
      and_false, exists_false, or_false]
    constructor
    · intro broken
      rcases broken with ⟨place, places, stops⟩ | ⟨_, ⟨place, places, number, counts, _⟩,
        place', places', before, stopped, after, listed, passes, stops⟩
      · use place
        use places
        use []
        use .ofJson series
        use items.map .ofJson
        use rfl
        exact ⟨fun _ listed => absurd listed not_mem_nil, stops⟩
      · use place
        use places
        use .ofJson series :: before
        use stopped
        use after
        rw [← places.same places'] at passes stops
        rw [listed]
        use rfl
        use forall_mem_cons.mpr ⟨⟨number, counts⟩, passes⟩
    · intro parts
      obtain ⟨place, places, before, stopped, after, listed, passes, stops⟩ := parts
      cases before with
      | nil =>
        left
        use place
        use places
        rw [(List.cons.inj listed).1]
        exact stops
      | cons first before =>
        right
        obtain ⟨same, listed⟩ := List.cons.inj listed
        obtain ⟨⟨number, counts⟩, passes⟩ := forall_mem_cons.mp passes
        rw [← same] at counts
        use number.map fun value => (value, (index : ℚ))
        use ⟨place, places, number, counts, rfl⟩
        exact ⟨place, places, before, stopped, after, listed, passes, stops⟩

theorem series_placed (valid : EvidenceIR.checkChart elementId chart = .ok ()) (later : Nat)
    (series : Json) (position : (chartSeriesItems chart)[later]? = some series) :
    EvidenceIR.SeriesAt (0 + later) series := by
  rw [Nat.zero_add]
  exact EvidenceIR.checkChart_ok valid position

/-- A named series is not the first to be ranked without a place. -/
theorem rankedValues_places (valid : EvidenceIR.checkChart elementId chart = .ok ())
    (position : (chartSeriesItems chart)[index]? = some series) {values : List (ℚ × ℚ)}
    (ranked : rankedValues chart claim (chartSeriesItems chart) = .ok values) :
    ∃ place, (PlottedChart.ofJson chart).Places claim place := by
  cases listed : chartSeriesItems chart with
  | nil =>
    rw [listed] at position
    cases position
  | cons first rest =>
    have placed : (chartSeriesItems chart)[0]? = some first := by
      rw [listed]
      rfl
    rw [listed, rankedValues, bind_ok] at ranked
    obtain ⟨_, read, _⟩ := ranked
    obtain ⟨place, places, _⟩ := (rankedValue_ok (EvidenceIR.checkChart_ok valid placed)).mp read
    exact ⟨place, places⟩

omit [Fractions] in
/-- The claimed rank of the named series is decided by the sorted values. -/
theorem ranks_iff {numbers : List (Option ℚ)} : Ranks claim numbers index ↔
    ∃ ranking : ChartRanking, Says claim "ranking" ranking ∧ ∃ rank : Nat,
      claim.field "rank" = .int (rank + 1) ∧
        ((rankedFrom 0 numbers).map Prod.fst).Nodup ∧
          ∃ expected, (rankedBy ranking (rankedFrom 0 numbers))[rank]? = some expected ∧
            expected.2 = (index : ℚ) := by
  unfold Ranks
  constructor
  · intro parts
    obtain ⟨ranking, said, rank, claimed, distinct, number, found, count⟩ := parts
    have same := @map_rankedFrom 0 numbers
    rw [← same] at distinct count
    use ranking
    use said
    use rank
    use claimed
    use distinct
    use (number, (index : ℚ))
    constructor
    · rw [getElem?_rankedBy distinct, mem_rankedFrom]
      exact ⟨⟨index, found, by rw [Nat.zero_add]⟩, count⟩
    · rfl
  · intro parts
    obtain ⟨ranking, said, rank, claimed, distinct, expected, found, same⟩ := parts
    obtain ⟨listed, count⟩ := (getElem?_rankedBy distinct).mp found
    rw [map_rankedFrom] at distinct count
    obtain ⟨place, position, here⟩ := mem_rankedFrom.mp listed
    rw [same, Nat.zero_add, Rat.natCast_inj] at here
    rw [← here] at position
    exact ⟨ranking, said, rank, claimed, distinct, expected.1, position, count⟩

theorem hasFields_ranking (places : (PlottedChart.ofJson chart).Places claim place)
    {ranking : ChartRanking} (said : Says claim "ranking" ranking) {below : Nat}
    (claimed : claim.field "rank" = .int (below + 1)) :
    hasFields claim ["point_index", "category", "ranking", "rank"] = true := by
  obtain ⟨pointed, categorized⟩ := hasFields_point places
  have rank : claim.keys.contains "rank" = true := by
    apply keys_of_field
    rw [claimed]
    simp
  simp only [hasFields, all_cons, all_nil, pointed, categorized, rank,
    hasFields_word said, Bool.and_true]

theorem validateRanking_ok (valid : EvidenceIR.checkChart elementId chart = .ok ())
    (position : (chartSeriesItems chart)[index]? = some series)
    (stated : (PlottedSeries.ofJson series).statedIndex = true) :
    validateRanking chart claim series = .ok () ↔
      ∃ place, (PlottedChart.ofJson chart).Places claim place ∧ ∃ numbers,
        List.Forall₂ (Counts place) (PlottedChart.ofJson chart).series numbers ∧
          Ranks claim numbers index := by
  have quantity := series_quantity valid position stated
  unfold validateRanking
  simp only [bind_ok, require_ok, exists_const, wordOf_ok, claimedRank_ok, quantity,
    Bool.and_eq_true, decide_eq_true_eq, ranks_iff, Option.any_eq_true, beq_iff_eq,
    Option.some.injEq]
  constructor
  · intro parts
    obtain ⟨_, ranking, said, rank, ⟨below, claimed, same⟩, values, ranked, ⟨_, distinct⟩,
      expected, found, here⟩ := parts
    obtain ⟨place, places⟩ := rankedValues_places valid position ranked
    obtain ⟨numbers, each, listed⟩ :=
      (rankedValues_ok places (series_placed valid)).mp ranked
    rw [same, Nat.add_sub_cancel, listed] at found
    rw [listed] at distinct
    exact ⟨place, places, numbers, each, ranking, said, below, claimed, distinct, expected, found,
      here.symm⟩
  · intro parts
    obtain ⟨place, places, numbers, each, ranking, said, below, claimed, distinct, expected, found,
      here⟩ := parts
    have listed := ((getElem?_rankedBy distinct).mp found).1
    constructor
    · exact hasFields_ranking places said claimed
    · use ranking
      use said
      use below + 1
      use ⟨below, claimed, rfl⟩
      use rankedFrom 0 numbers
      use (rankedValues_ok places (series_placed valid)).mpr ⟨numbers, each, rfl⟩
      constructor
      · constructor
        · cases empty : rankedFrom 0 numbers with
          | nil =>
            rw [empty] at listed
            cases listed
          | cons first rest => rfl
        · exact distinct
      · rw [Nat.add_sub_cancel]
        exact ⟨expected, found, here.symm⟩

theorem validateRanking_breaks (valid : EvidenceIR.checkChart elementId chart = .ok ()) :
    Breaks (validateRanking chart claim series) ↔
      hasFields claim ["point_index", "category", "ranking", "rank"] = true ∧
          Unhashable claim "ranking" ∨
        (∃ ranking : ChartRanking, Says claim "ranking" ranking) ∧
          (∃ rank : Nat, claim.field "rank" = .int (rank + 1)) ∧
            ∃ place, (PlottedChart.ofJson chart).Places claim place ∧ ∃ before series after,
              (PlottedChart.ofJson chart).series = before ++ series :: after ∧
                (∀ earlier ∈ before, ∃ number, Counts place earlier number) ∧
                  Stops place series := by
  unfold validateRanking
  simp only [breaks_bind, require_ok, exists_const, wordOf_ok, wordOf_breaks breaks_schemaError,
    claimedRank_breaks, claimedRank_ok, rankedValues_breaks (series_placed valid), false_or]
  constructor
  · intro broken
    rcases broken with broken | ⟨present, broken⟩
    · exact absurd broken breaks_require
    · rcases broken with broken | ⟨ranking, said, _, ⟨below, claimed, _⟩, broken⟩
      · left
        exact ⟨present, broken⟩
      · right
        use ⟨ranking, said⟩
        use ⟨below, claimed⟩
        rcases broken with broken | ⟨_, _, broken⟩
        · exact broken
        · rcases broken with broken | ⟨_, broken⟩
          · exact absurd broken breaks_require
          · exact absurd broken breaks_require
  · intro broken
    right
    rcases broken with ⟨present, broken⟩ | ⟨⟨ranking, said⟩, ⟨below, claimed⟩, place, places, stop⟩
    · use present
      left
      exact broken
    · use hasFields_ranking places said claimed
      right
      use ranking
      use said
      use below + 1
      use ⟨below, claimed, rfl⟩
      left
      exact ⟨place, places, stop⟩

end PlottedChart
end KSlide
