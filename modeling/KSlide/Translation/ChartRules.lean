import KSlide.Translation.ChartReading
import Mathlib.Algebra.Order.Ring.Unbundled.Rat
import Mathlib.Data.List.Chain

/-
This file proves what the trend, value and comparison rules accept.
-/

namespace KSlide
open Translation List

@[simp] theorem breaks_schemaError {Value : Type} {message : String} :
    ¬Breaks (.error (schemaError message) : Except Raised Value) := breaks_kslide

@[simp] theorem breaks_chartMismatch {Value : Type} {message : String}
    {details : List (String × Json)} :
    ¬Breaks (.error (chartMismatch message details) : Except Raised Value) := breaks_kslide

section
variable {Word : Type} [Text.Enumeration Word] {claim : Json} {field : String} {refused : Raised}

theorem wordOf_ok {word : Word} :
    wordOf Word (claim.field field) refused = .ok word ↔ Says claim field word := by
  unfold wordOf Says
  cases claim.field field with
  | str text =>
    unfold Json.memberOf
    simp only [bind_ok, Except.ok.injEq, exists_eq_left', require_ok, exists_const, Json.str.injEq]
    constructor
    · intro parts
      obtain ⟨_, parsed⟩ := parts
      cases found : Text.Enumeration.parse Word text with
      | none =>
        rw [found] at parsed
        cases parsed
      | some other =>
        rw [found] at parsed
        have same : other = word := Except.ok.inj parsed
        rw [← same]
        exact (Text.Enumeration.parse_eq_some.mp found).symm
    · intro same
      rw [same, Text.Enumeration.parse_value]
      constructor
      · rw [contains_iff_mem]
        exact mem_map_of_mem (Text.Enumeration.complete word)
      · rfl
  | _ => simp [Json.memberOf, throw, throwThe, MonadExceptOf.throw]

/-- A list or an object is never read as a word. -/
theorem wordOf_breaks (package : ¬Breaks (.error refused : Except Raised Unit)) :
    Breaks (wordOf Word (claim.field field) refused) ↔ Unhashable claim field := by
  have whole {Value : Type} : ¬Breaks (.error refused : Except Raised Value) := by
    intro parts
    obtain ⟨kind, same⟩ := parts
    exact package ⟨kind, by rw [Except.error.inj same]⟩
  have checked (condition : Bool) : ¬Breaks (require condition refused) := by
    cases condition
    · exact whole
    · exact breaks_ok
  unfold wordOf Unhashable Json.memberOf
  cases claim.field field with
  | str text =>
    simp only [breaks_bind, breaks_ok, checked, false_or, Except.ok.injEq, exists_eq_left',
      require_ok, reduceCtorEq, exists_false, or_self, iff_false]
    intro parts
    obtain ⟨_, _, broken⟩ := parts
    split at broken
    · exact breaks_pure broken
    · exact whole broken
  | _ => simp [checked, whole]

end

theorem keys_of_field {value : Json} {name : String} (present : value.field name ≠ .null) :
    value.keys.contains name = true := by
  cases found : value.get? name with
  | none =>
    unfold Json.field at present
    rw [found] at present
    exact absurd rfl present
  | some field =>
    cases value with
    | obj fields =>
      rw [contains_iff_mem]
      exact mem_map_of_mem (Json.get?_eq_some_mem found)
    | _ => cases found

section
variable {numbers : List ℚ}

theorem neighbours_all {test : ℚ × ℚ → Bool} :
    (numbers.zip numbers.tail).all test = true ↔
      numbers.IsChain fun first second => test (first, second) = true := by
  induction numbers with
  | nil => simp
  | cons first rest ih =>
    cases rest with
    | nil => simp
    | cons second rest =>
      rw [tail_cons, zip_cons_cons, all_cons, Bool.and_eq_true,
        isChain_cons_cons]
      exact and_congr Iff.rfl ih

theorem neighbours_equal : (numbers.zip numbers.tail).all (fun pair => pair.1 == pair.2) = true ↔
    numbers.Pairwise (· = ·) := by
  rw [neighbours_all, ← isChain_iff_pairwise]
  simp only [beq_iff_eq]

theorem neighbours_increasing :
    (numbers.zip numbers.tail).all (fun pair => decide (pair.1 ≤ pair.2)) = true ↔
      numbers.Pairwise (· ≤ ·) := by
  rw [neighbours_all, ← isChain_iff_pairwise]
  simp only [decide_eq_true_eq]

theorem neighbours_decreasing :
    (numbers.zip numbers.tail).all (fun pair => decide (pair.2 ≤ pair.1)) = true ↔
      numbers.Pairwise (· ≥ ·) := by
  rw [neighbours_all, ← isChain_iff_pairwise]
  simp only [decide_eq_true_eq, ge_iff_le]

/-- The neighbours decide the direction of all the numbers. -/
theorem trendOf_eq_some {trend : ChartTrend} :
    trendOf numbers = some trend ↔ trend.Describes numbers := by
  have both (up : numbers.Pairwise (· ≤ ·)) (down : numbers.Pairwise (· ≥ ·)) :
      numbers.Pairwise (· = ·) :=
    (up.and down).imp fun ordered => le_antisymm ordered.1 ordered.2
  unfold trendOf ChartTrend.Describes
  simp only [neighbours_equal, neighbours_increasing, neighbours_decreasing]
  by_cases equal : numbers.Pairwise (· = ·)
  · rw [if_pos equal]
    cases trend <;> simp [equal]
  · rw [if_neg equal]
    by_cases up : numbers.Pairwise (· ≤ ·)
    · rw [if_pos up]
      have down : ¬numbers.Pairwise (· ≥ ·) := fun down => equal (both up down)
      cases trend <;> simp only [equal, up, down] <;> simp
    · rw [if_neg up]
      by_cases down : numbers.Pairwise (· ≥ ·)
      · rw [if_pos down]
        cases trend <;> simp only [equal, up, down] <;> simp
      · rw [if_neg down]
        cases trend <;> simp only [equal, up, down] <;> simp

end

namespace PlottedChart
variable [Fractions] {elementId chart claim series : Json} {index place : Nat}

variable {point : Json} {value : Json} {number : ℚ} {plotted : PlottedChart}

omit [Fractions] in
theorem Names.same {other : Bool} {first second : Nat}
    {one two : PlottedSeries} (left : plotted.Names claim other first one)
    (right : plotted.Names claim other second two) : first = second ∧ one = two := by
  obtain ⟨leftNamed, leftPlaced⟩ := left
  obtain ⟨rightNamed, rightPlaced⟩ := right
  rw [leftNamed, Option.some.injEq, Prod.mk.injEq] at rightNamed
  have here : first = second := rightNamed.1
  rw [here, rightPlaced] at leftPlaced
  exact ⟨here, (Option.some.inj leftPlaced).symm⟩

omit [Fractions] in
theorem Places.same {first second : Nat}
    (left : plotted.Places claim first) (right : plotted.Places claim second) :
    first = second := by
  obtain ⟨_, leftNamed, _⟩ := left
  obtain ⟨_, rightNamed, _⟩ := right
  rw [leftNamed, Option.some.injEq, Prod.mk.injEq] at rightNamed
  exact rightNamed.1

theorem number_ofJson :
    PlottedValue.ofJson value = .number number ↔ value.number? = some number := by
  unfold PlottedValue.ofJson
  by_cases empty : value = .null
  · rw [if_pos empty, empty]
    simp [Json.number?]
  · rw [if_neg empty]
    cases value.number? with
    | none => simp
    | some measured => simp

theorem blank_ofJson : PlottedValue.ofJson value = .blank ↔ value = .null := by
  unfold PlottedValue.ofJson
  by_cases empty : value = .null
  · simp [empty]
  · rw [if_neg empty]
    cases value.number? with
    | none => simp [empty]
    | some measured => simp [empty]

theorem other_ofJson {reading : Except Raised ℚ}
    (same : PlottedValue.ofJson value = .other reading) : value.float = reading := by
  unfold PlottedValue.ofJson at same
  split at same
  · cases same
  · split at same
    · cases same
    · exact PlottedValue.other.inj same

theorem float_number (read : value.number? = some number) : value.float = .ok number := by
  cases value with
  | int found =>
    have same := Option.some.inj read
    rw [← same]
    rfl
  | real text =>
    have same := Option.some.inj read
    rw [← same]
    rfl
  | _ => cases read

theorem points_place (checked : EvidenceIR.SeriesAt index series) {plotted : PlottedPoint} :
    (PlottedSeries.ofJson series).points[place]? = some plotted ↔
      ∃ point, (chartPoints series)[place]? = some point ∧ .ofJson point = plotted := by
  rw [points_ofJson checked, getElem?_map, Option.map_eq_some_iff]

theorem reads_ofJson (checked : EvidenceIR.SeriesAt index series) {value : PlottedValue} :
    (PlottedSeries.ofJson series).Reads place value ↔ ∃ point,
      (chartPoints series)[place]? = some point ∧ statesField "point_index" point = true ∧
        .ofJson (point.field "value") = value := by
  unfold PlottedSeries.Reads
  rw [points_place checked]
  unfold PlottedPoint.ofJson statesField
  simp only [PlottedPoint.mk.injEq]

theorem chartPoint_blank (checked : EvidenceIR.SeriesAt index series) {value : PlottedValue} :
    (∃ point, chartPoint chart claim series true = .ok point ∧
        .ofJson (point.field "value") = value) ↔
      ∃ place, (PlottedChart.ofJson chart).Places claim place ∧
        (PlottedSeries.ofJson series).Reads place value := by
  constructor
  · intro parts
    obtain ⟨point, read, same⟩ := parts
    obtain ⟨place, places, found, stated, _⟩ := (chartPoint_ok checked).mp read
    exact ⟨place, places, (reads_ofJson checked).mpr ⟨point, found, stated, same⟩⟩
  · intro parts
    obtain ⟨place, places, reads⟩ := parts
    obtain ⟨point, found, stated, same⟩ := (reads_ofJson checked).mp reads
    use point
    constructor
    · apply (chartPoint_ok checked).mpr
      use place
      simp [places, found, stated]
    · exact same

theorem isBlankPoint_read (checked : EvidenceIR.SeriesAt index series) {point : Json}
    (read : chartPoint chart claim series true = .ok point) :
    isBlankPoint point = (point.field "value" == .null) := by
  obtain ⟨_, _, found, _⟩ := (chartPoint_ok checked).mp read
  exact (point_placed checked found).2

theorem chartNumericPoint_ok (checked : EvidenceIR.SeriesAt index series) {number : ℚ} :
    chartNumericPoint chart claim series = .ok number ↔ ∃ place,
      (PlottedChart.ofJson chart).Places claim place ∧
        (PlottedSeries.ofJson series).Reads place (.number number) := by
  unfold chartNumericPoint
  rw [bind_ok]
  constructor
  · intro parts
    obtain ⟨point, read, measured⟩ := parts
    obtain ⟨place, places, found, stated, _⟩ := (chartPoint_ok checked).mp read
    use place
    use places
    apply (reads_ofJson checked).mpr
    use point
    use found
    use stated
    rw [number_ofJson]
    split at measured
    · rename_i value known
      rw [known, Except.ok.inj measured]
    · cases measured
  · intro parts
    obtain ⟨place, places, reads⟩ := parts
    obtain ⟨point, found, stated, same⟩ := (reads_ofJson checked).mp reads
    rw [number_ofJson] at same
    use point
    constructor
    · apply (chartPoint_ok checked).mpr
      use place
      use places
      use found
      use stated
      intro _ empty
      rw [empty] at same
      cases same
    · rw [same]
      rfl

theorem chartNumericPoint_breaks : ¬Breaks (chartNumericPoint chart claim series) := by
  unfold chartNumericPoint
  rw [breaks_bind]
  intro broken
  rcases broken with broken | ⟨point, _, broken⟩
  · exact chartPoint_breaks broken
  · split at broken
    · exact breaks_pure broken
    · exact breaks_kslide broken

/-- All points are numbers when each of them is read as a number. -/
theorem numbers_ofJson (checked : EvidenceIR.SeriesAt index series) {numbers : List ℚ} :
    (PlottedSeries.ofJson series).points.map (·.value) = numbers.map .number ↔
      ((chartPoints series).mapM fun point => (point.field "value").number?) = some numbers := by
  rw [points_ofJson checked, map_map]
  generalize chartPoints series = points
  induction points generalizing numbers with
  | nil =>
    cases numbers with
    | nil => simp
    | cons number numbers => simp
  | cons point points ih =>
    rw [mapM_cons]
    cases numbers with
    | nil => simp [Option.bind_eq_some_iff]
    | cons number numbers =>
      rw [map_cons, map_cons, List.cons.injEq, ih]
      show PlottedValue.ofJson (point.field "value") = .number number ∧ _ ↔ _
      rw [number_ofJson]
      simp [Option.bind_eq_some_iff]

theorem validateTrend_ok (checked : EvidenceIR.SeriesAt index series) :
    validateTrend claim series = .ok () ↔ ∃ numbers : List ℚ,
      (PlottedSeries.ofJson series).points.map (·.value) = numbers.map .number ∧
        2 ≤ numbers.length ∧
          ∃ trend : ChartTrend, Says claim "direction" trend ∧ trend.Describes numbers := by
  unfold validateTrend
  simp only [bind_ok, wordOf_ok, numbers_ofJson checked]
  constructor
  · intro parts
    obtain ⟨direction, said, accepted⟩ := parts
    split at accepted
    · cases accepted
    · rename_i numbers read
      simp only [bind_ok, require_ok, decide_eq_true_eq, exists_const] at accepted
      obtain ⟨long, accepted⟩ := accepted
      split at accepted
      · cases accepted
      · rename_i actual found
        rw [require_ok, beq_iff_eq] at accepted
        rw [← accepted] at found
        exact ⟨numbers, read, long, direction, said, trendOf_eq_some.mp found⟩
  · intro parts
    obtain ⟨numbers, read, long, trend, said, describes⟩ := parts
    use trend
    use said
    rw [read]
    simp only [bind_ok, require_ok, decide_eq_true_eq, exists_const]
    use long
    rw [trendOf_eq_some.mpr describes]
    simp

theorem validateTrend_breaks :
    Breaks (validateTrend claim series) ↔ Unhashable claim "direction" := by
  unfold validateTrend
  rw [breaks_bind, wordOf_breaks breaks_schemaError, or_iff_left]
  intro parts
  obtain ⟨direction, _, broken⟩ := parts
  split at broken
  · exact breaks_kslide broken
  · rw [breaks_bind] at broken
    rcases broken with broken | ⟨_, _, broken⟩
    · exact breaks_require broken
    · split at broken
      · exact breaks_kslide broken
      · exact breaks_require broken

omit [Fractions] in
theorem claimedBlank_ok {blank : Bool} : claimedBlank claim = .ok blank ↔
    (claim.get? "is_blank").getD (.bool false) = .bool blank := by
  unfold claimedBlank
  cases (claim.get? "is_blank").getD (.bool false) <;> simp

omit [Fractions] in
theorem claimedBlank_breaks : ¬Breaks (claimedBlank claim) := by
  unfold claimedBlank
  cases (claim.get? "is_blank").getD (.bool false) <;> simp

/-- A failed conversion is no package error. -/
theorem float_breaks : Breaks value.float ↔ ∃ raised, value.float = .error raised := by
  constructor
  · intro parts
    obtain ⟨kind, same⟩ := parts
    exact ⟨.other kind, same⟩
  · intro parts
    obtain ⟨raised, same⟩ := parts
    cases raised with
    | other kind => exact ⟨kind, same⟩
    | kslide error =>
      unfold Json.float at same
      split at same
      · split at same
        · cases same
        · cases same
      · split at same
        · cases same
        · cases same

theorem validateClaimedValue_blank (blank : isBlankPoint point = true) :
    validateClaimedValue claim point = .ok () ↔ Gives claim .blank := by
  unfold validateClaimedValue Gives
  simp only [bind_ok, require_ok, exists_const, blank, beq_iff_eq, claimedBlank_ok, if_true,
    Option.isNone_iff_eq_none]
  cases claim.get? "is_blank" with
  | none => simp
  | some value => simp

theorem validateClaimedValue_filled (filled : isBlankPoint point = false) :
    validateClaimedValue claim point = .ok () ↔ ∃ number, Gives claim (.number number) ∧
      (point.field "value").float = .ok number := by
  unfold validateClaimedValue Gives
  simp only [bind_ok, require_ok, exists_const, filled, beq_iff_eq, claimedBlank_ok]
  constructor
  · intro parts
    obtain ⟨blank, stated, unblank, accepted⟩ := parts
    rw [unblank] at stated
    rw [if_neg Bool.false_ne_true] at accepted
    split at accepted
    · cases accepted
    · rename_i claimed known
      simp only [bind_ok, require_ok, beq_iff_eq] at accepted
      obtain ⟨number, converted, same⟩ := accepted
      use claimed
      use ⟨stated, known⟩
      rw [converted, same]
  · intro parts
    obtain ⟨number, ⟨stated, known⟩, converted⟩ := parts
    use false
    use stated
    use rfl
    rw [if_neg Bool.false_ne_true, known]
    simp only [bind_ok, require_ok, beq_iff_eq]
    exact ⟨number, converted, rfl⟩

theorem validateClaimedValue_breaks :
    Breaks (validateClaimedValue claim point) ↔ isBlankPoint point = false ∧
      ∃ number, Gives claim (.number number) ∧
        ∃ raised, (point.field "value").float = .error raised := by
  unfold validateClaimedValue Gives
  simp only [breaks_bind, claimedBlank_breaks, claimedBlank_ok, false_or]
  constructor
  · intro parts
    obtain ⟨blank, stated, broken⟩ := parts
    rcases broken with broken | ⟨_, same, broken⟩
    · exact absurd broken breaks_require
    · rw [require_ok, beq_iff_eq] at same
      cases empty : isBlankPoint point with
      | true =>
        rw [empty, if_pos rfl] at broken
        exact absurd broken breaks_require
      | false =>
        use rfl
        rw [empty, if_neg Bool.false_ne_true] at broken
        rw [same, empty] at stated
        split at broken
        · exact absurd broken breaks_kslide
        · rename_i claimed known
          use claimed
          use ⟨stated, known⟩
          rw [breaks_bind] at broken
          rcases broken with broken | ⟨_, _, broken⟩
          · exact float_breaks.mp broken
          · exact absurd broken breaks_require
  · intro parts
    obtain ⟨filled, number, ⟨stated, known⟩, raised, failed⟩ := parts
    use false
    use stated
    right
    use ()
    rw [filled]
    use rfl
    rw [if_neg Bool.false_ne_true, known]
    simp only [breaks_bind]
    left
    exact float_breaks.mpr ⟨raised, failed⟩

theorem claimedValue_ofJson (typed : isBlankPoint point = (point.field "value" == .null)) :
    validateClaimedValue claim point = .ok () ↔
      Gives claim (.ofJson (point.field "value")) ∨
        ∃ number, PlottedValue.ofJson (point.field "value") = .other (.ok number) ∧
          Gives claim (.number number) := by
  cases known : PlottedValue.ofJson (point.field "value") with
  | blank =>
    rw [blank_ofJson.mp known, beq_self_eq_true] at typed
    rw [validateClaimedValue_blank typed]
    simp
  | number measured =>
    have read := number_ofJson.mp known
    have filled : isBlankPoint point = false := by
      rw [typed, beq_eq_false_iff_ne]
      intro empty
      rw [empty] at read
      cases read
    rw [validateClaimedValue_filled filled, float_number read]
    simp
  | other reading =>
    have filled : isBlankPoint point = false := by
      rw [typed, beq_eq_false_iff_ne]
      intro empty
      rw [blank_ofJson.mpr empty] at known
      cases known
    rw [validateClaimedValue_filled filled, other_ofJson known]
    simp only [PlottedValue.other.injEq]
    constructor
    · intro parts
      obtain ⟨number, given, same⟩ := parts
      right
      exact ⟨number, same, given⟩
    · intro accepted
      rcases accepted with given | ⟨number, same, given⟩
      · exact given.elim
      · exact ⟨number, given, same⟩

theorem hasFields_point (places : (PlottedChart.ofJson chart).Places claim place) :
    claim.keys.contains "point_index" = true ∧ claim.keys.contains "category" = true := by
  obtain ⟨category, named, _⟩ := places
  unfold namedPoint at named
  split at named
  · rename_i index category pointed categorized
    constructor
    · apply keys_of_field
      rw [pointed]
      simp
    · apply keys_of_field
      rw [categorized]
      simp
  · cases named

theorem validatePointValue_ok (checked : EvidenceIR.SeriesAt index series) :
    validatePointValue chart claim series = .ok () ↔
      ∃ place, (PlottedChart.ofJson chart).Places claim place ∧
        ∃ value, (PlottedSeries.ofJson series).Reads place value ∧ (Gives claim value ∨
          ∃ number, value = .other (.ok number) ∧ Gives claim (.number number)) := by
  unfold validatePointValue
  simp only [bind_ok, require_ok, exists_const]
  constructor
  · intro parts
    obtain ⟨_, point, read, accepted⟩ := parts
    rw [claimedValue_ofJson (isBlankPoint_read checked read)] at accepted
    obtain ⟨place, places, reads⟩ := (chartPoint_blank checked).mp ⟨point, read, rfl⟩
    exact ⟨place, places, _, reads, accepted⟩
  · intro parts
    obtain ⟨place, places, value, reads, accepted⟩ := parts
    obtain ⟨point, read, same⟩ := (chartPoint_blank checked).mpr ⟨place, places, reads⟩
    obtain ⟨pointed, categorized⟩ := hasFields_point places
    constructor
    · simp only [hasFields, all_cons, all_nil, pointed, categorized, Bool.and_true]
    · use point
      use read
      rw [claimedValue_ofJson (isBlankPoint_read checked read), same]
      exact accepted

theorem validatePointValue_breaks (checked : EvidenceIR.SeriesAt index series) :
    Breaks (validatePointValue chart claim series) ↔
      ∃ place, (PlottedChart.ofJson chart).Places claim place ∧ ∃ raised number,
        (PlottedSeries.ofJson series).Reads place (.other (.error raised)) ∧
          Gives claim (.number number) := by
  unfold validatePointValue
  simp only [breaks_bind, chartPoint_breaks, require_ok, exists_const, false_or,
    validateClaimedValue_breaks]
  constructor
  · intro broken
    rcases broken with broken | ⟨_, point, read, filled, number, given, raised, failed⟩
    · exact absurd broken breaks_require
    · obtain ⟨place, places, reads⟩ := (chartPoint_blank checked).mp ⟨point, read, rfl⟩
      use place
      use places
      use raised
      use number
      rw [isBlankPoint_read checked read, beq_eq_false_iff_ne] at filled
      cases known : PlottedValue.ofJson (point.field "value") with
      | blank => exact absurd (blank_ofJson.mp known) filled
      | number measured =>
        rw [float_number (number_ofJson.mp known)] at failed
        cases failed
      | other reading =>
        rw [other_ofJson known] at failed
        rw [known, failed] at reads
        exact ⟨reads, given⟩
  · intro parts
    obtain ⟨place, places, raised, number, reads, given⟩ := parts
    right
    obtain ⟨point, read, same⟩ := (chartPoint_blank checked).mpr ⟨place, places, reads⟩
    obtain ⟨pointed, categorized⟩ := hasFields_point places
    constructor
    · simp only [hasFields, all_cons, all_nil, pointed, categorized, Bool.and_true]
    · use point
      use read
      constructor
      · rw [isBlankPoint_read checked read, beq_eq_false_iff_ne]
        intro empty
        rw [blank_ofJson.mpr empty] at same
        cases same
      · exact ⟨number, given, raised, other_ofJson same⟩

omit [Fractions] in
theorem operatorOf_eq {left right : ℚ} {operator : ChartOperator} :
    operatorOf left right = operator ↔ operator.Compares left right := by
  unfold operatorOf ChartOperator.Compares
  rcases lt_trichotomy left right with below | equal | above
  · rw [if_neg (lt_asymm below), if_pos below]
    cases operator <;> simp [below, lt_asymm below, ne_of_lt below]
  · rw [equal, if_neg (lt_irrefl right)]
    cases operator <;> simp
  · rw [if_pos above]
    cases operator <;> simp [above, lt_asymm above, (ne_of_lt above).symm]

omit [Fractions] in
theorem hasFields_other {other : PlottedSeries} (names : plotted.Names claim true index other) :
    claim.keys.contains "other_series_index" = true ∧
      claim.keys.contains "other_series_name" = true := by
  have named := names.1
  unfold namedSeries seriesKeys at named
  rw [if_pos rfl] at named
  split at named
  · rename_i number name indexed called
    constructor
    · apply keys_of_field
      rw [indexed]
      simp
    · apply keys_of_field
      rw [called]
      simp
  · cases named

omit [Fractions] in
theorem hasFields_word {Word : Type} [Text.Enumeration Word] {field : String} {word : Word}
    (said : Says claim field word) : claim.keys.contains field = true := by
  apply keys_of_field
  rw [said]
  simp

/-- A series that states its index states its position. -/
theorem series_quantity (valid : EvidenceIR.checkChart elementId chart = .ok ())
    (position : (chartSeriesItems chart)[index]? = some series)
    (stated : (PlottedSeries.ofJson series).statedIndex = true) :
    (series.field "series_index").quantity? = some (index : ℚ) :=
  (EvidenceIR.quantity_place (EvidenceIR.checkChart_ok valid position).placed).mpr ⟨stated, rfl⟩

theorem validateComparison_ok (valid : EvidenceIR.checkChart elementId chart = .ok ())
    (position : (chartSeriesItems chart)[index]? = some series)
    (stated : (PlottedSeries.ofJson series).statedIndex = true) :
    validateComparison chart claim series = .ok () ↔ ∃ second other,
      (PlottedChart.ofJson chart).Finds claim true second other ∧ index ≠ second ∧
        ∃ place, (PlottedChart.ofJson chart).Places claim place ∧ ∃ left right,
          (PlottedSeries.ofJson series).Reads place (.number left) ∧
            other.Reads place (.number right) ∧ ∃ operator : ChartOperator,
              Says claim "operator" operator ∧ operator.Compares left right := by
  have checked := EvidenceIR.checkChart_ok valid position
  have first := series_quantity valid position stated
  unfold validateComparison
  simp only [bind_ok, require_ok, exists_const, wordOf_ok, chartSeries_ok valid, beq_iff_eq,
    bne_iff_ne, chartNumericPoint_ok checked, first]
  constructor
  · intro parts
    obtain ⟨_, operator, said, other, ⟨second, placed, finds⟩, apart, left, ⟨place, places, one⟩,
      right, read, same⟩ := parts
    rw [chartNumericPoint_ok (EvidenceIR.checkChart_ok valid placed)] at read
    obtain ⟨place', places', two⟩ := read
    rw [← places.same places'] at two
    rw [series_quantity valid placed finds.2.1] at apart
    use second
    use .ofJson other
    use finds
    constructor
    · intro here
      rw [here] at apart
      exact apart rfl
    · exact ⟨place, places, left, right, one, two, operator, said, operatorOf_eq.mp same.symm⟩
  · intro parts
    obtain ⟨second, other, finds, apart, place, places, left, right, one, two, operator, said,
      compares⟩ := parts
    obtain ⟨item, placed, same⟩ := Option.map_eq_some_iff.mp
      ((getElem?_map ..).symm.trans finds.1.2)
    rw [← same] at finds two
    obtain ⟨pointed, categorized⟩ := hasFields_point places
    obtain ⟨indexed, called⟩ := hasFields_other finds.1
    constructor
    · simp only [hasFields, all_cons, all_nil, pointed, categorized, indexed, called,
        hasFields_word said, Bool.and_true]
    · use operator
      use said
      use item
      use ⟨second, placed, finds⟩
      constructor
      · rw [series_quantity valid placed finds.2.1]
        intro here
        apply apart
        exact_mod_cast (Option.some.inj here).symm
      · use left
        use ⟨place, places, one⟩
        use right
        constructor
        · exact (chartNumericPoint_ok (EvidenceIR.checkChart_ok valid placed)).mpr
            ⟨place, places, two⟩
        · exact (operatorOf_eq.mpr compares).symm

theorem validateComparison_breaks :
    Breaks (validateComparison chart claim series) ↔ hasFields claim ["point_index", "category",
      "other_series_index", "other_series_name", "operator"] = true ∧
        Unhashable claim "operator" := by
  unfold validateComparison
  simp only [breaks_bind, require_ok, exists_const, wordOf_breaks breaks_schemaError,
    chartSeries_breaks, chartNumericPoint_breaks, false_or]
  constructor
  · intro broken
    rcases broken with broken | ⟨present, broken⟩
    · exact absurd broken breaks_require
    · rcases broken with broken | ⟨_, _, _, _, broken⟩
      · exact ⟨present, broken⟩
      · rcases broken with broken | ⟨_, _, _, _, _, broken⟩
        · exact absurd broken breaks_require
        · exact absurd broken breaks_require
  · intro parts
    obtain ⟨present, broken⟩ := parts
    right
    exact ⟨present, Or.inl broken⟩

end PlottedChart
end KSlide
