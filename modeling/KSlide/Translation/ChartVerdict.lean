import KSlide.Translation.ChartRanking

/-
This file proves when the chart check decides the truth of a claim.
-/

namespace KSlide
open Translation List

namespace PlottedChart
variable [Fractions] {elementId chart claim : Json} {index place : Nat}

theorem series_ofJson {plotted : PlottedSeries} :
    (PlottedChart.ofJson chart).series[index]? = some plotted ↔ ∃ series,
      (chartSeriesItems chart)[index]? = some series ∧ .ofJson series = plotted := by
  unfold PlottedChart.ofJson
  rw [getElem?_map, Option.map_eq_some_iff]

theorem found_iff (valid : EvidenceIR.checkChart elementId chart = .ok ())
    {Goes : Json → Prop} : (∃ series, chartSeries chart claim false = .ok series ∧ Goes series) ↔
      ∃ index series, (chartSeriesItems chart)[index]? = some series ∧
        (PlottedChart.ofJson chart).Finds claim false index (.ofJson series) ∧ Goes series := by
  simp only [chartSeries_ok valid]
  constructor
  · intro parts
    obtain ⟨series, ⟨index, position, finds⟩, goes⟩ := parts
    exact ⟨index, series, position, finds, goes⟩
  · intro parts
    obtain ⟨index, series, position, finds, goes⟩ := parts
    exact ⟨series, ⟨index, position, finds⟩, goes⟩

theorem found_const {Condition : Prop} :
    (∃ index series, (chartSeriesItems chart)[index]? = some series ∧
        (PlottedChart.ofJson chart).Finds claim false index (.ofJson series) ∧ Condition) ↔
      (∃ index series, (PlottedChart.ofJson chart).Finds claim false index series) ∧
        Condition := by
  constructor
  · intro parts
    obtain ⟨index, series, _, finds, holds⟩ := parts
    exact ⟨⟨index, .ofJson series, finds⟩, holds⟩
  · intro parts
    obtain ⟨⟨index, plotted, finds⟩, holds⟩ := parts
    obtain ⟨series, position, same⟩ := series_ofJson.mp finds.1.2
    rw [← same] at finds
    exact ⟨index, series, position, finds, holds⟩

omit [Fractions] in
theorem reads_value {series : PlottedSeries} {value : PlottedValue} {point : PlottedPoint}
    (reads : series.Reads place value) (found : series.points[place]? = some point) :
    point.value = value := by
  unfold PlottedSeries.Reads at reads
  rw [reads, Option.some.injEq] at found
  rw [← found]

omit [Fractions] in
theorem each_related {Other : Type} {Related : PlottedSeries → Other → Prop}
    {all : List PlottedSeries} {others : List Other} (each : List.Forall₂ Related all others)
    {series : PlottedSeries} (listed : series ∈ all) : ∃ other, Related series other := by
  induction each with
  | nil => cases listed
  | cons related _ ih =>
    rcases mem_cons.mp listed with same | later
    · rw [same]
      exact ⟨_, related⟩
    · exact ih later

/-- A value that is converted is not the value of a true claim. -/
theorem misreads_refused {plotted : PlottedChart} {kind : ChartClaimKind}
    (misread : plotted.Misreads claim kind) : ¬plotted.Holds claim kind := by
  cases kind with
  | trend => exact misread.elim
  | comparison => exact misread.elim
  | pointValue =>
    obtain ⟨index, series, finds, place, places, number, reads, _⟩ := misread
    intro parts
    obtain ⟨index', series', names, place', places', point, found, given⟩ := parts
    rw [← places.same places', ← (finds.1.same names).2] at found
    rw [reads_value reads found] at given
    exact given
  | ranking =>
    obtain ⟨_, _, _, place, places, _, _, _, series, listed, reading, reads⟩ := misread
    intro parts
    obtain ⟨_, _, _, place', places', numbers, each, _⟩ := parts
    obtain ⟨number, point, found, measures⟩ := each_related each listed
    rw [← places.same places'] at found
    rw [reads_value reads found] at measures
    cases number with
    | none => cases measures
    | some value => cases measures

theorem trend_accepts (valid : EvidenceIR.checkChart elementId chart = .ok ()) :
    judge .trend chart claim = .ok () ↔ (PlottedChart.ofJson chart).Holds claim .trend ∧
      (PlottedChart.ofJson chart).States claim .trend := by
  unfold judge Holds States
  rw [bind_ok, found_iff valid]
  constructor
  · intro parts
    obtain ⟨index, series, position, finds, accepted⟩ := parts
    rw [validateTrend_ok (EvidenceIR.checkChart_ok valid position)] at accepted
    exact ⟨⟨index, .ofJson series, finds.1, accepted⟩, index, .ofJson series, finds⟩
  · intro parts
    obtain ⟨⟨_, plotted, names, supported⟩, index, found, finds⟩ := parts
    obtain ⟨series, position, same⟩ := series_ofJson.mp finds.1.2
    rw [(names.same finds.1).2, ← same] at supported
    rw [← same] at finds
    use index
    use series
    use position
    use finds
    exact (validateTrend_ok (EvidenceIR.checkChart_ok valid position)).mpr supported

theorem pointValue_accepts (valid : EvidenceIR.checkChart elementId chart = .ok ()) :
    judge .pointValue chart claim = .ok () ↔
      (PlottedChart.ofJson chart).Holds claim .pointValue ∧
          (PlottedChart.ofJson chart).States claim .pointValue ∨
        (PlottedChart.ofJson chart).Misreads claim .pointValue := by
  unfold judge Holds States Misreads
  rw [bind_ok, found_iff valid]
  constructor
  · intro parts
    obtain ⟨index, series, position, finds, accepted⟩ := parts
    rw [validatePointValue_ok (EvidenceIR.checkChart_ok valid position)] at accepted
    obtain ⟨place, places, value, reads, given | ⟨number, same, given⟩⟩ := accepted
    · left
      constructor
      · exact ⟨index, .ofJson series, finds.1, place, places, _, reads, given⟩
      · exact ⟨index, .ofJson series, finds, place, places, value, reads⟩
    · right
      rw [same] at reads
      exact ⟨index, .ofJson series, finds, place, places, number, reads, given⟩
  · intro accepted
    rcases accepted with ⟨⟨_, plotted, names, place, places, point, position, given⟩,
      index, found, finds, place', places', value, reads⟩ |
      ⟨index, found, finds, place, places, number, reads, given⟩
    · obtain ⟨series, listed, same⟩ := series_ofJson.mp finds.1.2
      rw [(names.same finds.1).2, places.same places'] at position
      rw [reads_value reads position] at given
      rw [← same] at finds reads
      use index
      use series
      use listed
      use finds
      rw [validatePointValue_ok (EvidenceIR.checkChart_ok valid listed)]
      exact ⟨place', places', value, reads, Or.inl given⟩
    · obtain ⟨series, listed, same⟩ := series_ofJson.mp finds.1.2
      rw [← same] at finds reads
      use index
      use series
      use listed
      use finds
      rw [validatePointValue_ok (EvidenceIR.checkChart_ok valid listed)]
      exact ⟨place, places, _, reads, Or.inr ⟨number, rfl, given⟩⟩

omit [Fractions] in
theorem counts_measured {series : PlottedSeries} {value : PlottedValue} {number : Option ℚ}
    (reads : series.Reads place value) (measures : value.Measures number)
    (known : value = .blank ∨ series.statedIndex = true) : Counts place series number := by
  use value
  use reads
  use Or.inl measures
  intro filled
  rcases known with blank | stated
  · cases number with
    | none => cases filled
    | some measured =>
      rw [blank] at measures
      cases measures
  · exact stated

theorem ranking_accepts (valid : EvidenceIR.checkChart elementId chart = .ok ()) :
    judge .ranking chart claim = .ok () ↔
      (PlottedChart.ofJson chart).Holds claim .ranking ∧
          (PlottedChart.ofJson chart).States claim .ranking ∨
        (PlottedChart.ofJson chart).Misreads claim .ranking := by
  unfold judge Holds States Misreads
  rw [bind_ok, found_iff valid]
  constructor
  · intro parts
    obtain ⟨index, series, position, finds, accepted⟩ := parts
    rw [validateRanking_ok valid position finds.2.1] at accepted
    obtain ⟨place, places, numbers, each, ranks⟩ := accepted
    by_cases converted : ∃ series ∈ (PlottedChart.ofJson chart).series, ∃ reading,
        series.Reads place (.other reading)
    · right
      exact ⟨index, .ofJson series, finds, place, places, numbers, each, ranks, converted⟩
    · left
      have plain (series : PlottedSeries) (listed : series ∈ (PlottedChart.ofJson chart).series)
          (value : PlottedValue) (reads : series.Reads place value) (number : Option ℚ)
          (converts : value.Converts number) : value.Measures number := by
        rcases converts with measures | ⟨reading, _, same⟩
        · exact measures
        · rw [same] at reads
          exact absurd ⟨series, listed, _, reads⟩ converted
      constructor
      · use index
        use .ofJson series
        use finds.1
        use place
        use places
        use numbers
        constructor
        · have both := (forall₂_and_left _ _).mpr ⟨fun series listed => listed, each⟩
          apply both.imp
          intro series number ⟨listed, value, reads, converts, _⟩
          exact ⟨_, reads, plain series listed value reads number converts⟩
        · exact ranks
      · use index
        use .ofJson series
        use finds
        use place
        use places
        intro series listed
        obtain ⟨number, value, reads, converts, stated⟩ := each_related each listed
        use value
        use reads
        have measures := plain series listed value reads number converts
        cases number with
        | none =>
          left
          exact measures
        | some measured =>
          right
          exact stated rfl
  · intro accepted
    rcases accepted with ⟨⟨place', plotted, names, place, places, numbers, each, ranks⟩,
      index, found, finds, again, places', reads⟩ |
      ⟨index, found, finds, place, places, numbers, each, ranks, _⟩
    · obtain ⟨series, listed, same⟩ := series_ofJson.mp finds.1.2
      rw [(names.same finds.1).1] at ranks
      rw [← same] at finds
      use index
      use series
      use listed
      use finds
      rw [validateRanking_ok valid listed finds.2.1]
      use place
      use places
      use numbers
      constructor
      · have both := (forall₂_and_left _ _).mpr ⟨reads, each⟩
        apply both.imp
        intro series number ⟨⟨value, read, known⟩, point, position, measures⟩
        rw [← places.same places'] at read
        rw [reads_value read position] at measures
        exact counts_measured read measures known
      · exact ranks
    · obtain ⟨series, listed, same⟩ := series_ofJson.mp finds.1.2
      rw [← same] at finds
      use index
      use series
      use listed
      use finds
      rw [validateRanking_ok valid listed finds.2.1]
      exact ⟨place, places, numbers, each, ranks⟩

theorem comparison_accepts (valid : EvidenceIR.checkChart elementId chart = .ok ()) :
    judge .comparison chart claim = .ok () ↔
      (PlottedChart.ofJson chart).Holds claim .comparison ∧
        (PlottedChart.ofJson chart).States claim .comparison := by
  unfold judge Holds States
  rw [bind_ok, found_iff valid]
  constructor
  · intro parts
    obtain ⟨first, series, position, finds, accepted⟩ := parts
    rw [validateComparison_ok valid position finds.2.1] at accepted
    obtain ⟨second, other, findsOther, apart, place, places, left, right, one, two, supported⟩ :=
      accepted
    constructor
    · exact ⟨first, .ofJson series, second, other, finds.1, findsOther.1, apart, place, places,
        _, _, one, two, left, right, rfl, rfl, supported⟩
    · exact ⟨first, .ofJson series, second, other, finds, findsOther, place, places, _, _, one,
        two⟩
  · intro parts
    obtain ⟨⟨_, _, _, _, names, namesOther, apart, place, places, one, two, positionOne,
      positionTwo, left, right, measuredOne, measuredTwo, supported⟩,
      first, plotted, second, other, finds, findsOther, place', places', valueOne, valueTwo,
      readsOne, readsTwo⟩ := parts
    obtain ⟨series, listed, same⟩ := series_ofJson.mp finds.1.2
    rw [(names.same finds.1).1, (namesOther.same findsOther.1).1] at apart
    rw [(names.same finds.1).2, places.same places'] at positionOne
    rw [(namesOther.same findsOther.1).2, places.same places'] at positionTwo
    rw [← reads_value readsOne positionOne, measuredOne, ← same] at readsOne
    rw [← reads_value readsTwo positionTwo, measuredTwo] at readsTwo
    rw [← same] at finds
    use first
    use series
    use listed
    use finds
    rw [validateComparison_ok valid listed finds.2.1]
    exact ⟨second, other, findsOther, apart, place', places', left, right, readsOne, readsTwo,
      supported⟩

theorem judge_accepts (valid : EvidenceIR.checkChart elementId chart = .ok ())
    {kind : ChartClaimKind} : judge kind chart claim = .ok () ↔
      (PlottedChart.ofJson chart).Holds claim kind ∧
          (PlottedChart.ofJson chart).States claim kind ∨
        (PlottedChart.ofJson chart).Misreads claim kind := by
  cases kind with
  | trend =>
    rw [trend_accepts valid]
    exact (or_iff_left id).symm
  | pointValue => exact pointValue_accepts valid
  | ranking => exact ranking_accepts valid
  | comparison =>
    rw [comparison_accepts valid]
    exact (or_iff_left id).symm

/-- The check breaks where a reached value or word has the wrong type. -/
theorem judge_breaks (valid : EvidenceIR.checkChart elementId chart = .ok ())
    {kind : ChartClaimKind} :
    Breaks (judge kind chart claim) ↔ (PlottedChart.ofJson chart).Breaking claim kind := by
  unfold judge Breaking
  rw [breaks_bind, or_iff_right chartSeries_breaks, found_iff valid]
  cases kind with
  | trend =>
    simp only [validateTrend_breaks]
    exact found_const
  | pointValue =>
    constructor
    · intro parts
      obtain ⟨index, series, position, finds, broken⟩ := parts
      rw [validatePointValue_breaks (EvidenceIR.checkChart_ok valid position)] at broken
      exact ⟨index, .ofJson series, finds, broken⟩
    · intro parts
      obtain ⟨index, plotted, finds, broken⟩ := parts
      obtain ⟨series, position, same⟩ := series_ofJson.mp finds.1.2
      rw [← same] at finds broken
      use index
      use series
      use position
      use finds
      exact (validatePointValue_breaks (EvidenceIR.checkChart_ok valid position)).mpr broken
  | ranking =>
    simp only [validateRanking_breaks valid]
    exact found_const
  | comparison =>
    simp only [validateComparison_breaks]
    exact found_const

end PlottedChart

section
variable [Fractions] {kind : ChartClaimKind} {claim : Json} {charts : List Json}

/-- The claim cites the first element with its element id. -/
def Cites (claim : Json) (charts : List Json) (element : Json) : Prop :=
  ∃ chartId, claim.field "chart_element_id" = .str chartId ∧
    charts.find? (fun item => item.field "element_id" == .str chartId) = some element

def plottedChart (element : Json) : PlottedChart := .ofJson (element.field "chart")

omit [Fractions] in
theorem citedElement_ok {chartId : String} {element : Json} :
    citedElement charts chartId = .ok element ↔
      charts.find? (fun item => item.field "element_id" == .str chartId) = some element := by
  unfold citedElement
  split
  · rename_i missing
    rw [missing]
    simp
  · rename_i found
    rw [found]
    simp

omit [Fractions] in
theorem citedElement_breaks {chartId : String} : ¬Breaks (citedElement charts chartId) := by
  unfold citedElement
  split
  · exact breaks_chartMismatch
  · exact breaks_ok

omit [Fractions] in
theorem closed_fields (closed : ∀ key ∈ claim.keys, key ∈ kind.fields) :
    ∀ key ∈ claim.keys, key ∈ ["chart_element_id", "kind", "series_index", "series_name",
      "point_index", "category", "value", "is_blank", "direction", "ranking", "rank",
      "other_series_index", "other_series_name", "operator"] := by
  have known : ∀ key ∈ kind.fields, key ∈ ["chart_element_id", "kind", "series_index",
      "series_name", "point_index", "category", "value", "is_blank", "direction", "ranking",
      "rank", "other_series_index", "other_series_name", "operator"] := by
    cases kind <;> decide
  intro key listed
  exact known key (closed key listed)

omit [Fractions] in
theorem closed_ok (closed : ∀ key ∈ claim.keys, key ∈ kind.fields) {label : String} :
    onlyFields claim ["chart_element_id", "kind", "series_index", "series_name", "point_index",
      "category", "value", "is_blank", "direction", "ranking", "rank", "other_series_index",
      "other_series_name", "operator"] label = .ok () :=
  onlyFields_ok.mpr (closed_fields closed)

theorem validateChartClaim_ok (object : claim.isObject = true) (said : Says claim "kind" kind)
    (closed : ∀ key ∈ claim.keys, key ∈ kind.fields) :
    validateChartClaim claim charts = .ok () ↔ ∃ element, Cites claim charts element ∧
      judge kind (element.field "chart") claim = .ok () := by
  unfold validateChartClaim Cites
  simp only [bind_ok, object, closed_ok closed, wordOf_ok.mpr said,
    Except.ok.injEq, exists_eq_left', unknown_isEmpty.mpr closed, require_ok,
    exists_const, true_and, checkedText_ok, and_true, citedElement_ok]
  constructor
  · intro parts
    obtain ⟨chartId, cited, element, found, accepted⟩ := parts
    exact ⟨element, ⟨chartId, cited, found⟩, accepted⟩
  · intro parts
    obtain ⟨element, ⟨chartId, cited, found⟩, accepted⟩ := parts
    exact ⟨chartId, cited, element, found, accepted⟩

omit [Fractions] in
theorem checkedText_breaks {accepts : String → Bool} {message : String} {value : Json} :
    ¬Breaks (checkedText accepts (schemaError message) value) := by
  unfold checkedText
  split
  · split
    · exact breaks_ok
    · exact breaks_schemaError
  · exact breaks_schemaError

theorem validateChartClaim_breaks (object : claim.isObject = true)
    (said : Says claim "kind" kind) (closed : ∀ key ∈ claim.keys, key ∈ kind.fields) :
    Breaks (validateChartClaim claim charts) ↔ ∃ element, Cites claim charts element ∧
      Breaks (judge kind (element.field "chart") claim) := by
  have passed (refused : Raised) : require true refused = .ok () := rfl
  unfold validateChartClaim Cites
  simp only [breaks_bind, object, closed_ok closed, wordOf_ok.mpr said,
    unknown_isEmpty.mpr closed, passed, breaks_ok, Except.ok.injEq, exists_eq_left',
    exists_const, true_and, false_or, checkedText_breaks, checkedText_ok, and_true,
    citedElement_breaks, citedElement_ok]
  constructor
  · intro parts
    obtain ⟨chartId, cited, element, found, broken⟩ := parts
    exact ⟨element, ⟨chartId, cited, found⟩, broken⟩
  · intro parts
    obtain ⟨element, ⟨chartId, cited, found⟩, broken⟩ := parts
    exact ⟨chartId, cited, element, found, broken⟩

omit [Fractions] in
theorem Cites.same {first second : Json} (left : Cites claim charts first)
    (right : Cites claim charts second) : first = second := by
  obtain ⟨leftId, leftCited, leftFound⟩ := left
  obtain ⟨rightId, rightCited, rightFound⟩ := right
  rw [leftCited, Json.str.injEq] at rightCited
  rw [rightCited, rightFound] at leftFound
  exact (Option.some.inj leftFound).symm

end
section

/-- The sample charts have whole numbers only. -/
@[reducible] def wholeNumbers : Fractions where
  exact text := ((text.toInt?.getD 0 : Int) : ℚ)
  read text := text.toInt?.map fun value => (value : ℚ)

attribute [local instance] wholeNumbers

def revenueSeries : Json := .obj [
  ("name", .str "Revenue"),
  ("points", .arr [.obj [
    ("is_blank", .bool false), ("point_index", .int 0), ("value", .int 7)]]),
  ("series_index", .int 0)]

/-- The series leaves its index to its position. -/
def costSeries : Json := .obj [
  ("name", .str "Cost"),
  ("points", .arr [.obj [("is_blank", .bool false), ("point_index", .int 0), ("value", .int 5)]])]

def yearChart (series : List Json) : Json := .obj [
  ("chart", .obj [
    ("categories", .arr [.str "2024"]), ("chart_type", .str "bar"), ("series", .arr series)]),
  ("element_id", .str "chart-1")]

def highestClaim : Json := .obj [
  ("category", .str "2024"), ("chart_element_id", .str "chart-1"), ("kind", .str "ranking"),
  ("point_index", .int 0), ("rank", .int 1), ("ranking", .str "highest"),
  ("series_index", .int 0), ("series_name", .str "Revenue")]

end
end KSlide
