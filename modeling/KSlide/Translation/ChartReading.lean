import KSlide.Translation.ChartTruth

/-
This file connects the helpers of the chart check with the plotted chart.
-/

namespace KSlide
open Translation List

namespace EvidenceIR
variable [Fractions]

/-- A checked point states its own position or none and has a number or a blank. -/
structure PointAt (place : Nat) (point : Json) : Prop where
  object : point.isObject = true
  placed : statesPlace point "point_index" place = true
  typed : point.field "value" = .null ∧ point.field "is_blank" = .bool true ∨
    (point.field "value").number?.isSome = true ∧ point.field "is_blank" = .bool false

/-- A checked series states its own position or none and has checked points. -/
structure SeriesAt (place : Nat) (series : Json) : Prop where
  object : series.isObject = true
  placed : statesPlace series "series_index" place = true
  named : (seriesName series).isSome = true
  pointed : ∀ found, series.get? "points" = some found → ∃ points, found = .arr points ∧
    ∀ index point, points[index]? = some point → PointAt index point

theorem checkPoint_ok {elementId point : Json} {place : Nat}
    (checked : checkPoint elementId place point = .ok ()) : PointAt place point := by
  unfold checkPoint at checked
  simp only [require_ok, Bool.and_eq_true, Bool.or_eq_true, beq_iff_eq] at checked
  obtain ⟨⟨object, placed⟩, typed⟩ := checked
  exact ⟨object, placed, typed⟩

theorem checkPoints_ok {elementId : Json} {points : List Json} {place : Nat}
    (checked : checkPoints elementId place points = .ok ()) {index : Nat} {point : Json}
    (found : points[index]? = some point) : PointAt (place + index) point := by
  induction points generalizing place index with
  | nil => cases found
  | cons head rest ih =>
    rw [checkPoints] at checked
    simp only [bind_ok] at checked
    obtain ⟨_, first, later⟩ := checked
    cases index with
    | zero =>
      rw [← Option.some.inj found]
      exact checkPoint_ok first
    | succ index =>
      have shifted := ih later found
      rwa [Nat.add_right_comm] at shifted

theorem checkSeries_ok {elementId chart : Json} {items : List Json} {place : Nat}
    {names : List String} (checked : checkSeries elementId chart place names items = .ok ())
    {index : Nat} {series : Json} (found : items[index]? = some series) :
    SeriesAt (place + index) series := by
  induction items generalizing place names index with
  | nil => cases found
  | cons head rest ih =>
    rw [checkSeries] at checked
    simp only [bind_ok, exists_const, require_ok, Bool.and_eq_true] at checked
    obtain ⟨⟨⟨object, placed⟩, named⟩, points, read, _, _, checkedPoints, later⟩ := checked
    cases index with
    | zero =>
      rw [← Option.some.inj found]
      constructor
      · exact object
      · exact placed
      · cases known : seriesName head with
        | none =>
          rw [known] at named
          cases named
        | some name => rfl
      · intro value present
        unfold statedPoints at read
        rw [present] at read
        cases value with
        | arr listed =>
          have same := Except.ok.inj read
          refine ⟨listed, rfl, ?_⟩
          intro index point position
          rw [same] at position
          have placed := checkPoints_ok checkedPoints position
          rwa [Nat.zero_add] at placed
        | _ => cases read
    | succ index =>
      have shifted := ih later found
      rwa [Nat.add_right_comm] at shifted

theorem checkChart_ok {elementId chart : Json} (checked : checkChart elementId chart = .ok ())
    {index : Nat} {series : Json} (found : (chartSeriesItems chart)[index]? = some series) :
    SeriesAt index series := by
  unfold checkChart at checked
  simp only [bind_ok, exists_const, require_ok] at checked
  obtain ⟨_, checked⟩ := checked
  unfold chartSeriesItems at found
  split at checked
  · rename_i items present
    rw [present] at found
    simp only [bind_ok, require_ok] at checked
    obtain ⟨_, inOrder, _⟩ := checked
    have placed := checkSeries_ok inOrder found
    rwa [Nat.zero_add] at placed
  · cases checked

theorem quantity_place {item : Json} {name : String} {place index : Nat}
    (placed : statesPlace item name place = true) :
    (item.field name).quantity? = some (index : ℚ) ↔
      (item.get? name).isSome = true ∧ index = place := by
  unfold statesPlace at placed
  unfold Json.field
  cases found : item.get? name with
  | none => simp [Json.quantity?, Json.number?]
  | some value =>
    rw [found] at placed
    have known : value.quantity? = some (place : ℚ) := by
      cases value with
      | bool truth => cases placed
      | _ => exact beq_iff_eq.mp placed
    simp only [Option.getD_some, known, Option.some.injEq, Rat.natCast_inj, Option.isSome_some,
      true_and]
    exact eq_comm

end EvidenceIR

def statesField (name : String) (item : Json) : Bool := (item.get? name).isSome

/-- Items that are accepted at their own position are found there. -/
theorem find?_placed {items : List Json} {accepts states : Json → Bool} {index : Nat}
    (each : ∀ (position : Nat) item, items[position]? = some item →
      (accepts item = true ↔ states item = true ∧ index = position)) :
    items.find? accepts = (items[index]?).filter states := by
  cases found : items.find? accepts with
  | some item =>
    obtain ⟨accepted, position, short, same, _⟩ := find?_eq_some_iff_getElem.mp found
    have placed : items[position]? = some item := by
      rw [getElem?_eq_getElem short, same]
    obtain ⟨stated, here⟩ := (each position item placed).mp accepted
    rw [here, placed, Option.filter_some_pos stated]
  | none =>
    cases placed : items[index]? with
    | none => rfl
    | some item =>
      have refused := find?_eq_none.mp found item (List.mem_of_getElem? placed)
      have unstated : states item = false := by
        by_contra stated
        rw [Bool.not_eq_false] at stated
        exact refused ((each index item placed).mpr ⟨stated, rfl⟩)
      rw [Option.filter_some_neg (by simp [unstated])]

namespace PlottedChart
variable [Fractions] {elementId chart claim series : Json} {index place : Nat}

theorem points_ofJson (checked : EvidenceIR.SeriesAt index series) :
    (PlottedSeries.ofJson series).points = (chartPoints series).map .ofJson := by
  unfold PlottedSeries.ofJson chartPoints
  cases present : series.get? "points" with
  | none =>
    cases series.get? "values" with
    | none => rfl
    | some values =>
      cases values with
      | arr values =>
        apply List.ext_getElem?
        intro place
        rw [getElem?_map, getElem?_map, getElem?_mapIdx, Option.map_map]
        rfl
      | _ => rfl
  | some found =>
    obtain ⟨points, same, placed⟩ := checked.pointed found present
    rw [same]
    show points.map _ = (points.filter _).map _
    rw [filter_eq_self.mpr]
    intro point listed
    obtain ⟨place, position⟩ := List.mem_iff_getElem?.mp listed
    exact (placed place point position).object

/-- Every point of a checked series stands at its own position. -/
theorem point_placed (checked : EvidenceIR.SeriesAt index series) {point : Json}
    (found : (chartPoints series)[place]? = some point) :
    EvidenceIR.statesPlace point "point_index" place = true ∧
      isBlankPoint point = (point.field "value" == .null) := by
  unfold chartPoints at found
  cases present : series.get? "points" with
  | none =>
    rw [present] at found
    cases older : series.get? "values" with
    | none =>
      rw [older] at found
      cases found
    | some values =>
      rw [older] at found
      cases values with
      | arr values =>
        have placed : (values.mapIdx legacyPoint)[place]? = some point := found
        rw [getElem?_mapIdx, Option.map_eq_some_iff] at placed
        obtain ⟨value, _, same⟩ := placed
        rw [← same]
        constructor
        · show ((Json.int place).quantity? == some (place : ℚ)) = true
          exact beq_self_eq_true _
        · show (Json.bool (value == .null) == .bool true || value == .null) = _
          show _ = (value == .null)
          by_cases blank : value = .null
          · simp [blank]
          · simp [blank]
      | _ => cases found
  | some value =>
    obtain ⟨points, same, placed⟩ := checked.pointed value present
    rw [present, same] at found
    have whole : points.filter (·.isObject) = points := by
      rw [filter_eq_self]
      intro point listed
      obtain ⟨place, position⟩ := List.mem_iff_getElem?.mp listed
      exact (placed place point position).object
    have position : points[place]? = some point := by
      rw [← whole]
      exact found
    have at' := placed place point position
    use at'.placed
    unfold isBlankPoint
    rcases at'.typed with ⟨empty, blank⟩ | ⟨number, filled⟩
    · simp [empty, blank]
    · simp [filled]

theorem findPoint (checked : EvidenceIR.SeriesAt index series) :
    (chartPoints series).find? (fun item =>
      (item.field "point_index").quantity? == some (place : ℚ)) =
        ((chartPoints series)[place]?).filter (statesField "point_index") := by
  apply find?_placed
  intro position item found
  rw [beq_iff_eq]
  exact EvidenceIR.quantity_place (point_placed checked found).1

/-- A missing name is no stated name. -/
theorem name_field (checked : EvidenceIR.SeriesAt index series) {name : String} :
    series.field "name" = .str name ↔
      (PlottedSeries.ofJson series).name = name ∧ (series.get? "name").isSome = true := by
  have named := checked.named
  unfold PlottedSeries.ofJson
  unfold EvidenceIR.seriesName at named ⊢
  unfold Json.field
  cases present : series.get? "name" with
  | none => simp
  | some value =>
    rw [present] at named
    cases value with
    | str text => simp
    | _ => cases named

theorem chartSeries_ok (valid : EvidenceIR.checkChart elementId chart = .ok ()) {other : Bool} :
    chartSeries chart claim other = .ok series ↔ ∃ index,
      (chartSeriesItems chart)[index]? = some series ∧
        (PlottedChart.ofJson chart).Finds claim other index (.ofJson series) := by
  unfold chartSeries
  cases named : namedSeries claim other with
  | none =>
    constructor
    · intro found
      cases found
    · intro parts
      obtain ⟨index, _, finds⟩ := parts
      have known := finds.1.1
      rw [named] at known
      cases known
  | some pair =>
    obtain ⟨index, name⟩ := pair
    have placed : (chartSeriesItems chart).find? (fun item =>
        item.isObject && (item.field "series_index").quantity? == some (index : ℚ)) =
          ((chartSeriesItems chart)[index]?).filter (statesField "series_index") := by
      apply find?_placed
      intro position item found
      have checked := EvidenceIR.checkChart_ok valid found
      rw [checked.object, Bool.true_and, beq_iff_eq]
      exact EvidenceIR.quantity_place checked.placed
    have finds (place : Nat) (item : Json)
        (position : (chartSeriesItems chart)[place]? = some item) :
        (PlottedChart.ofJson chart).Finds claim other place (.ofJson item) ↔
          place = index ∧ statesField "series_index" item = true ∧
            item.field "name" = .str name := by
      have checked := EvidenceIR.checkChart_ok valid position
      have plotted : (PlottedChart.ofJson chart).series[place]? = some (.ofJson item) := by
        unfold PlottedChart.ofJson
        rw [getElem?_map, position, Option.map_some]
      unfold Finds Names
      rw [named, plotted, name_field checked]
      unfold PlottedSeries.ofJson
      simp only [Option.some.injEq, Prod.mk.injEq, and_true]
      constructor
      · intro parts
        obtain ⟨⟨here, same⟩, statedIndex, statedName⟩ := parts
        exact ⟨here.symm, statedIndex, same.symm, statedName⟩
      · intro parts
        obtain ⟨here, statedIndex, same, statedName⟩ := parts
        exact ⟨⟨here.symm, same.symm⟩, statedIndex, statedName⟩
    dsimp only
    rw [placed]
    constructor
    · intro found
      cases position : (chartSeriesItems chart)[index]? with
      | none =>
        rw [position] at found
        cases found
      | some item =>
        rw [position] at found
        by_cases stated : statesField "series_index" item = true
        · rw [Option.filter_some_pos stated] at found
          dsimp only at found
          split at found
          · rename_i same
            rw [← Except.ok.inj found]
            exact ⟨index, position, (finds index item position).mpr
              ⟨rfl, stated, beq_iff_eq.mp same⟩⟩
          · cases found
        · rw [Option.filter_some_neg (by simpa using stated)] at found
          cases found
    · intro parts
      obtain ⟨place, position, known⟩ := parts
      obtain ⟨here, stated, same⟩ := (finds place series position).mp known
      rw [here] at position
      rw [position, Option.filter_some_pos stated]
      dsimp only
      rw [same, beq_self_eq_true, if_pos rfl]

theorem chartSeries_breaks {other : Bool} : ¬Breaks (chartSeries chart claim other) := by
  unfold chartSeries
  split
  · exact breaks_kslide
  · dsimp only
    split
    · exact breaks_kslide
    · split
      · exact breaks_ok
      · exact breaks_kslide

theorem chartPoint_ok (checked : EvidenceIR.SeriesAt index series) {allowBlank : Bool}
    {point : Json} : chartPoint chart claim series allowBlank = .ok point ↔ ∃ place,
      (PlottedChart.ofJson chart).Places claim place ∧
        (chartPoints series)[place]? = some point ∧ statesField "point_index" point = true ∧
          (allowBlank = false → point.field "value" ≠ .null) := by
  unfold chartPoint Places
  cases named : namedPoint claim with
  | none =>
    constructor
    · intro found
      cases found
    · intro parts
      obtain ⟨place, ⟨category, known, _⟩, _⟩ := parts
      cases known
  | some pair =>
    obtain ⟨place, category⟩ := pair
    dsimp only
    rw [findPoint checked]
    constructor
    · intro found
      split at found
      · cases found
      · rename_i listed
        rw [bne_iff_ne, not_not] at listed
        cases position : (chartPoints series)[place]? with
        | none =>
          rw [position] at found
          cases found
        | some item =>
          rw [position] at found
          by_cases stated : statesField "point_index" item = true
          · rw [Option.filter_some_pos stated] at found
            dsimp only at found
            split at found
            · cases found
            · rename_i visible
              rw [← Except.ok.inj found]
              refine ⟨place, ⟨category, rfl, listed⟩, position, stated, ?_⟩
              intro strict blank
              apply visible
              rw [(point_placed checked position).2, blank, strict]
              rfl
          · rw [Option.filter_some_neg (by simpa using stated)] at found
            cases found
    · intro parts
      obtain ⟨place, ⟨category, same, listed⟩, position, stated, visible⟩ := parts
      obtain ⟨rfl, rfl⟩ := Prod.mk.inj (Option.some.inj same)
      have known : (EvidenceIR.categories chart)[place]? = some (.str category) := listed
      have shown : (isBlankPoint point && !allowBlank) = false := by
        rw [(point_placed checked position).2]
        cases allowBlank with
        | true => simp
        | false =>
          have filled := visible rfl
          simp [filled]
      rw [known, bne_self_eq_false, if_neg Bool.false_ne_true, position,
        Option.filter_some_pos stated]
      dsimp only
      rw [shown, if_neg Bool.false_ne_true]

theorem chartPoint_breaks {allowBlank : Bool} :
    ¬Breaks (chartPoint chart claim series allowBlank) := by
  unfold chartPoint
  dsimp only
  split
  · exact breaks_kslide
  · split
    · exact breaks_kslide
    · split
      · exact breaks_kslide
      · split
        · exact breaks_kslide
        · exact breaks_ok

end PlottedChart
end KSlide
