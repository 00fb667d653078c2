import KSlide.Evidence.Recovery
import KSlide.Numeric.Identity
import KSlide.Numeric.TableUnits

/-
This file binds the numeric facts of a page and says when its regions and cells name exactly their
own facts.
-/

namespace KSlide
open Numeric List

/-- A region of the assembled evidence names its numeric facts. -/
structure BoundRegion extends EvidenceRegion where
  numericFactIds : List String

structure BoundCell extends NativeTableCell where
  numericFactIds : List String

structure BoundTable where
  tableId : String
  unit : Option (List Char)
  cells : List BoundCell

/-- The fused regions and the native tables of a page. -/
structure NumericPage where
  regions : List EvidenceRegion
  tables : List NativeTable

/-- The evidence of a page before its revision is computed. -/
structure BoundEvidence [Floating] where
  regions : List BoundRegion
  tables : List BoundTable
  numericFacts : List NumericFact

namespace NumericPage

def identifier (label value : String) : Except Raised Unit :=
  let letter (letter : Char) := Text.isAlnum letter || "._:-".toList.elem letter
  require (Text.isToken Text.isAlnum letter 127 value)
    (.kslide ⟨.schemaInvalid, s!"Unsafe {label} identifier.", [(label, .str value)]⟩)

section
variable [Unicode] [Floating] (page : NumericPage)

/-- Risky evidence has no facts. -/
def regionFacts (region : EvidenceRegion) : List NumericFact :=
  if region.evidenceState.risky then []
  else extractNumericFacts region.selectedLiteralCandidate { regionId := some region.regionId }

def literalFacts : List NumericFact := page.regions.flatMap regionFacts

def tableFacts : List NumericFact :=
  page.tables.flatMap fun table => table.cells.flatMap (cellFacts table)

def facts : List NumericFact := page.literalFacts ++ page.tableFacts

/-- The interpreter runs through a set of identifiers in any order. -/
def Iterates (order : List String) : Prop :=
  order.Nodup ∧ ∀ id, id ∈ order ↔ id ∈ page.literalFacts.map (·.factId)

/-- A region takes the identifiers that continue its own identifier after a hyphen. -/
def bindRegion (order : List String) (region : EvidenceRegion) : BoundRegion where
  toEvidenceRegion := region
  numericFactIds := order.filter fun id =>
    (region.regionId ++ "-").toList.isPrefixOf id.toList

def bindTable (table : NativeTable) : BoundTable where
  tableId := table.tableId
  unit := table.unit
  cells := table.cells.map fun cell => ⟨cell, (cellFacts table cell).map (·.factId)⟩

/-- The validator checks the identifiers of the regions, of the tables, of the cells and of the
facts. -/
def checkIdentifiers : Except Raised Unit := do
  forM page.regions fun region => identifier "region_id" region.regionId
  require (page.regions.map (·.regionId)).Nodup
    (.kslide ⟨.schemaInvalid, "EvidenceIR contains duplicate region IDs.", []⟩)
  forM page.tables fun table => identifier "table_id" table.tableId
  require (page.tables.map (·.tableId)).Nodup
    (.kslide ⟨.schemaInvalid, "EvidenceIR contains duplicate table IDs.", []⟩)
  require (page.facts.map (·.factId)).Nodup
    (.kslide ⟨.duplicateSourceId, "EvidenceIR contains duplicate numeric fact IDs.", []⟩)
  forM page.tables fun table => do
    forM table.cells fun cell => identifier "cell_id" cell.cellId
    require (table.cells.map (·.cellId)).Nodup (.kslide ⟨.schemaInvalid,
      "Evidence table contains duplicate cell IDs.", [("table_id", .str table.tableId)]⟩)

/-- The evidence is assembled when its identifiers are accepted. -/
def assemble (order : List String) : Except Raised BoundEvidence := do
  page.checkIdentifiers
  return {
    regions := page.regions.map (bindRegion order)
    tables := page.tables.map bindTable
    numericFacts := page.facts }

end
end NumericPage

section
variable {Item Product Key : Type}

theorem filter_flatMap_own [BEq Key] [LawfulBEq Key] {items : List Item} (name : Item → Key)
    {produce : Item → List Product} {key : Product → Key}
    (own : ∀ item ∈ items, ∀ product ∈ produce item, key product = name item)
    (distinct : (items.map name).Nodup) {item : Item} (listed : item ∈ items) :
    (items.flatMap produce).filter (fun product => key product == name item) = produce item := by
  induction items with
  | nil => cases listed
  | cons first rest ih =>
    rw [map_cons, nodup_cons] at distinct
    obtain ⟨fresh, distinctRest⟩ := distinct
    rw [flatMap_cons, filter_append]
    have ownRest : ∀ other ∈ rest, ∀ product ∈ produce other, key product = name other :=
      fun other member => own other (mem_cons_of_mem _ member)
    rcases mem_cons.mp listed with same | later
    · rw [same]
      have kept : (produce first).filter (fun product => key product == name first) =
          produce first := by
        apply filter_eq_self.mpr
        intro product present
        exact beq_iff_eq.mpr (own first mem_cons_self product present)
      have dropped : (rest.flatMap produce).filter (fun product => key product == name first) =
          [] := by
        apply filter_eq_nil_iff.mpr
        intro product present equal
        obtain ⟨other, member, made⟩ := mem_flatMap.mp present
        apply fresh
        rw [← beq_iff_eq.mp equal, ownRest other member product made]
        exact mem_map_of_mem member
      rw [kept, dropped, append_nil]
    · have dropped : (produce first).filter (fun product => key product == name item) = [] := by
        apply filter_eq_nil_iff.mpr
        intro product present equal
        apply fresh
        rw [← own first mem_cons_self product present, beq_iff_eq.mp equal]
        exact mem_map_of_mem later
      rw [dropped, nil_append, ih ownRest distinctRest later]

/-- A list that is its own reverse repeats an item unless it has one item at most. -/
theorem length_of_reverse {items : List Item} (distinct : items.Nodup)
    (same : items.reverse = items) : items.length ≤ 1 := by
  by_contra long
  have first : 0 < items.length := by omega
  have last : items.length - 1 < items.length := by omega
  have equal : items[0] = items[items.length - 1] := by
    have read : items.reverse[0]? = items[0]? := by rw [same]
    rw [getElem?_reverse first, getElem?_eq_getElem first,
      getElem?_eq_getElem (by omega)] at read
    have here := Option.some.inj read
    rw [← here]
    congr 1
  have index := (List.Nodup.getElem_inj_iff distinct).mp equal
  omega

end

/-- The letters of an identity after its object. -/
def ending (index : Nat) : List Char :=
  '-' :: 'n' :: ((if index + 1 < 10 then "0" else "").toList ++ Nat.toDigits 10 (index + 1))

theorem factId_letters (object : String) (index : Nat) :
    (factId object index).toList = object.toList ++ ending index := by
  simp [factId, ending, String.toList_append]

/-- Only the first letter of the ending is a hyphen. -/
theorem ending_hyphen {index : Nat} {before after : List Char}
    (split : ending index = before ++ '-' :: after) : before = [] := by
  have number : '-' ∉ Nat.toDigits 10 (index + 1) := by
    intro listed
    have digit := Nat.isDigit_of_mem_toDigits (Nat.zero_lt_succ 9) (Nat.le_refl 10) listed
    exact absurd digit (by decide)
  have digits : '-' ∉ 'n' :: ((if index + 1 < 10 then "0" else "").toList ++
      Nat.toDigits 10 (index + 1)) := by
    split <;> simp [number]
  cases before with
  | nil => rfl
  | cons letter before =>
    rw [ending, cons_append, List.cons.injEq] at split
    rw [split.2] at digits
    exact absurd (mem_append_right before mem_cons_self) digits

/-- An identity continues an object exactly when its own object does. -/
theorem factId_continues {object other : String} {index : Nat} :
    (object ++ "-").toList <+: (factId other index).toList ↔
      object = other ∨ (object ++ "-").toList <+: other.toList := by
  have letters : (object ++ "-").toList = object.toList ++ ['-'] := by
    simp [String.toList_append]
  rw [letters, factId_letters]
  constructor
  · intro continues
    rcases prefix_or_prefix_of_prefix continues (prefix_append other.toList _) with
      within | beyond
    · exact Or.inr within
    · obtain ⟨rest, joined⟩ := beyond
      rcases eq_nil_or_concat rest with empty | ⟨before, last, split⟩
      · right
        rw [empty, append_nil] at joined
        rw [← joined]
      · left
        rw [split, concat_eq_append, ← append_assoc] at joined
        obtain ⟨same, hyphen⟩ := append_inj' joined rfl
        rw [← same, ← hyphen, append_assoc, prefix_append_right_inj] at continues
        obtain ⟨after, whole⟩ := continues
        have first : before = [] := by
          have letter : last = '-' := singleton_inj.mp hyphen
          have hyphenated : ending index = before ++ '-' :: after := by
            rw [← whole, letter, append_assoc]
            rfl
          exact ending_hyphen hyphenated
        rw [first, append_nil] at same
        exact String.toList_inj.mp same.symm
  · intro either
    rcases either with same | within
    · rw [same, prefix_append_right_inj, ending]
      exact ⟨_, rfl⟩
    · exact prefix_append_of_prefix within

section
variable [Unicode] [Floating] {source : NumericSource} {fact : NumericFact}

/-- A fact names its source, and its identity continues the identity of its object. -/
theorem extractNumericFacts_source {text : Option (List Char)}
    (listed : fact ∈ extractNumericFacts text source) :
    (fact.sourceRegionId = source.regionId ∧ fact.sourceTableId = source.tableId ∧
      fact.sourceCellId = source.cellId) ∧
      ∃ index, fact.factId = factId source.object index := by
  cases text with
  | none => cases listed
  | some text =>
    unfold extractNumericFacts at listed
    obtain ⟨⟨build, index⟩, numbered, same⟩ := mem_map.mp listed
    have present := List.mem_of_getElem? (List.mem_zipIdx_iff_getElem?.mp numbered)
    rw [← same]
    rcases mem_append.mp present with number | outside
    · obtain ⟨found, _, built⟩ := mem_map.mp number
      dsimp only at built ⊢
      rw [← built]
      exact ⟨⟨rfl, rfl, rfl⟩, index, rfl⟩
    · obtain ⟨found, _, built⟩ := mem_map.mp outside
      dsimp only at built ⊢
      rw [← built]
      exact ⟨⟨rfl, rfl, rfl⟩, index, rfl⟩

end

namespace NumericPage
variable [Unicode] [Floating] {page : NumericPage} {region other : EvidenceRegion}

/-- What the evidence promises of the attribution of its facts. -/
structure Attributed (evidence : BoundEvidence) : Prop where
  regions : ∀ region ∈ evidence.regions, region.numericFactIds =
    (evidence.numericFacts.filter (·.sourceRegionId == some region.regionId)).map (·.factId)
  cells : ∀ table ∈ evidence.tables, ∀ cell ∈ table.cells, cell.numericFactIds =
    (evidence.numericFacts.filter fun fact => (fact.sourceTableId, fact.sourceCellId) ==
      (some table.tableId, some cell.cellId)).map (·.factId)
  distinct : (evidence.numericFacts.map (·.factId)).Nodup

/-- No region has two facts, and no region with a fact continues another region. -/
def Separate (page : NumericPage) : Prop :=
  ∀ region ∈ page.regions, (regionFacts region).length ≤ 1 ∧
    ∀ other ∈ page.regions, regionFacts other ≠ [] →
      ¬ (region.regionId ++ "-").toList <+: other.regionId.toList

/-- What the accepted identifiers give. -/
structure Accepted (page : NumericPage) : Prop where
  present : ∀ region ∈ page.regions, region.regionId ≠ ""
  regions : (page.regions.map (·.regionId)).Nodup
  tables : (page.tables.map (·.tableId)).Nodup
  cells : ∀ table ∈ page.tables, (table.cells.map (·.cellId)).Nodup
  facts : (page.facts.map (·.factId)).Nodup

theorem accepted (checked : page.checkIdentifiers = .ok ()) : page.Accepted := by
  simp only [checkIdentifiers, bind_ok, forM_ok, require_ok, decide_eq_true_eq] at checked
  obtain ⟨_, regions, _, distinct, _, tables, _, named, _, facts, cells⟩ := checked
  constructor
  · intro region listed empty
    have valid := regions region listed
    rw [empty, identifier, require_ok] at valid
    exact absurd valid (by decide)
  · exact distinct
  · exact named
  · intro table listed
    obtain ⟨_, _, separate⟩ := cells table listed
    exact separate
  · exact facts

theorem region_fact {fact : NumericFact} (present : region.regionId ≠ "")
    (listed : fact ∈ regionFacts region) :
    fact.sourceRegionId = some region.regionId ∧
      ∃ index, fact.factId = factId region.regionId index := by
  unfold regionFacts at listed
  split at listed
  · cases listed
  · obtain ⟨sources, index, named⟩ := extractNumericFacts_source listed
    constructor
    · exact sources.1
    · use index
      rw [named]
      simp [NumericSource.object, Option.filter, present]

theorem table_fact {table : NativeTable} {cell : NativeTableCell} {fact : NumericFact}
    (listed : fact ∈ cellFacts table cell) :
    fact.sourceRegionId = none ∧ fact.sourceTableId = some table.tableId ∧
      fact.sourceCellId = some cell.cellId := by
  unfold cellFacts at listed
  dsimp only at listed
  split at listed
  · exact (extractNumericFacts_source listed).1
  · obtain ⟨unbound, extracted, same⟩ := mem_map.mp listed
    obtain ⟨_, region, tableKept, cellKept⟩ := bindTableUnit_source unbound table.unit
    obtain ⟨sources, _⟩ := extractNumericFacts_source extracted
    rw [← same, region, tableKept, cellKept]
    exact sources

theorem filter_region (accepted : page.Accepted) (listed : region ∈ page.regions) :
    page.facts.filter (·.sourceRegionId == some region.regionId) = regionFacts region := by
  rw [facts, filter_append]
  have own : page.literalFacts.filter (·.sourceRegionId == some region.regionId) =
      regionFacts region := by
    apply filter_flatMap_own (fun region : EvidenceRegion => some region.regionId)
    · intro item member fact made
      exact (region_fact (accepted.present item member) made).1
    · have pairs := accepted.regions.map (Option.some_injective String)
      rwa [map_map] at pairs
    · exact listed
  have foreign : page.tableFacts.filter (·.sourceRegionId == some region.regionId) = [] := by
    apply filter_eq_nil_iff.mpr
    intro fact member equal
    obtain ⟨table, _, inTable⟩ := mem_flatMap.mp member
    obtain ⟨cell, _, made⟩ := mem_flatMap.mp inTable
    rw [(table_fact made).1] at equal
    cases equal
  rw [own, foreign, append_nil]

theorem filter_cell (accepted : page.Accepted) {table : NativeTable} {cell : NativeTableCell}
    (known : table ∈ page.tables) (listed : cell ∈ table.cells) :
    page.facts.filter (fun fact => (fact.sourceTableId, fact.sourceCellId) ==
      (some table.tableId, some cell.cellId)) = cellFacts table cell := by
  have literal : page.literalFacts.filter (fun fact => (fact.sourceTableId, fact.sourceCellId) ==
      (some table.tableId, some cell.cellId)) = [] := by
    apply filter_eq_nil_iff.mpr
    intro fact member equal
    obtain ⟨region, _, made⟩ := mem_flatMap.mp member
    unfold regionFacts at made
    split at made
    · cases made
    · obtain ⟨⟨_, sourceTable, _⟩, _⟩ := extractNumericFacts_source made
      rw [sourceTable] at equal
      cases (Prod.mk.inj (beq_iff_eq.mp equal)).1
  have named : page.tableFacts.filter (fun fact => fact.sourceTableId == some table.tableId) =
      table.cells.flatMap (cellFacts table) := by
    apply filter_flatMap_own (fun table : NativeTable => some table.tableId)
    · intro other _ fact member
      obtain ⟨cell, _, made⟩ := mem_flatMap.mp member
      exact (table_fact made).2.1
    · have pairs := accepted.tables.map (Option.some_injective String)
      rwa [map_map] at pairs
    · exact known
  have owned : (table.cells.flatMap (cellFacts table)).filter
      (fun fact => fact.sourceCellId == some cell.cellId) = cellFacts table cell := by
    apply filter_flatMap_own (fun cell : NativeTableCell => some cell.cellId)
    · intro other _ fact made
      exact (table_fact made).2.2
    · have pairs := (accepted.cells table known).map (Option.some_injective String)
      rwa [map_map] at pairs
    · exact listed
  have split (fact : NumericFact) : ((fact.sourceTableId, fact.sourceCellId) ==
      (some table.tableId, some cell.cellId)) =
      (fact.sourceCellId == some cell.cellId && fact.sourceTableId == some table.tableId) := by
    rw [Bool.and_comm]
    rfl
  rw [facts, filter_append, literal, nil_append]
  simp only [split]
  rw [← filter_filter, named, owned]

theorem mem_literalFacts {fact : NumericFact} :
    fact ∈ page.literalFacts ↔ ∃ region ∈ page.regions, fact ∈ regionFacts region := by
  exact mem_flatMap

theorem literal_sublist : (page.literalFacts.map (·.factId)).Sublist (page.facts.map (·.factId)) :=
  (sublist_append_left _ _).map _

/-- The set of identifiers can be run through in the order of the facts. -/
theorem iterates_facts (accepted : page.Accepted) :
    page.Iterates (page.literalFacts.map (·.factId)) := by
  constructor
  · exact accepted.facts.sublist literal_sublist
  · intro id
    exact Iff.rfl

theorem iterates_reverse {order : List String} (iterates : page.Iterates order) :
    page.Iterates order.reverse := by
  constructor
  · exact nodup_reverse.mpr iterates.1
  · intro id
    rw [mem_reverse]
    exact iterates.2 id

theorem nodup_region (accepted : page.Accepted) (listed : region ∈ page.regions) :
    ((regionFacts region).map (·.factId)).Nodup := by
  have part : (regionFacts region).Sublist page.literalFacts := by
    rw [literalFacts, flatMap_def]
    exact sublist_flatten_of_mem (mem_map_of_mem listed)
  exact List.Nodup.sublist ((part.map _).trans literal_sublist) accepted.facts

theorem continues_region (accepted : page.Accepted) (separate : page.Separate)
    (listed : region ∈ page.regions) {fact : NumericFact} (literal : fact ∈ page.literalFacts)
    (continues : (region.regionId ++ "-").toList <+: fact.factId.toList) :
    fact ∈ regionFacts region := by
  obtain ⟨other, known, made⟩ := mem_literalFacts.mp literal
  obtain ⟨_, index, named⟩ := region_fact (accepted.present other known) made
  rw [named, factId_continues] at continues
  rcases continues with same | nested
  · have equal := inj_on_of_nodup_map accepted.regions listed known same
    rwa [equal]
  · have some := ne_nil_of_mem made
    exact absurd nested ((separate region listed).2 other known some)

theorem bindRegion_own (accepted : page.Accepted) (separate : page.Separate) {order : List String}
    (iterates : page.Iterates order) (listed : region ∈ page.regions) :
    (bindRegion order region).numericFactIds = (regionFacts region).map (·.factId) := by
  have members : ((bindRegion order region).numericFactIds).Perm
      ((regionFacts region).map (·.factId)) := by
    apply (perm_ext_iff_of_nodup (iterates.1.filter _) (nodup_region accepted listed)).mpr
    intro id
    rw [mem_filter, iterates.2, List.isPrefixOf_iff_prefix]
    constructor
    · intro found
      obtain ⟨literal, continues⟩ := found
      obtain ⟨fact, known, named⟩ := mem_map.mp literal
      rw [← named] at continues
      rw [← named]
      exact mem_map_of_mem (continues_region accepted separate listed known continues)
    · intro own
      obtain ⟨fact, made, named⟩ := mem_map.mp own
      obtain ⟨_, index, shape⟩ := region_fact (accepted.present region listed) made
      constructor
      · rw [← named]
        exact mem_map_of_mem (mem_literalFacts.mpr ⟨region, listed, made⟩)
      · rw [← named, shape, factId_continues]
        exact Or.inl rfl
  have single : ((regionFacts region).map (·.factId)).length ≤ 1 := by
    rw [length_map]
    exact (separate region listed).1
  cases own : (regionFacts region).map (·.factId) with
  | nil =>
    rw [own] at members
    exact members.eq_nil
  | cons first rest =>
    rw [own, length_cons] at single
    have last : rest = [] := length_eq_zero_iff.mp (by omega)
    rw [own, last] at members
    rw [last]
    exact members.eq_singleton

theorem assemble_ok {order : List String} {evidence : BoundEvidence} :
    page.assemble order = .ok evidence ↔ page.checkIdentifiers = .ok () ∧
      evidence = ⟨page.regions.map (bindRegion order), page.tables.map bindTable, page.facts⟩ := by
  simp only [assemble, bind_ok, pure_ok]
  constructor
  · intro made
    obtain ⟨_, checked, same⟩ := made
    exact ⟨checked, same.symm⟩
  · intro made
    obtain ⟨checked, same⟩ := made
    exact ⟨(), checked, same.symm⟩

/-- The promise for a page: in every order of the set each region and each cell names its own facts,
the identities are distinct, and the revision does not depend on the order. -/
def Determined (page : NumericPage) (revision : BoundEvidence → String) : Prop :=
  ∀ order, page.Iterates order → ∀ evidence, page.assemble order = .ok evidence →
    Attributed evidence ∧
    ∀ other, page.Iterates other → ∀ again, page.assemble other = .ok again →
      revision again = revision evidence

theorem attributed_of_bound (accepted : page.Accepted) {order : List String}
    (bound : ∀ region ∈ page.regions,
      (bindRegion order region).numericFactIds = (regionFacts region).map (·.factId)) :
    Attributed ⟨page.regions.map (bindRegion order), page.tables.map bindTable, page.facts⟩ := by
  constructor
  · intro found listed
    obtain ⟨region, known, same⟩ := mem_map.mp listed
    rw [← same, bound region known]
    have own := filter_region accepted known
    exact congrArg (List.map (·.factId)) own.symm
  · intro found listed cell member
    obtain ⟨table, known, same⟩ := mem_map.mp listed
    rw [← same] at member ⊢
    obtain ⟨native, inside, made⟩ := mem_map.mp member
    rw [← made]
    have own := filter_cell accepted known inside
    exact congrArg (List.map (·.factId)) own.symm
  · exact accepted.facts

theorem separate_of_attributed (accepted : page.Accepted)
    (attributed : ∀ order, page.Iterates order → ∀ region ∈ page.regions,
      (bindRegion order region).numericFactIds = (regionFacts region).map (·.factId)) :
    page.Separate := by
  intro region listed
  have iterates := iterates_facts accepted
  have forward := attributed _ iterates region listed
  have backward := attributed _ (iterates_reverse iterates) region listed
  constructor
  · have swapped : (bindRegion (page.literalFacts.map (·.factId)).reverse region).numericFactIds =
        (bindRegion (page.literalFacts.map (·.factId)) region).numericFactIds.reverse :=
      filter_reverse
    rw [backward, forward] at swapped
    have short := length_of_reverse (nodup_region accepted listed) swapped.symm
    rwa [length_map] at short
  · intro other known occupied nested
    obtain ⟨fact, made⟩ := exists_mem_of_ne_nil _ occupied
    obtain ⟨source, index, named⟩ := region_fact (accepted.present other known) made
    have literal : fact ∈ page.literalFacts := mem_literalFacts.mpr ⟨other, known, made⟩
    have taken : fact.factId ∈ (bindRegion (page.literalFacts.map (·.factId)) region).numericFactIds := by
      apply mem_filter.mpr
      constructor
      · exact mem_map_of_mem literal
      · rw [List.isPrefixOf_iff_prefix, named, factId_continues]
        exact Or.inr nested
    rw [forward] at taken
    obtain ⟨own, ownMade, same⟩ := mem_map.mp taken
    have ownLiteral : own ∈ page.literalFacts := mem_literalFacts.mpr ⟨region, listed, ownMade⟩
    have equal := inj_on_of_nodup_map (List.Nodup.sublist literal_sublist accepted.facts)
      ownLiteral literal same
    have ownSource := (region_fact (accepted.present region listed) ownMade).1
    rw [equal, source] at ownSource
    rw [Option.some.inj ownSource] at nested
    have short := nested.length_le
    simp [String.toList_append] at short

/-- The facts of a page are attributed to their sources in every order of the set exactly when its
identifiers are rejected or its regions are separate. -/
theorem determined_iff (page : NumericPage) (revision : BoundEvidence → String) :
    page.Determined revision ↔ page.checkIdentifiers ≠ .ok () ∨ page.Separate := by
  constructor
  · intro determined
    by_cases checked : page.checkIdentifiers = .ok ()
    · right
      have valid := accepted checked
      apply separate_of_attributed valid
      intro order iterates region listed
      have assembled : page.assemble order = .ok ⟨page.regions.map (bindRegion order),
          page.tables.map bindTable, page.facts⟩ := assemble_ok.mpr ⟨checked, rfl⟩
      obtain ⟨attributed, _⟩ := determined order iterates _ assembled
      rw [attributed.regions _ (mem_map_of_mem listed)]
      exact congrArg (List.map (·.factId)) (filter_region valid listed)
    · exact Or.inl checked
  · intro either order iterates evidence assembled
    obtain ⟨checked, same⟩ := assemble_ok.mp assembled
    have separate := either.resolve_left (not_not.mpr checked)
    have valid := accepted checked
    have bound : ∀ region ∈ page.regions, (bindRegion order region).numericFactIds =
        (regionFacts region).map (·.factId) :=
      fun _ listed => bindRegion_own valid separate iterates listed
    constructor
    · rw [same]
      exact attributed_of_bound valid bound
    · intro other reordered again reassembled
      obtain ⟨_, sameAgain⟩ := assemble_ok.mp reassembled
      have regions : page.regions.map (bindRegion other) = page.regions.map (bindRegion order) := by
        apply map_congr_left
        intro region listed
        have identifiers := (bindRegion_own valid separate reordered listed).trans
          (bound region listed).symm
        show BoundRegion.mk region _ = BoundRegion.mk region _
        exact congrArg (BoundRegion.mk region) identifiers
      rw [sameAgain, same, regions]

end NumericPage

section
attribute [local instance] Unicode.basic Floating.fixed

/-- The page has one native text with two numbers. -/
def PageReading.twoNumbers : PageReading where
  workUnitId := "page-1"
  width := 100
  height := 100
  items := [{
    sourceId := some "page-1-shape-001"
    text := some "10 20".toList
    bboxPx := some ⟨10, 10, 60, 30⟩
    evidenceSource := "native"
    shapeType := "text_box".toList
    hasConnector := false
    hasChart := false
    hasTable := false }]
  page := ⟨"none", "1", []⟩
  crops _ := .raised "OSError"

namespace NumericPage

def twoNumbers : NumericPage := ⟨PageReading.twoNumbers.regions fun _ _ => 0, []⟩

def secondFirst : List String := ["page-1-shape-001-n02", "page-1-shape-001-n01"]

theorem twoNumbers_iterates : twoNumbers.Iterates secondFirst := by
  have names : twoNumbers.literalFacts.map (·.factId) =
      ["page-1-shape-001-n01", "page-1-shape-001-n02"] := by
    decide +kernel
  constructor
  · decide
  · intro id
    rw [names, secondFirst]
    simp only [mem_cons, not_mem_nil, or_false]
    exact or_comm

/-- The set may give the second number first. -/
theorem order_shows : ¬ ∀ (ratio : List Char → List Char → ℚ) (reading : PageReading)
    (tables : List NativeTable) (revision : BoundEvidence → String),
    (NumericPage.mk (reading.regions ratio) tables).Determined revision := by
  intro claimed
  have checked : twoNumbers.checkIdentifiers = .ok () := by decide +kernel
  have assembled := (@assemble_ok _ _ twoNumbers secondFirst _).mpr ⟨checked, rfl⟩
  have attributed := (claimed (fun _ _ => 0) .twoNumbers [] (fun _ => "") secondFirst
    twoNumbers_iterates _ assembled).1
  have swapped : ∃ region ∈ twoNumbers.regions.map (bindRegion secondFirst),
      region.numericFactIds ≠ (twoNumbers.facts.filter
        (·.sourceRegionId == some region.regionId)).map (·.factId) := by
    decide +kernel
  obtain ⟨region, listed, different⟩ := swapped
  exact different (attributed.regions region listed)

end NumericPage
end
end KSlide
