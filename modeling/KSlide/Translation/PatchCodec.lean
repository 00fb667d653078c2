import KSlide.Translation.Patch

/-
This file proves that a translation patch survives its stored form.
-/

namespace KSlide
open Translation List

section
variable (region : TranslationRegionPatch)

theorem TranslationRegionPatch.get?_asDict {name : String} (listed : name ∈ fieldNames) :
    region.asDict.get? name = region.field name := Json.get?_optionalRecord listed

theorem TranslationRegionPatch.mem_asDict {name : String} (listed : name ∈ fieldNames)
    (present : (region.field name).isSome = true) : name ∈ region.asDict.keys :=
  Json.mem_keys_optionalRecord.mpr ⟨listed, present⟩

/-- A stored region is read back. -/
theorem TranslationRegionPatch.parse_asDict : parse region.asDict = .ok region := by
  have stored (name : String) (listed : name ∈ fieldNames) :
      region.asDict.field name = (region.field name).getD .null := by
    unfold Json.field
    rw [get?_asDict region listed]
  have required : ∀ key ∈ ["region_id", "english", "term_ids", "unresolved"],
      key ∈ region.asDict.keys := by
    simp only [forall_mem_cons]
    exact ⟨mem_asDict region (by decide) rfl, mem_asDict region (by decide) rfl,
      mem_asDict region (by decide) rfl, mem_asDict region (by decide) rfl, nofun⟩
  have allowed : ∀ key ∈ region.asDict.keys, key ∈ fieldNames := by
    intro key present
    exact (Json.mem_keys_optionalRecord.mp present).1
  unfold parse
  simp only [bind_ok, require_ok, requireFields_ok, onlyFields_ok, checkedText_ok, patchId_ok,
    optionalPresent_ok, stringList_ok, Translation.boolean_ok, hangulRetention_ok, provenance_ok,
    presentList_ok, pure_ok, and_true, exists_const]
  use rfl
  use required
  use allowed
  use region.english
  use stored "english" (by decide)
  use region.regionId
  use stored "region_id" (by decide)
  use region.commitmentStatus
  use get?_asDict region (by decide)
  use region.speechAct
  use get?_asDict region (by decide)
  use region.termIds
  use stored "term_ids" (by decide)
  use region.unresolved
  use stored "unresolved" (by decide)
  use region.unresolvedReason
  use get?_asDict region (by decide)
  use region.hangulRetention
  use stored "hangul_retention" (by decide)
  use region.provenance
  use stored "provenance" (by decide)
  use region.evidenceIds
  exact ⟨get?_asDict region (by decide), rfl⟩

end

section
variable (cell : TranslationCellPatch)

theorem TranslationCellPatch.get?_asDict {name : String} (listed : name ∈ fieldNames) :
    cell.asDict.get? name = cell.field name := Json.get?_optionalRecord listed

theorem TranslationCellPatch.mem_asDict {name : String} (listed : name ∈ fieldNames)
    (present : (cell.field name).isSome = true) : name ∈ cell.asDict.keys :=
  Json.mem_keys_optionalRecord.mpr ⟨listed, present⟩

/-- A stored cell is read back. -/
theorem TranslationCellPatch.parse_asDict : parse cell.asDict = .ok cell := by
  have stored (name : String) (listed : name ∈ fieldNames) :
      cell.asDict.field name = (cell.field name).getD .null := by
    unfold Json.field
    rw [get?_asDict cell listed]
  have required : ∀ key ∈ ["cell_id", "english", "unresolved"], key ∈ cell.asDict.keys := by
    simp only [forall_mem_cons]
    exact ⟨mem_asDict cell (by decide) rfl, mem_asDict cell (by decide) rfl,
      mem_asDict cell (by decide) rfl, nofun⟩
  have allowed : ∀ key ∈ cell.asDict.keys, key ∈ fieldNames := by
    intro key present
    exact (Json.mem_keys_optionalRecord.mp present).1
  unfold parse
  simp only [bind_ok, require_ok, requireFields_ok, onlyFields_ok, checkedText_ok, patchId_ok,
    optionalPresent_ok, Translation.boolean_ok, hangulRetention_ok, provenance_ok, presentList_ok, pure_ok,
    and_true, exists_const]
  use rfl
  use required
  use allowed
  use cell.english
  use stored "english" (by decide)
  use cell.cellId
  use stored "cell_id" (by decide)
  use cell.commitmentStatus
  use get?_asDict cell (by decide)
  use cell.speechAct
  use get?_asDict cell (by decide)
  use cell.unresolved
  use stored "unresolved" (by decide)
  use cell.unresolvedReason
  use get?_asDict cell (by decide)
  use cell.hangulRetention
  use stored "hangul_retention" (by decide)
  use cell.provenance
  use stored "provenance" (by decide)
  use cell.evidenceIds
  exact ⟨get?_asDict cell (by decide), rfl⟩

end

/-- A stored table is read back. -/
theorem TranslationTablePatch.parse_asDict (table : TranslationTablePatch) :
    parse table.asDict = .ok table := by
  unfold parse
  simp only [bind_ok, require_ok, onlyFields_ok, arrayOf_ok, patchId_ok, pure_ok, exists_const]
  use rfl
  constructor
  · show ∀ key ∈ ["cells", "table_id"], key ∈ ["table_id", "cells"]
    decide
  · use table.cells.map (·.asDict)
    use rfl
    use table.cells
    use mapM_written fun cell _ => cell.parse_asDict
    use table.tableId
    exact ⟨rfl, rfl⟩

theorem CheckedObject.ofJson_ok {check : Json → Except Raised Unit} {item : Json}
    {found : CheckedObject check} : ofJson check item = .ok found ↔ item = found.value := by
  obtain ⟨value, object, checked⟩ := found
  unfold ofJson
  constructor
  · intro read
    split at read
    · split at read
      · exact congrArg CheckedObject.value (Except.ok.inj read)
      · cases read
    · cases read
  · intro same
    subst same
    rw [dif_pos object]
    split
    · rfl
    · rename_i error failed
      rw [checked] at failed
      cases failed

theorem checkedObjects_ok {check : Json → Except Raised Unit} {value : Json} {message : String}
    {objects : List (CheckedObject check)} :
    checkedObjects check value message = .ok objects ↔ value = .arr (objects.map (·.value)) := by
  unfold checkedObjects
  simp only [bind_ok, arrayOf_ok, require_ok, exists_const]
  constructor
  · intro parts
    obtain ⟨items, same, whole, read⟩ := parts
    rw [same, Json.arr.injEq]
    clear same whole
    induction items generalizing objects with
    | nil =>
      rw [mapM_nil, pure_ok] at read
      rw [← read]
      rfl
    | cons item items ih =>
      rw [mapM_cons] at read
      simp only [bind_ok, pure_ok, CheckedObject.ofJson_ok] at read
      obtain ⟨first, one, rest, more, listed⟩ := read
      rw [← listed, map_cons, ← one, ih more]
  · intro same
    use objects.map (·.value)
    use same
    constructor
    · rw [all_map, all_eq_true]
      intro found _
      exact found.object
    · apply mapM_written
      intro found _
      exact CheckedObject.ofJson_ok.mpr rfl

namespace TranslationPatch
variable (patch : TranslationPatch)

theorem get?_asDict {name : String} (listed : name ∈ fieldNames) :
    patch.asDict.get? name = patch.field name := Json.get?_optionalRecord listed

theorem mem_asDict {name : String} (listed : name ∈ fieldNames)
    (present : (patch.field name).isSome = true) : name ∈ patch.asDict.keys :=
  Json.mem_keys_optionalRecord.mpr ⟨listed, present⟩

end TranslationPatch

/-- The stored object decodes to the patch, field by field. -/
structure Decodes (value : Json) (patch : TranslationPatch) : Prop where
  object : value.isObject = true
  allowed : ∀ key ∈ value.keys, key ∈ TranslationPatch.fieldNames
  required : ∀ key ∈ ["schema_version", "work_unit_id", "evidence_revision", "regions", "tables",
    "visual_interpretations", "executive_claims"], key ∈ value.keys
  regions : ∃ items, value.field "regions" = .arr items ∧
    items.mapM TranslationRegionPatch.parse = .ok patch.regions
  tables : ∃ items, value.field "tables" = .arr items ∧
    items.mapM TranslationTablePatch.parse = .ok patch.tables
  visual : value.field "visual_interpretations" =
    .arr (patch.visualInterpretations.map (·.value))
  claims : value.field "executive_claims" = .arr (patch.executiveClaims.map (·.value))
  evidence : value.field "evidence_revision" = .str patch.evidenceRevision
  schema : value.field "schema_version" = .str patch.schemaVersion
  unit : value.field "work_unit_id" = .str patch.workUnitId.text
  repair : value.get? "repair_revision" = patch.repairRevision.map .str

/-- The parser accepts exactly what decodes. -/
theorem parseTranslationPatch_ok {value : Json} {patch : TranslationPatch} :
    parseTranslationPatch value = .ok patch ↔ Decodes value patch := by
  unfold parseTranslationPatch
  simp only [bind_ok, require_ok, onlyFields_ok, requireFields_ok, arrayOf_ok, checkedObjects_ok,
    checkedText_ok, patchId_ok, optionalPresent_ok, pure_ok, and_true, exists_const]
  constructor
  · intro parts
    obtain ⟨object, allowed, required, regionItems, regionArray, tableItems, tableArray, regions,
      readRegions, tables, readTables, visual, visualArray, claims, claimArray, evidence,
      evidenceText, schema, schemaText, unit, unitText, repair, repairText, same⟩ := parts
    rw [← same]
    exact ⟨object, allowed, required, ⟨regionItems, regionArray, readRegions⟩,
      ⟨tableItems, tableArray, readTables⟩, visualArray, claimArray, evidenceText, schemaText,
      unitText, repairText⟩
  · intro decodes
    obtain ⟨regionItems, regionArray, readRegions⟩ := decodes.regions
    obtain ⟨tableItems, tableArray, readTables⟩ := decodes.tables
    exact ⟨decodes.object, decodes.allowed, decodes.required, regionItems, regionArray, tableItems,
      tableArray, patch.regions, readRegions, patch.tables, readTables, _, decodes.visual, _,
      decodes.claims, _, decodes.evidence, _, decodes.schema, _, decodes.unit, _, decodes.repair,
      rfl⟩

/-- A stored patch is read back. -/
theorem TranslationPatch.parse_asDict (patch : TranslationPatch) :
    parseTranslationPatch patch.asDict = .ok patch := by
  have stored (name : String) (listed : name ∈ fieldNames) :
      patch.asDict.field name = (patch.field name).getD .null := by
    unfold Json.field
    rw [get?_asDict patch listed]
  rw [parseTranslationPatch_ok]
  constructor
  · rfl
  · intro key present
    exact (Json.mem_keys_optionalRecord.mp present).1
  · simp only [forall_mem_cons]
    exact ⟨mem_asDict patch (by decide) rfl, mem_asDict patch (by decide) rfl,
      mem_asDict patch (by decide) rfl, mem_asDict patch (by decide) rfl,
      mem_asDict patch (by decide) rfl, mem_asDict patch (by decide) rfl,
      mem_asDict patch (by decide) rfl, nofun⟩
  · exact ⟨_, stored "regions" (by decide), mapM_written fun region _ => region.parse_asDict⟩
  · exact ⟨_, stored "tables" (by decide), mapM_written fun table _ => table.parse_asDict⟩
  · exact stored "visual_interpretations" (by decide)
  · exact stored "executive_claims" (by decide)
  · exact stored "evidence_revision" (by decide)
  · exact stored "schema_version" (by decide)
  · exact stored "work_unit_id" (by decide)
  · exact get?_asDict patch (by decide)

namespace TranslationPatch

/-- The repaired revision is the only field that a patch may leave out. -/
def withRepair (patch : TranslationPatch) (repairRevision : Option String) : TranslationPatch :=
  { patch with repairRevision }

/-- The payload is the stored form without the repaired revision. -/
theorem payload_eq (patch : TranslationPatch) : patch.payload = (patch.withRepair none).asDict := by
  have fields : Function.update patch.field "repair_revision" none =
      (patch.withRepair none).field := by
    funext name
    by_cases same : name = "repair_revision"
    · rw [same, Function.update_self]
      rfl
    · rw [Function.update_of_ne same]
      unfold field withRepair
      split <;> first | rfl | exact absurd rfl same
  unfold payload asDict
  rw [Json.without_optionalRecord, fields]

/-- Two patches with one payload differ in the repaired revision only. -/
theorem payload_inj {first second : TranslationPatch} :
    first.payload = second.payload ↔ first.withRepair none = second.withRepair none := by
  rw [payload_eq, payload_eq]
  constructor
  · intro same
    have read := parse_asDict (first.withRepair none)
    rw [same, parse_asDict] at read
    exact (Except.ok.inj read).symm
  · intro same
    rw [same]

end TranslationPatch

theorem Decodes.changed {value changed : Json} {patch : TranslationPatch}
    (decodes : Decodes value patch) (object : changed.isObject = true)
    (same : ∀ key, key ≠ "repair_revision" → changed.get? key = value.get? key)
    {repair : Option String} (repaired : changed.get? "repair_revision" = repair.map .str) :
    Decodes changed (patch.withRepair repair) := by
  have field (key : String) (other : key ≠ "repair_revision") :
      changed.field key = value.field key := by
    unfold Json.field
    rw [same key other]
  constructor
  · exact object
  · intro key present
    by_cases here : key = "repair_revision"
    · rw [here]
      decide
    · rw [Json.mem_keys, same key here, ← Json.mem_keys] at present
      exact decodes.allowed key present
  · intro key listed
    have here : key ≠ "repair_revision" := by
      intro equal
      rw [equal] at listed
      revert listed
      decide
    rw [Json.mem_keys, same key here, ← Json.mem_keys]
    exact decodes.required key listed
  · rw [field _ (by decide)]
    exact decodes.regions
  · rw [field _ (by decide)]
    exact decodes.tables
  · rw [field _ (by decide)]
    exact decodes.visual
  · rw [field _ (by decide)]
    exact decodes.claims
  · rw [field _ (by decide)]
    exact decodes.evidence
  · rw [field _ (by decide)]
    exact decodes.schema
  · rw [field _ (by decide)]
    exact decodes.unit
  · exact repaired

section
variable [Sha256]

/-- A parsed patch survives its stored form, and its revision depends on every field but the
repaired revision. -/
theorem translationPatch_codec {value : Json} {patch : TranslationPatch}
    (accepted : parseTranslationPatch value = .ok patch) :
    parseTranslationPatch patch.asDict = .ok patch ∧
      (∀ changed : Json, changed.isObject = true →
        (∀ key, key ≠ "repair_revision" → changed.get? key = value.get? key) →
          ∀ repair : Option String, changed.get? "repair_revision" = repair.map .str →
            ∃ changedPatch, parseTranslationPatch changed = .ok changedPatch ∧
              changedPatch.repairRevision = repair ∧ changedPatch.revision = patch.revision) ∧
      ∀ (other : Json) (otherPatch : TranslationPatch),
        parseTranslationPatch other = .ok otherPatch →
          (stableRevision otherPatch.payload = stableRevision patch.payload →
            otherPatch.payload = patch.payload) →
          (otherPatch.revision = patch.revision ↔
            otherPatch.withRepair none = patch.withRepair none) := by
  constructor
  · exact patch.parse_asDict
  · constructor
    · intro changed object same repair repaired
      have decodes := (parseTranslationPatch_ok.mp accepted).changed object same repaired
      use patch.withRepair repair
      use parseTranslationPatch_ok.mpr decodes
      use rfl
      unfold TranslationPatch.revision
      rw [TranslationPatch.payload_inj.mpr]
      rfl
    · intro other otherPatch _ injective
      rw [← TranslationPatch.payload_inj]
      constructor
      · exact injective
      · intro same
        unfold TranslationPatch.revision
        rw [same]

end

section
attribute [local instance] Sha256.polynomial

def regionPatch (english : String) : TranslationPatch where
  workUnitId := ⟨"unit-1", by decide⟩
  evidenceRevision := ""
  regions := [{
    english
    commitmentStatus := none
    speechAct := none
    unresolved := false
    unresolvedReason := none
    hangulRetention := none
    provenance := none
    evidenceIds := none
    regionId := ⟨"region-1", by decide⟩
    termIds := [] }]
  tables := []
  visualInterpretations := []
  executiveClaims := []
  repairRevision := none
  schemaVersion := "1.0"

def storedRegion (english : String) : Json := .obj [
  ("evidence_revision", .str ""), ("executive_claims", .arr []),
  ("regions", .arr [.obj [
    ("english", .str english), ("hangul_retention", .null), ("region_id", .str "region-1"),
    ("term_ids", .arr []), ("unresolved", .bool false)]]),
  ("schema_version", .str "1.0"), ("tables", .arr []), ("visual_interpretations", .arr []),
  ("work_unit_id", .str "unit-1")]

theorem translationPatch_codec_region :
    parseTranslationPatch (regionPatch "Yes").asDict = .ok (regionPatch "Yes") ∧
      ((regionPatch "Yes").withRepair (some "repair-1")).revision =
        (regionPatch "Yes").revision := by
  have read : parseTranslationPatch (storedRegion "Yes") = .ok (regionPatch "Yes") := rfl
  have repaired := ((regionPatch "Yes").withRepair (some "repair-1")).parse_asDict
  obtain ⟨written, _, revised⟩ := translationPatch_codec read
  use written
  apply (revised _ _ repaired _).mpr rfl
  intro _
  exact TranslationPatch.payload_inj.mpr rfl

end
end KSlide
