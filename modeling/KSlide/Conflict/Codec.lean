import KSlide.Conflict.Soundness

/-
This file reads the written records of a registry back.
-/

namespace Text

theorem isAlnum_of_isHex {letter : Char} (hex : isHex letter = true) :
    isAlnum letter = true := by
  simp only [isHex, Bool.or_eq_true, Bool.and_eq_true, decide_eq_true_eq] at hex
  simp only [isAlnum, isLower, Bool.or_eq_true, Bool.and_eq_true, decide_eq_true_eq]
  rcases hex with digit | ⟨above, below⟩
  · exact Or.inr digit
  · exact Or.inl (Or.inr ⟨above, below.trans (by decide)⟩)

/-- A digest has letters that are not white space. -/
theorem isBlank_sha256 {text : String} (digest : isSha256 text = true) :
    isBlank text = false := by
  unfold isSha256 isExactly at digest
  rw [Bool.and_eq_true, beq_iff_eq, List.all_eq_true] at digest
  obtain ⟨digits, count⟩ := digest
  unfold isBlank
  cases letters : text.toList with
  | nil =>
    rw [letters] at count
    cases count
  | cons first rest =>
    have hex := digits first (by rw [letters]; exact List.mem_cons_self)
    simp only [isHex, isDigit, Bool.or_eq_true, Bool.and_eq_true, decide_eq_true_eq,
      Char.le_def, UInt32.le_iff_toNat_le] at hex
    change (48 ≤ first.toNat ∧ first.toNat ≤ 57) ∨
      (97 ≤ first.toNat ∧ first.toNat ≤ 102) at hex
    have visible : isSpace first = false := by
      simp only [isSpace, Bool.or_eq_false_iff, Bool.and_eq_false_iff,
        decide_eq_false_iff_not, beq_eq_false_iff_ne]
      omega
    rw [List.all_cons, visible, Bool.false_and]

end Text

namespace KSlide
open Conflict List

theorem Conflict.stringTuple_written {texts : List String} (present : ∀ text ∈ texts, text ≠ "")
    (label : String) : stringTuple (.arr (texts.map .str)) label = .ok texts := by
  apply mapM_written
  intro text listed
  rw [checkedText_ok]
  exact ⟨rfl, bne_iff_ne.mpr (present text listed)⟩

theorem Conflict.identifier_written {text : String} (named : Conflict.isIdentifier text = true)
    (label : String) : Conflict.identifier (.str text) label = .ok text :=
  checkedText_ok.mpr ⟨rfl, named⟩

section
variable [Sha256]

/-- Every identity that the engine derives is an identifier. -/
theorem Conflict.stableId_identifier {kind : String} (value : Json)
    (named : Text.isToken Text.isAlnum (fun letter => Text.isAlnum letter ||
      "._:-".toList.contains letter) 62 kind = true) :
    Conflict.isIdentifier (stableId kind value) = true := by
  have digits := stableRevision_shape value
  unfold Text.isSha256 Text.isExactly at digits
  rw [Bool.and_eq_true, beq_iff_eq, all_eq_true] at digits
  unfold Text.isToken at named
  unfold Conflict.isIdentifier Text.isToken stableId
  rw [String.toList_append, String.toList_append]
  cases letters : kind.toList with
  | nil =>
    rw [letters] at named
    cases named
  | cons first rest =>
    rw [letters] at named
    simp only [Bool.and_eq_true, all_eq_true, decide_eq_true_eq] at named
    simp only [cons_append, Bool.and_eq_true, all_eq_true, decide_eq_true_eq,
      length_append, digits.2]
    obtain ⟨⟨alnum, token⟩, short⟩ := named
    have dash : "-".toList = ['-'] := rfl
    rw [dash]
    constructor
    · use alnum
      intro letter listed
      rcases mem_append.mp listed with listed | digit
      · rcases mem_append.mp listed with listed | separator
        · exact token letter listed
        · rw [mem_singleton.mp separator]
          decide
      · rw [Text.isAlnum_of_isHex (digits.1 letter digit)]
        rfl
    · show rest.length + 1 + 64 ≤ 127
      omega

theorem Conflict.conflictIdFor_identifier (assertionIds : List String) :
    Conflict.isIdentifier (conflictIdFor assertionIds) = true := by
  unfold conflictIdFor
  apply stableId_identifier
  decide

theorem Conflict.assertionIdFor_identifier
    (documentId workUnitId semanticKind semanticId : String) :
    Conflict.isIdentifier (assertionIdFor documentId workUnitId semanticKind semanticId) =
      true := by
  unfold assertionIdFor
  apply stableId_identifier
  decide

/-- The reader takes a written sample back. -/
theorem AssertionReference.fromDict_sample {workUnitId : String}
    (named : Conflict.isIdentifier workUnitId = true) :
    fromDict (AssertionReference.sample workUnitId).asDict = .ok (.sample workUnitId) := by
  have document : Conflict.isIdentifier "document-1" = true := by decide
  have region : Conflict.isIdentifier "region-1" = true := by decide
  have assertion : Conflict.isIdentifier
      (assertionIdFor "document-1" workUnitId "region" "region-1") = true :=
    Conflict.assertionIdFor_identifier _ _ _ _
  have kind : (Text.Enumeration.parse AssertionKind "region").isSome = true := by decide
  have provenance : (Text.Enumeration.parse ProvenanceState "source_fact").isSome = true := by
    decide
  have state : ("source_fact" == Text.Enumeration.value ProvenanceState.unresolved) = false := by
    decide
  simp [fromDict, sample, asDict, Json.isObject, onlyFields, requiredFields, Json.keys,
    Json.field, Json.get?, lookup_cons, sortedSet, Conflict.identifier, checkedText, assertion,
    document, region, named, kind, provenance, member, stringTuple, Conflict.optional, state, require, bind,
    Except.bind, pure, Except.pure]

end

/-- A written conflict is read back when its lists stand in order. -/
theorem Conflict.fromDict_asDict {conflict : Conflict}
    (named : Conflict.isIdentifier conflict.conflictId = true)
    (state : (Text.Enumeration.parse ConflictResolutionState
      conflict.resolutionState).isSome = true)
    (kind : conflict.conflictType = "contradiction")
    (sorted : conflict.participants.Pairwise
      fun first second => first.assertionId ≤ second.assertionId)
    (sortedIds : conflict.supersessionIds.Pairwise (· ≤ ·))
    (present : ∀ id ∈ conflict.supersessionIds, id ≠ "")
    (read : ∀ participant ∈ conflict.participants,
      AssertionReference.fromDict participant.asDict = .ok participant) :
    fromDict conflict.asDict = .ok conflict := by
  obtain ⟨conflictId, participants, resolutionState, supersessionIds, conflictType⟩ := conflict
  dsimp only at named state kind sorted sortedIds present read
  subst kind
  have ids := stringTuple_written present "supersession_ids"
  have participantsRead := mapM_written read
  unfold asDict
  rw [sorted.insertionSort_eq, sortedIds.insertionSort_eq]
  simp [fromDict, Json.isObject, onlyFields, requiredFields, Json.keys, Json.field, Json.get?,
    lookup_cons, sortedSet, Conflict.identifier, checkedText, member, items, require, bind,
    Except.bind, pure, Except.pure, named, state, ids, participantsRead]

namespace ConflictRegistry
variable [Sha256] {limit : Nat} {registry : ConflictRegistry}

theorem asDict_exists {status : ConflictAssessmentState}
    (assessed : registry.effectiveAssessmentStatus = .ok status) :
    ∃ value, registry.asDict = .ok value := by
  obtain ⟨revision, computed⟩ := computedRevision_exists assessed
  have fields : ∃ fields, registry.withoutRevision = .ok fields := by
    unfold withoutRevision
    rw [assessed]
    exact ⟨_, rfl⟩
  obtain ⟨fields, known⟩ := fields
  unfold asDict
  rw [known, computed]
  by_cases revised : registry.registryRevision = ""
  · simp [revised, bind, Except.bind, pure, Except.pure]
  · simp [revised, bind, Except.bind, pure, Except.pure]

/-- A written registry is read back when its lists stand in order. -/
theorem fromDict_asDict (checked : registry.Checked limit)
    (status : registry.assessmentStatus ≠ "") (revised : registry.registryRevision ≠ "")
    (sorted : registry.conflicts.Pairwise
      fun first second => first.conflictId ≤ second.conflictId)
    (sortedSupersessions : registry.supersessions.Pairwise
      fun first second => first.supersessionId ≤ second.supersessionId)
    (read : ∀ conflict ∈ registry.conflicts, Conflict.fromDict conflict.asDict = .ok conflict)
    (readSupersessions : ∀ supersession ∈ registry.supersessions,
      Supersession.fromDict supersession.asDict = .ok supersession) :
    ∃ value, registry.asDict = .ok value ∧ fromDict limit value = .ok registry := by
  have accepted := validateStructure_ok.mpr checked
  have conflictsRead := mapM_written read
  have supersessionsRead := mapM_written readSupersessions
  have assessed := checked.assessed
  have revision := checked.revised.resolve_left revised
  have stored : Text.Enumeration.value registry.expectedAssessmentStatus =
      registry.assessmentStatus := by
    unfold effectiveAssessmentStatus at assessed
    rw [if_pos status] at assessed
    cases parsed : Text.Enumeration.parse ConflictAssessmentState registry.assessmentStatus with
    | none =>
      rw [parsed] at assessed
      cases assessed
    | some found =>
      rw [parsed] at assessed
      rw [← Except.ok.inj assessed]
      exact Text.Enumeration.parse_eq_some.mp parsed
  have written : registry.asDict = .ok (.obj [
      ("assessment_status", .str registry.assessmentStatus),
      ("conflicts", .arr (registry.conflicts.map (·.asDict))),
      ("registry_revision", .str registry.registryRevision),
      ("run_id", .str registry.runId),
      ("schema_version", .str registry.schemaVersion),
      ("supersessions", .arr (registry.supersessions.map (·.asDict)))]) := by
    unfold asDict withoutRevision
    rw [assessed]
    simp [bind, Except.bind, pure, Except.pure, revised, sorted.insertionSort_eq,
      sortedSupersessions.insertionSort_eq, stored]
  refine ⟨_, written, ?_⟩
  have named := checked.named
  have version := checked.version
  have visible : (!Text.isBlank registry.registryRevision) = true := by
    have digest : ∃ value, registry.registryRevision = stableRevision value := by
      simp only [computedRevision, bind_ok, pure_ok] at revision
      obtain ⟨fields, _, same⟩ := revision
      exact ⟨_, same.symm⟩
    obtain ⟨value, same⟩ := digest
    rw [same, Text.isBlank_sha256 (stableRevision_shape value)]
    rfl
  have read : decoded (.obj [
      ("assessment_status", .str registry.assessmentStatus),
      ("conflicts", .arr (registry.conflicts.map (·.asDict))),
      ("registry_revision", .str registry.registryRevision),
      ("run_id", .str registry.runId),
      ("schema_version", .str registry.schemaVersion),
      ("supersessions", .arr (registry.supersessions.map (·.asDict)))]) = .ok registry := by
    rw [version]
    simp [decoded, Json.isObject, onlyFields, requiredFields, Json.keys, Json.field, Json.get?,
      lookup_cons, sortedSet, Conflict.identifier, nonEmpty, checkedText, items, require, bind,
      Except.bind, pure, Except.pure, named, conflictsRead, supersessionsRead, visible]
    cases registry
    dsimp only at version
    rw [version]
  unfold fromDict
  rw [read]
  simp only [bind, Except.bind, revision, beq_self_eq_true, require, accepted, pure, Except.pure,
    ↓reduceIte]

end ConflictRegistry
end KSlide
