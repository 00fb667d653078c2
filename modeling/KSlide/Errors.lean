import KSlide.Json.Value

namespace KSlide
open List

/-- The stable error codes. -/
inductive ErrorCode where
  | inputNotFound | inputUnsupported | inputCorrupt | inputEmpty | inputTypeMismatch
  | inputTooLarge | inputArchiveUnsafe | pathOutsideAllowedRoot | runNotFound | stateCorrupt
  | invalidTransition | schemaInvalid | configInvalid | authenticationFailed | verificationFailed
  | completionBlocked | installCollision | installInvalid | runtimeUnknown | modelUnknown
  | pdfRenderUnavailable | pptxRenderUnavailable | ocrUnavailable | ocrProviderUnavailable
  | classificationPolicyInvalid | classificationPolicyRouteMismatch
  | classificationPolicyIdentityMismatch | classificationUnknown | classificationNotApproved
  | egressPolicyInvalid | egressCapabilityDenied | egressRouteMismatch | opencodeBootstrapInvalid
  | staleEvidence | unknownRegion | unknownTable | unknownTableCell
  | legacyTableCellMigrationRequired | unknownSourceElement | unknownWorkUnit | workUnitConflict
  | workUnitAlreadyComplete | evidenceIncomplete | normalizationFailed | imageDecodeFailed
  | pdfEncrypted | pptxConversionTimeout | renderCountMismatch | duplicateWorkUnitId
  | duplicateDocumentId | duplicateSourceId | numericMismatch | modalityMismatch
  | requiredEnglish | chartInterpretationMismatch | visualRelationMismatch
  | tableStructureMismatch | claimUnsupported | conflictInvalid | conflictReferenceInvalid
  | supersessionInvalid | installLocalModification | resourceLimit | resourceBudgetInvalid
  | resourceBudgetUnavailable | capacityLimit | retentionInvalid | retentionRefused
  | deletionInvalid | deletionBlocked | deletionPartial | deletionTargetFailed
  | deletionTargetChanged | legalHoldBlocked | legalHoldUnknown | productionProfileInvalid
  | supportBundleInvalid | supportAuthorizationInvalid | supportAuthorizationDenied
  | supportAuthorizationExpired | supportAuthorizationRevoked | supportAuthorityUnavailable
  | supportContentUnavailable | supportAuditFailed | executionNotFound | executionConflict
  | executionStale | executionUnsupportedVersion | executionInvalid
  | executionEnvironmentMismatch | executionAuthorizationRequired | internal
deriving DecidableEq, Repr

namespace ErrorCode

/-- This is the text that leaves the process. -/
def value : ErrorCode → String
  | .inputNotFound => "KSLIDE_INPUT_NOT_FOUND"
  | .inputUnsupported => "KSLIDE_INPUT_UNSUPPORTED"
  | .inputCorrupt => "KSLIDE_INPUT_CORRUPT"
  | .inputEmpty => "KSLIDE_INPUT_EMPTY"
  | .inputTypeMismatch => "KSLIDE_INPUT_TYPE_MISMATCH"
  | .inputTooLarge => "KSLIDE_INPUT_TOO_LARGE"
  | .inputArchiveUnsafe => "KSLIDE_INPUT_ARCHIVE_UNSAFE"
  | .pathOutsideAllowedRoot => "KSLIDE_PATH_OUTSIDE_ALLOWED_ROOT"
  | .runNotFound => "KSLIDE_RUN_NOT_FOUND"
  | .stateCorrupt => "KSLIDE_STATE_CORRUPT"
  | .invalidTransition => "KSLIDE_INVALID_STATE_TRANSITION"
  | .schemaInvalid => "KSLIDE_SCHEMA_INVALID"
  | .configInvalid => "KSLIDE_CONFIG_INVALID"
  | .authenticationFailed => "KSLIDE_AUTHENTICATION_FAILED"
  | .verificationFailed => "KSLIDE_VERIFICATION_FAILED"
  | .completionBlocked => "KSLIDE_COMPLETION_BLOCKED"
  | .installCollision => "KSLIDE_INSTALL_COLLISION"
  | .installInvalid => "KSLIDE_INSTALL_INVALID"
  | .runtimeUnknown => "KSLIDE_RUNTIME_UNKNOWN"
  | .modelUnknown => "KSLIDE_MODEL_UNKNOWN"
  | .pdfRenderUnavailable => "KSLIDE_PDF_RENDER_UNAVAILABLE"
  | .pptxRenderUnavailable => "KSLIDE_PPTX_RENDER_UNAVAILABLE"
  | .ocrUnavailable => "KSLIDE_OCR_UNAVAILABLE"
  | .ocrProviderUnavailable => "KSLIDE_OCR_PROVIDER_UNAVAILABLE"
  | .classificationPolicyInvalid => "KSLIDE_CLASSIFICATION_POLICY_INVALID"
  | .classificationPolicyRouteMismatch => "KSLIDE_CLASSIFICATION_POLICY_ROUTE_MISMATCH"
  | .classificationPolicyIdentityMismatch => "KSLIDE_CLASSIFICATION_POLICY_IDENTITY_MISMATCH"
  | .classificationUnknown => "KSLIDE_CLASSIFICATION_UNKNOWN"
  | .classificationNotApproved => "KSLIDE_CLASSIFICATION_NOT_APPROVED"
  | .egressPolicyInvalid => "KSLIDE_EGRESS_POLICY_INVALID"
  | .egressCapabilityDenied => "KSLIDE_EGRESS_CAPABILITY_DENIED"
  | .egressRouteMismatch => "KSLIDE_EGRESS_ROUTE_MISMATCH"
  | .opencodeBootstrapInvalid => "KSLIDE_OPENCODE_BOOTSTRAP_INVALID"
  | .staleEvidence => "KSLIDE_STALE_EVIDENCE"
  | .unknownRegion => "KSLIDE_UNKNOWN_REGION"
  | .unknownTable => "KSLIDE_UNKNOWN_TABLE"
  | .unknownTableCell => "KSLIDE_UNKNOWN_TABLE_CELL"
  | .legacyTableCellMigrationRequired => "KSLIDE_LEGACY_TABLE_CELL_MIGRATION_REQUIRED"
  | .unknownSourceElement => "KSLIDE_UNKNOWN_SOURCE_ELEMENT"
  | .unknownWorkUnit => "KSLIDE_UNKNOWN_WORK_UNIT"
  | .workUnitConflict => "KSLIDE_WORK_UNIT_CONFLICT"
  | .workUnitAlreadyComplete => "KSLIDE_WORK_UNIT_ALREADY_COMPLETE"
  | .evidenceIncomplete => "KSLIDE_EVIDENCE_INCOMPLETE"
  | .normalizationFailed => "KSLIDE_NORMALIZATION_FAILED"
  | .imageDecodeFailed => "KSLIDE_IMAGE_DECODE_FAILED"
  | .pdfEncrypted => "KSLIDE_PDF_ENCRYPTED"
  | .pptxConversionTimeout => "KSLIDE_PPTX_CONVERSION_TIMEOUT"
  | .renderCountMismatch => "KSLIDE_RENDER_COUNT_MISMATCH"
  | .duplicateWorkUnitId => "KSLIDE_DUPLICATE_WORK_UNIT_ID"
  | .duplicateDocumentId => "KSLIDE_DUPLICATE_DOCUMENT_ID"
  | .duplicateSourceId => "KSLIDE_DUPLICATE_SOURCE_ID"
  | .numericMismatch => "KSLIDE_NUMERIC_MISMATCH"
  | .modalityMismatch => "KSLIDE_MODALITY_MISMATCH"
  | .requiredEnglish => "KSLIDE_REQUIRED_ENGLISH"
  | .chartInterpretationMismatch => "KSLIDE_CHART_INTERPRETATION_MISMATCH"
  | .visualRelationMismatch => "KSLIDE_VISUAL_RELATION_MISMATCH"
  | .tableStructureMismatch => "KSLIDE_TABLE_STRUCTURE_MISMATCH"
  | .claimUnsupported => "KSLIDE_CLAIM_UNSUPPORTED"
  | .conflictInvalid => "KSLIDE_CONFLICT_INVALID"
  | .conflictReferenceInvalid => "KSLIDE_CONFLICT_REFERENCE_INVALID"
  | .supersessionInvalid => "KSLIDE_SUPERSESSION_INVALID"
  | .installLocalModification => "KSLIDE_INSTALL_LOCAL_MODIFICATION"
  | .resourceLimit => "KSLIDE_RESOURCE_LIMIT"
  | .resourceBudgetInvalid => "KSLIDE_RESOURCE_BUDGET_INVALID"
  | .resourceBudgetUnavailable => "KSLIDE_RESOURCE_BUDGET_UNAVAILABLE"
  | .capacityLimit => "KSLIDE_CAPACITY_LIMIT"
  | .retentionInvalid => "KSLIDE_RETENTION_INVALID"
  | .retentionRefused => "KSLIDE_RETENTION_REFUSED"
  | .deletionInvalid => "KSLIDE_DELETION_INVALID"
  | .deletionBlocked => "KSLIDE_DELETION_BLOCKED"
  | .deletionPartial => "KSLIDE_DELETION_PARTIAL"
  | .deletionTargetFailed => "KSLIDE_DELETION_TARGET_FAILED"
  | .deletionTargetChanged => "KSLIDE_DELETION_TARGET_CHANGED"
  | .legalHoldBlocked => "KSLIDE_LEGAL_HOLD_BLOCKED"
  | .legalHoldUnknown => "KSLIDE_LEGAL_HOLD_UNKNOWN"
  | .productionProfileInvalid => "KSLIDE_PRODUCTION_PROFILE_INVALID"
  | .supportBundleInvalid => "KSLIDE_SUPPORT_BUNDLE_INVALID"
  | .supportAuthorizationInvalid => "KSLIDE_SUPPORT_AUTHORIZATION_INVALID"
  | .supportAuthorizationDenied => "KSLIDE_SUPPORT_AUTHORIZATION_DENIED"
  | .supportAuthorizationExpired => "KSLIDE_SUPPORT_AUTHORIZATION_EXPIRED"
  | .supportAuthorizationRevoked => "KSLIDE_SUPPORT_AUTHORIZATION_REVOKED"
  | .supportAuthorityUnavailable => "KSLIDE_SUPPORT_AUTHORITY_UNAVAILABLE"
  | .supportContentUnavailable => "KSLIDE_SUPPORT_CONTENT_UNAVAILABLE"
  | .supportAuditFailed => "KSLIDE_SUPPORT_AUDIT_FAILED"
  | .executionNotFound => "KSLIDE_EXECUTION_NOT_FOUND"
  | .executionConflict => "KSLIDE_EXECUTION_CONFLICT"
  | .executionStale => "KSLIDE_EXECUTION_STALE"
  | .executionUnsupportedVersion => "KSLIDE_EXECUTION_UNSUPPORTED_VERSION"
  | .executionInvalid => "KSLIDE_EXECUTION_INVALID"
  | .executionEnvironmentMismatch => "KSLIDE_EXECUTION_ENVIRONMENT_MISMATCH"
  | .executionAuthorizationRequired => "KSLIDE_EXECUTION_AUTHORIZATION_REQUIRED"
  | .internal => "KSLIDE_INTERNAL"

def all : List ErrorCode :=
  [.inputNotFound, .inputUnsupported, .inputCorrupt, .inputEmpty, .inputTypeMismatch,
   .inputTooLarge, .inputArchiveUnsafe, .pathOutsideAllowedRoot, .runNotFound, .stateCorrupt,
   .invalidTransition, .schemaInvalid, .configInvalid, .authenticationFailed,
   .verificationFailed, .completionBlocked, .installCollision, .installInvalid, .runtimeUnknown,
   .modelUnknown, .pdfRenderUnavailable, .pptxRenderUnavailable, .ocrUnavailable,
   .ocrProviderUnavailable, .classificationPolicyInvalid, .classificationPolicyRouteMismatch,
   .classificationPolicyIdentityMismatch, .classificationUnknown, .classificationNotApproved,
   .egressPolicyInvalid, .egressCapabilityDenied, .egressRouteMismatch,
   .opencodeBootstrapInvalid, .staleEvidence, .unknownRegion, .unknownTable, .unknownTableCell,
   .legacyTableCellMigrationRequired, .unknownSourceElement, .unknownWorkUnit, .workUnitConflict,
   .workUnitAlreadyComplete, .evidenceIncomplete, .normalizationFailed, .imageDecodeFailed,
   .pdfEncrypted, .pptxConversionTimeout, .renderCountMismatch, .duplicateWorkUnitId,
   .duplicateDocumentId, .duplicateSourceId, .numericMismatch, .modalityMismatch,
   .requiredEnglish, .chartInterpretationMismatch, .visualRelationMismatch,
   .tableStructureMismatch, .claimUnsupported, .conflictInvalid, .conflictReferenceInvalid,
   .supersessionInvalid, .installLocalModification, .resourceLimit, .resourceBudgetInvalid,
   .resourceBudgetUnavailable, .capacityLimit, .retentionInvalid, .retentionRefused,
   .deletionInvalid, .deletionBlocked, .deletionPartial, .deletionTargetFailed,
   .deletionTargetChanged, .legalHoldBlocked, .legalHoldUnknown, .productionProfileInvalid,
   .supportBundleInvalid, .supportAuthorizationInvalid, .supportAuthorizationDenied,
   .supportAuthorizationExpired, .supportAuthorizationRevoked, .supportAuthorityUnavailable,
   .supportContentUnavailable, .supportAuditFailed, .executionNotFound, .executionConflict,
   .executionStale, .executionUnsupportedVersion, .executionInvalid,
   .executionEnvironmentMismatch, .executionAuthorizationRequired, .internal]

end ErrorCode

/-- An error that carries no raw internals. -/
structure KSlideError where
  code : ErrorCode
  message : String
  details : List (String × Json)
deriving DecidableEq

/-- Python code ends with a package error or with any other exception. -/
inductive Raised where
  | kslide (error : KSlideError)
  | other (kind : String)
deriving DecidableEq

namespace Raised

def invalid (message : String) : Raised := .kslide ⟨.executionInvalid, message, []⟩
def corrupt (message : String) : Raised := .kslide ⟨.stateCorrupt, message, []⟩
def unsupported (message : String) : Raised := .kslide ⟨.executionUnsupportedVersion, message, []⟩
def conflict (message : String) : Raised := .kslide ⟨.executionConflict, message, []⟩

/-- The handler code reads the error code of a package error. -/
def code? : Raised → Option ErrorCode
  | .kslide error => some error.code
  | .other _ => none

end Raised

/-- A failed check stops the computation with its error. -/
def require (condition : Bool) (error : Raised) : Except Raised Unit :=
  if condition then .ok () else .error error

variable {Error First Second : Type} {first : Except Error First}

/-- A sequence succeeds when both of its parts succeed. -/
@[simp] theorem bind_ok {rest : First → Except Error Second} {value : Second} :
    (first >>= rest) = .ok value ↔ ∃ middle, first = .ok middle ∧ rest middle = .ok value := by
  cases first <;> simp [bind, Except.bind]

@[simp] theorem map_ok {change : First → Second} {value : Second} :
    change <$> first = .ok value ↔ ∃ middle, first = .ok middle ∧ change middle = value := by
  cases first <;> simp [Functor.map, Except.map]

@[simp] theorem pure_ok {Error Value : Type} {first second : Value} :
    (pure first : Except Error Value) = .ok second ↔ first = second := by
  simp [pure, Except.pure]

@[simp] theorem require_ok (condition : Bool) (error : Raised) (value : Unit) :
    require condition error = .ok value ↔ condition = true := by
  cases condition <;> simp [require]

/-- A loop of checks succeeds when each check succeeds. -/
@[simp] theorem forM_ok {Error Item : Type} {items : List Item} {check : Item → Except Error Unit}
    {value : Unit} : forM items check = .ok value ↔ ∀ item ∈ items, check item = .ok () := by
  induction items with
  | nil => simp
  | cons item items ih =>
    rw [forM_cons, bind_ok, forall_mem_cons, ← ih]
    exact ⟨fun ⟨_, first, rest⟩ => ⟨first, rest⟩, fun ⟨first, rest⟩ => ⟨(), first, rest⟩⟩

/-- A reader that inverts a writer inverts it in every list. -/
theorem mapM_written {Item Written Error : Type} {write : Item → Written}
    {read : Written → Except Error Item} {items : List Item}
    (inverse : ∀ item ∈ items, read (write item) = .ok item) :
    (items.map write).mapM read = .ok items := by
  induction items with
  | nil => rfl
  | cons item items ih =>
    rw [map_cons, mapM_cons, inverse item mem_cons_self,
      ih fun other listed => inverse other (mem_cons_of_mem _ listed)]
    rfl

/-- What holds of everything that a reader returns holds of a whole list. -/
theorem mapM_all {Item Read Error : Type} {read : Item → Except Error Read} {items : List Item}
    {found : List Read} {property : Read → Prop} (parsed : items.mapM read = .ok found)
    (each : ∀ item value, read item = .ok value → property value) :
    ∀ value ∈ found, property value := by
  induction items generalizing found with
  | nil =>
    rw [mapM_nil, pure_ok] at parsed
    rw [← parsed]
    intro value listed
    cases listed
  | cons item items ih =>
    rw [mapM_cons] at parsed
    simp only [bind_ok, pure_ok] at parsed
    obtain ⟨value, first, others, later, same⟩ := parsed
    rw [← same]
    exact forall_mem_cons.mpr ⟨each item value first, ih later⟩

/-- A text check accepts only texts and returns them unchanged. -/
def checkedText (accepts : String → Bool) (error : Raised) : Json → Except Raised String
  | .str text => if accepts text then .ok text else .error error
  | _ => .error error

@[simp] theorem checkedText_ok {accepts : String → Bool} {error : Raised} {value : Json}
    {text : String} :
    checkedText accepts error value = .ok text ↔ value = .str text ∧ accepts text = true := by
  cases value with
  | str found =>
    simp only [checkedText, Json.str.injEq]
    split <;> grind
  | _ => simp [checkedText]

/-- A constructor turns checked fields into a record that carries their validity. -/
def construct {Fields Record : Type} : (checked : Except Raised Fields) →
    (build : ∀ fields, checked = .ok fields → Record) → Except Raised Record
  | .ok fields, build => .ok (build fields rfl)
  | .error error, _ => .error error

theorem construct_ok {Fields Record : Type} {checked : Except Raised Fields}
    {build : ∀ fields, checked = .ok fields → Record} {record : Record}
    (project : Record → Fields) (build_fields : ∀ fields found, project (build fields found) = fields)
    (injective : Function.Injective project) :
    construct checked build = .ok record ↔ checked = .ok (project record) := by
  cases checked with
  | error error => simp [construct]
  | ok fields =>
    simp only [construct, Except.ok.injEq]
    constructor
    · rintro rfl
      exact (build_fields fields rfl).symm
    · intro same
      exact injective ((build_fields fields rfl).trans same)

section
variable {First Second : Type}

/-- The computation ends with an exception that is no package error. -/
def Breaks (result : Except Raised First) : Prop := ∃ kind, result = .error (.other kind)

@[simp] theorem breaks_ok {value : First} : ¬Breaks (.ok value) := by
  intro parts
  obtain ⟨kind, same⟩ := parts
  cases same

@[simp] theorem breaks_pure {value : First} : ¬Breaks (pure value) := breaks_ok

@[simp] theorem breaks_kslide {error : KSlideError} :
    ¬Breaks (.error (.kslide error) : Except Raised First) := by
  intro parts
  obtain ⟨kind, same⟩ := parts
  cases same

@[simp] theorem breaks_other {kind : String} :
    Breaks (.error (.other kind) : Except Raised First) := ⟨kind, rfl⟩

@[simp] theorem breaks_throw {raised : Raised} :
    Breaks (throw raised : Except Raised First) ↔
      Breaks (.error raised : Except Raised First) := Iff.rfl

/-- A sequence breaks in its first part or after it. -/
@[simp] theorem breaks_bind {first : Except Raised First} {rest : First → Except Raised Second} :
    Breaks (first >>= rest) ↔ Breaks first ∨ ∃ value, first = .ok value ∧ Breaks (rest value) := by
  cases first with
  | error raised =>
    constructor
    · intro parts
      obtain ⟨kind, same⟩ := parts
      left
      exact ⟨kind, by rw [Except.error.inj same]⟩
    · intro broken
      rcases broken with ⟨kind, same⟩ | ⟨value, same, _⟩
      · exact ⟨kind, by rw [Except.error.inj same]; rfl⟩
      · cases same
  | ok value =>
    constructor
    · intro broken
      exact Or.inr ⟨value, rfl, broken⟩
    · intro broken
      rcases broken with broken | ⟨other, same, broken⟩
      · exact absurd broken breaks_ok
      · rw [← Except.ok.inj same] at broken
        exact broken

@[simp] theorem breaks_require {condition : Bool} {error : KSlideError} :
    ¬Breaks (require condition (.kslide error)) := by
  cases condition
  · exact breaks_kslide
  · exact breaks_ok

/-- Only package errors are raised exactly when the computation does not break. -/
theorem breaks_iff {result : Except Raised First} :
    ¬Breaks result ↔ ∀ raised, result = .error raised → ∃ error, raised = .kslide error := by
  constructor
  · intro whole raised same
    cases raised with
    | kslide error => exact ⟨error, rfl⟩
    | other kind => exact absurd ⟨kind, same⟩ whole
  · intro package ⟨kind, same⟩
    obtain ⟨error, other⟩ := package _ same
    cases other

end

end KSlide
