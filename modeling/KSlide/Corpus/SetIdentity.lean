import KSlide.Corpus.Canonical

/-
This file gives the identities of the governed sets and the purposes that they serve.
-/

namespace KSlide
open GovernanceError

namespace CorpusRole

def purposes : CorpusRole → List String
  | publicSyntheticRegression => ["development", "regression"]
  | privateRepresentative => ["private_evaluation"]
  | frozenHighRisk => ["comparison"]
  | sealedHeldOut => ["promotion"]

/-- A set is evaluated in one state only. -/
def eligibleState : CorpusRole → CorpusState
  | publicSyntheticRegression => .active
  | privateRepresentative => .active
  | frozenHighRisk => .frozen
  | sealedHeldOut => .sealed

end CorpusRole

def evaluationPurposes : List String :=
  ["development", "regression", "private_evaluation", "comparison", "promotion"]

/-- The identity of a set counts its items without naming them. -/
structure SetIdentity where
  setId : OpaqueText
  role : CorpusRole
  version : VersionText
  state : CorpusState
  manifestFingerprint : HashText
  itemCount : Int
  activeItemCount : Int
  recordSha256 : HashText
  predecessor : Option ManifestReference
deriving DecidableEq

def requireCount (low : Int) (message : String) : Json → Except GovernanceError Int
  | .int count => if low ≤ count then .ok count else .error (.corpus message)
  | _ => .error (.corpus message)

def canonicalSetIdentity (value : Json) : Except GovernanceError SetIdentity := do
  let required := ["schema_version", "set_id", "role", "version", "state", "manifest_fingerprint",
    "item_count", "active_item_count", "provenance", "access_class"]
  check (value.keysBetween [] ("predecessor" :: required))
    "governed set identity has unsupported fields"
  check (required.all (· ∈ value.keys)) "governed set identity is incomplete"
  check (value.field "schema_version" == .str "1.0")
    "unsupported corpus governance schema version"
  let role ← requireMember CorpusRole Text.Enumeration.all "unknown governed corpus role"
    (.corpus "unknown governed corpus role") (value.field "role")
  let state ← requireMember CorpusState role.states
    "corpus lifecycle state is invalid for its role" .typeError (value.field "state")
  let itemCount ← requireCount 1 "corpus item_count must be a positive integer"
    (value.field "item_count")
  let bounded := "corpus active_item_count must be a bounded non-negative integer"
  let activeItemCount ← requireCount 0 bounded (value.field "active_item_count")
  check (decide (activeItemCount ≤ itemCount)) bounded
  check (!((state == .active || state == .frozen || state == .sealed) && activeItemCount == 0))
    "eligible corpus identity requires active membership"
  check (!(state == .retired && activeItemCount != 0))
    "retired corpus identity cannot have active membership"
  check (value.field "access_class" == .str role.accessClass)
    "corpus access class does not match its role"
  let setId ← requireOpaque "set_id" (value.field "set_id")
  let version ← requireVersion (value.field "version")
  let manifestFingerprint ← requireHash "manifest_fingerprint" (value.field "manifest_fingerprint")
  let recordSha256 ← canonicalProvenance role (value.field "provenance")
  let predecessor ← optional ManifestReference.parse (value.field "predecessor")
  return ⟨setId, role, version, state, manifestFingerprint, itemCount, activeItemCount,
    recordSha256, predecessor⟩

def requireSetPurpose (identity : Json) (purpose : String) :
    Except GovernanceError SetIdentity := do
  let identity ← canonicalSetIdentity identity
  check (evaluationPurposes.elem purpose) "unknown evaluation purpose"
  check (identity.role.purposes.elem purpose)
    "evaluation purpose is not allowed for this corpus role"
  check (identity.state == identity.role.eligibleState)
    "corpus lifecycle state is not eligible for evaluation"
  return identity

namespace SetIdentity

def predecessorFields (identity : SetIdentity) : List (String × Json) :=
  match identity.predecessor with
  | none => []
  | some predecessor => [("predecessor", predecessor.asDict)]

def asDict (identity : SetIdentity) : Json := .obj (
  [("access_class", .str identity.role.accessClass),
    ("active_item_count", .int identity.activeItemCount),
    ("item_count", .int identity.itemCount),
    ("manifest_fingerprint", .str identity.manifestFingerprint.val)] ++
  identity.predecessorFields ++
  [("provenance", .obj [("authority", .str identity.role.authority),
      ("record_sha256", .str identity.recordSha256.val)]),
    ("role", .str (Text.Enumeration.value identity.role)),
    ("schema_version", .str "1.0"),
    ("set_id", .str identity.setId.val),
    ("state", .str (Text.Enumeration.value identity.state)),
    ("version", .str identity.version.val)])

end SetIdentity

/-- The identity of a manifest, whose content is canonical already. -/
def CorpusManifest.identity [Sha256] (manifest : CorpusManifest) : SetIdentity :=
  { setId := manifest.setId
    role := manifest.role
    version := manifest.version
    state := manifest.state
    manifestFingerprint := manifest.manifestFingerprint
    itemCount := manifest.items.length
    activeItemCount := manifest.activeCount
    recordSha256 := manifest.recordSha256
    predecessor := manifest.predecessor }

section
variable {identity : SetIdentity}

namespace SetIdentity

theorem asDict_shaped (identity : SetIdentity) :
    identity.asDict.keysBetween [] ["predecessor", "schema_version", "set_id", "role", "version",
      "state", "manifest_fingerprint", "item_count", "active_item_count", "provenance",
      "access_class"] = true ∧
    (["schema_version", "set_id", "role", "version", "state", "manifest_fingerprint",
      "item_count", "active_item_count", "provenance", "access_class"].all
        (· ∈ identity.asDict.keys)) = true := by
  unfold asDict predecessorFields
  cases identity.predecessor <;> exact ⟨rfl, rfl⟩

theorem field_predecessor (identity : SetIdentity) :
    identity.asDict.field "predecessor" = (identity.predecessor.map (·.asDict)).getD .null := by
  unfold asDict predecessorFields
  cases identity.predecessor <;> rfl

/-- The other fields stand in every identity, with or without a predecessor. -/
theorem asDict_fields (identity : SetIdentity) :
    identity.asDict.field "schema_version" = .str "1.0" ∧
    identity.asDict.field "role" = .str (Text.Enumeration.value identity.role) ∧
    identity.asDict.field "state" = .str (Text.Enumeration.value identity.state) ∧
    identity.asDict.field "item_count" = .int identity.itemCount ∧
    identity.asDict.field "active_item_count" = .int identity.activeItemCount ∧
    identity.asDict.field "access_class" = .str identity.role.accessClass ∧
    identity.asDict.field "set_id" = .str identity.setId.val ∧
    identity.asDict.field "version" = .str identity.version.val ∧
    identity.asDict.field "manifest_fingerprint" = .str identity.manifestFingerprint.val ∧
    identity.asDict.field "provenance" = .obj [("authority", .str identity.role.authority),
      ("record_sha256", .str identity.recordSha256.val)] := by
  unfold asDict predecessorFields
  cases identity.predecessor <;> exact ⟨rfl, rfl, rfl, rfl, rfl, rfl, rfl, rfl, rfl, rfl⟩

/-- A consistent identity has a state of its role and counts that fit the state. -/
structure Consistent (identity : SetIdentity) : Prop where
  held : identity.state ∈ identity.role.states
  counted : 1 ≤ identity.itemCount
  positive : 0 ≤ identity.activeItemCount
  bounded : identity.activeItemCount ≤ identity.itemCount
  eligible : identity.state = .active ∨ identity.state = .frozen ∨ identity.state = .sealed →
    identity.activeItemCount ≠ 0
  retired : identity.state = .retired → identity.activeItemCount = 0

end SetIdentity

theorem requireCount_int {low count : Int} {message : String} (large : low ≤ count) :
    requireCount low message (.int count) = .ok count := if_pos large

/-- A consistent identity is read back. -/
theorem canonicalSetIdentity_asDict (consistent : identity.Consistent) :
    canonicalSetIdentity identity.asDict = .ok identity := by
  obtain ⟨shaped, complete⟩ := identity.asDict_shaped
  obtain ⟨schema, role, state, items, active, access, setId, version, fingerprint, provenance⟩ :=
    identity.asDict_fields
  have predecessor : optional ManifestReference.parse (identity.asDict.field "predecessor") =
      .ok identity.predecessor := by
    rw [identity.field_predecessor]
    exact optional_asDict (fun _ => rfl) ManifestReference.parse_asDict identity.predecessor
  have recorded : canonicalProvenance identity.role (.obj [("authority",
      .str identity.role.authority), ("record_sha256", .str identity.recordSha256.val)]) =
      .ok identity.recordSha256 := by
    unfold canonicalProvenance
    simp only [bind_ok, check_ok, requireHash, requireText_ok, beq_iff_eq]
    exact ⟨(), by simp [Json.hasKeys], (), rfl, rfl⟩
  unfold canonicalSetIdentity
  rw [schema, role, state, items, active, access, setId, version, fingerprint, provenance,
    predecessor, requireCount_int consistent.counted]
  simp only [bind_ok, check_ok, pure_ok, requireMember_ok, Bool.not_eq_true', Bool.and_eq_false_iff,
    Bool.or_eq_false_iff, beq_eq_false_iff_ne, bne_eq_false_iff_eq, beq_iff_eq, requireOpaque,
    requireVersion, requireHash, requireText_ok, decide_eq_true_eq, Except.ok.injEq]
  refine ⟨(), shaped, (), complete, (), trivial, identity.role,
    ⟨rfl, Text.Enumeration.complete _⟩, identity.state, ⟨rfl, consistent.held⟩, _, rfl, _,
    requireCount_int consistent.positive, (), consistent.bounded, (), ?_, (), ?_, (), rfl,
    identity.setId, rfl, identity.version, rfl, identity.manifestFingerprint, rfl, _, recorded, _,
    rfl, rfl⟩
  · by_cases some : identity.state = .active ∨ identity.state = .frozen ∨ identity.state = .sealed
    · exact .inr (consistent.eligible some)
    · exact .inl ⟨⟨fun same => some (.inl same), fun same => some (.inr (.inl same))⟩,
        fun same => some (.inr (.inr same))⟩
  · by_cases gone : identity.state = .retired
    · exact .inr (consistent.retired gone)
    · exact .inl gone

theorem CorpusManifest.identity_consistent [Sha256] {manifest : CorpusManifest}
    (canonical : manifest.Canonical) : manifest.identity.Consistent where
  held := canonical.held
  counted := by
    have positive := List.length_pos_of_ne_nil canonical.present
    show (1 : Int) ≤ manifest.items.length
    omega
  positive := Int.natCast_nonneg _
  bounded := Int.ofNat_le.mpr (List.length_filter_le _ _)
  eligible open_ := by
    obtain ⟨item, listed, active⟩ := canonical.eligible open_
    have counted : item ∈ manifest.items.filter (·.state == .active) :=
      List.mem_filter.mpr ⟨listed, beq_iff_eq.mpr active⟩
    have positive := List.length_pos_of_mem counted
    show (manifest.activeCount : Int) ≠ 0
    unfold CorpusManifest.activeCount
    omega
  retired gone := by
    show (manifest.activeCount : Int) = 0
    unfold CorpusManifest.activeCount
    rw [List.filter_eq_nil_iff.mpr]
    · rfl
    · intro item listed active
      exact canonical.retired gone item listed (beq_iff_eq.mp active)

theorem requireSetPurpose_identity [Sha256] {manifest : CorpusManifest} {purpose : String}
    (canonical : manifest.Canonical) (eligible : manifest.state = manifest.role.eligibleState)
    (known : evaluationPurposes.elem purpose = true)
    (allowed : manifest.role.purposes.elem purpose = true) :
    requireSetPurpose manifest.identity.asDict purpose = .ok manifest.identity := by
  unfold requireSetPurpose
  simp only [canonicalSetIdentity_asDict (CorpusManifest.identity_consistent canonical), bind_ok,
    check_ok, pure_ok, beq_iff_eq, Except.ok.injEq, exists_eq_left']
  exact ⟨(), known, (), allowed, (), eligible, trivial⟩

end
end KSlide
