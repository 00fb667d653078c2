import KSlide.Digest
import KSlide.Errors
import KSlide.Json.Record
import KSlide.Text.Enumeration
import Mathlib.Data.List.Sort
import Mathlib.Data.String.Basic

/-
This file gives the source-free manifests of the governed evaluation corpora.
-/

/-- A list or an object cannot be a member of a set. -/
def Json.hashable : Json → Bool
  | .arr _ | .obj _ => false
  | _ => true

/-- The keys of an object lie within the allowed keys and contain the required ones. -/
def Json.keysBetween (value : Json) (required allowed : List String) : Bool :=
  value.isObject && value.keys.all (· ∈ allowed) && required.all (· ∈ value.keys)

namespace KSlide

/-- A governed corpus contract is malformed, or a set is asked for a value that it cannot hold. -/
inductive GovernanceError where
  | corpus (message : String)
  | typeError
deriving DecidableEq, Repr

namespace GovernanceError

/-- A failed check stops a corpus computation with its message. -/
def check (condition : Bool) (message : String) : Except GovernanceError Unit :=
  if condition then .ok () else .error (corpus message)

@[simp] theorem check_ok {condition : Bool} {message : String} {value : Unit} :
    check condition message = .ok value ↔ condition = true := by
  cases condition <;> simp [check]

end GovernanceError
open GovernanceError

inductive CorpusRole where
  | publicSyntheticRegression | privateRepresentative | frozenHighRisk | sealedHeldOut
deriving DecidableEq, Repr

instance : Text.Enumeration CorpusRole where
  value
    | .publicSyntheticRegression => "public_synthetic_regression"
    | .privateRepresentative => "private_representative"
    | .frozenHighRisk => "frozen_high_risk"
    | .sealedHeldOut => "sealed_held_out"
  all := [.publicSyntheticRegression, .privateRepresentative, .frozenHighRisk, .sealedHeldOut]

/-- The state of a set. -/
inductive CorpusState where
  | active | frozen | sealed | contaminated | retired
deriving DecidableEq, Repr

instance : Text.Enumeration CorpusState where
  value
    | .active => "active"
    | .frozen => "frozen"
    | .sealed => "sealed"
    | .contaminated => "contaminated"
    | .retired => "retired"
  all := [.active, .frozen, .sealed, .contaminated, .retired]

/-- The state of one item of a set. -/
inductive ItemState where
  | active | retired | contaminated
deriving DecidableEq, Repr

instance : Text.Enumeration ItemState where
  value
    | .active => "active"
    | .retired => "retired"
    | .contaminated => "contaminated"
  all := [.active, .retired, .contaminated]

namespace CorpusRole

/-- The position of a role among the four roles. -/
def index : CorpusRole → Nat
  | publicSyntheticRegression => 0
  | privateRepresentative => 1
  | frozenHighRisk => 2
  | sealedHeldOut => 3

def accessClass : CorpusRole → String
  | publicSyntheticRegression => "public_development"
  | privateRepresentative => "approved_private_evaluation"
  | frozenHighRisk => "frozen_comparison"
  | sealedHeldOut => "sealed_promotion"

def states : CorpusRole → List CorpusState
  | publicSyntheticRegression => [.active, .retired]
  | privateRepresentative => [.active, .retired]
  | frozenHighRisk => [.frozen, .retired]
  | sealedHeldOut => [.sealed, .contaminated, .retired]

def authority : CorpusRole → String
  | publicSyntheticRegression => "repository_generator"
  | privateRepresentative => "approved_private_evaluation"
  | frozenHighRisk => "evaluation_governance"
  | sealedHeldOut => "evaluation_governance"

end CorpusRole

/-- An identifier starts with a letter or a digit and has at most 128 letters. -/
def isOpaqueId (text : String) : Bool :=
  Text.isToken Text.isAlnum (fun letter => Text.isAlnum letter || "._-".toList.contains letter) 127
    text

/-- A version has no white space at its ends. -/
def isStableVersion (text : String) : Bool :=
  !Text.isBlank text && text.length ≤ 64 && !text.toList.head?.any Text.isSpace &&
    !text.toList.getLast?.any Text.isSpace

abbrev HashText := {text : String // Text.isSha256 text = true}
abbrev OpaqueText := {text : String // isOpaqueId text = true}
abbrev VersionText := {text : String // isStableVersion text = true}

/-- A text that passes its check is kept with the proof. -/
def requireText (accepts : String → Bool) (message : String) :
    Json → Except GovernanceError {text : String // accepts text = true}
  | .str text => if valid : accepts text = true then .ok ⟨text, valid⟩ else .error (.corpus message)
  | _ => .error (.corpus message)

@[simp] theorem requireText_ok {accepts : String → Bool} {message : String} {value : Json}
    {text : {text : String // accepts text = true}} :
    requireText accepts message value = .ok text ↔ value = .str text.val := by
  obtain ⟨text, valid⟩ := text
  cases value with
  | str found =>
    simp only [requireText, Json.str.injEq]
    split
    · simp
    · rename_i refused
      constructor
      · intro impossible
        cases impossible
      · rintro rfl
        exact (refused valid).elim
  | _ => simp [requireText]

def requireHash (label : String) : Json → Except GovernanceError HashText :=
  requireText Text.isSha256 (label ++ " must be a lowercase SHA-256 digest")

def requireOpaque (label : String) : Json → Except GovernanceError OpaqueText :=
  requireText isOpaqueId (label ++ " must be a bounded opaque identifier")

def requireVersion : Json → Except GovernanceError VersionText :=
  requireText isStableVersion "corpus version must be a non-empty stable string"

/-- A value is looked up among the members of an enumeration, and one lookup needs a hash. -/
def requireMember (Member : Type) [Text.Enumeration Member] [DecidableEq Member]
    (allowed : List Member) (message : String) (unhashable : GovernanceError) (value : Json) :
    Except GovernanceError Member :=
  match value with
  | .str text =>
    match Text.Enumeration.parse Member text with
    | some member => if member ∈ allowed then .ok member else .error (.corpus message)
    | none => .error (.corpus message)
  | _ => .error (if value.hashable then .corpus message else unhashable)

@[simp] theorem requireMember_ok {Member : Type} [Text.Enumeration Member] [DecidableEq Member]
    {allowed : List Member} {message : String} {unhashable : GovernanceError} {value : Json}
    {member : Member} : requireMember Member allowed message unhashable value = .ok member ↔
      value = .str (Text.Enumeration.value member) ∧ member ∈ allowed := by
  cases value with
  | str text =>
    simp only [requireMember, Json.str.injEq]
    cases found : Text.Enumeration.parse Member text with
    | none =>
      constructor
      · intro impossible
        cases impossible
      · rintro ⟨rfl, -⟩
        rw [Text.Enumeration.parse_value] at found
        cases found
    | some other =>
      rw [Text.Enumeration.parse_eq_some] at found
      subst found
      dsimp only
      split
      · rename_i listed
        rw [Except.ok.injEq]
        constructor
        · rintro rfl
          exact ⟨rfl, listed⟩
        · rintro ⟨same, -⟩
          exact Text.Enumeration.distinct _ _ same
      · rename_i refused
        constructor
        · intro impossible
          cases impossible
        · rintro ⟨same, listed⟩
          rw [Text.Enumeration.distinct _ _ same] at refused
          exact (refused listed).elim
  | _ => simp [requireMember]

/-- A set version is named by its set, its version and its fingerprint. -/
structure ManifestReference where
  setId : OpaqueText
  version : VersionText
  manifestFingerprint : HashText
deriving DecidableEq

namespace ManifestReference

def asDict (reference : ManifestReference) : Json := .obj [
  ("manifest_fingerprint", .str reference.manifestFingerprint.val),
  ("set_id", .str reference.setId.val),
  ("version", .str reference.version.val)]

def parse (value : Json) : Except GovernanceError ManifestReference := do
  check (value.hasKeys ["set_id", "version", "manifest_fingerprint"])
    "corpus predecessor identity is malformed"
  let setId ← requireOpaque "predecessor set_id" (value.field "set_id")
  let version ← requireVersion (value.field "version")
  let manifestFingerprint ← requireHash "predecessor manifest_fingerprint"
    (value.field "manifest_fingerprint")
  return { setId, version, manifestFingerprint }

@[simp] theorem parse_asDict (reference : ManifestReference) :
    parse reference.asDict = .ok reference := by
  have keys : reference.asDict.hasKeys ["set_id", "version", "manifest_fingerprint"] = true := by
    simp [asDict, Json.hasKeys]
  unfold parse
  simp only [bind_ok, check_ok, requireOpaque, requireVersion, requireHash, requireText_ok, pure_ok]
  exact ⟨(), keys, reference.setId, rfl, reference.version, rfl, reference.manifestFingerprint, rfl,
    rfl⟩

end ManifestReference

/-- An item is named by its set, its version and its own identity. -/
structure ItemReference where
  setId : OpaqueText
  version : VersionText
  itemId : OpaqueText
deriving DecidableEq

namespace ItemReference

def asDict (reference : ItemReference) : Json := .obj [
  ("item_id", .str reference.itemId.val),
  ("set_id", .str reference.setId.val),
  ("version", .str reference.version.val)]

def parse (value : Json) : Except GovernanceError ItemReference := do
  check (value.hasKeys ["set_id", "version", "item_id"]) "replacement lineage is malformed"
  let setId ← requireOpaque "replacement set_id" (value.field "set_id")
  let version ← requireVersion (value.field "version")
  let itemId ← requireOpaque "replacement item_id" (value.field "item_id")
  return { setId, version, itemId }

@[simp] theorem parse_asDict (reference : ItemReference) :
    parse reference.asDict = .ok reference := by
  have keys : reference.asDict.hasKeys ["set_id", "version", "item_id"] = true := by
    simp [asDict, Json.hasKeys]
  unfold parse
  simp only [bind_ok, check_ok, requireOpaque, requireVersion, requireText_ok, pure_ok]
  exact ⟨(), keys, reference.setId, rfl, reference.version, rfl, reference.itemId, rfl, rfl⟩

end ItemReference

/-- An absent value is not parsed. -/
def optional {Value : Type} (parse : Json → Except GovernanceError Value) :
    Json → Except GovernanceError (Option Value)
  | .null => .ok none
  | value => some <$> parse value

theorem optional_present {Value : Type} {parse : Json → Except GovernanceError Value}
    {value : Json} (present : value.isObject = true) :
    optional parse value = some <$> parse value := by
  cases value with
  | obj fields => rfl
  | _ => cases present

section
variable [Sha256]

/-- A pair of source and gold is hashed without disclosing either of them. -/
def itemFingerprint (sourceSha256 goldSha256 : HashText) : String :=
  stableRevision (.obj [
    ("gold_sha256", .str goldSha256.val),
    ("source_sha256", .str sourceSha256.val)])

structure CorpusItem where
  itemId : OpaqueText
  sourceSha256 : HashText
  goldSha256 : HashText
  state : ItemState
  replacementOf : Option ItemReference := none
deriving DecidableEq

namespace CorpusItem

def fingerprint (item : CorpusItem) : String := itemFingerprint item.sourceSha256 item.goldSha256

/-- A retired or contaminated item is closed. -/
def closed (item : CorpusItem) : Bool := item.state == .retired || item.state == .contaminated

def asDict (item : CorpusItem) : Json :=
  match item.replacementOf with
  | none => .obj [
      ("gold_sha256", .str item.goldSha256.val),
      ("item_id", .str item.itemId.val),
      ("source_sha256", .str item.sourceSha256.val),
      ("state", .str (Text.Enumeration.value item.state))]
  | some replacement => .obj [
      ("gold_sha256", .str item.goldSha256.val),
      ("item_id", .str item.itemId.val),
      ("replacement_of", replacement.asDict),
      ("source_sha256", .str item.sourceSha256.val),
      ("state", .str (Text.Enumeration.value item.state))]

/-- Two items of one set differ in their identities and in their contents. -/
def Compatible (first second : CorpusItem) : Prop :=
  first.itemId ≠ second.itemId ∧
    (first.sourceSha256 = second.sourceSha256 → first.goldSha256 = second.goldSha256) ∧
    first.fingerprint ≠ second.fingerprint

instance (first second : CorpusItem) : Decidable (first.Compatible second) :=
  inferInstanceAs (Decidable (_ ∧ _))

/-- Only a sealed set holds contaminated items and replacements. -/
def Fits (role : CorpusRole) (item : CorpusItem) : Prop :=
  role ≠ .sealedHeldOut → item.state ≠ .contaminated ∧ item.replacementOf = none

instance (role : CorpusRole) (item : CorpusItem) : Decidable (item.Fits role) :=
  inferInstanceAs (Decidable (_ → _))

end CorpusItem

/-- An item is checked against the items before it. -/
def canonicalItem (role : CorpusRole) (earlier : List CorpusItem) (raw : Json) :
    Except GovernanceError CorpusItem := do
  check (raw.keysBetween ["item_id", "source_sha256", "gold_sha256", "state"]
      ["item_id", "source_sha256", "gold_sha256", "state", "replacement_of"])
    "governed corpus item has an unsupported shape"
  let itemId ← requireOpaque "item_id" (raw.field "item_id")
  let sourceSha256 ← requireHash "source_sha256" (raw.field "source_sha256")
  let goldSha256 ← requireHash "gold_sha256" (raw.field "gold_sha256")
  check (earlier.all (·.itemId != itemId)) "governed corpus contains a duplicate item ID"
  let state ← requireMember ItemState Text.Enumeration.all
    "governed corpus item lifecycle is invalid for its role" .typeError (raw.field "state")
  check (state != .contaminated || role == .sealedHeldOut)
    "governed corpus item lifecycle is invalid for its role"
  check (earlier.all fun item => item.sourceSha256 != sourceSha256 || item.goldSha256 == goldSha256)
    "governed corpus contains contradictory gold for one source identity"
  check (earlier.all (·.fingerprint != itemFingerprint sourceSha256 goldSha256))
    "governed corpus contains duplicate item membership"
  let replacementOf ← optional ItemReference.parse (raw.field "replacement_of")
  check (replacementOf.isNone || role == .sealedHeldOut)
    "replacement lineage is supported only for sealed held-out items"
  return { itemId, sourceSha256, goldSha256, state, replacementOf }

/-- The items are checked in their order. -/
def canonicalMembers (role : CorpusRole) (earlier : List CorpusItem) :
    List Json → Except GovernanceError (List CorpusItem)
  | [] => .ok []
  | raw :: rest => do
    let item ← canonicalItem role earlier raw
    return item :: (← canonicalMembers role (earlier ++ [item]) rest)

def canonicalItems (role : CorpusRole) : Json → Except GovernanceError (List CorpusItem)
  | .arr (raw :: rest) => do
    let items ← canonicalMembers role [] (raw :: rest)
    return items.mergeSort fun first second => first.itemId.val ≤ second.itemId.val
  | _ => .error (.corpus "governed corpus items must be a non-empty list")

end

section
variable [Sha256]

/-- A set of one role holds its items, its provenance and the set version before it. -/
structure CorpusManifest where
  setId : OpaqueText
  role : CorpusRole
  version : VersionText
  state : CorpusState
  items : List CorpusItem
  recordSha256 : HashText
  predecessor : Option ManifestReference := none
deriving DecidableEq

namespace CorpusManifest

def activeCount (manifest : CorpusManifest) : Nat :=
  (manifest.items.filter (·.state == .active)).length

def provenance (manifest : CorpusManifest) : Json := .obj [
  ("authority", .str manifest.role.authority),
  ("record_sha256", .str manifest.recordSha256.val)]

def predecessorFields (manifest : CorpusManifest) : List (String × Json) :=
  match manifest.predecessor with
  | none => []
  | some predecessor => [("predecessor", predecessor.asDict)]

/-- The canonical content of a manifest, before or after its fingerprint is known. -/
def content (manifest : CorpusManifest) (fingerprint : List (String × Json)) : Json := .obj (
  [("access_class", .str manifest.role.accessClass),
    ("items", .arr (manifest.items.map (·.asDict)))] ++ fingerprint ++
  manifest.predecessorFields ++
  [("provenance", manifest.provenance),
    ("role", .str (Text.Enumeration.value manifest.role)),
    ("schema_version", .str "1.0"),
    ("set_id", .str manifest.setId.val),
    ("state", .str (Text.Enumeration.value manifest.state)),
    ("version", .str manifest.version.val)])

def manifestFingerprint (manifest : CorpusManifest) : HashText :=
  ⟨stableRevision (manifest.content []), stableRevision_shape _⟩

def asDict (manifest : CorpusManifest) : Json :=
  manifest.content [("manifest_fingerprint", .str manifest.manifestFingerprint.val)]

/-- The reference of a manifest names it as a predecessor. -/
def reference (manifest : CorpusManifest) : ManifestReference :=
  ⟨manifest.setId, manifest.version, manifest.manifestFingerprint⟩

end CorpusManifest

def canonicalProvenance (role : CorpusRole) (value : Json) : Except GovernanceError HashText := do
  check (value.hasKeys ["authority", "record_sha256"])
    "corpus provenance must contain only authority and record_sha256"
  check (value.field "authority" == .str role.authority)
    "corpus provenance authority does not match its role"
  requireHash "provenance record_sha256" (value.field "record_sha256")

/-- A manifest is validated, and its items are sorted. -/
def canonicalManifest (value : Json) : Except GovernanceError CorpusManifest := do
  let required := ["schema_version", "set_id", "role", "version", "state", "items", "provenance",
    "access_class", "manifest_fingerprint"]
  check (value.keysBetween [] ("predecessor" :: required))
    "governed corpus manifest has unsupported fields"
  check (required.all (· ∈ value.keys)) "governed corpus manifest is incomplete"
  check (value.field "schema_version" == .str "1.0")
    "unsupported corpus governance schema version"
  let role ← requireMember CorpusRole Text.Enumeration.all "unknown governed corpus role"
    (.corpus "unknown governed corpus role") (value.field "role")
  let state ← requireMember CorpusState role.states
    "corpus lifecycle state is invalid for its role" .typeError (value.field "state")
  check (value.field "access_class" == .str role.accessClass)
    "corpus access class does not match its role"
  let recordSha256 ← canonicalProvenance role (value.field "provenance")
  let items ← canonicalItems role (value.field "items")
  check (!(state == .retired && items.any (·.state == .active)))
    "retired corpus cannot contain active items"
  check (!((state == .active || state == .frozen || state == .sealed) &&
      !items.any (·.state == .active)))
    "eligible corpus lifecycle state requires active membership"
  check (!(role == .sealedHeldOut && state == .contaminated &&
      !items.any (·.state == .contaminated)))
    "contaminated corpus must preserve a contaminated item record"
  let setId ← requireOpaque "set_id" (value.field "set_id")
  let version ← requireVersion (value.field "version")
  let predecessor ← optional ManifestReference.parse (value.field "predecessor")
  let manifest : CorpusManifest :=
    { setId, role, version, state, items, recordSha256, predecessor }
  let supplied ← requireHash "manifest_fingerprint" (value.field "manifest_fingerprint")
  check (supplied == manifest.manifestFingerprint)
    "governed corpus manifest fingerprint does not match canonical content"
  return manifest

end
end KSlide
