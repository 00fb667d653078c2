import KSlide.Digest
import KSlide.Errors
import KSlide.Text.Enumeration
import Mathlib.Data.List.Dedup
import Mathlib.Data.List.Sort
import Mathlib.Data.String.Basic

/-
This file gives the termbases, their governed sources and the checks of a governance.
-/

namespace KSlide

inductive TermStatus where
  | locked | preferred | doNotTranslate | suggested
deriving DecidableEq, Repr

instance : Text.Enumeration TermStatus where
  value
    | .locked => "LOCKED"
    | .preferred => "PREFERRED"
    | .doNotTranslate => "DO_NOT_TRANSLATE"
    | .suggested => "SUGGESTED"
  all := [.locked, .preferred, .doNotTranslate, .suggested]

/-- The translations of a term keep the order of their file. -/
structure TermRecord where
  source : String
  preferred : List (String × String)
  status : TermStatus
  scope : List String
  avoid : List String
  termId : Option String
deriving DecidableEq

namespace TermRecord

/-- The first translation stands in when no default translation is given. -/
def default (record : TermRecord) : Option String :=
  match record.preferred.lookup "default" with
  | some text => if text = "" then record.preferred.head?.map Prod.snd else some text
  | none => record.preferred.head?.map Prod.snd

def sortedPreferred (record : TermRecord) : Json :=
  .obj ((record.preferred.insertionSort fun first second => first.1 ≤ second.1).map
    fun entry => (entry.1, .str entry.2))

def asDict (record : TermRecord) : Json := .obj [
  ("avoid", .arr (record.avoid.map .str)),
  ("preferred", record.sortedPreferred),
  ("scope", .arr (record.scope.map .str)),
  ("source", .str record.source),
  ("status", .str (Text.Enumeration.value record.status)),
  ("term_id", .ofText? record.termId)]

/-- The identity of a record does not depend on the order of its lists. -/
def identity (record : TermRecord) : Json := .obj [
  ("avoid", .arr ((record.avoid.insertionSort (· ≤ ·)).map .str)),
  ("preferred", record.sortedPreferred),
  ("scope", .arr ((record.scope.insertionSort (· ≤ ·)).map .str)),
  ("source", .str record.source),
  ("status", .str (Text.Enumeration.value record.status)),
  ("term_id", .ofText? record.termId)]

/-- Records are hashed in the order of their sources and then of their identifiers. -/
def Precedes (first second : TermRecord) : Prop :=
  first.source < second.source ∨
    first.source = second.source ∧ first.termId.getD "" ≤ second.termId.getD ""

instance : DecidableRel Precedes := fun _ _ => inferInstanceAs (Decidable (_ ∨ _))

end TermRecord

/-- A loaded termbase has one record for each of its sources. -/
structure Termbase where
  version : String
  records : List TermRecord
  distinct : (records.map (·.source)).Nodup

namespace Termbase

/-- All records of one source are equally long, so the first one is found. -/
def resolve (records : List TermRecord) (source : String) : Option TermRecord :=
  records.find? (·.source == source)

end Termbase

inductive TermScope where
  | core | bu | team
deriving DecidableEq, Repr

instance : Text.Enumeration TermScope where
  value
    | .core => "core"
    | .bu => "bu"
    | .team => "team"
  all := [.core, .bu, .team]

def TermScope.rank : TermScope → Nat
  | .core => 0
  | .bu => 1
  | .team => 2

structure GovernedTermbaseSource where
  identity : String
  version : String
  sha256 : String
  path : String
  scope : TermScope
  scopeRef : String
  parentScopeRef : Option String
  authorizationIdentity : Option String
deriving DecidableEq

namespace GovernedTermbaseSource

def rank (source : GovernedTermbaseSource) : Nat := source.scope.rank

def asIdentity (source : GovernedTermbaseSource) (order : Option Nat) : Json :=
  .obj ((source.authorizationIdentity.map fun text =>
      ("authorization_identity", Json.str text)).toList ++
    [("identity", .str source.identity)] ++
    (order.map fun place => ("order", Json.int place)).toList ++
    [("parent_scope_ref", .ofText? source.parentScopeRef),
      ("scope", .str (Text.Enumeration.value source.scope)),
      ("scope_ref", .str source.scopeRef), ("sha256", .str source.sha256),
      ("version", .str source.version)])

end GovernedTermbaseSource

structure TermbaseGovernance where
  governanceIdentity : String
  policyIdentity : String
  authorizationIdentity : String
  core : GovernedTermbaseSource
  overlays : List GovernedTermbaseSource
  overlayOrder : List String
  orderIdentity : String

/-- The files of the project answer for the sources. -/
structure TermbaseFiles where
  safeSource : String → Except Raised String
  sha256 : String → Except Raised String
  load : String → Except Raised Termbase
  unexpected : List String → Except Raised Unit

namespace TermbaseGovernance
variable (governance : TermbaseGovernance)

def invalid (message : String) (details : List (String × Json) := []) : Raised :=
  .kslide ⟨.schemaInvalid, message, details⟩

def identities : List String := governance.overlays.map (·.identity)

def orderedRanks : List Nat := governance.overlayOrder.filterMap fun identity =>
  (governance.overlays.find? (·.identity == identity)).map (·.rank)

def position (source : GovernedTermbaseSource) : Nat :=
  governance.overlayOrder.idxOf source.identity

/-- Two sources of one scope agree on its kind and on its parent. -/
def scopesAgree : Bool := governance.overlays.all fun first =>
  governance.overlays.all fun second => first.scopeRef != second.scopeRef ||
    first.scope == second.scope && first.parentScopeRef == second.parentScopeRef

def parentsKnown : Bool := governance.overlays.all fun item =>
  item.scope != .team || governance.overlays.any fun parent =>
    parent.scope == .bu && item.parentScopeRef == some parent.scopeRef

/-- Every team stands after its business unit. -/
def parentsFirst : Bool := governance.overlays.all fun item =>
  item.scope != .team || governance.overlays.all fun parent =>
    parent.scope != .bu || item.parentScopeRef != some parent.scopeRef ||
      decide (governance.position parent < governance.position item)

def check : Except Raised Unit := do
  require (governance.core.scope == .core && governance.core.scopeRef == "core")
    (invalid "Governed termbase core scope metadata is invalid.")
  require (decide governance.identities.Nodup)
    (invalid "Governed termbase overlay identities must be unique.")
  require (decide (governance.overlays.map fun item =>
      (item.identity, item.version, item.sha256)).Nodup)
    (invalid "Governed termbase overlay identity/version/hash tuples must be unique.")
  require governance.scopesAgree (invalid "Governed termbase scope metadata conflicts.")
  require governance.parentsKnown
    (invalid "Governed team overlay has an unresolved BU parent.")
  require (governance.overlayOrder.all (· ∈ governance.identities) &&
      governance.identities.all (· ∈ governance.overlayOrder) &&
      governance.overlayOrder.length == governance.identities.dedup.length)
    (invalid "Governed termbase overlay order is incomplete or ambiguous.")
  require ((governance.orderedRanks.zip governance.orderedRanks.tail).all
      fun pair => decide (pair.1 ≤ pair.2))
    (invalid "Governed termbase overlay order violates core/BU/team hierarchy.")
  require governance.parentsFirst
    (invalid "Governed team overlay is ordered before its BU parent.")

end TermbaseGovernance

/-- A source with its termbase. -/
abbrev LoadedSource := GovernedTermbaseSource × Termbase

/-- A source is loaded together with the path it was read from. -/
def loadSource (files : TermbaseFiles) (source : GovernedTermbaseSource) :
    Except Raised (String × LoadedSource) := do
  let path ← files.safeSource source.path
  require ((← files.sha256 path) == source.sha256)
    (TermbaseGovernance.invalid "Governed termbase source content hash does not match authority.")
  let parsed ← files.load path
  require (parsed.version == source.version)
    (TermbaseGovernance.invalid "Governed termbase source version does not match authority.")
  return (path, source, parsed)

def loadSources (files : TermbaseFiles) (governance : TermbaseGovernance) :
    Except Raised (LoadedSource × List LoadedSource) := do
  governance.check
  let core ← loadSource files governance.core
  let overlays ← governance.overlays.mapM (loadSource files)
  files.unexpected (core.1 :: overlays.map Prod.fst)
  return (core.2, overlays.map Prod.snd)

end KSlide
