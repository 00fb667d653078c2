import KSlide.Governance.Owners
import KSlide.Json.Record
import KSlide.Text.Enumeration
import Mathlib.Data.List.Dedup
import Mathlib.Data.String.Basic

/-
This file gives the evaluation of the reviews of a release.
-/

/-- The standard library reads a text as a time, which counts from one instant if it has a zone. -/
class IsoFormat where
  read : String → Option (Option Int)

namespace KSlide

inductive ReviewState where
  | approved | changesRequested | commented | dismissed | pending
deriving DecidableEq, Repr

instance : Text.Enumeration ReviewState where
  value
    | .approved => "APPROVED"
    | .changesRequested => "CHANGES_REQUESTED"
    | .commented => "COMMENTED"
    | .dismissed => "DISMISSED"
    | .pending => "PENDING"
  all := [.approved, .changesRequested, .commented, .dismissed, .pending]

structure Review where
  id : Int
  userId : Int
  userLogin : List Char
  state : ReviewState
  commitId : String
  submittedAt : Json
  time : Int
deriving DecidableEq

namespace Governance

def expectKeys (value : Json) (keys : List String) (code : String) : Except Raised Unit :=
  require (value.hasKeys keys) (governanceRefused code)

def string (code : String) : Json → Except Raised String :=
  checkedText (!Text.isBlank ·) (governanceRefused code)

def int (code : String) (minimum : Int) : Json → Except Raised Int
  | .int value => if minimum ≤ value then .ok value else .error (governanceRefused code)
  | _ => .error (governanceRefused code)

def sha (code : String) : Json → Except Raised String
  | .str text =>
    let normalized := String.ofList (text.toList.map Char.toLower)
    if Text.isExactly Text.isHex 40 normalized then .ok normalized
    else .error (governanceRefused code)
  | _ => .error (governanceRefused code)

/-- The zone letter is written as an offset. -/
def zoneOffset (text : String) : String := String.ofList (text.toList.flatMap fun letter =>
  if letter = 'Z' then ['+', '0', '0', ':', '0', '0'] else [letter])

section
variable [IsoFormat]

def reviewTime : Json → Except Raised Int
  | .str text =>
    match IsoFormat.read (zoneOffset text) with
    | some (some instant) => .ok instant
    | _ => .error (governanceRefused "PR_REVIEW_TIME_INVALID")
  | _ => .error (governanceRefused "PR_REVIEW_TIME_INVALID")

variable [Unicode]

def reviewState (text : String) : Option ReviewState :=
  Text.Enumeration.parse ReviewState (String.ofList (Text.upper text.toList))

/-- A review is read after the reviews whose identifiers it must not repeat. -/
def readReview (seen : List Int) (raw : Json) : Except Raised Review := do
  let code := "PR_REVIEW_SNAPSHOT_INVALID"
  expectKeys raw ["id", "user_id", "user_login", "state", "commit_id", "submitted_at"] code
  let id ← int code 1 (raw.field "id")
  let user ← int code 1 (raw.field "user_id")
  let login ← string code (raw.field "user_login")
  let state ← string code (raw.field "state")
  match reviewState state with
  | none => .error (governanceRefused code)
  | some state => do
    require (decide (id ∉ seen)) (governanceRefused code)
    let commit ← sha "PR_REVIEW_COMMIT_INVALID" (raw.field "commit_id")
    let time ← reviewTime (raw.field "submitted_at")
    return ⟨id, user, Unicode.casefold login.toList, state, commit, raw.field "submitted_at", time⟩

def addReview (rows : List Review) (raw : Json) : Except Raised (List Review) := do
  let row ← readReview (rows.map (·.id)) raw
  return rows ++ [row]

def readReviews : Json → Except Raised (List Review)
  | .arr items => items.foldlM addReview []
  | _ => .error (governanceRefused "PR_REVIEW_SNAPSHOT_INVALID")

end

end Governance

/-- Reviews stand in the order of their times and then of their identifiers. -/
def Review.Before (first second : Review) : Prop :=
  first.time < second.time ∨ first.time = second.time ∧ first.id ≤ second.id

instance : DecidableRel Review.Before := fun _ _ => inferInstanceAs (Decidable (_ ∨ _))

namespace Governance

def latestByUser (rows : List Review) (user : Int) : Option Review :=
  (rows.filter (·.userId == user)).getLast?

/-- An approval counts for the head when nothing that its user or another reviewer said is later. -/
def counts (rows : List Review) (authorId : Int) (headSha : String) (row : Review) : Bool :=
  row.state == .approved && row.commitId == headSha && row.userId != authorId &&
    latestByUser rows row.userId == some row &&
      !rows.any fun other => other.state == .changesRequested && decide (row.time < other.time)

structure ReviewOutcome where
  approvals : List Review
  approvingLogins : List (List Char)
  groupCount : Nat
deriving DecidableEq

section
variable [Unicode]

/-- The owners of a path are known by their names without the at sign and without the case. -/
def ownerNames (owners : List (List Char)) : List (List Char) :=
  owners.map fun owner => Unicode.casefold owner.tail

/-- Names are listed once and in order. -/
def ownerGroup (names : List (List Char)) : List String :=
  (names.map String.ofList).dedup.insertionSort (· ≤ ·)

def ownerGroups (rules : List OwnerRule) (sensitive : List String) :
    Except Raised (List (List String)) :=
  sensitive.mapM fun path => do
    let owners := ownersForPath rules path
    require (!owners.isEmpty) (governanceRefused "CODEOWNERS_CHANGED_PATH_UNCOVERED")
    return ownerGroup (ownerNames owners)

variable [IsoFormat]

def evaluateReviews (value : Json) (authorId : Int) (headSha : String) (rules : List OwnerRule)
    (changed : List String) (codeownerEnforced : Bool) : Except Raised ReviewOutcome := do
  let normalized ← readReviews value
  let rows := normalized.insertionSort Review.Before
  require (decide (rows.map fun row => (row.time, row.userId)).Nodup)
    (governanceRefused "PR_REVIEW_ORDER_AMBIGUOUS")
  let approvals := rows.filter (counts rows authorId headSha)
  require (!approvals.isEmpty) (governanceRefused "INDEPENDENT_REVIEW_MISSING")
  let sensitive := changed.filter pathIsSensitive
  let groups ← ownerGroups rules sensitive
  require (sensitive.isEmpty || codeownerEnforced)
    (governanceRefused "CODEOWNER_REVIEW_NOT_REQUIRED")
  let logins := approvals.map (·.userLogin)
  require (groups.dedup.all fun group => group.any fun name => name.toList ∈ logins)
    (governanceRefused "CODEOWNER_APPROVAL_MISSING")
  return ⟨approvals, logins.dedup, groups.dedup.length⟩

/-- The recount groups the owners as they are spelled. -/
def codeownerApprovalCount (rules : List OwnerRule) (sensitive : List String)
    (logins : List (List Char)) : Nat :=
  ((sensitive.map fun path => (((ownersForPath rules path).map String.ofList).insertionSort
    (· ≤ ·)).map String.toList).dedup.filter fun group =>
      (ownerNames group).any (· ∈ logins)).length

/-- The review step of the derivation evaluates the reviews and counts the owner groups again. -/
def reviewStep (value : Json) (authorId : Int) (headSha : String) (rules : List OwnerRule)
    (files : List String) (codeownerEnforced : Bool) : Except Raised (ReviewOutcome × Nat) := do
  let changed ← changedPaths files
  let sensitive := changed.filter pathIsSensitive
  let outcome ← evaluateReviews value authorId headSha rules changed codeownerEnforced
  require (decide (minimumApprovals ≤ (outcome.approvals.map (·.userId)).dedup.length))
    (governanceRefused "INDEPENDENT_REVIEW_MISSING")
  let count := codeownerApprovalCount rules sensitive outcome.approvingLogins
  require (sensitive.isEmpty || count == outcome.groupCount)
    (governanceRefused "CODEOWNER_APPROVAL_MISSING")
  return (outcome, count)

end
end Governance
end KSlide
