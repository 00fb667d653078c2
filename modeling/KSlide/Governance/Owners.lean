import KSlide.Errors
import KSlide.Json.Lines
import KSlide.Text.Glob
import KSlide.Text.Unicode
import Mathlib.Data.List.Sort

/-
This file gives the code owners of the paths that a release changes.
-/

namespace KSlide

def governanceRefused (code : String) : Raised := .other ("ReleaseGovernanceError: " ++ code)

namespace Governance

def productionSensitivePaths : List String :=
  ["/AGENTS.md", "/src/", "/.opencode/", "/schemas/", "/evals/", "/prompts/", "/termbase/",
   "/security/", "/deploy/", "/.github/workflows/", "/.github/CODEOWNERS",
   "/constraints-production.txt", "/pyproject.toml", "/production-slo.yaml", "/scripts/",
   "/private-evals/", "/tests/", "/docs/zero-korean-human-study.md"]

def minimumApprovals : Nat := 1

/-- A rule gives the owners of the paths that its pattern matches. -/
structure OwnerRule where
  pattern : List Char
  owners : List (List Char)
deriving DecidableEq

def stripSlashes (path : List Char) : List Char := path.dropWhile (· == '/')

section
variable [Unicode]

end

/-- A single star does not cross a slash. -/
def pathTokens : List Char → List Glob.Token
  | '*' :: '*' :: rest => .run (· != '\n') :: pathTokens rest
  | '*' :: rest => .run (· != '/') :: pathTokens rest
  | '?' :: rest => .one (· != '/') :: pathTokens rest
  | letter :: rest => .one (· == letter) :: pathTokens rest
  | [] => []

/-- The pattern may end before the last newline of the path. -/
def readsToEnd (tokens : List Glob.Token) (path : List Char) : Bool :=
  Glob.reads tokens path || (path.getLast? == some '\n' && Glob.reads tokens path.dropLast)

def patternMatches (pattern path : List Char) : Bool :=
  let pattern := stripSlashes pattern
  let path := stripSlashes path
  if pattern = ['*'] then !path.isEmpty
  else if pattern.getLast? = some '/' then pattern.isPrefixOf path
  else if pattern.contains '/' then readsToEnd (pathTokens pattern) path
  else (path.splitOn '/').any fun part => Glob.fnmatchcase part pattern

/-- The last rule that matches decides. -/
def ownersForPath (rules : List OwnerRule) (path : String) : List (List Char) :=
  rules.foldl (fun owners rule =>
    if patternMatches rule.pattern path.toList then rule.owners else owners) []

def pathIsSensitive (path : String) : Bool :=
  productionSensitivePaths.any fun target =>
    let target := stripSlashes target.toList
    (target.getLast? == some '/' && target.isPrefixOf path.toList) || path.toList == target

def invalidPath (path : List Char) : Bool :=
  path.head? == some '/' || path.contains '\\' ||
    (path.splitOn '/').any fun part => [[], ['.'], ['.', '.']].elem part

/-- The changed paths are listed once and in order. -/
def changedPaths (files : List String) : Except Raised (List String) := do
  files.forM fun path => do
    require (!Text.isBlank path) (governanceRefused "PR_FILES_SNAPSHOT_INVALID")
    require (!invalidPath path.toList) (governanceRefused "PR_FILE_PATH_INVALID")
  require (decide files.Nodup) (governanceRefused "PR_FILES_DUPLICATE")
  return files.insertionSort (· ≤ ·)

end Governance
end KSlide
