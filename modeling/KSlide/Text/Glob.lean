import Mathlib.Data.List.Basic

/-
This file gives the wildcard patterns of file names.
-/

namespace Glob

/-- A token reads one letter or a run of letters. -/
inductive Token where
  | one (accepts : Char → Bool)
  | run (accepts : Char → Bool)

/-- The tokens read the whole text. -/
def reads : List Token → List Char → Bool
  | [], text => text.isEmpty
  | .one accepts :: tokens, text =>
    match text with
    | [] => false
    | letter :: rest => accepts letter && reads tokens rest
  | .run accepts :: tokens, text =>
    (List.range (text.length + 1)).any fun count =>
      (text.take count).all accepts && reads tokens (text.drop count)

/-- A set ends at the first bracket that does not open it. -/
def closing (after : List Char) : Option (List Char × List Char) :=
  let start := if after.head? = some '!' then ['!'] else []
  let opened := after.drop start.length
  let bracket := if opened.head? = some ']' then [']'] else []
  let inner := opened.drop bracket.length
  let body := inner.takeWhile (· ≠ ']')
  match inner.drop body.length with
  | _ :: rest => some (start ++ bracket ++ body, rest)
  | [] => none

/-- A hyphen splits a set after the letters that are skipped. -/
def chunks : Nat → Nat → List Char → List (List Char)
  | 0, _, letters => [letters]
  | fuel + 1, skip, letters =>
    match (letters.drop skip).idxOf? '-' with
    | none => [letters]
    | some place => letters.take (skip + place) ::
        chunks fuel 2 (letters.drop (skip + place + 1))

/-- A hyphen at the end is a letter of the set. -/
def closeChunks : List (List Char) → List (List Char)
  | [chunk, []] => [chunk ++ ['-']]
  | chunk :: rest => chunk :: closeChunks rest
  | [] => []

/-- An empty range is left out together with its bounds. -/
def joinChunks (parts : List (List Char)) : List (List Char) :=
  parts.foldr (fun chunk later =>
    match later, chunk.getLast?, later.head?.bind List.head? with
    | next :: more, some low, some high =>
      if high < low then (chunk.dropLast ++ next.tail) :: more else chunk :: next :: more
    | rest, _, _ => chunk :: rest) []

def inChunks : List (List Char) → Char → Bool
  | [], _ => false
  | chunk :: later, letter => chunk.contains letter || inChunks later letter ||
      match chunk.getLast?, later.head?.bind List.head? with
      | some low, some high => low ≤ letter && letter ≤ high
      | _, _ => false

/-- The letters of a set and of its ranges, or the letters outside of it. -/
def inSet (body : List Char) (letter : Char) : Bool :=
  let parts := if body.contains '-' then
    joinChunks (closeChunks (chunks body.length (if body.head? = some '!' then 2 else 1) body))
    else [body]
  if parts.flatten = [] then false
  else if parts.flatten = ['!'] then true
  else match parts with
    | ('!' :: chunk) :: later => !inChunks (chunk :: later) letter
    | parts => inChunks parts letter

/-- The tokens of a pattern that matches one name. -/
def tokens : Nat → List Char → List Token
  | 0, _ => []
  | _ + 1, [] => []
  | fuel + 1, '*' :: rest => .run (fun _ => true) :: tokens fuel rest
  | fuel + 1, '?' :: rest => .one (fun _ => true) :: tokens fuel rest
  | fuel + 1, '[' :: rest =>
    match closing rest with
    | some (body, after) => .one (inSet body) :: tokens fuel after
    | none => .one (· == '[') :: tokens fuel rest
  | fuel + 1, letter :: rest => .one (· == letter) :: tokens fuel rest

def fnmatchcase (name pattern : List Char) : Bool := reads (tokens pattern.length pattern) name

example : fnmatchcase "tex.lean".toList "t[a-f]*[!x].l??n".toList = false := by decide
example : fnmatchcase "table.lean".toList "t[a-f]*[!x].l??n".toList = true := by decide

end Glob
