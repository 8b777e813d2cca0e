import Sgr.Yaml.Fault

/-!
# A position in a text

A text is read from left to right. The column of a token decides where a block ends, and the line
and the number of characters whether a colon can make a key of what stands in front of it, so the
position keeps all of them. A byte order mark takes up no column.

Line breaks are newlines and three characters of other scripts; a text has no carriage returns left.

## Main definitions

* `Yaml.Cursor` — a position: what is left to read, how much was read, line and column.
* `Yaml.Reader` — a step that moves the cursor or fails.
-/

namespace Sgr.Yaml

/-- A position in a text. -/
structure Cursor where
  rest : List Char
  read : Nat := 0
  line : Nat := 0
  column : Nat := 0
  deriving Inhabited

/-- A step of reading. -/
abbrev Reader := StateT Cursor (Except Fault)

/-- Whether a character ends a line. -/
def isBreak (c : Char) : Bool :=
  c = '\n' || c = '\x85' || c = '\u2028' || c = '\u2029'

/-- Whether a character is a space or a tab. -/
def isSpace (c : Char) : Bool :=
  c = ' ' || c = '\t'

/-- Whether characters are at their end, or start with a space, a tab or a line break. -/
def atBlank : List Char → Bool
  | [] => true
  | c :: _ => isSpace c || isBreak c

/-- Whether characters are at their end, or start with a space or a line break. -/
def atSpace (cs : List Char) : Bool :=
  atBlank cs && cs.head? ≠ some '\t'

/-- Whether characters start with a document marker. -/
def startsMarker : List Char → Bool
  | '-' :: '-' :: '-' :: cs | '.' :: '.' :: '.' :: cs => atBlank cs
  | _ => false

/-- The mark that may stand in front of a text. -/
def orderMark : Char := '\ufeff'

namespace Cursor

/-- Moves over characters of a line. -/
def pass (c : Cursor) (n : Nat) : Cursor :=
  { c with
    rest := c.rest.drop n
    read := c.read + n
    column := c.column + ((c.rest.take n).filter (· ≠ orderMark)).length }

/-- Moves over a line break. -/
def nextLine (c : Cursor) : Cursor :=
  { rest := c.rest.tail, read := c.read + 1, line := c.line + 1, column := 0 }

/-- Whether a document marker stands at the cursor. -/
def atMarker (c : Cursor) : Bool :=
  c.column = 0 && startsMarker c.rest

end Cursor

/-- The character at the cursor. -/
def peek : Reader (Option Char) := do
  return (← get).rest.head?

/-- Moves over characters of a line. -/
def advance (n : Nat) : Reader Unit :=
  modify (·.pass n)

/-- Moves over the longest run of characters that satisfy a test; none of them ends a line. -/
def takeRun (p : Char → Bool) : Reader (List Char) := do
  let run := (← get).rest.takeWhile fun ch => p ch && !isBreak ch
  advance run.length
  return run

/-- Moves over a line break, if there is one, and returns what it stands for. -/
def takeBreak : Reader (List Char) := do
  match ← peek with
  | some ch =>
    if isBreak ch then
      modify Cursor.nextLine
      return [if ch = '\x85' then '\n' else ch]
    else return []
  | none => return []

/-- Moves over spaces and a comment. -/
def skipInLine : Reader Unit := do
  let _ ← takeRun (· = ' ')
  if (← peek) = some '#' then
    let _ ← takeRun fun _ => true

/-- Whether a character may be part of a name. -/
def isWord (c : Char) : Bool :=
  c.isAlphanum || c = '-' || c = '_'

/-- The name behind the sign of an anchor or an alias. -/
def anchorName : Reader String := do
  advance 1
  let name ← takeRun isWord
  let rest := (← get).rest
  let ends := atBlank rest || rest.head?.any (· ∈ ['?', ':', ',', ']', '}', '%', '@', '\x60'])
  if name.isEmpty || !ends then throw .noAnchorName else return String.ofList name

end Sgr.Yaml
