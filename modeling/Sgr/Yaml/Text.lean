import Sgr.Number.Radix
import Sgr.Yaml.Cursor

/-!
# Scalars in a document

Inside a scalar a single line break stands for a space and further ones for themselves. Plain
scalars end where a character could mean something else; quoted ones at their quote; block scalars
where a line is indented less.

## Main definitions

* `Yaml.plainText`, `Yaml.quotedText`, `Yaml.blockText` — the three sorts of scalar.
-/

namespace Sgr.Yaml

/-- Moves over blank lines and the spaces in front of the next text, and returns what the lines
stand for. A document marker ends them. -/
def blankLines (isBlank : Char → Bool) : Nat → Reader (List Char)
  | 0 => return []
  | fuel + 1 => do
    if (← get).atMarker then return []
    let _ ← takeRun isBlank
    let b ← takeBreak
    if b.isEmpty then return [] else return b ++ (← blankLines isBlank fuel)

/-- What a line break and the blank lines behind it stand for. -/
def fold (first breaks : List Char) : List Char :=
  if first ≠ ['\n'] then first ++ breaks else if breaks.isEmpty then [' '] else breaks

/-! ## Plain scalars -/

/-- Whether a plain scalar goes on at the start of some characters. -/
def goesOn (flow : Bool) : List Char → Bool
  | [] => false
  | c :: cs =>
    if isSpace c || isBreak c then false
    else if c = ':' then
      !(atBlank cs || (flow && cs.head?.any (· ∈ [',', '[', ']', '\x7b', '\x7d'])))
    else !(flow && c ∈ [',', '?', '[', ']', '\x7b', '\x7d'])

/-- The characters of a plain scalar up to the next blank. -/
def plainRun (flow : Bool) : List Char → List Char
  | [] => []
  | c :: cs => if goesOn flow (c :: cs) then c :: plainRun flow cs else []

/-- The blanks behind a part of a plain scalar and what they stand for, which is nothing in front of
a document marker. -/
def plainBlanks : Reader (List Char) := do
  let spaces ← takeRun (· = ' ')
  let first ← takeBreak
  if first.isEmpty then return spaces
  else
    let breaks ← blankLines (· = ' ') (← get).rest.length
    return if (← get).atMarker then [] else fold first breaks

/-- A plain scalar, and whether a line break follows it. Outside flow collections its lines have to
reach a column. -/
def plainChunks (flow : Bool) (least : Nat) : Nat → Reader (List Char × Bool)
  | 0 => return ([], false)
  | fuel + 1 => do
    let run := plainRun flow (← get).rest
    advance run.length
    let line := (← get).line
    let blanks ← plainBlanks
    let c ← get
    let crossed := c.line ≠ line
    if blanks.isEmpty || c.rest.head? = some '#' || (!flow && c.column < least)
        || (plainRun flow c.rest).isEmpty then
      return (run, crossed)
    else
      let (more, crossed) ← plainChunks flow least fuel
      return (run ++ blanks ++ more, crossed)

/-- A plain scalar, and whether a line break follows it. -/
def plainText (flow : Bool) (least : Nat) : Reader (String × Bool) := do
  let (cs, crossed) ← plainChunks flow least ((← get).rest.length + 1)
  return (String.ofList cs, crossed)

/-- Whether a plain scalar can start with some characters. -/
def startsPlain (flow : Bool) : List Char → Bool
  | [] => false
  | c :: cs =>
    if isSpace c || isBreak c then false
    else if c = '-' then !atBlank cs
    else if c = '?' || c = ':' then !flow && !atBlank cs
    else
      c ∉ [',', '[', ']', '\x7b', '\x7d', '#', '&', '*', '!', '|', '>', '\'', '"', '%', '@', '\x60']

/-! ## Quoted scalars -/

/-- What a letter behind a backslash stands for. -/
def escaped? (c : Char) : Option Char :=
  [('0', '\x00'), ('a', '\x07'), ('b', '\x08'), ('t', '\t'), ('\t', '\t'), ('n', '\n'),
   ('v', '\x0b'), ('f', '\x0c'), ('r', '\r'), ('e', '\x1b'), (' ', ' '), ('"', '"'), ('\\', '\\'),
   ('/', '/'), ('N', '\x85'), ('_', '\xa0'), ('L', '\u2028'), ('P', '\u2029')].lookup c

/-- How many hexadecimal digits follow a letter behind a backslash. -/
def escapeLength? (c : Char) : Option Nat :=
  [('x', 2), ('u', 4), ('U', 8)].lookup c

/-- What follows a backslash. A line break there joins two lines. -/
def escape (fuel : Nat) : Reader (List Char) := do
  match ← peek with
  | none => throw .unclosedQuote
  | some c =>
    match escaped? c, escapeLength? c with
    | some d, _ => advance 1; return [d]
    | none, some n =>
      advance 1
      let ds := (← get).rest.take n
      match (if ds.length = n then Number.hexValue? ds else none) with
      | none => throw .unknownEscape
      | some code =>
        if h : code.isValidChar then
          advance n
          return [Char.ofNatAux code h]
        else throw .unknownEscape
    | none, none =>
      if isBreak c then
        let _ ← takeBreak
        blankLines isSpace fuel
      else throw .unknownEscape

/-- The blanks inside a quoted scalar and what they stand for. -/
def quotedBlanks (fuel : Nat) : Reader (List Char) := do
  let spaces ← takeRun isSpace
  let first ← takeBreak
  if first.isEmpty then return spaces
  else return fold first (← blankLines isSpace fuel)

/-- The rest of a quoted scalar. -/
def quotedChunks (quote : Char) : Nat → Reader (List Char)
  | 0 => throw .unclosedQuote
  | fuel + 1 => do
    let c ← get
    if c.atMarker then throw .markerInside
    match c.rest with
    | [] => throw .unclosedQuote
    | ch :: cs =>
      if ch = quote then
        advance 1
        if quote = '\'' && cs.head? = some '\'' then
          advance 1
          return ch :: (← quotedChunks quote fuel)
        else return []
      else if quote = '"' && ch = '\\' then
        advance 1
        let chars ← escape c.rest.length
        return chars ++ (← quotedChunks quote fuel)
      else if isSpace ch || isBreak ch then
        let blanks ← quotedBlanks c.rest.length
        return blanks ++ (← quotedChunks quote fuel)
      else
        advance 1
        return ch :: (← quotedChunks quote fuel)

/-- A quoted scalar. -/
def quotedText (quote : Char) : Reader String := do
  advance 1
  return String.ofList (← quotedChunks quote ((← get).rest.length + 1))

/-! ## Block scalars -/

/-- The line breaks and indentation in front of the next line of a block scalar, up to a column. -/
def blockBreaks (indent : Nat) : Nat → Reader (List Char)
  | 0 => return []
  | fuel + 1 => do
    modify fun c => c.pass (min (c.rest.takeWhile (· = ' ')).length (indent - c.column))
    let b ← takeBreak
    if b.isEmpty then return [] else return b ++ (← blockBreaks indent fuel)

/-- The indentation of a block scalar, which is that of its first line with text, or of its longest
blank line in front of that. -/
def blockIndent (greatest : Nat) : Nat → List Char → Nat
  | _, [] => greatest
  | column, c :: cs =>
    if isBreak c then blockIndent greatest 0 cs
    else if c = ' ' then blockIndent (max greatest (column + 1)) (column + 1) cs
    else greatest

/-- The lines of a block scalar behind its header, and its last line breaks. -/
def blockLines (folded : Bool) (indent : Nat) : Nat → List Char →
    Reader (List Char × List Char × List Char)
  | 0, breaks => return ([], [], breaks)
  | fuel + 1, breaks => do
    let c ← get
    if c.column ≠ indent || c.rest.isEmpty then return ([], [], breaks)
    else
      let isText := !(c.rest.head?.any isSpace)
      let line ← takeRun fun _ => true
      let ending ← takeBreak
      let after ← blockBreaks indent c.rest.length
      let c ← get
      if c.column = indent && !c.rest.isEmpty then
        let joint :=
          if folded && ending = ['\n'] && isText && !(c.rest.head?.any isSpace) then
            (if after.isEmpty then [' '] else [])
          else ending
        let (more, last, breaks') ← blockLines folded indent fuel after
        return (breaks ++ line ++ joint ++ more, last, breaks')
      else return (breaks ++ line, ending, after)

/-- The marks behind the sign of a block scalar: which of the last line breaks stay, and how far it
is indented. -/
def blockHeader : List Char → Option Bool × Option Nat × List Char
  | '+' :: c :: cs =>
    if c.isDigit then (some true, some (c.toNat - 48), cs) else (some true, none, c :: cs)
  | '-' :: c :: cs =>
    if c.isDigit then (some false, some (c.toNat - 48), cs) else (some false, none, c :: cs)
  | ['+'] => (some true, none, [])
  | ['-'] => (some false, none, [])
  | c :: cs =>
    if c.isDigit then
      match cs with
      | '+' :: cs => (some true, some (c.toNat - 48), cs)
      | '-' :: cs => (some false, some (c.toNat - 48), cs)
      | cs => (none, some (c.toNat - 48), cs)
    else (none, none, c :: cs)
  | [] => (none, none, [])

/-- A block scalar, whose lines have to reach a column. -/
def blockText (folded : Bool) (least : Nat) : Reader String := do
  advance 1
  let rest := (← get).rest
  let (keep, width, behind) := blockHeader rest
  advance (rest.length - behind.length)
  if width = some 0 || !atSpace behind then throw .badBlockHeader
  skipInLine
  if !(← peek).all isBreak then throw .badBlockHeader
  let _ ← takeBreak
  let rest := (← get).rest
  let indent := match width with
    | some w => least + w - 1
    | none => max least (blockIndent 0 0 rest)
  let breaks ← blockBreaks indent rest.length
  let (body, ending, after) ← blockLines folded indent (rest.length + 1) breaks
  let tail := match keep with
    | some false => []
    | some true => ending ++ after
    | none => ending
  return String.ofList (body ++ tail)

end Sgr.Yaml
