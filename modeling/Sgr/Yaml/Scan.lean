import Sgr.Yaml.Token

/-!
# From a text to tokens

Most tokens show with their first characters. A key does not: only the colon behind it tells that it
is one. The place of a token that may turn out to be a key is therefore kept, one for every open
collection of the flow style and one for the blocks around them, and the colon puts the token of the
key there. A key stands on one line and is not long. One that starts where the block does has to
turn out to be a key.

A block collection is opened by its first entry, at the column of that entry, and is closed by the
first token that stands further left.

## Main definitions

* `Yaml.Scanner` — a position in a text, with the tokens so far.
* `Yaml.scanToken` — reads the next token.
* `Yaml.tokens` — the tokens of a text.
-/

namespace Sgr.Yaml

/-- The place of a token that may turn out to be a key: how many tokens stand in front of it, and
where it starts. -/
structure KeyPlace where
  index : Nat
  required : Bool
  start : Cursor
  deriving Inhabited

/-- A position in a text: the tokens so far, the columns of the open blocks with the innermost one
first, the places of possible keys outside and inside the innermost flow collection, and whether a
key may start here. -/
structure Scanner where
  cursor : Cursor
  tokens : Array Token := #[]
  columns : List Nat := []
  outer : List (Option KeyPlace) := []
  place? : Option KeyPlace := none
  keyAllowed : Bool := true
  deriving Inhabited

/-- A step of scanning. -/
abbrev Scan := StateT Scanner (Except Fault)

/-- The most characters that a key may have. -/
def longestKey : Nat := 1024

namespace Scanner

/-- Whether the position is inside a flow collection. -/
def inFlow (s : Scanner) : Bool :=
  !s.outer.isEmpty

/-- The first column that is further right than the innermost block. -/
def least (s : Scanner) : Nat :=
  match s.columns with
  | column :: _ => column + 1
  | [] => 0

/-- Opens a block at a column, unless one is open there or further right; its token goes in front of
the token of an index. -/
def openBlock (s : Scanner) (column index : Nat) (t : Token) : Scanner :=
  if s.least ≤ column then
    { s with columns := column :: s.columns, tokens := s.tokens.insertIdxIfInBounds index t }
  else s

/-- Closes the blocks whose columns satisfy a test, up to the first one that does not. -/
def closeBlocks (s : Scanner) (p : Nat → Bool) : Scanner :=
  let closed := s.columns.takeWhile p
  { s with
    columns := s.columns.drop closed.length
    tokens := s.tokens ++ Array.replicate closed.length .blockEnd }

end Scanner

namespace KeyPlace

/-- Whether what started at a place is too long for a key, or not on one line. -/
def isStale (k : KeyPlace) (c : Cursor) : Bool :=
  k.start.line ≠ c.line || longestKey < c.read - k.start.read

end KeyPlace

/-! ## Steps -/

/-- A step of the cursor. -/
def reading {α : Type} (r : Reader α) : Scan α := do
  let s ← get
  let (a, cursor) ← r.run s.cursor
  set { s with cursor }
  return a

/-- Adds a token. -/
def emit (t : Token) : Scan Unit :=
  modify fun s => { s with tokens := s.tokens.push t }

/-- Says whether a key may start at the position. -/
def allowKey (keyAllowed : Bool) : Scan Unit :=
  modify fun s => { s with keyAllowed }

/-- Gives up the place of a possible key, which must not be required. -/
def forgetKey : Scan Unit := do
  if (← get).place?.any (·.required) then throw .missingColon
  modify fun s => { s with place? := none }

/-- Keeps the position as the place of a possible key, if one may start there. -/
def rememberKey : Scan Unit := do
  let s ← get
  if s.keyAllowed then
    forgetKey
    let required := !s.inFlow && s.columns.head? = some s.cursor.column
    modify fun s => { s with place? := some ⟨s.tokens.size, required, s.cursor⟩ }

/-- Gives up the places whose tokens can no longer be keys, none of which must be required. -/
def dropStaleKeys : Scan Unit := do
  let s ← get
  let stale (k? : Option KeyPlace) : Bool := k?.any (·.isStale s.cursor)
  if (s.place? :: s.outer).any fun k? => stale k? && k?.any (·.required) then throw .missingColon
  let keep (k? : Option KeyPlace) : Option KeyPlace := if stale k? then none else k?
  set { s with place? := keep s.place?, outer := s.outer.map keep }

/-- Moves over spaces, comments and line breaks, of which no more than `fuel` are read. A key may
start on a new line, except inside flow collections. -/
def skipBlanks : Nat → Scan Unit
  | 0 => return ()
  | fuel + 1 => do
    reading skipInLine
    let b ← reading takeBreak
    if b.isEmpty then return ()
    else
      if !(← get).inFlow then allowKey true
      skipBlanks fuel

/-- Closes all blocks in front of a document marker, a line with a percent sign, or the end. -/
def leaveBlocks : Scan Unit := do
  if (← get).inFlow then throw .unclosedFlow
  modify (·.closeBlocks fun _ => true)
  forgetKey
  allowKey false

/-! ## Tokens -/

/-- A token that may be a key: an alias, a quoted scalar, or what stands in front of a node. -/
def simpleToken (r : Reader Token) : Scan Unit := do
  rememberKey
  allowKey false
  emit (← reading r)

/-- The opening bracket of a flow collection. -/
def openFlow (t : Token) : Scan Unit := do
  rememberKey
  modify fun s => { s with outer := s.place? :: s.outer, place? := none }
  allowKey true
  reading (advance 1)
  emit t

/-- The closing bracket of a flow collection. -/
def closeFlow (ch : Char) (t : Token) : Scan Unit := do
  forgetKey
  match (← get).outer with
  | [] => throw (.noToken ch)
  | place? :: outer => modify fun s => { s with outer, place? }
  allowKey false
  reading (advance 1)
  emit t

/-- The comma between the entries of a flow collection. -/
def comma : Scan Unit := do
  allowKey true
  forgetKey
  reading (advance 1)
  emit .comma

/-- The dash in front of an item. -/
def item : Scan Unit := do
  let s ← get
  if s.inFlow then throw (.noToken '-')
  if !s.keyAllowed then throw .entryNotAllowed
  set (s.openBlock s.cursor.column s.tokens.size .blockSequence)
  allowKey true
  forgetKey
  reading (advance 1)
  emit .item

/-- The question mark in front of a key. -/
def markedKey : Scan Unit := do
  let s ← get
  if !s.inFlow then
    if !s.keyAllowed then throw .keyNotAllowed
    set (s.openBlock s.cursor.column s.tokens.size .blockMapping)
  allowKey !s.inFlow
  forgetKey
  reading (advance 1)
  emit .key

/-- The colon in front of a value. What stood at the place of a possible key is one now. -/
def value : Scan Unit := do
  let s ← get
  match s.place? with
  | some k =>
    let s := { s with place? := none, tokens := s.tokens.insertIdxIfInBounds k.index .key }
    set (if s.inFlow then s else s.openBlock k.start.column k.index .blockMapping)
    allowKey false
  | none =>
    if !s.inFlow then
      if !s.keyAllowed then throw .keyNotAllowed
      set (s.openBlock s.cursor.column s.tokens.size .blockMapping)
    allowKey !s.inFlow
  reading (advance 1)
  emit .value

/-- A plain scalar. A key may follow a line break behind it. -/
def plainToken : Scan Unit := do
  let s ← get
  rememberKey
  let (text, crossed) ← reading (plainText s.inFlow s.least)
  allowKey crossed
  emit (.scalar true text)

/-- A block scalar. -/
def blockToken (folded : Bool) : Scan Unit := do
  let s ← get
  allowKey true
  forgetKey
  emit (.scalar false (← reading (blockText folded (max s.least 1))))

/-- The token that starts with a character, which is neither at a document marker nor the percent
sign at the start of a line. -/
def tokenAt (ch : Char) (cs : List Char) : Scan Unit := do
  let s ← get
  let endsHere := s.inFlow || atBlank cs
  match ch with
  | '[' => openFlow .flowSequence
  | '{' => openFlow .flowMapping
  | ']' => closeFlow ch .flowSequenceEnd
  | '}' => closeFlow ch .flowMappingEnd
  | ',' => comma
  | '*' => simpleToken (Token.reference <$> anchorName)
  | '&' => simpleToken (Token.anchor <$> anchorName)
  | '!' => simpleToken readTag
  | '\'' | '"' => simpleToken (Token.scalar false <$> quotedText ch)
  | _ =>
    if ch = '-' && atBlank cs then item
    else if ch = '?' && endsHere then markedKey
    else if ch = ':' && endsHere then value
    else if (ch = '|' || ch = '>') && !s.inFlow then blockToken (ch = '>')
    else if startsPlain s.inFlow (ch :: cs) then plainToken
    else throw (.noToken ch)

/-- Reads the next token, and tells whether there was one. -/
def scanToken : Scan Bool := do
  skipBlanks ((← get).cursor.rest.length + 1)
  dropStaleKeys
  let c := (← get).cursor
  if !(← get).inFlow then modify (·.closeBlocks (c.column < ·))
  match c.rest with
  | [] =>
    leaveBlocks
    return false
  | ch :: cs =>
    if c.atMarker then
      leaveBlocks
      reading (advance 3)
      emit (if ch = '-' then .documentStart else .documentEnd)
    else if ch = '%' && c.column = 0 then
      leaveBlocks
      emit (← reading readPragma)
    else tokenAt ch cs
    return true

/-- Reads tokens to the end. -/
def scanAll : Nat → Scan Unit
  | 0 => throw .tooDeep
  | fuel + 1 => do
    if ← scanToken then scanAll fuel

/-- Whether a character may occur in a text. -/
def isPrintable (c : Char) : Bool :=
  c = '\t' || c = '\n' || c = '\r' || c = '\x85' || (' ' ≤ c && c ≤ '~')
    || ('\xa0' ≤ c && c ≤ '\ufffd') || 0x10000 ≤ c.toNat

/-- The tokens of a text. A byte order mark may stand in front. Every token takes a character at
least. -/
def tokens (s : String) : Except Fault (List Token) :=
  let cs := s.toList
  match cs.find? fun c => !isPrintable c with
  | some c => .error (.unprintable c)
  | none =>
    let start : Cursor := { rest := cs }
    let cursor := if cs.head? = some orderMark then start.pass 1 else start
    ((scanAll (cs.length + 1)).run { cursor }).map fun (_, s) => s.tokens.toList

end Sgr.Yaml
