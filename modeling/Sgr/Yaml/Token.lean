import Sgr.Yaml.Text

/-!
# Tokens

A text is a row of tokens. Some are written down as marks, and some follow from how far a line is
indented: where a block collection starts and where it ends. A key has a token of its own in front,
whether or not it is marked as one.

## Main definitions

* `Yaml.Token`, `Yaml.Pragma` — the tokens, and what a line with a percent sign says.
* `Yaml.readTag`, `Yaml.readPragma` — reads a tag and such a line.
-/

namespace Sgr.Yaml

/-- What a line with a percent sign in front of a document says. -/
inductive Pragma where
  | version (major : Nat)
  | handle (name start : String)
  | unknown
  deriving DecidableEq, Repr, Inhabited

/-- The tokens. A tag is given by its handle, if it has one, and the rest of its name. -/
inductive Token where
  | pragma (p : Pragma)
  | documentStart
  | documentEnd
  | blockSequence
  | blockMapping
  | blockEnd
  | flowSequence
  | flowSequenceEnd
  | flowMapping
  | flowMappingEnd
  | item
  | comma
  | key
  | value
  | reference (name : String)
  | anchor (name : String)
  | tag (handle : Option String) (name : String)
  | scalar (plain : Bool) (text : String)
  deriving DecidableEq, Repr, Inhabited

/-! ## Tags -/

/-- Whether a character may be part of the name of a tag. -/
def isTagChar (c : Char) : Bool :=
  c.isAlphanum || "-;/?:@&=+$,_.!~*'()[]%".toList.contains c

/-- The rest of the name of a tag. -/
def tagName : Reader String := do
  let name ← takeRun isTagChar
  if name.isEmpty then throw .badTag else return String.ofList name

/-- A handle, which has exclamation marks around a name. -/
def tagHandle : Reader String := do
  advance 1
  let name ← takeRun isWord
  match ← peek with
  | some '!' => advance 1; return "!" ++ String.ofList name ++ "!"
  | c =>
    if name.isEmpty && c = some ' ' then return "!" else throw .badTag

/-- A tag. Its handle ends at the second exclamation mark; without one it is a single mark. A tag
that is nothing but a mark has no handle. -/
def readTag : Reader Token := do
  let behind := (← get).rest.tail
  let token ←
    if behind.head? = some '<' then do
      advance 2
      let name ← tagName
      if (← peek) ≠ some '>' then throw .badTag
      advance 1
      pure (.tag none name)
    else if atBlank behind then do
      advance 1
      pure (.tag none "!")
    else if (behind.takeWhile fun c => !(c = ' ' || isBreak c)).contains '!' then do
      let handle ← tagHandle
      pure (.tag (some handle) (← tagName))
    else do
      advance 1
      pure (.tag (some "!") (← tagName))
  if atSpace (← get).rest then return token else throw .badTag

/-! ## Lines with a percent sign -/

/-- A count, of one digit at least. -/
def readCount : Reader Nat := do
  let ds ← takeRun Char.isDigit
  if ds.isEmpty then throw .badDirective
  return Number.ofDigitChars ds

/-- What the line says behind its name. -/
def pragmaOf (name : String) : Reader Pragma := do
  match name with
  | "YAML" =>
    let _ ← takeRun (· = ' ')
    let major ← readCount
    if (← peek) ≠ some '.' then throw .badDirective
    advance 1
    let _ ← readCount
    return .version major
  | "TAG" =>
    let _ ← takeRun (· = ' ')
    let handle ← tagHandle
    if (← peek) ≠ some ' ' then throw .badDirective
    let _ ← takeRun (· = ' ')
    return .handle handle (← tagName)
  | _ =>
    let _ ← takeRun fun _ => true
    return .unknown

/-- A line with a percent sign. -/
def readPragma : Reader Token := do
  advance 1
  let name ← takeRun isWord
  if name.isEmpty || !atSpace (← get).rest then throw .badDirective
  let p ← pragmaOf (String.ofList name)
  if !atSpace (← get).rest then throw .badDirective
  skipInLine
  if !(← peek).all isBreak then throw .badDirective
  return .pragma p

end Sgr.Yaml
