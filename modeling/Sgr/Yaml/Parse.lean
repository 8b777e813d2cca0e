import Sgr.Yaml.Plain
import Sgr.Yaml.Scan

/-!
# From tokens to nodes

A text holds one document at most. A node may have an anchor and a tag in front; one that has either
may be empty, and so may an entry of a collection. A sequence that is the value or the key of a
block mapping may stand in the column of the mapping.

## Main definitions

* `Yaml.Stream`, `Yaml.Parse` — the tokens that are left, and a step that takes some of them.
* `Yaml.node` — a node.
* `Yaml.parse` — the node of a text, if it has one.
-/

namespace Sgr.Yaml

/-- The tokens that are left, with the anchors so far and the starts of the names of tags, by their
handles. -/
structure Stream where
  tokens : List Token
  anchors : List (String × Node) := []
  handles : List (String × String) := []
  deriving Inhabited

/-- A step of parsing. -/
abbrev Parse := StateT Stream (Except Fault)

/-- The next token. -/
def nextToken : Parse (Option Token) := do
  return (← get).tokens.head?

/-- Moves over a token. -/
def dropToken : Parse Unit :=
  modify fun s => { s with tokens := s.tokens.tail }

/-- Moves over the next token if it is a certain one, and tells whether it is. -/
def dropIf (t : Token) : Parse Bool := do
  if (← nextToken) = some t then
    dropToken
    return true
  else return false

/-- A node without content. -/
def emptyNode : Node :=
  .scalar .null ""

/-! ## What stands in front of a node -/

/-- What an alias stands for. -/
def anchored (name : String) : Parse Node := do
  match (← get).anchors.lookup name with
  | some n => return n
  | none => throw (.unknownAlias name)

/-- Remembers what an anchor stands for. -/
def anchorNode (name : String) (n : Node) : Parse Unit := do
  if ((← get).anchors.lookup name).isSome then throw (.repeatedAnchor name)
  modify fun s => { s with anchors := (name, n) :: s.anchors }

/-- The name of a tag. -/
def fullName (handle : Option String) (name : String) : Parse String := do
  match handle with
  | none => return name
  | some handle =>
    match (← get).handles.lookup handle with
    | some start => return start ++ name
    | none => throw (.unknownHandle handle)

/-- An anchor, if it comes next. -/
def anchor? : Parse (Option String) := do
  match ← nextToken with
  | some (.anchor name) => dropToken; return some name
  | _ => return none

/-- The name of a tag, if it comes next. -/
def tag? : Parse (Option String) := do
  match ← nextToken with
  | some (.tag handle name) => dropToken; some <$> fullName handle name
  | _ => return none

/-- The anchor and the tag in front of a node, in either order. -/
def properties : Parse (Option String × Option String) := do
  match ← anchor? with
  | some name => return (some name, ← tag?)
  | none =>
    let tag ← tag?
    return (← if tag.isSome then anchor? else pure none, tag)

/-- The tag of a scalar. A single mark as a tag makes every scalar a plain one. -/
def scalarTag (tag : Option String) (plain : Bool) (text : String) : Tag :=
  match tag with
  | some "!" => Tag.ofPlain text
  | some name => Tag.ofName name
  | none => if plain then Tag.ofPlain text else .text

/-- The tag of a collection. -/
def collectionTag (tag : Option String) (default : Tag) : Tag :=
  match tag with
  | none | some "!" => default
  | some name => Tag.ofName name

/-! ## Nodes -/

/-- Tokens behind which an entry of a block mapping has no content. -/
def endsEntry (t? : Option Token) : Bool :=
  t? = some .key || t? = some .value || t? = some .blockEnd

/-- Tokens behind which an entry of a flow collection has no content. -/
def endsFlowEntry (ending : Token) (t? : Option Token) : Bool :=
  t? = some .comma || t? = some ending

mutual

/-- A node. Only one in a block can be a block collection; one that can be `indentless` may be a
sequence in the column of the mapping around it. -/
def node (block indentless : Bool) : Nat → Parse Node
  | 0 => throw .tooDeep
  | fuel + 1 => do
    match ← nextToken with
    | some (.reference name) =>
      dropToken
      anchored name
    | _ =>
      let (anchor, tag) ← properties
      let n ← content block indentless (anchor.isSome || tag.isSome) tag fuel
      if let some name := anchor then anchorNode name n
      return n
termination_by structural fuel => fuel

/-- A node behind its anchor and its tag. -/
def content (block indentless mayBeEmpty : Bool) (tag : Option String) : Nat → Parse Node
  | 0 => throw .tooDeep
  | fuel + 1 => do
    match ← nextToken with
    | some (.scalar plain text) =>
      dropToken
      return .scalar (scalarTag tag plain text) text
    | some .flowSequence =>
      dropToken
      return .sequence (collectionTag tag .sequence) (← flowItems true fuel)
    | some .flowMapping =>
      dropToken
      return .mapping (collectionTag tag .mapping) (← flowEntries true fuel)
    | t? =>
      if indentless && t? = some .item then
        return .sequence (collectionTag tag .sequence) (← indentlessItems fuel)
      else if block && t? = some .blockSequence then
        dropToken
        return .sequence (collectionTag tag .sequence) (← blockItems fuel)
      else if block && t? = some .blockMapping then
        dropToken
        return .mapping (collectionTag tag .mapping) (← blockEntries fuel)
      else if mayBeEmpty then return .scalar (scalarTag tag true "") ""
      else throw .noContent
termination_by structural fuel => fuel

/-- A node, unless the next token satisfies a test; then there is no content. -/
def nodeUnless (ends : Option Token → Bool) (block indentless : Bool) : Nat → Parse Node
  | 0 => throw .tooDeep
  | fuel + 1 => do
    if ends (← nextToken) then return emptyNode else node block indentless fuel
termination_by structural fuel => fuel

/-- The value of an entry, if there is one. -/
def valueUnless (ends : Option Token → Bool) (block : Bool) : Nat → Parse Node
  | 0 => throw .tooDeep
  | fuel + 1 => do
    if ← dropIf .value then nodeUnless ends block block fuel else return emptyNode
termination_by structural fuel => fuel

/-- The items of a block sequence. -/
def blockItems : Nat → Parse (List Node)
  | 0 => throw .tooDeep
  | fuel + 1 => do
    if ← dropIf .item then
      let n ← nodeUnless (fun t? => t? = some .item || t? = some .blockEnd) true false fuel
      return n :: (← blockItems fuel)
    else if ← dropIf .blockEnd then return []
    else throw .badIndentation
termination_by structural fuel => fuel

/-- The items of a sequence in the column of the mapping around it. -/
def indentlessItems : Nat → Parse (List Node)
  | 0 => throw .tooDeep
  | fuel + 1 => do
    if ← dropIf .item then
      let n ← nodeUnless (fun t? => t? = some .item || endsEntry t?) true false fuel
      return n :: (← indentlessItems fuel)
    else return []
termination_by structural fuel => fuel

/-- The entries of a block mapping. -/
def blockEntries : Nat → Parse (List (Node × Node))
  | 0 => throw .tooDeep
  | fuel + 1 => do
    if ← dropIf .key then
      let k ← nodeUnless endsEntry true true fuel
      let v ← valueUnless endsEntry true fuel
      return (k, v) :: (← blockEntries fuel)
    else if ← dropIf .blockEnd then return []
    else throw .badIndentation
termination_by structural fuel => fuel

/-- The items of a flow sequence. A pair stands for a mapping of its own. -/
def flowItems (first : Bool) : Nat → Parse (List Node)
  | 0 => throw .tooDeep
  | fuel + 1 => do
    if ← dropIf .flowSequenceEnd then return []
    else
      if !first then
        if !(← dropIf .comma) then throw .unclosedFlow
      if ← dropIf .flowSequenceEnd then return []
      else if ← dropIf .key then
        let ends := endsFlowEntry .flowSequenceEnd
        let k ← nodeUnless (fun t? => t? = some .value || ends t?) false false fuel
        let v ← valueUnless ends false fuel
        return .mapping .mapping [(k, v)] :: (← flowItems false fuel)
      else
        let n ← node false false fuel
        return n :: (← flowItems false fuel)
termination_by structural fuel => fuel

/-- The entries of a flow mapping. One without a value has an empty one. -/
def flowEntries (first : Bool) : Nat → Parse (List (Node × Node))
  | 0 => throw .tooDeep
  | fuel + 1 => do
    if ← dropIf .flowMappingEnd then return []
    else
      if !first then
        if !(← dropIf .comma) then throw .unclosedFlow
      if ← dropIf .flowMappingEnd then return []
      else if ← dropIf .key then
        let ends := endsFlowEntry .flowMappingEnd
        let k ← nodeUnless (fun t? => t? = some .value || ends t?) false false fuel
        let v ← valueUnless ends false fuel
        return (k, v) :: (← flowEntries false fuel)
      else
        let k ← node false false fuel
        return (k, emptyNode) :: (← flowEntries false fuel)
termination_by structural fuel => fuel

end

/-! ## Documents -/

/-- The handles that need no declaration, and what they stand for. -/
def commonHandles : List (String × String) :=
  [("!", "!"), ("!!", Tag.common)]

/-- Reads the lines with a percent sign, of which only one may give a version, and declares the
handles. -/
def pragmas (versioned : Bool) (handles : List (String × String)) : Nat → Parse Unit
  | 0 => throw .tooDeep
  | fuel + 1 => do
    match ← nextToken with
    | some (.pragma p) =>
      dropToken
      match p with
      | .version major =>
        if versioned || major ≠ 1 then throw .badDirective
        pragmas true handles fuel
      | .handle name start =>
        if (handles.lookup name).isSome then throw .badDirective
        pragmas versioned ((name, start) :: handles) fuel
      | .unknown => pragmas versioned handles fuel
    | _ => modify fun s => { s with handles := handles ++ commonHandles }

/-- Moves over the marks that end a document. -/
def dropEnds : Nat → Parse Unit
  | 0 => return ()
  | fuel + 1 => do
    if ← dropIf .documentEnd then dropEnds fuel

/-- The only document, if there is one. -/
def document (fuel : Nat) : Parse (Option Node) := do
  match ← nextToken with
  | none => return none
  | some t =>
    pragmas false [] fuel
    let marked ← dropIf .documentStart
    if !marked && (← nextToken) ≠ some t then throw .noDocumentStart
    let next ← nextToken
    let isEmpty := next = none || next = some .documentStart || next = some .documentEnd
      || next matches some (.pragma _)
    let n ← if marked && isEmpty then pure emptyNode else node true false fuel
    dropEnds fuel
    if (← nextToken).isSome then throw .secondDocument
    return some n

/-- The node of a text, if it has one. No step is nested deeper than four times the number of
tokens. -/
def parse (s : String) : Except Fault (Option Node) := do
  let ts ← tokens s
  return (← (document (4 * ts.length + 4)).run { tokens := ts }).1

end Sgr.Yaml
