import Sgr.Brush.Makeshift
import Sgr.Template.Path
import Sgr.Template.Present
import Sgr.Template.Script

/-!
# Filling templates

A template is filled from left to right. For each field its value is found among the arguments,
converted if the field asks for it, and written under the field's specification, whose own fields
are filled first. A step into a brush reads sigils, which may ask for the active settings and leaves
a record, so a template is filled in a context.

A deferred text among the arguments is a template with arguments of its own and is rendered when it
is written. If that fails, the failure is not the outer template's and keeps its description; any
other failure for a wrong value, a missing argument or an index is reported as one of the template
as a whole. Failures of type and attribute pass as they are.

## Main definitions

* `Arguments` — positional and named arguments.
* `fillScript` — the text of a script, given how values are written.
* `renderTemplate` — the text of a template.
* `Value.render` — the text of a value, rendered where it is deferred.
-/

namespace Sgr

/-- The arguments of a template. -/
structure Arguments where
  positional : List Value := []
  named : List (String × Value) := []
  deriving Inhabited

/-- Why a template has no text. A mismatch names the template it belongs to. -/
inductive TemplateError where
  | fault (f : FormatFault)
  | mismatch (template : String) (f : FormatFault)
  deriving Inhabited

/-- What fills a template. -/
abbrev Filling := InContext TemplateError

/-- A result that can only fail by a fault. -/
def Filling.ofExcept {α : Type} : Except FormatFault α → Filling α :=
  InContext.ofExcept .fault

/-- How the fields of a template were numbered so far: not at all, by themselves up to a next
position, or by hand. -/
inductive Numbering where
  | unset
  | automatic (next : Nat)
  | manual
  deriving DecidableEq, Repr, Inhabited

/-! ## Finding values -/

namespace Arguments

/-- The argument at a position. -/
def atPosition (args : Arguments) (i : Nat) : Except FormatFault Value :=
  match args.positional[i]? with
  | some v => .ok v
  | none => .error (.position i)

/-- The argument of a name. -/
def ofName (args : Arguments) (name : String) : Except FormatFault Value :=
  match args.named.find? (·.1 = name) with
  | some (_, v) => .ok v
  | none => .error (.missing name)

/-- The argument where a path starts. Positions must all be given or all be left out. -/
def start (args : Arguments) : Head → Numbering → Except FormatFault (Value × Numbering)
  | .next, .unset => (args.atPosition 0).map (·, .automatic 1)
  | .next, .automatic n => (args.atPosition n).map (·, .automatic (n + 1))
  | .next, .manual => .error .toAutomatic
  | .position _, .automatic _ => .error .toManual
  | .position i, _ => (args.atPosition i).map (·, .manual)
  | .name s, numbering => (args.ofName s).map (·, numbering)

end Arguments

namespace Value

/-- What a key in brackets picks from a value. -/
def bracket (v key : Value) : InContext FormatFault Value :=
  match v.tool?, v.brushParts? with
  | some t, _ => (t.index key).mapError .bracket >>= fun b => pure (.brush b)
  | none, some p => (p.index key).mapError .bracket
  | none, none => InContext.ofExcept .access (v.item key)

/-- Takes a step into a value. -/
def step (v : Value) : Step → InContext FormatFault Value
  | .member name => InContext.ofExcept .access (v.getMember name)
  | .index i => v.bracket (.int i)
  | .key s => v.bracket (.text s)

/-- Takes steps into a value. -/
def walk (v : Value) : List Step → InContext FormatFault Value
  | [] => pure v
  | s :: ss => do (← v.step s).walk ss

end Value

/-- The value of a field's name among arguments. -/
def Arguments.find (args : Arguments) (name : List Char) (numbering : Numbering) :
    InContext FormatFault (Value × Numbering) := do
  let path ← InContext.ofExcept id (Path.ofChars name)
  let (v, numbering) ← InContext.ofExcept id (args.start path.head numbering)
  let v ← v.walk path.steps
  match path.fault with
  | some f => throw f
  | none => return (v, numbering)

/-! ## Writing values -/

/-- How values are written: under a specification, and as their own text. -/
structure Writer where
  present : Value → List Char → Filling String
  own : Value → Filling String

/-- Converts a value: `r` and `a` take the text that messages show, `s` the own text. -/
def Writer.convert (w : Writer) : Option Char → Value → Filling Value
  | none, v => pure v
  | some c, v =>
    if c = 'r' then do return .text (← shown v)
    else if c = 's' then do return .text (← w.own v)
    else if c = 'a' then do return .text (Text.onlyAscii (← shown v))
    else throw (.fault (.unknownConversion c))
where
  /-- The text that messages show. -/
  shown (v : Value) : Filling String :=
    Filling.ofExcept ((v.checkText v.repr).mapError .access)

/-- What a specification becomes when its fields are filled. -/
abbrev Expand := List Char → Numbering → Filling (List Char × Numbering)

/-- The text of a field. -/
def fillField (w : Writer) (args : Arguments) (expand : Expand) (f : Field)
    (numbering : Numbering) : Filling (List Char × Numbering) := do
  let (v, numbering) ← (args.find f.name numbering).mapError .fault
  let v ← w.convert f.conversion v
  let (spec, numbering) ← if f.isNested then expand f.spec numbering else pure (f.spec, numbering)
  return ((← w.present v spec).toList, numbering)

/-- The text of pieces. -/
def fillPieces (w : Writer) (args : Arguments) (expand : Expand) :
    List Piece → Numbering → Filling (List Char × Numbering)
  | [], numbering => pure ([], numbering)
  | .char c :: ps, numbering => do
    let (cs, numbering) ← fillPieces w args expand ps numbering
    return (c :: cs, numbering)
  | .field f :: ps, numbering => do
    let (shown, numbering) ← fillField w args expand f numbering
    let (cs, numbering) ← fillPieces w args expand ps numbering
    return (shown ++ cs, numbering)

/-- The text of a script: its pieces, and then its fault if it has one. -/
def fillScript (w : Writer) (args : Arguments) (expand : Expand) (s : Script)
    (numbering : Numbering) : Filling (List Char × Numbering) := do
  let filled ← fillPieces w args expand s.pieces numbering
  match s.fault with
  | some f => throw (.fault f)
  | none => return filled

/-- A specification may hold fields, whose own specifications may not. -/
def fillSpec (w : Writer) (args : Arguments) : Expand := fun spec numbering =>
  fillScript w args (fun _ _ => throw (.fault .nestedTooDeep)) (Script.ofChars spec) numbering

/-- The text of a template. -/
def fill (w : Writer) (args : Arguments) (template : List Char) : Filling (List Char) := do
  let (cs, _) ← fillScript w args (fillSpec w args) (Script.ofChars template) .unset
  return cs

/-! ## Deferred texts -/

/-- Whether a fault is reported as one of the template as a whole: those about a key, an index or a
value are. -/
def FormatFault.isMismatch (f : FormatFault) : Bool :=
  match f.errorClass with
  | .missingKey | .outOfRange | .wrongValue | .colorRange => true
  | _ => false

/-- Names the template in a failure that belongs to it. -/
def TemplateError.within (template : String) : TemplateError → TemplateError
  | .fault f => if f.isMismatch then .mismatch template f else .fault f
  | e => e

/-- The entries of a mapping whose keys are texts. -/
def Value.namedEntries (entries : List (Value × Value)) : List (String × Value) :=
  entries.filterMap fun (k, v) => k.text?.map (·, v)

/-- The arguments that the parts of a deferred text are. What is given by name has to be a mapping
unless it is empty, and what is given by position a container. -/
def Arguments.ofParts (args named : Value) : Except FormatFault Arguments := do
  let named ←
    if named.isEmpty then .ok []
    else match named with
      | .dict entries => .ok (Value.namedEntries entries)
      | v => .error (.notMapping v.typeName)
  match args.listingError?, args.parts? with
  | some e, _ => .error (.bracket e)
  | none, some items => .ok ⟨items, named⟩
  | none, none => .error (.notIterable args.typeName)

mutual

/-- How many deferred texts are inside one another in a value. -/
def Value.depth : Value → Nat
  | .list items | .tuple items | .set items | .openSet items => depthAll items
  | .dict entries => depthEntries entries
  | .deferred template args named => max template.depth (max args.depth named.depth) + 1
  | _ => 0

/-- The greatest depth of items. -/
def depthAll : List Value → Nat
  | [] => 0
  | v :: vs => max v.depth (depthAll vs)

/-- The greatest depth of the entries of a mapping. -/
def depthEntries : List (Value × Value) → Nat
  | [] => 0
  | (k, v) :: es => max (max k.depth v.depth) (depthEntries es)

end

/-- The depth of arguments. -/
def Arguments.depth (args : Arguments) : Nat :=
  max (depthAll args.positional) (depthAll (args.named.map Prod.snd))

/-- Renders a deferred text, given how a template is filled. -/
def renderParts (render : String → Arguments → Filling String) (template args named : Value) :
    Filling String :=
  match template.text? with
  | none => throw (.fault (.noTemplate template.typeName))
  | some t =>
    match Arguments.ofParts args named with
    | .error f => throw ((TemplateError.fault f).within t)
    | .ok args => render t args

/-- How values are written, given how a template is filled. -/
def writerFor (render : String → Arguments → Filling String) : Writer where
  present
    | .deferred template args named, spec => do
      Filling.ofExcept (presentText (← renderParts render template args named) spec)
    | v, spec => Filling.ofExcept (v.present spec)
  own
    | .deferred template args named => renderParts render template args named
    | v => Filling.ofExcept ((v.checkText v.str).mapError .access)

/-- The text of a template whose arguments hold deferred texts to a depth. -/
def renderAt : Nat → String → Arguments → Filling String
  | 0, _, _ => throw (.fault .nestedTooDeep)
  | depth + 1, template, args => do
    let cs ← (fill (writerFor (renderAt depth)) args template.toList).mapError (·.within template)
    return String.ofList cs

/-- The text of a template. -/
def renderTemplate (template : String) (args : Arguments) : Filling String :=
  renderAt (args.depth + 1) template args

/-- How values are written. -/
def writer (v : Value) : Writer :=
  writerFor (renderAt v.depth)

/-- The text of a value, rendered where it is deferred. -/
def Value.render (v : Value) : Filling String :=
  (writer v).own v

/-- The text of a value under a specification. -/
def Value.format (v : Value) (spec : List Char) : Filling String :=
  (writer v).present v spec

end Sgr
