import Sgr.Brush.Call
import Sgr.World

/-!
# Styling in a session

A styling call in a session asks the active settings whether constant text may be made, looks its
arguments up in the session's cells, and gives its result a cell if it is deferred. What is called
is a value, which may turn out to be no brush, or one whose parts do not fit; a brush that is made
from another one is a new cell.

## Main definitions

* `callTool`, `callValue`, `invoke` — a call of a brush or family, of a value, and by name.
* `prefixModes` — the modes of a text of sigils.
* `bracket`, `bindValue`, `withModes` — brushes from other brushes.
* `paint` — the brush of a foreground and a background.
* `Method`, `callMethod` — a call in a given output mode.
-/

namespace Sgr

/-! ## Calls -/

/-- The result of a call as a value, which is a new cell if it is deferred. -/
def styledValue (r : Styled) : Action Value :=
  match r with
  | .deferred .. => newCell r.value
  | r => return r.value

/-- Refuses a named argument that has the name of a parameter which is given already. -/
def refuseNamed (function parameter : String) (named : List (String × Value)) : Action Unit :=
  if named.any (·.1 = parameter) then throw (.binding (.repeated function parameter)) else pure ()

/-- Styles content with a brush or a family. -/
def callTool (t : Tool) (tokens : List Value) (named : List (String × Value)) : Action Value := do
  refuseNamed (t.typeName ++ ".__call__") "self" named
  let enabled ← Action.inContext .settings (mayBeConstant none)
  styledValue (← Action.inContext id (t.call (← get).store enabled tokens named))

/-- The brush or family that a value is. -/
def toolOf? (v : Value) : Action (Option Tool) := do
  return ((← get).store.contents v).tool?

/-- The parts of the brush that a value is. -/
def partsOf? (v : Value) : Action (Option BrushParts) := do
  return (← viewValue v).brushParts?

/-- Styles content with a value, which should be a brush or a family. -/
def callValue (v : Value) (tokens : List Value) (named : List (String × Value)) :
    Action Value := do
  match ← toolOf? v, ← partsOf? v with
  | some t, _ => callTool t tokens named
  | none, some p =>
    refuseNamed "StyleMacro.__call__" "self" named
    let enabled ← Action.inContext .settings (mayBeConstant none)
    styledValue (← Action.inContext id (p.call (← get).store enabled tokens named))
  | none, none => throw (.call (.notCallable (← viewValue v).typeName))

/-- Styles content with the brush or family of a name. -/
def invoke (name : String) (tokens : List Value) (named : List (String × Value)) :
    Action Value := do
  refuseNamed "invoke" "name" named
  let t ← Action.lift .call (Tool.lookup name)
  Action.record .debug "sgrfmt.invocation"
    ("Invoking " ++ t.value.repr ++ " with " ++ Number.decimal tokens.length ++ " tokens")
  callTool t tokens named

/-! ## Brushes from other brushes -/

/-- The modes of a text of sigils. -/
def prefixModes (text : String) (constFormat : Option Bool) : Action Modes :=
  Action.inContext Failure.ofPrefix (readPrefix (Text.quote text) text constFormat)

/-- The failure of a value that lacks a member. -/
def lacks {α : Type} (v : Value) (name : String) : Action α := do
  throw (.call (.noMember (← viewValue v).typeName name))

/-- The brush of a key in brackets behind a brush or a family. -/
def indexTool (t : Tool) (key : Value) : Action Brush := do
  Action.inContext .bracket (t.index (← viewValue key))

/-- What a key in brackets picks from a value. -/
def bracket (v key : Value) : Action Value := do
  match ← toolOf? v, ← partsOf? v with
  | some t, _ => newCell (.brush (← indexTool t key))
  | none, some p => do newCell (← Action.inContext .bracket (p.index (← viewValue key)))
  | none, none => Action.lift .access ((← get).store.item v key)

/-- The brush of the parameters of a value, which should be a family. -/
def bindValue (v : Value) (params : List Value) : Action Value := do
  match ← toolOf? v with
  | some (.family f) =>
    newCell (.brush (← Action.lift .family (f.bind ((← get).store.viewAll params))))
  | _ => lacks v "bind"

/-- A value, which should be a brush, with other modes. -/
def withModes (v : Value) (output : Option OutputMode) (revert : Option RevertMode) :
    Action Value := do
  match ← toolOf? v, ← partsOf? v with
  | some (.brush b), _ => newCell (.brush (b.withModes output revert))
  | none, some p => do newCell (← Action.lift .bracket (p.withModes output revert))
  | _, _ => lacks v "with_modes"

/-- The colour of the parameters of a value, which should be a family. -/
def colorOf (v : Value) (params : List Value) : Action Color := do
  match ← toolOf? v with
  | some (.family f) => Action.lift .family (f.color ((← get).store.viewAll params))
  | _ => lacks v "color"

/-- What a value, which should be a brush, resolves to. -/
def resolutionOf (v : Value) (revert : Option RevertMode) : Action Resolution := do
  match ← toolOf? v, ← partsOf? v with
  | some (.brush b), _ => Action.lift .kind (b.resolve revert)
  | none, some p => Action.lift id (p.resolve revert)
  | _, _ => lacks v "codes"

/-! ## Colours -/

/-- A colour of a pair in a record. -/
def optionalColorText : Option Color → String
  | some c => Value.colorText c
  | none => "None"

/-- The colours of a text such as `red in blue`. -/
def parsePair (text : String) : Action ColorPair := do
  let pair ← Action.lift .color (ColorPair.ofText text)
  Action.record .debug "sgrfmt.codes.colors"
    ("Parsed color pair " ++ Text.quote text ++ " as fg=" ++ optionalColorText pair.foreground
      ++ " bg=" ++ optionalColorText pair.background)
  return pair

/-- A colour, unless nothing is given. -/
def optionalColor (v : Value) (p : Plane) : Action (Option Color) :=
  match v with
  | .nothing => return none
  | v => do return some (← Action.lift .color (Color.ofValue v p))

/-- The colours that `paint` is given. -/
def paintColors (fg bg : Value) : Action ColorPair := do
  match fg.text?, bg with
  | some s, .nothing =>
    if "in" ∈ Text.words s then parsePair s
    else return ⟨← optionalColor fg .foreground, none⟩
  | _, _ =>
    let foreground ← optionalColor fg .foreground
    return ⟨foreground, ← optionalColor bg .background⟩

/-- The brush of a foreground and a background, of which one may be missing. -/
def paint (args : List Value) : Action Brush := do
  let store := (← get).store
  match store.viewAll args with
  | [] => throw (.call .noPaint)
  | fg :: more =>
    if 1 < more.length then throw (.binding (.tooMany "paint" 2 args.length))
    let pair ← paintColors fg (more.headD .nothing)
    if pair.kinds.isEmpty then throw (.call .noPaint)
    return { name := "paint", kinds := pair.kinds }

/-! ## Calls in a given output mode -/

/-- A way to call a brush that picks the output mode. -/
inductive Method where
  | literal
  | format
  | string
  | constFormat
  deriving DecidableEq, Repr, Inhabited

namespace Method

/-- All methods. -/
def all : List Method := [.literal, .format, .string, .constFormat]

/-- The name of a method. -/
def name : Method → String
  | literal => "literal"
  | format => "fmt"
  | string => "string"
  | constFormat => "const"

/-- The method of a name. -/
def ofName? (s : String) : Option Method :=
  all.find? (·.name = s)

/-- The output mode that a method picks. -/
def output : Method → OutputMode
  | literal => .literal
  | format => .format
  | string => .string
  | constFormat => .constFormat

/-- The name of a method with that of its type. -/
def fullName (m : Method) : String :=
  "StyleMacro." ++ m.name

end Method

/-- The arguments of a method: the revert mode if one is picked, the content, and what is named. -/
structure MethodArguments where
  revert : Option RevertMode
  tokens : List Value
  named : List (String × Value)
  deriving Inhabited

/-- Which revert mode a named argument picks. One that counts as empty picks none, and one that is
no revert mode reverts the kinds' own groups. -/
def revertOf : Value → Option RevertMode
  | .revert m => some m
  | v => if v.isEmpty then none else some .single

/-- Binds the named arguments of a method, one by one. -/
def bindNamed (m : Method) (args : MethodArguments) :
    List (String × Value) → Except BindingError MethodArguments
  | [] => .ok args
  | (name, v) :: rest =>
    if name = "self" then .error (.repeated m.fullName name)
    else if name = "revert" then bindNamed m { args with revert := revertOf v } rest
    else if m = .literal then .error (.unexpected m.fullName name)
    else if name = "template" then
      if args.tokens.isEmpty then bindNamed m { args with tokens := [v] } rest
      else .error (.repeated m.fullName name)
    else bindNamed m { args with named := args.named ++ [(name, v)] } rest

/-- Binds the arguments of a method. -/
def bindArguments (m : Method) (revert : Option RevertMode) (tokens : List Value)
    (named : List (String × Value)) : Except BindingError MethodArguments := do
  if revert.isSome && named.any (·.1 = "revert") then
    throw (.repeatedKeyword m.fullName "revert")
  let args ← bindNamed m ⟨revert, tokens, []⟩ named
  if m ≠ .literal && args.tokens.isEmpty then throw (.absent m.fullName "template")
  return args

/-- Calls a method of a value, which should be a brush. Only constant text asks the settings. -/
def callMethod (v : Value) (m : Method) (revert : Option RevertMode) (tokens : List Value)
    (named : List (String × Value)) : Action Value := do
  match ← partsOf? v with
  | some p =>
    let store := (← get).store
    let named := named.map fun (k, v) => if k = "revert" then (k, store.view v) else (k, v)
    let args ← Action.lift .binding (bindArguments m revert tokens named)
    let enabled ←
      if m = .constFormat then Action.inContext .settings (mayBeConstant none) else pure false
    let modes : Modes := ⟨m.output, args.revert.getD p.ownRevert⟩
    styledValue (← Action.inContext id (p.style store enabled modes args.tokens args.named))
  | none => lacks v m.name

end Sgr
