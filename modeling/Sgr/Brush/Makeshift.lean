import Sgr.Brush.Index

/-!
# Makeshift brushes

The parts of a brush can be replaced by values of any type. They are looked at when the brush is
used: its kinds have to be a container, which is listed then, and its text needs modes that are
members of an enumeration. A brush whose parts all fit is a brush like any other.

## Main definitions

* `BrushParts` — the parts of a brush as values.
* `BrushParts.value` — the brush of parts, proper if they fit and makeshift if they do not.
* `Value.brushParts?` — the parts of a brush.
* `BrushParts.kindValues`, `BrushParts.ownModes` — the kinds and the modes that parts give.
* `BrushParts.withModes`, `BrushParts.index` — the same kinds with other modes.

The main statement, `brushParts?_brush`, says that parts of a brush give that brush.
-/

namespace Sgr

/-- The parts of a brush as values. -/
structure BrushParts where
  name : Value
  kinds : Value
  output : Value
  revert : Value
  deriving Inhabited

/-- A kind as a value. -/
def Kind.value : Kind → Value
  | .style s => .style s
  | .color c => .color c

theorem kind?_value (k : Kind) : k.value.kind? = some k := by
  cases k <;> rfl

theorem mapM_kind?_value (kinds : List Kind) :
    (kinds.map Kind.value).mapM Value.kind? = some kinds := by
  induction kinds with
  | nil => rfl
  | cons k ks ih => simp [List.mapM_cons, kind?_value, ih]

namespace BrushParts

/-- The parts of a proper brush. -/
def ofBrush (b : Brush) : BrushParts where
  name := .text b.name
  kinds := .tuple (b.kinds.map Kind.value)
  output := .output b.modes.output
  revert := .revert b.modes.revert

/-- The proper brush of parts, if they fit. -/
def brush? (p : BrushParts) : Option Brush :=
  match p.name, p.kinds, p.output, p.revert with
  | .text name, .tuple items, .output output, .revert revert =>
    (items.mapM Value.kind?).map fun kinds => { name, kinds, modes := ⟨output, revert⟩ }
  | _, _, _, _ => none

theorem brush?_ofBrush (b : Brush) : (ofBrush b).brush? = some b := by
  simp only [ofBrush, brush?, mapM_kind?_value, Option.map_some]

/-- The brush of parts. -/
def value (p : BrushParts) : Value :=
  match p.brush? with
  | some b => .brush b
  | none => .makeshift p.name p.kinds p.output p.revert

/-- Parts with one of them replaced. Other names mean nothing. -/
def replace (p : BrushParts) (name : String) (v : Value) : BrushParts :=
  match name with
  | "name" => { p with name := v }
  | "kinds" => { p with kinds := v }
  | "output" => { p with output := v }
  | "revert" => { p with revert := v }
  | _ => p

/-- The values that are meant to be the kinds. -/
def kindValues (p : BrushParts) : Except BracketError (List Value) :=
  match p.kinds.listingError?, p.kinds.parts? with
  | some e, _ => .error e
  | none, some items => .ok items
  | none, none => .error (.notIterable p.kinds.typeName)

/-- The revert mode of parts. What is no revert mode reverts the kinds' own groups. -/
def ownRevert (p : BrushParts) : RevertMode :=
  match p.revert with
  | .revert m => m
  | _ => .single

/-- The modes of parts, whose output mode has to be one. -/
def ownModes (p : BrushParts) : Except AccessError Modes :=
  match p.output with
  | .output m => .ok ⟨m, p.ownRevert⟩
  | v => .error (.noMember v.typeName "needs_template")

/-- The same kinds with other modes; those that are not given stay. -/
def withModes (p : BrushParts) (output : Option OutputMode) (revert : Option RevertMode) :
    Except BracketError Value := do
  let kinds ← p.kindValues
  return value {
    name := p.name
    kinds := .tuple kinds
    output := (output.map .output).getD p.output
    revert := (revert.map .revert).getD p.revert }

/-- The same kinds with the modes of a text of sigils. -/
def index (p : BrushParts) (key : Value) : InContext BracketError Value := do
  let modes ← prefixOf key
  InContext.ofExcept id (p.withModes (some modes.output) (some modes.revert))

end BrushParts

/-- The parts of a brush, whether they fit or not. -/
def Value.brushParts? : Value → Option BrushParts
  | .brush b => some (.ofBrush b)
  | .makeshift name kinds o r => some ⟨name, kinds, o, r⟩
  | _ => none

/-- Parts of a brush give that brush. -/
theorem brushParts?_brush (b : Brush) :
    (Value.brush b).brushParts?.map BrushParts.value = some (.brush b) := by
  simp only [Value.brushParts?, Option.map_some, BrushParts.value, BrushParts.brush?_ofBrush]

end Sgr
