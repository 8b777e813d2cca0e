import Sgr.Brush.Binding
import Sgr.Sigil.Prefix

/-!
# Brushes from brushes and families

Behind a brush in brackets stands a text of sigils, which gives the same brush with other modes.
Behind a family stand the parameters of a colour, which give a new brush; several are a tuple.

## Main definitions

* `BracketError` — why there is no such brush.
* `prefixOf` — the modes of a key behind a brush.
* `Tool.index` — the brush of a key in brackets.
* `Tool.listingError` — why there is no list of the brushes of a tool.
* `Value.listingError?` — the same of a value.
-/

namespace Sgr

/-- Why there is no such brush. -/
inductive BracketError where
  | prefixType (typeName : String)
  | sigils (e : PrefixError)
  | family (e : FamilyError)
  | notIterable (typeName : String)
  deriving Inhabited

namespace BracketError

/-- The text of an error. -/
def message : BracketError → String
  | prefixType typeName => "Sigil prefix must be a str, got " ++ typeName
  | sigils e => e.message
  | family e => e.message
  | notIterable typeName => "'" ++ typeName ++ "' object is not iterable"

/-- The class of an error. -/
def errorClass : BracketError → ErrorClass
  | prefixType _ | notIterable _ => .wrongType
  | sigils e => e.errorClass
  | family e => e.errorClass

/-- The value that an error is about, where it names one. -/
def subject? : BracketError → Option Value
  | prefixType _ | notIterable _ => none
  | sigils e => e.subject?
  | family e => e.subject?

end BracketError

/-- The modes of a key in brackets behind a brush, which has to be a text of sigils. -/
def prefixOf (key : Value) : InContext BracketError Modes :=
  match key.text? with
  | none => throw (.prefixType key.shortTypeName)
  | some s => (readPrefix key.repr s none).mapError .sigils

/-- A brush with the modes of a text of sigils. -/
def Brush.index (b : Brush) (key : Value) : InContext BracketError Brush := do
  let modes ← prefixOf key
  return b.withModes modes.output modes.revert

/-- The brush of a family's parameters. -/
def ColorFamily.index (f : ColorFamily) (key : Value) : Except FamilyError Brush :=
  match key with
  | .tuple params => f.bind params
  | param => f.bind [param]

/-- The brush of a key in brackets. -/
def Tool.index (t : Tool) (key : Value) : InContext BracketError Brush :=
  match t with
  | .brush b => b.index key
  | .family f => InContext.ofExcept .family (f.index key)

/-- How many numbers from zero on have a brush in a family. -/
def ColorFamily.size (f : ColorFamily) : Nat :=
  if f.isRgb then Color.maxPacked + 1 else 256

/-- Why the brushes of a tool cannot be listed by the numbers from zero on: a brush has none, and
those of a family end with the first number that is no colour. -/
def Tool.listingError (t : Tool) : BracketError :=
  match t with
  | .brush _ => .prefixType "int"
  | .family f =>
    .family (.color (if f.isRgb then .packedRange f.size else .byteRange .index f.size))

/-- Why the brushes of a brush or a family cannot be listed. -/
def Value.listingError? (v : Value) : Option BracketError :=
  match v with
  | makeshift .. => some (.prefixType "int")
  | v => v.tool?.map Tool.listingError

end Sgr
