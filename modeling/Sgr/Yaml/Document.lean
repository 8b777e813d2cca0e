import Sgr.Value.Access
import Sgr.Yaml.Merge
import Sgr.Yaml.Parse
import Sgr.Yaml.Scalar

/-!
# The value of a document

The tag of a node says what its value is. A mapping keeps its keys in the order of their first
appearance, and the last value of a key counts.

## Main definitions

* `Yaml.Node.value` — the value of a node.
* `Yaml.load` — the value of a text.
-/

namespace Sgr.Yaml

/-- A mapping with certain entries, of which several may have one key. -/
def putEntries (entries : List (Value × Value)) : List (Value × Value) :=
  entries.foldl (fun es (k, v) => Value.putEntry k v es) []

/-- The text of a mapping that stands for a scalar, which is that of its entry with a certain
key. -/
def contentText? : List (Node × Node) → Option String
  | [] => none
  | (.scalar .content _, .scalar _ text) :: _ => some text
  | _ :: entries => contentText? entries

/-- A mapping as an item of a list of pairs. -/
def pairOf : Value → Except LoadFault Value
  | .dict [(k, v)] => .ok (.tuple [k, v])
  | .dict _ => .error (.markup .notPair)
  | _ => .error (.markup .notMapping)

mutual

/-- The value of a node. -/
def Node.value : Node → Except LoadFault Value
  | .scalar tag text => scalarValue tag text
  | .sequence tag items =>
    match tag with
    | .sequence => do return .list (← valueAll items)
    | .ordered | .pairs => do return .list (← (← valueAll items).mapM pairOf)
    | .mapping | .set => .error (.markup .notMapping)
    | .merge | .content | .other _ => .error (.markup (.noConstructor tag.name))
    | _ => .error (.markup .notScalar)
  | .mapping tag entries =>
    match tag with
    | .mapping => do return .dict (putEntries (← valueEntries entries))
    | .set => do return .openSet ((putEntries (← valueEntries entries)).map Prod.fst)
    | .sequence | .ordered | .pairs => .error (.markup .notSequence)
    | .merge | .content | .other _ => .error (.markup (.noConstructor tag.name))
    | tag =>
      match contentText? entries with
      | some text => scalarValue tag text
      | none => .error (.markup .notScalar)

/-- The values of items. -/
def valueAll : List Node → Except LoadFault (List Value)
  | [] => .ok []
  | n :: ns => do return (← n.value) :: (← valueAll ns)

/-- The entries of a mapping. -/
def valueEntries : List (Node × Node) → Except LoadFault (List (Value × Value))
  | [] => .ok []
  | (k, v) :: es => do
    let key ←
      match k with
      | .scalar .content text => pure (.text text)
      | k => k.value
    if key.unhashable?.isNone then return (key, ← v.value) :: (← valueEntries es)
    else throw (.markup .unhashableKey)

end

/-- The value of a text; a text without a document has none. -/
def load (s : String) : Except LoadFault Value := do
  match ← (parse s).mapError .markup with
  | some n => (← n.flat.mapError .markup).value
  | none => return .nothing

end Sgr.Yaml
