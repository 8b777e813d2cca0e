import Sgr.Yaml.Fault
import Sgr.Yaml.Node

/-!
# Merged mappings

A mapping may have keys that merge. The value of such a key is a mapping or a sequence of mappings,
whose entries the mapping takes over, in front of its own ones. Of several mappings the first one
counts, so its entries come last.

## Main definitions

* `Yaml.Node.flat` — a node in which no key merges any more.
-/

namespace Sgr.Yaml

/-- Whether a key merges. -/
def Node.merges : Node → Bool
  | .scalar .merge _ => true
  | _ => false

/-- The entries of a mapping. -/
def Node.entries? : Node → Option (List (Node × Node))
  | .mapping _ entries => some entries
  | _ => none

/-- The entries that a mapping takes over from the value of a key that merges. -/
def Node.takenOver? : Node → Option (List (Node × Node))
  | .sequence _ items => (items.reverse.mapM Node.entries?).map List.flatten
  | n => n.entries?

mutual

/-- A node in which no key merges any more. -/
def Node.flat : Node → Except Fault Node
  | .scalar tag text => .ok (.scalar tag text)
  | .sequence tag items => do return .sequence tag (← flatItems items)
  | .mapping tag entries => do
    let (taken, own) ← flatEntries entries
    return .mapping tag (taken ++ own)

/-- The items of a sequence. -/
def flatItems : List Node → Except Fault (List Node)
  | [] => .ok []
  | n :: ns => do return (← n.flat) :: (← flatItems ns)

/-- The entries of a mapping: those that are taken over, and its own. -/
def flatEntries : List (Node × Node) →
    Except Fault (List (Node × Node) × List (Node × Node))
  | [] => .ok ([], [])
  | (k, v) :: es => do
    let v ← v.flat
    if k.merges then
      match v.takenOver? with
      | some entries =>
        let (taken, own) ← flatEntries es
        return (entries ++ taken, own)
      | none => throw .badMerge
    else
      let k ← k.flat
      let (taken, own) ← flatEntries es
      return (taken, (k, v) :: own)

end

end Sgr.Yaml
