import Sgr.Value

/-!
# Shared cells

A cell is a thing with an identity: two values may mention the same one, and a change through either
shows in both. Lists, mappings and deferred texts are cells since they can be changed; brushes made
from others and undefined numbers are cells since they are only equal to themselves. The store holds
what each cell holds at the moment. Reading a value starts by looking up every cell in it, which
gives a value without cells; the operations on values are defined on those.

A cell may contain itself. Looking up stops at a cell that is being looked up already, and shows
dots in its place.

## Main definitions

* `Store` — the cells.
* `Store.add`, `Store.update` — a new cell, and new contents of a cell.
* `Store.view`, `Store.viewParts` — a value with its cells looked up.
* `Store.unfold` — a value with its lists and mappings looked up, as far as they hold one another.
* `Store.share` — a value with cells of its own.
-/

namespace Sgr

/-- The contents of the shared cells, by number. -/
structure Store where
  cells : List Value := []
  deriving Inhabited

namespace Store

/-- What a cell holds. -/
def get? (s : Store) (id : Nat) : Option Value :=
  s.cells[id]?

/-- A new cell. -/
def add (s : Store) (v : Value) : Value × Store :=
  (.cell s.cells.length, ⟨s.cells ++ [v]⟩)

/-- New contents of a cell. -/
def update (s : Store) (id : Nat) (v : Value) : Store :=
  ⟨s.cells.set id v⟩

theorem get?_add_self (s : Store) (v : Value) : (s.add v).2.get? s.cells.length = some v := by
  simp [get?, add]

theorem get?_add (s : Store) (v : Value) {id : Nat} (h : id < s.cells.length) :
    (s.add v).2.get? id = s.get? id := by
  simp [get?, add, List.getElem?_append_left h]

theorem get?_update_of_ne (s : Store) (v : Value) {id other : Nat} (h : id ≠ other) :
    (s.update id v).get? other = s.get? other := by
  simp [get?, update, List.getElem?_set_ne h]

/-- What a value is at the moment: the contents of the cell that it names, or itself. -/
def contents (s : Store) (v : Value) : Value :=
  match v with
  | .cell id => (s.get? id).getD v
  | v => v

/-- The numbers of all cells. -/
def ids (s : Store) : List Nat :=
  List.range s.cells.length

theorem length_erase_lt {free : List Nat} {id : Nat} (h : id ∈ free) :
    (free.erase id).length < free.length := by
  rw [List.length_erase_of_mem h]
  exact Nat.sub_lt (List.length_pos_of_mem h) Nat.one_pos

/-! ## Looking up -/

/-- What is shown of a list or a mapping inside itself. -/
def dots (id : Nat) : Value → Value
  | .list _ => .object "list" "[...]" "[...]"
  | .dict _ => .object "dict" "\x7b...\x7d" "\x7b...\x7d"
  | _ => .cell id

mutual

/-- Looks up the cells of a value. Only the cells in `free` may be looked up, which leaves
out those whose contents are being looked up. -/
def expand (s : Store) (free : List Nat) : Value → Value
  | .cell id =>
    match s.get? id with
    | none => .cell id
    | some v =>
      if h : id ∈ free then
        have := length_erase_lt h
        expand s (free.erase id) v
      else dots id v
  | .list items => .list (expandAll s free items)
  | .tuple items => .tuple (expandAll s free items)
  | .set items => .set (expandAll s free items)
  | .openSet items => .openSet (expandAll s free items)
  | .dict entries => .dict (expandEntries s free entries)
  | .deferred template args named =>
    .deferred (expand s free template) (expand s free args) (expand s free named)
  | .makeshift name kinds output revert =>
    .makeshift (expand s free name) (expand s free kinds) (expand s free output)
      (expand s free revert)
  | .shade base bright p => .shade base (expand s free bright) p
  | v => v
termination_by v => (free.length, sizeOf v)

/-- Looks up the cells of items. -/
def expandAll (s : Store) (free : List Nat) : List Value → List Value
  | [] => []
  | v :: vs => expand s free v :: expandAll s free vs
termination_by vs => (free.length, sizeOf vs)

/-- Looks up the cells of the entries of a mapping. -/
def expandEntries (s : Store) (free : List Nat) : List (Value × Value) → List (Value × Value)
  | [] => []
  | (k, v) :: es => (expand s free k, expand s free v) :: expandEntries s free es
termination_by es => (free.length, sizeOf es)

end

/-- A value with its cells looked up. -/
def view (s : Store) (v : Value) : Value :=
  s.expand s.ids v

/-- Values with their cells looked up. -/
def viewAll (s : Store) (vs : List Value) : List Value :=
  s.expandAll s.ids vs

/-- A value with its cells looked up. The parts of a deferred text are looked up one by one, as the
arguments of a call are. -/
def viewParts (s : Store) (v : Value) : Value :=
  match s.contents v with
  | .deferred template args named => .deferred (s.view template) (s.view args) (s.view named)
  | _ => s.view v

/-- Named values with their cells looked up. -/
def viewNamed (s : Store) (named : List (String × Value)) : List (String × Value) :=
  named.map fun (name, v) => (name, s.view v)

mutual

/-- Looks up a list or a mapping, and those that it holds. Keys and the parts of other values stay
as they are. -/
def unfoldIn (s : Store) (free : List Nat) : Value → Value
  | .cell id =>
    if h : id ∈ free then
      have := length_erase_lt h
      match s.get? id with
      | some (.list items) => .list (unfoldAll s (free.erase id) items)
      | some (.dict entries) => .dict (unfoldEntries s (free.erase id) entries)
      | _ => .cell id
    else .cell id
  | v => v
termination_by v => (free.length, sizeOf v)

/-- Looks up items. -/
def unfoldAll (s : Store) (free : List Nat) : List Value → List Value
  | [] => []
  | v :: vs => unfoldIn s free v :: unfoldAll s free vs
termination_by vs => (free.length, sizeOf vs)

/-- Looks up the values of entries. -/
def unfoldEntries (s : Store) (free : List Nat) : List (Value × Value) → List (Value × Value)
  | [] => []
  | (k, v) :: es => (k, unfoldIn s free v) :: unfoldEntries s free es
termination_by es => (free.length, sizeOf es)

end

/-- A value with its lists and mappings looked up, as far as they hold one another. -/
def unfold (s : Store) (v : Value) : Value :=
  s.unfoldIn s.ids v

/-! ## New cells -/

/-- Whether a value is only equal to itself because a part of it is undefined. -/
def isUndefined : Value → Bool
  | .float x => x = .undefined
  | .complex re im => re = .undefined || im = .undefined
  | _ => false

/-- Gives the lists, mappings, deferred texts and undefined numbers in a value cells of their
own. -/
def share (s : Store) : Value → Value × Store
  | .list items =>
    let (items, s) := shareAll s items
    s.add (.list items)
  | .dict entries =>
    let (entries, s) := shareEntries s entries
    s.add (.dict entries)
  | .tuple items =>
    let (items, s) := shareAll s items
    (.tuple items, s)
  | .deferred template args named => s.add (.deferred template args named)
  | v => if isUndefined v then s.add v else (v, s)
where
  /-- Gives the values in items cells of their own. -/
  shareAll (s : Store) : List Value → List Value × Store
    | [] => ([], s)
    | v :: vs =>
      let (v, s) := s.share v
      let (vs, s) := shareAll s vs
      (v :: vs, s)
  /-- Gives the values in the entries of a mapping cells of their own. -/
  shareEntries (s : Store) : List (Value × Value) → List (Value × Value) × Store
    | [] => ([], s)
    | (k, v) :: es =>
      let (k, s) := s.share k
      let (v, s) := s.share v
      let (es, s) := shareEntries s es
      ((k, v) :: es, s)

end Store

end Sgr
