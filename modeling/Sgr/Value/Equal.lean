import Sgr.Value.Store

/-!
# Equality of values

Numbers are equal across their types, a sigil equals its character as text, moments are equal if
they are the same in general time, and containers are equal when their contents are. A deferred
text, a brush that was made from another one and an undefined number are each equal to themselves
alone, and an undefined number even that only as a part of something.

Equality of values without cells is `Value.equal`. With cells, those that hold lists or mappings are
compared by their contents.

## Main definitions

* `Value.equalWith` — equality of values, given when two cells are the same.
* `Value.equal`, `Store.equal` — equality without and with cells.
* `Value.lookup?`, `Value.putEntry` — the value of a key in a mapping, and a new one for it.
-/

namespace Sgr

namespace Value

/-- Equality of scalars, which have no parts. -/
def equalScalar : Value → Value → Bool
  | nothing, nothing => true
  | float x, float y => x.eq y
  | complex a b, complex c d => a.eq c && b.eq d
  | complex a b, float y | float y, complex a b => a.eq y && b.isZero
  | bytes a, bytes b => a = b
  | style a, style b => a = b
  | group a, group b => a = b
  | output a, output b => a = b
  | revert a, revert b => a = b
  | color a, color b => a = b
  | constText a, constText b => a = b
  | brush a, brush b => a = b
  | family a, family b => a = b
  | resolution a, resolution b => a = b
  | settings a, settings b => a = b
  | path a, path b => a = b
  | moment a, moment b => a.same b
  | object a _ s, object b _ t => a = b && s = t
  | a, b =>
    match a.int?, b.int? with
    | some i, some j => i = j
    | some i, none => ofInt i b
    | none, some j => ofInt j a
    | none, none =>
      match a.text?, b.text? with
      | some s, some t => s = t
      | _, _ => false
where
  /-- Equality of a whole number with a number of another type. -/
  ofInt (i : Int) : Value → Bool
    | float x => x.eqInt i
    | complex re im => re.eqInt i && im.isZero
    | _ => false

mutual

/-- Equality of values, given when two cells are the same. -/
def equalWith (same : Nat → Nat → Bool) : Value → Value → Bool
  | list xs, list ys => equalAll same xs ys
  | tuple xs, tuple ys => equalAll same xs ys
  | set xs, set ys | set xs, openSet ys | openSet xs, set ys | openSet xs, openSet ys =>
    xs.length = ys.length && within same xs ys
  | dict xs, dict ys => xs.length = ys.length && entriesWithin same xs ys
  | list _, _ | tuple _, _ | set _, _ | openSet _, _ | dict _, _ => false
  | shade base bright p, shade base' bright' p' =>
    base = base' && p = p' && equalWith same bright bright'
  | shade base bright p, color (.basic base' bright' p') =>
    base = base' && p = p' && equalScalar bright (bool bright')
  | color (.basic base bright p), shade base' bright' p' =>
    base = base' && p = p' && equalScalar (bool bright) bright'
  | deferred .., _ => false
  | cell i, cell j => same i j
  | x, y => equalScalar x y

/-- Equality of items, one by one. -/
def equalAll (same : Nat → Nat → Bool) : List Value → List Value → Bool
  | [], [] => true
  | x :: xs, y :: ys => equalWith same x y && equalAll same xs ys
  | _, _ => false

/-- Whether every item equals one of the others. -/
def within (same : Nat → Nat → Bool) : List Value → List Value → Bool
  | [], _ => true
  | x :: xs, ys => ys.any (equalWith same x ·) && within same xs ys

/-- Whether every entry equals one of the others, in key and value. -/
def entriesWithin (same : Nat → Nat → Bool) : List (Value × Value) → List (Value × Value) → Bool
  | [], _ => true
  | (k, v) :: es, others =>
    others.any (fun (k', v') => equalWith same k k' && equalWith same v v')
      && entriesWithin same es others

end

/-- Equality of values without cells. -/
def equal (a b : Value) : Bool :=
  a.equalWith (fun i j => i = j) b

/-- The value of a key among entries, by an equality of keys. -/
def lookupBy (eq : Value → Value → Bool) (key : Value) (entries : List (Value × Value)) :
    Option Value :=
  (entries.find? fun (k, _) => eq key k).map Prod.snd

/-- Entries with a value for a key, by an equality of keys. A key that is there already keeps its
place. -/
def putEntryBy (eq : Value → Value → Bool) (key v : Value) :
    List (Value × Value) → List (Value × Value)
  | [] => [(key, v)]
  | (k, w) :: es => if eq k key then (k, v) :: es else (k, w) :: putEntryBy eq key v es

/-- The value of a key in a mapping. -/
def lookup? (key : Value) (entries : List (Value × Value)) : Option Value :=
  lookupBy equal key entries

/-- Entries with a value for a key. -/
def putEntry (key v : Value) (entries : List (Value × Value)) : List (Value × Value) :=
  putEntryBy equal key v entries

/-- Items, each once, by an equality of items. -/
def distinctBy (eq : Value → Value → Bool) (items : List Value) : List Value :=
  items.foldl (fun seen v => if seen.any (eq · v) then seen else seen ++ [v]) []

end Value

namespace Store

/-- Whether the contents of a cell say what it is equal to. -/
def isByContents : Value → Bool
  | .list _ | .dict _ => true
  | _ => false

/-- Whether two cells are one, or have equal contents, looking up no more than `fuel` of them one
inside another. -/
def sameCell (s : Store) : Nat → Nat → Nat → Bool
  | 0, i, j => i = j
  | fuel + 1, i, j =>
    i = j ||
      match s.get? i, s.get? j with
      | some a, some b =>
        isByContents a && isByContents b && a.equalWith (s.sameCell fuel) b
      | _, _ => false

/-- Whether two values are equal as parts of others. Two cells that are looked up again while they
are compared are compared without end, so a chain of lookups need not be longer than there are
pairs of cells. -/
def equalPart (s : Store) (a b : Value) : Bool :=
  a.equalWith (s.sameCell (s.cells.length * s.cells.length)) b

/-- Whether two values are equal. -/
def equal (s : Store) (a b : Value) : Bool :=
  !isUndefined (s.contents a) && s.equalPart a b

end Store

end Sgr
