import Sgr.Number.Power
import Sgr.Number.Reading
import Sgr.Value.Equal

/-!
# Items and members

A container gives an item for a key: texts, bytes, lists and tuples for a position, which counts
from the end if it is negative, and mappings for a key. Some values have members, which have a name.

## Main definitions

* `TextFault` — why a value has no text.
* `AccessError` — why there is no such part.
* `Value.item`, `Store.item` — the item of a key, without and with cells.
* `Value.getMember` — the member of a name.
* `Value.parts?` — all items of a container, in order.
* `Value.textFault?`, `Value.checkText` — the text of a value, unless a part of it has none.
-/

namespace Sgr

/-- Why a value has no text: a part of it is a mode that is no member of an enumeration, or a whole
number that is too long to be written. -/
inductive TextFault where
  | nameless (typeName : String)
  | unwritable
  deriving DecidableEq, Repr, Inhabited

namespace TextFault

/-- The text of a fault. -/
def message : TextFault → String
  | nameless typeName => "'" ++ typeName ++ "' object has no attribute 'value'"
  | unwritable =>
    "Exceeds the limit (" ++ Number.decimal Number.maxDigits
      ++ " digits) for integer string conversion; use sys.set_int_max_str_digits() to increase the "
      ++ "limit"

/-- The class of a fault. -/
def errorClass : TextFault → ErrorClass
  | nameless _ => .noAttribute
  | unwritable => .wrongValue

end TextFault

/-- Why a value has no such part. -/
inductive AccessError where
  | missing (key : Value)
  | itemRange (container : String)
  | itemSize
  | itemType (container typeName : String)
  | textItemType (typeName : String)
  | unhashable (typeName : String)
  | notSubscriptable (typeName : String)
  | noMember (typeName name : String)
  | noText (fault : TextFault)
  deriving Inhabited

namespace AccessError

/-- The text of an error. A missing key is shown as it is in a mapping. -/
def message : AccessError → String
  | missing key => key.repr
  | itemRange container => container ++ "index out of range"
  | itemSize => "cannot fit 'int' into an index-sized integer"
  | itemType container typeName =>
    container ++ " indices must be integers or slices, not " ++ typeName
  | textItemType typeName => "string indices must be integers, not '" ++ typeName ++ "'"
  | unhashable typeName => "unhashable type: '" ++ typeName ++ "'"
  | notSubscriptable typeName => "'" ++ typeName ++ "' object is not subscriptable"
  | noMember typeName name => "'" ++ typeName ++ "' object has no attribute '" ++ name ++ "'"
  | noText fault => fault.message

/-- The class of an error. -/
def errorClass : AccessError → ErrorClass
  | missing _ => .missingKey
  | itemRange _ | itemSize => .outOfRange
  | itemType .. | textItemType _ | unhashable _ | notSubscriptable _ => .wrongType
  | noMember .. => .noAttribute
  | noText fault => fault.errorClass

end AccessError

/-- Whether a position is within the reach of positions. -/
def isPosition (i : Int) : Bool :=
  -(Number.maxSigned : Int) - 1 ≤ i && i ≤ Number.maxSigned

/-- The place that a position picks among some; negative ones count from the end. -/
def placeOf? (count : Nat) (i : Int) : Option Nat :=
  let j := if i < 0 then i + count else i
  if 0 ≤ j ∧ j < count then some j.toNat else none

namespace Value

/-- The type of the first part of a value that keeps it from being a key. -/
def unhashable? : Value → Option String
  | list _ => some "list"
  | openSet _ => some "set"
  | dict _ => some "dict"
  | tuple items => firstIn items
  | shade _ bright _ => unhashable? bright
  | _ => none
where
  /-- The type of the first item that cannot be part of a key. -/
  firstIn : List Value → Option String
    | [] => none
    | v :: vs => (unhashable? v).orElse fun _ => firstIn vs

/-- The characters of a text as texts. -/
def characters (s : String) : List Value :=
  s.toList.map fun c => text c.toString

/-! ## Parts -/

/-- All items of a container, in order; those of a mapping are its keys. -/
def parts? : Value → Option (List Value)
  | text s => some (characters s)
  | sigil s => some (characters s.text)
  | bytes bs => some (bs.map fun b => int b.toNat)
  | list items | tuple items | set items | openSet items => some items
  | dict entries => some (entries.map Prod.fst)
  | _ => none

/-- An item at a position, or the error of its container. -/
def itemAt (container : String) (items : List Value) (i : Int) : Except AccessError Value :=
  if !isPosition i then .error .itemSize
  else match (placeOf? items.length i).bind (items[·]?) with
    | some v => .ok v
    | none => .error (.itemRange container)

/-- The value of a key among entries, by an equality of keys. -/
def entryOf (eq : Value → Value → Bool) (entries : List (Value × Value)) (key : Value) :
    Except AccessError Value :=
  match key.unhashable? with
  | some typeName => .error (.unhashable typeName)
  | none =>
    match lookupBy eq key entries with
    | some v => .ok v
    | none => .error (.missing key)

/-- The item of a key. -/
def item (v key : Value) : Except AccessError Value :=
  match v, key.int? with
  | text s, some i => itemAt "string " (characters s) i
  | sigil s, some i => itemAt "string " (characters s.text) i
  | text _, none | sigil _, none => .error (.textItemType key.typeName)
  | bytes bs, some i => itemAt "" (bs.map fun b => int b.toNat) i
  | bytes _, none => .error (.itemType "byte" key.typeName)
  | list items, some i => itemAt "list " items i
  | list _, none => .error (.itemType "list" key.typeName)
  | tuple items, some i => itemAt "tuple " items i
  | tuple _, none => .error (.itemType "tuple" key.typeName)
  | dict entries, _ => entryOf equal entries key
  | v, _ => .error (.notSubscriptable v.typeName)

/-- An offset as a value. -/
def offset : Option Int → Value
  | none => nothing
  | some minutes => object "datetime.timezone" (offsetName minutes) (offsetRepr minutes)

/-- A part of a moment. A day alone has no time. -/
def momentPart? (m : Moment) (name : String) : Option Value :=
  match name, m.clock with
  | "year", _ => some (int m.year)
  | "month", _ => some (int m.month)
  | "day", _ => some (int m.day)
  | "hour", some c => some (int c.hour)
  | "minute", some c => some (int c.minute)
  | "second", some c => some (int c.second)
  | "microsecond", some c => some (int c.fraction)
  | "tzinfo", some c => some (offset c.offset)
  | "fold", some _ => some (int 0)
  | _, _ => none

/-- A member of a value. Numbers have a real and an imaginary part, constant text has its text, a
moment has its counts and its offset, and a deferred text has its template and arguments. -/
def getMember (v : Value) (name : String) : Except AccessError Value :=
  match v, name with
  | float x, "real" => .ok (float x)
  | float _, "imag" => .ok (float Double.zero)
  | complex re _, "real" => .ok (float re)
  | complex _ im, "imag" => .ok (float im)
  | constText s, "text" => .ok (text s)
  | deferred template _ _, "template" => .ok template
  | deferred _ args _, "args" => .ok args
  | deferred _ _ named, "kwargs" => .ok named
  | moment m, name =>
    match momentPart? m name with
    | some part => .ok part
    | none => .error (.noMember v.typeName name)
  | v, name =>
    match v.int?, name with
    | some i, "real" => .ok (int i)
    | some _, "imag" => .ok (int 0)
    | _, _ => .error (.noMember v.typeName name)

/-! ## Texts -/

mutual

/-- What is wrong with the first part of a value that keeps it from having a text. Only a makeshift
brush can have a mode that is no member of an enumeration. -/
def textFault? : Value → Option TextFault
  | int i => if Number.isWritable i then none else some .unwritable
  | list items | tuple items | set items | openSet items => textFaultOfItems? items
  | dict entries => textFaultOfEntries? entries
  | deferred template args named =>
    textFault? template <|> textFault? args <|> textFault? named
  | shade _ bright _ => textFault? bright
  | makeshift name _ o r => textFault? name <|> nameless? o <|> nameless? r
  | _ => none
where
  /-- A mode that is no member of an enumeration. -/
  nameless? (v : Value) : Option TextFault :=
    if v.meaning?.isSome then none else some (.nameless v.typeName)

/-- The first such part of items. -/
def textFaultOfItems? : List Value → Option TextFault
  | [] => none
  | v :: vs => textFault? v <|> textFaultOfItems? vs

/-- The first such part of the entries of a mapping. -/
def textFaultOfEntries? : List (Value × Value) → Option TextFault
  | [] => none
  | (k, v) :: es => textFault? k <|> textFault? v <|> textFaultOfEntries? es

end

/-- The text of a value that has one. -/
def checkText (v : Value) (shown : String) : Except AccessError String :=
  match v.textFault? with
  | some fault => .error (.noText fault)
  | none => .ok shown

end Value

/-- The item of a key. Keys of a mapping are compared as they are. -/
def Store.item (s : Store) (v key : Value) : Except AccessError Value :=
  match s.contents v with
  | .dict entries =>
    match (s.view key).unhashable? with
    | some typeName => .error (.unhashable typeName)
    | none =>
      match Value.lookupBy s.equalPart key entries with
      | some x => .ok x
      | none => .error (.missing (s.view key))
  | v => v.item (s.contents key)

end Sgr
