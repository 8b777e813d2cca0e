import Sgr.Brush.Makeshift
import Sgr.Value.Member

/-!
# Joining and changing values

Lists and mappings can be changed in place, and so can the parts of deferred texts and of brushes.
A change of a value's cell shows in every value that mentions it.

## Main definitions

* `EditError` — why a value cannot be joined, measured or changed.
* `Value.length`, `Value.add`, `Value.join` — the length of a value, a sum, and two values as one.
* `Store.append`, `Store.put`, `Store.setMember` — the changes.
-/

namespace Sgr

/-- Why a value cannot be joined, measured or changed. -/
inductive EditError where
  | noLength (typeName : String)
  | cannotConcat (container typeName : String)
  | cannotAdd (left right : String)
  | intTooLarge
  | noAppend (typeName : String)
  | noItems (typeName : String)
  | indexRange
  | access (e : AccessError)
  | member (e : MemberError)
  deriving Inhabited

namespace EditError

/-- The text of an error. -/
def message : EditError → String
  | noLength typeName => "object of type '" ++ typeName ++ "' has no len()"
  | cannotConcat "bytes" typeName => "can't concat " ++ typeName ++ " to bytes"
  | cannotConcat container typeName =>
    "can only concatenate " ++ container ++ " (not \"" ++ typeName ++ "\") to " ++ container
  | cannotAdd left right =>
    "unsupported operand type(s) for +: '" ++ left ++ "' and '" ++ right ++ "'"
  | intTooLarge => "int too large to convert to float"
  | noAppend typeName => "'" ++ typeName ++ "' object has no attribute 'append'"
  | noItems typeName => "'" ++ typeName ++ "' object does not support item assignment"
  | indexRange => "list assignment index out of range"
  | access e => e.message
  | member e => e.message

/-- The class of an error. -/
def errorClass : EditError → ErrorClass
  | noAppend _ => .noAttribute
  | indexRange => .outOfRange
  | intTooLarge => .overflow
  | access e => e.errorClass
  | member e => e.errorClass
  | noLength _ | cannotConcat .. | cannotAdd .. | noItems _ => .wrongType

end EditError

namespace Value

/-- The number of parts of a value. -/
def length : Value → Except EditError Nat
  | text s | constText s => .ok s.length
  | sigil _ => .ok 1
  | bytes bs => .ok bs.length
  | list items | tuple items | set items | openSet items => .ok items.length
  | dict entries => .ok entries.length
  | v => .error (.noLength v.typeName)

/-- The real and the imaginary part of a number. -/
def realImaginary? : Value → Option (Double × Double)
  | complex re im => some (re, im)
  | float x => some (x, Double.zero)
  | v => v.int?.map fun i => (Double.ofInt i, Double.zero)

/-- Whether a value is a whole number beyond the greatest fraction. -/
def isTooLarge (v : Value) : Bool :=
  match v.int?.map Double.ofInt with
  | some (.infinite _) => true
  | _ => false

/-- Whether a number has an imaginary part. -/
def isComplex : Value → Bool
  | complex .. => true
  | _ => false

/-- The sum of two numbers. It is whole if both are, and a fraction unless one is complex. -/
def add (a b : Value) : Except EditError Value :=
  match a.int?, b.int? with
  | some i, some j => .ok (int (i + j))
  | _, _ =>
    match a.realImaginary?, b.realImaginary? with
    | some (re, im), some (re', im') =>
      if a.isTooLarge || b.isTooLarge then .error .intTooLarge
      else if a.isComplex || b.isComplex then .ok (complex (re.add re') (im.add im'))
      else .ok (float (re.add re'))
    | _, _ => .error (.cannotAdd a.typeName b.typeName)

/-- Two values as one. Constant text cannot be joined to plain text. -/
def join (a b : Value) : Except EditError Value :=
  match a, b with
  | list xs, list ys => .ok (list (xs ++ ys))
  | tuple xs, tuple ys => .ok (tuple (xs ++ ys))
  | bytes xs, bytes ys => .ok (bytes (xs ++ ys))
  | list _, b => .error (.cannotConcat "list" b.typeName)
  | tuple _, b => .error (.cannotConcat "tuple" b.typeName)
  | bytes _, b => .error (.cannotConcat "bytes" b.typeName)
  | a, b =>
    match a.text?, b.text? with
    | some s, some t => .ok (text (s ++ t))
    | some _, none => .error (.cannotConcat "str" b.typeName)
    | none, _ => a.add b

end Value

namespace Store

/-- Adds an item to the end of a list. -/
def append (s : Store) (target item : Value) : Except EditError Store :=
  match target, s.contents target with
  | .cell id, .list items => .ok (s.update id (.list (items ++ [item])))
  | _, v => .error (.noAppend v.typeName)

/-- Sets the value of a key of a mapping, or an item of a list. -/
def put (s : Store) (target key item : Value) : Except EditError Store :=
  match target, s.contents target with
  | .cell id, .dict entries =>
    match (s.view key).unhashable? with
    | some typeName => .error (.access (.unhashable typeName))
    | none => .ok (s.update id (.dict (Value.putEntryBy s.equalPart key item entries)))
  | .cell id, .list items =>
    match key.int? with
    | none => .error (.access (.itemType "list" (s.contents key).typeName))
    | some i =>
      if !isPosition i then .error (.access .itemSize)
      else match placeOf? items.length i with
        | some n => .ok (s.update id (.list (items.set n item)))
        | none => .error .indexRange
  | _, v => .error (.noItems v.typeName)

/-- Sets a member of a value. The parts of a deferred text and of a brush that was made from another
one change; any other member that can be set has no meaning. -/
def setMember (s : Store) (target : Value) (name : String) (item : Value) :
    Except EditError Store :=
  match (s.contents target).refusal? name with
  | some e => .error (.member e)
  | none =>
    match target, s.contents target with
    | .cell id, .deferred template args named =>
      .ok <| s.update id <|
        match name with
        | "template" => .deferred item args named
        | "args" => .deferred template item named
        | _ => .deferred template args item
    | .cell id, v =>
      match v.brushParts? with
      | some p => .ok (s.update id (p.replace name item).value)
      | none => .ok s
    | _, _ => .ok s

end Store

end Sgr
