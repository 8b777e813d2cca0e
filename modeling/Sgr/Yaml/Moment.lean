import Sgr.Value
import Sgr.Yaml.Cursor

/-!
# Moments in a document

A moment is written as a day, and perhaps a time of that day, which may be given with its offset
from the general time. Not every day and time that can be written exists.

## Main definitions

* `Yaml.readMoment?` — a moment as it is written.
* `Yaml.isPlainMoment` — whether a plain scalar is one.
* `Yaml.momentValue` — the value of a moment that exists.
-/

namespace Sgr.Yaml

/-! ## Reading -/

/-- A count of one or two digits, and what follows it. -/
def shortCount? : List Char → Option (Nat × List Char)
  | a :: b :: cs =>
    if !a.isDigit then none
    else if b.isDigit then some (Number.ofDigitChars [a, b], cs)
    else some (Number.ofDigitChars [a], b :: cs)
  | [a] => if a.isDigit then some (Number.ofDigitChars [a], []) else none
  | [] => none

/-- A count of a number of digits, and what follows it. -/
def count? (n : Nat) (cs : List Char) : Option (Nat × List Char) :=
  let ds := cs.take n
  if ds.length = n && ds.all Char.isDigit then some (Number.ofDigitChars ds, cs.drop n) else none

/-- What follows a character. -/
def behind? (c : Char) : List Char → Option (List Char)
  | d :: cs => if d = c then some cs else none
  | [] => none

/-- The fraction of a second in millionths, of which further digits do not count, and what follows
it. -/
def readFraction : List Char → Nat × List Char
  | '.' :: cs =>
    let ds := cs.takeWhile Char.isDigit
    (Number.ofDigitChars ((ds ++ List.replicate 6 '0').take 6), cs.drop ds.length)
  | cs => (0, cs)

/-- An offset, behind spaces, at the end. Without one there is nothing. -/
def readOffset? (cs : List Char) : Option (Option Int) :=
  if cs.isEmpty then some none
  else
    match cs.dropWhile isSpace with
    | ['Z'] => some (some 0)
    | sign :: cs => do
      if sign ≠ '+' && sign ≠ '-' then none
      let (hours, cs) ← shortCount? cs
      let minutes ←
        match cs with
        | [] => some 0
        | ':' :: cs => (count? 2 cs).bind fun (n, rest) => if rest.isEmpty then some n else none
        | _ => none
      let span : Int := hours * 60 + minutes
      return some (if sign = '-' then -span else span)
    | [] => none

/-- What follows the mark between a day and a time. -/
def behindDay? : List Char → Option (List Char)
  | c :: cs =>
    if c = 'T' || c = 't' then some cs
    else if isSpace c then some (cs.dropWhile isSpace)
    else none
  | [] => none

/-- A time of a day. -/
def readClock? (cs : List Char) : Option Clock := do
  let (hour, cs) ← shortCount? cs
  let (minute, cs) ← count? 2 (← behind? ':' cs)
  let (second, cs) ← count? 2 (← behind? ':' cs)
  let (fraction, cs) := readFraction cs
  return { hour, minute, second, fraction, offset := ← readOffset? cs }

/-- A moment. -/
def readMoment? (cs : List Char) : Option Moment := do
  let (year, cs) ← count? 4 cs
  let (month, cs) ← shortCount? (← behind? '-' cs)
  let (day, cs) ← shortCount? (← behind? '-' cs)
  if cs.isEmpty then return { year, month, day, clock := none }
  else return { year, month, day, clock := some (← readClock? (← behindDay? cs)) }

/-- Whether characters are a moment. A day alone has two digits for the month and for the day. -/
def isPlainMoment (cs : List Char) : Bool :=
  (readMoment? cs).any fun m => m.clock.isSome || cs.length = 10

/-! ## Values -/

/-- What is wrong with the offset of a time. -/
def offsetFault? (c : Clock) : Option MomentFault :=
  c.offset.bind fun minutes => if 1440 ≤ minutes.natAbs then some (.offset minutes) else none

/-- What is wrong with a time of the day. -/
def clockFault? (c : Clock) : Option MomentFault :=
  if 23 < c.hour then some .hour
  else if 59 < c.minute then some .minute
  else if 59 < c.second then some .second
  else none

/-- What is wrong with a day. -/
def dayFault? (m : Moment) : Option MomentFault :=
  if m.year = 0 then some (.year m.year)
  else if m.month = 0 || 12 < m.month then some .month
  else if m.day = 0 || monthLength m.year m.month < m.day then some .day
  else none

/-- What is wrong with a moment: its offset, its day, or its time. -/
def momentFault? (m : Moment) : Option MomentFault :=
  (m.clock.bind offsetFault?).or ((dayFault? m).or (m.clock.bind clockFault?))

/-- A moment as a value, if it exists. -/
def momentValue (m : Moment) : Except MomentFault Value :=
  match momentFault? m with
  | some f => .error f
  | none => .ok (.moment m)

end Sgr.Yaml
