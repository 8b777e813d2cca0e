import Sgr.Moment
import Sgr.Number.Reading

/-!
# Moments under a pattern

A pattern is a text with directives, which say what is shown of a moment. A directive is a percent
sign, flags, a least width, a letter that asks for another form of some parts, and the letter of a
part. The flags say with what a part is filled up to its width, and whether its letters are changed.
What is no directive is shown as it is spelled, in the width that it asks for.

The offset, its name and the fraction of the second are put in first, and only where their letter
stands right behind the percent sign. What was put in takes part in the pattern.

A text that is far longer than its pattern is not shown at all.

## Main definitions

* `Moment.Directive`, `Moment.readDirective` — a directive, and how it is read.
* `Moment.Part`, `Moment.partOf?` — a part of a moment, and the one of a directive.
* `Moment.format` — a moment under a pattern.
-/

namespace Sgr.Moment

/-! ## Directives -/

/-- A directive. Its last letter is missing at the end of a pattern; `spelled` is all of it. -/
structure Directive where
  fill : Option Char
  capitals : Bool
  swaps : Bool
  width : Nat
  form : Option Char
  letter : Option Char
  spelled : List Char
  deriving DecidableEq, Repr, Inhabited

/-- Whether a character is a flag. -/
def isFlag (c : Char) : Bool :=
  ['_', '-', '0', '^', '#'].contains c

/-- Whether a flag says with what a part is filled up. -/
def isFill (c : Char) : Bool :=
  c = '_' || c = '-' || c = '0'

/-- A letter for another form in front of characters, and what follows it. -/
def readForm : List Char → Option Char × List Char
  | c :: cs => if c = 'E' || c = 'O' then (some c, cs) else (none, c :: cs)
  | [] => (none, [])

/-- A directive behind its percent sign, and what follows it. Widths from `most` on are alike. -/
def readDirective (most : Nat) (cs : List Char) : Directive × List Char :=
  let flags := cs.takeWhile isFlag
  let digits := (cs.dropWhile isFlag).takeWhile Char.isDigit
  let (form, rest) := readForm ((cs.dropWhile isFlag).dropWhile Char.isDigit)
  ({ fill := (flags.filter isFill).getLast?
     capitals := flags.contains '^'
     swaps := flags.contains '#'
     width := min most (Number.ofDigitChars digits)
     form
     letter := rest.head?
     spelled := '%' :: cs.take (cs.length - rest.tail.length) },
   rest.tail)

/-! ## Parts -/

/-- What a directive shows: a number with at least so many digits, which may be filled up by spaces,
a name, whose letters can be changed, the half of the day, which can only get small letters, a text
that stays as it is, a moment under a pattern of its own, a gap of the width unless it is not to be
filled up, or nothing in any width. -/
inductive Part where
  | count (digits : Nat) (spaces : Bool) (n : Int)
  | name (s : String)
  | half (s : String)
  | fixed (s : String)
  | pattern (s : String)
  | gap
  | nothing
  deriving DecidableEq, Repr, Inhabited

/-- The names of the days of the week, from Sunday on. -/
def dayNames : List String :=
  ["Sunday", "Monday", "Tuesday", "Wednesday", "Thursday", "Friday", "Saturday"]

/-- The names of the months. -/
def monthNames : List String :=
  ["January", "February", "March", "April", "May", "June", "July", "August", "September", "October",
   "November", "December"]

/-- A name with its first three letters only. -/
def short (name : String) : String :=
  String.ofList (name.toList.take 3)

/-- The time of a moment, which is midnight for a day alone. -/
def time (m : Moment) : Clock :=
  m.clock.getD ⟨0, 0, 0, 0, none⟩

/-- The hour on a clock with twelve hours. -/
def hour12 (m : Moment) : Nat :=
  (m.time.hour + 11) % 12 + 1

/-- The half of the day. -/
def half (m : Moment) : String :=
  if m.time.hour < 12 then "AM" else "PM"

/-- The number of the week of a year that starts with its first day of a certain kind. The days
before it are in week zero. `since` counts the days since the last day of that kind. -/
def weekFrom (m : Moment) (since : Nat) : Nat :=
  (m.yearDay + 6 - since) / 7

/-- The days since the last Monday. -/
def sinceMonday (m : Moment) : Nat :=
  (m.weekday + 6) % 7

/-- How many days a day is behind the Monday of the first week of a year, if weeks belong to the
year of their Thursday. `yearDay` counts from the first day of that year. -/
def daysIntoWeeks (yearDay weekday : Int) : Int :=
  yearDay - (yearDay - weekday + 4) % 7 + 3

/-- The year that the week of a day belongs to, and the number of the week. -/
def weekOfYear (m : Moment) : Nat × Int :=
  let yearDay : Int := m.yearDay - 1
  let days := daysIntoWeeks yearDay m.weekday
  if days < 0 then
    let year := m.year - 1
    (year, daysIntoWeeks (yearDay + yearLength year) m.weekday / 7 + 1)
  else
    let behind := daysIntoWeeks (yearDay - yearLength m.year) m.weekday
    if 0 ≤ behind then (m.year + 1, behind / 7 + 1) else (m.year, days / 7 + 1)

/-- The number of the day with which the count of seconds starts. -/
def epochDay : Nat := 719163

/-- The seconds since the start of their count, not looking at the offset. -/
def seconds (m : Moment) : Int :=
  ((m.dayNumber : Int) - epochDay) * 86400
    + ((m.time.hour * 60 + m.time.minute) * 60 + m.time.second : Nat)

/-- The part that a letter shows. -/
def partOf? (m : Moment) (letter : Char) : Option Part :=
  let number (digits : Nat) (n : Nat) : Option Part := some (.count digits false n)
  let spaced (n : Nat) : Option Part := some (.count 2 true n)
  let dayName := dayNames.getD m.weekday ""
  let monthName := monthNames.getD (m.month - 1) ""
  match letter with
  | 'a' => some (.name (short dayName))
  | 'A' => some (.name dayName)
  | 'b' | 'h' => some (.name (short monthName))
  | 'B' => some (.name monthName)
  | 'c' => some (.pattern "%a %b %e %H:%M:%S %Y")
  | 'C' => number 1 (m.year / 100)
  | 'd' => number 2 m.day
  | 'D' | 'x' => some (.pattern "%m/%d/%y")
  | 'e' => spaced m.day
  | 'F' => some (.pattern "%Y-%m-%d")
  | 'g' => number 2 (m.weekOfYear.1 % 100)
  | 'G' => number 1 m.weekOfYear.1
  | 'H' => number 2 m.time.hour
  | 'I' => number 2 m.hour12
  | 'j' => number 3 m.yearDay
  | 'k' => spaced m.time.hour
  | 'l' => spaced m.hour12
  | 'm' => number 2 m.month
  | 'M' => number 2 m.time.minute
  | 'n' => some (.fixed "\n")
  | 'p' => some (.half m.half)
  | 'P' => some (.fixed m.half.toLower)
  | 'r' => some (.pattern "%I:%M:%S %p")
  | 'R' => some (.pattern "%H:%M")
  | 's' => some (.fixed (Number.decimal m.seconds))
  | 'S' => number 2 m.time.second
  | 't' => some (.fixed "\t")
  | 'T' | 'X' => some (.pattern "%H:%M:%S")
  | 'u' => number 1 (m.sinceMonday + 1)
  | 'U' => number 2 (m.weekFrom m.weekday)
  | 'V' => some (.count 2 false m.weekOfYear.2)
  | 'w' => number 1 m.weekday
  | 'W' => number 2 (m.weekFrom m.sinceMonday)
  | 'y' => number 2 (m.year % 100)
  | 'Y' => number 1 m.year
  | 'z' => some .nothing
  | 'Z' => some .gap
  | '%' => some (.fixed "%")
  | _ => none

/-- Whether a letter has the form that was asked for, which never looks different. -/
def allows (letter : Char) : Option Char → Bool
  | none => true
  | some form =>
    let letters :=
      if form = 'E' then "cnprstuxyzCPRTXYZ%" else "bdeghjklmnprstuwyzBCGHIMPRSTUVWZ%"
    letters.contains letter

/-- The part of a directive. -/
def Directive.part? (d : Directive) (m : Moment) : Option Part :=
  d.letter.bind fun letter => if allows letter d.form then m.partOf? letter else none

/-! ## Showing -/

namespace Directive

/-- A text in the width of a directive. -/
def inWidth (d : Directive) (cs : List Char) : List Char :=
  List.replicate (d.width - cs.length) (if d.fill = some '0' then '0' else ' ') ++ cs

/-- What a directive that shows no part is spelled like. The letters of one that asks for another
form of the name of a month are changed like those of a name. -/
def spelling (d : Directive) : List Char :=
  if d.capitals || d.swaps && (d.letter = some 'b' || d.letter = some 'h') then
    d.spelled.map Text.upperChar
  else d.spelled

/-- A number with at least so many digits, in the width of a directive. -/
def showCount (d : Directive) (digits : Nat) (spaces : Bool) (n : Int) : List Char :=
  let cs := (Number.decimal n).toList
  let inSpaces := d.fill = some '_' || spaces && d.fill ≠ some '0'
  if d.fill = some '-' then List.replicate (d.width - cs.length) ' ' ++ cs
  else
    List.replicate (max digits d.width - cs.length) (if inSpaces then ' ' else '0') ++ cs

/-- A part under a directive, given how a moment is shown under a pattern. -/
def showPart (d : Directive) (nested : List Char → List Char) : Part → List Char
  | .count digits spaces n => d.showCount digits spaces n
  | .name s => d.inWidth (if d.capitals || d.swaps then s.toList.map Char.toUpper else s.toList)
  | .half s => d.inWidth (if d.swaps then s.toList.map Char.toLower else s.toList)
  | .fixed s => d.inWidth s.toList
  | .pattern s =>
    let cs := nested s.toList
    d.inWidth (if d.capitals then cs.map Char.toUpper else cs)
  | .gap => if d.fill = some '-' then [] else d.inWidth []
  | .nothing => []

end Directive

/-- A moment under a pattern, of which no more than `fuel` parts are read. Widths from `most` on are
all alike. -/
def showPattern (m : Moment) (most : Nat) (nested : List Char → List Char) :
    Nat → List Char → List Char
  | 0, _ | _, [] => []
  | fuel + 1, '%' :: cs =>
    let (d, rest) := readDirective most cs
    let shown :=
      match d.part? m with
      | some part => d.showPart nested part
      | none => d.inWidth d.spelling
    shown ++ showPattern m most nested fuel rest
  | fuel + 1, c :: cs => c :: showPattern m most nested fuel cs

/-- The offset of a moment as a pattern shows it. -/
def offsetDigits (minutes : Int) : String :=
  (if minutes < 0 then "-" else "+") ++ paddedCount 2 (minutes.natAbs / 60)
    ++ paddedCount 2 (minutes.natAbs % 60)

/-- What stands for a letter right behind a percent sign from the start. -/
def inserted? (m : Moment) (letter : Char) : Option String :=
  match letter with
  | 'z' => some ((m.time.offset.map offsetDigits).getD "")
  | 'Z' => some ((m.time.offset.map offsetName).getD "")
  | 'f' => some (paddedCount 6 m.time.fraction)
  | _ => none

/-- A pattern with the offset, its name and the fraction of the second put in. It ends in front of
the first null character. -/
def insert (m : Moment) : List Char → List Char
  | [] => []
  | ['%'] => ['%']
  | '%' :: c :: cs =>
    if c = '\x00' then ['%']
    else
      match m.inserted? c with
      | some s => s.toList ++ insert m cs
      | none => '%' :: c :: insert m cs
  | c :: cs => if c = '\x00' then [] else c :: insert m cs

/-- A size doubled until it reaches another one, at most `fuel` times. -/
def doubledUpTo (goal : Nat) : Nat → Nat → Nat
  | 0, size => size
  | fuel + 1, size => if goal ≤ size then size else doubledUpTo goal fuel (2 * size)

/-- The size that the text of a pattern must stay below. -/
def mostFor (length : Nat) : Nat :=
  doubledUpTo (256 * length) length 1024

/-- A moment under a pattern. -/
def format (m : Moment) (pattern : List Char) : String :=
  let pattern := m.insert pattern
  let most := mostFor pattern.length
  let nested (cs : List Char) := m.showPattern most (fun _ => []) cs.length cs
  let shown := m.showPattern most nested pattern.length pattern
  String.ofList (if shown.length < most then shown else [])

end Sgr.Moment
