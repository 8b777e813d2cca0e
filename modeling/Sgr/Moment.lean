import Sgr.Number.Layout
import Sgr.Text.Listing

/-!
# Days and moments

A moment is a day, and perhaps a time of that day, which may be given with its offset from the
general time. Days are counted from the first day of the first year on, which was a Monday.

Two moments with an offset are the same if they are the same in general time. One with an offset and
one without are never the same, and neither are a day and a time of it.

## Main definitions

* `Clock`, `Moment` — a time of a day, and a moment.
* `Moment.dayNumber`, `Moment.yearDay`, `Moment.weekday` — where a day stands among all days, in its
  year, and in its week.
* `Moment.same` — whether two moments are the same.
* `Moment.text`, `Moment.repr` — a moment as it is shown, and as messages show it.
-/

namespace Sgr

/-- A time of a day. The fraction of the second is in millionths; an offset is in minutes. -/
structure Clock where
  hour : Nat
  minute : Nat
  second : Nat
  fraction : Nat
  offset : Option Int
  deriving DecidableEq, Repr, Inhabited

/-- A day, and perhaps a time of that day. -/
structure Moment where
  year : Nat
  month : Nat
  day : Nat
  clock : Option Clock
  deriving DecidableEq, Repr, Inhabited

/-! ## The calendar -/

/-- Whether a year has a day more. -/
def isLeap (year : Nat) : Bool :=
  year % 4 = 0 && (year % 100 ≠ 0 || year % 400 = 0)

/-- The number of days of a year. -/
def yearLength (year : Nat) : Nat :=
  if isLeap year then 366 else 365

/-- The number of days of a month. -/
def monthLength (year month : Nat) : Nat :=
  if month = 2 then if isLeap year then 29 else 28
  else if month ∈ [4, 6, 9, 11] then 30
  else 31

/-- The number of days of the months up to one. -/
def monthsLength (year : Nat) : Nat → Nat
  | 0 => 0
  | month + 1 => monthsLength year month + monthLength year (month + 1)

/-- A year has the days of its twelve months. -/
theorem monthsLength_twelve (year : Nat) : monthsLength year 12 = yearLength year := by
  cases h : isLeap year <;> simp [monthsLength, monthLength, yearLength, h]

/-- The number of days of the years in front of one. -/
def daysBefore (year : Nat) : Nat :=
  let n := year - 1
  n * 365 + n / 4 - n / 100 + n / 400

namespace Moment

/-- How many days of the year are over with the day of a moment. -/
def yearDay (m : Moment) : Nat :=
  monthsLength m.year (m.month - 1) + m.day

/-- The number of the day of a moment, from one on. -/
def dayNumber (m : Moment) : Nat :=
  daysBefore m.year + m.yearDay

/-- The day of the week, from zero for a Sunday on. -/
def weekday (m : Moment) : Nat :=
  m.dayNumber % 7

/-- The minutes up to a time of the day of a moment, in general time if there is an offset. -/
def minutes (m : Moment) (c : Clock) : Int :=
  ((m.dayNumber * 24 + c.hour) * 60 + c.minute : Nat) - c.offset.getD 0

/-- Whether two moments are the same. -/
def same (a b : Moment) : Bool :=
  match a.clock, b.clock with
  | none, none => a.dayNumber = b.dayNumber
  | some c, some d =>
    c.offset.isSome = d.offset.isSome && a.minutes c = b.minutes d && c.second = d.second
      && c.fraction = d.fraction
  | _, _ => false

theorem same_self (m : Moment) : m.same m = true := by
  unfold same
  cases m.clock <;> simp

end Moment

/-! ## Texts -/

/-- A count with at least a number of digits. -/
def paddedCount (width n : Nat) : String :=
  String.ofList (Number.padZeros width (Number.digits 10 n))

/-- An offset as a moment shows it. -/
def offsetText (minutes : Int) : String :=
  (if minutes < 0 then "-" else "+") ++ paddedCount 2 (minutes.natAbs / 60) ++ ":"
    ++ paddedCount 2 (minutes.natAbs % 60)

/-- The name of an offset. -/
def offsetName (minutes : Int) : String :=
  if minutes = 0 then "UTC" else "UTC" ++ offsetText minutes

/-- A span of minutes as messages show it: whole days, of which there may be less than none, and
seconds. -/
def spanText (minutes : Int) : String :=
  let days := minutes / 1440
  let seconds := minutes % 1440 * 60
  let parts :=
    (if days = 0 then [] else ["days=" ++ Number.decimal days])
      ++ (if seconds = 0 then [] else ["seconds=" ++ Number.decimal seconds])
  "datetime.timedelta(" ++ (if parts.isEmpty then "0" else Text.commaList parts) ++ ")"

/-- An offset as messages show it. -/
def offsetRepr (minutes : Int) : String :=
  if minutes = 0 then "datetime.timezone.utc"
  else "datetime.timezone(" ++ spanText minutes ++ ")"

namespace Clock

/-- A time as a moment shows it. -/
def text (c : Clock) : String :=
  paddedCount 2 c.hour ++ ":" ++ paddedCount 2 c.minute ++ ":" ++ paddedCount 2 c.second
    ++ (if c.fraction = 0 then "" else "." ++ paddedCount 6 c.fraction)
    ++ (c.offset.map offsetText).getD ""

/-- The numbers of a time: without the fraction of the second if it is zero, and without the second
if that is zero too. -/
def counts (c : Clock) : List Nat :=
  [c.hour, c.minute] ++
    (if c.fraction ≠ 0 then [c.second, c.fraction] else if c.second ≠ 0 then [c.second] else [])

end Clock

namespace Moment

/-- The name of the type of a moment. -/
def typeName (m : Moment) : String :=
  if m.clock.isSome then "datetime" else "date"

/-- A day as it is shown. -/
def dayText (m : Moment) : String :=
  paddedCount 4 m.year ++ "-" ++ paddedCount 2 m.month ++ "-" ++ paddedCount 2 m.day

/-- A moment as it is shown. -/
def text (m : Moment) : String :=
  match m.clock with
  | none => m.dayText
  | some c => m.dayText ++ " " ++ c.text

/-- A moment as messages show it. -/
def repr (m : Moment) : String :=
  let counts := [m.year, m.month, m.day] ++ (m.clock.map Clock.counts).getD []
  let zone := (m.clock.bind (·.offset)).map fun minutes => "tzinfo=" ++ offsetRepr minutes
  "datetime." ++ m.typeName
    ++ Text.parenthesized ((counts.map fun (n : Nat) => Number.decimal n) ++ zone.toList)

end Moment

end Sgr
