import Sgr.Number.Double
import Sgr.Number.Radix
import Sgr.Text.Blank
import Sgr.Text.Case
import Sgr.Text.Digit
import Sgr.Text.Quoted

/-!
# Reading numbers

A number may have blanks around it, a sign in front, decimal digits of any script, and single
underscores between digits. The blanks around a number are fewer than elsewhere: the information
separators are none of them.

## Main definitions

* `readInt` — a whole number, of at most `maxDigits` digits.
* `isWritable` — whether a whole number has so few digits.
* `readDouble?` — a decimal fraction with an optional exponent, an infinity or the undefined value.
-/

namespace Sgr.Number

open Sgr.Text

/-- The most digits that a whole number may be written with. -/
def maxDigits : Nat := 4300

/-- Whether a whole number can be written: it has no more digits than that. -/
def isWritable (i : Int) : Bool :=
  (digits 10 i.natAbs).length ≤ maxDigits

/-- Why a text is no whole number. -/
inductive IntFault where
  | malformed
  | tooLong (count : Nat)
  deriving DecidableEq, Repr, Inhabited

/-- How much of a quoted text is shown that should have been a number. -/
def shownLiteral : Nat := 200

/-- The text of a fault of a text that was read in a base. -/
def IntFault.message (base : Nat) (text : String) : IntFault → String
  | malformed =>
    "invalid literal for int() with base " ++ decimal base ++ ": "
      ++ String.ofList ((quoteChars text.toList).take shownLiteral)
  | tooLong count =>
    "Exceeds the limit (" ++ decimal maxDigits
      ++ " digits) for integer string conversion: value has " ++ decimal count
      ++ " digits; use sys.set_int_max_str_digits() to increase the limit"

/-- A blank that may stand beside a number. -/
def isNumberBlank (c : Char) : Bool :=
  isBlank c && !(0x1C ≤ c.toNat && c.toNat ≤ 0x1F)

/-- The blanks at the start are skipped. -/
def skipBlanks (cs : List Char) : List Char :=
  cs.dropWhile isNumberBlank

/-- A sign in front, and whether it is a minus. -/
def readSign : List Char → Bool × List Char
  | '-' :: r => (true, r)
  | '+' :: r => (false, r)
  | cs => (false, cs)

/-- Reads decimal digits with single underscores between them: the number so far, the count of its
digits, and the rest. An underscore must be followed by a digit; so must be the start. -/
def digitRun (wantsDigit : Bool) (n count : Nat) : List Char → Option (Nat × Nat × List Char)
  | [] => if wantsDigit then none else some (n, count, [])
  | c :: r =>
    match decimalValue? c with
    | some d => digitRun false (n * 10 + d) (count + 1) r
    | none =>
      if wantsDigit then none
      else if c = '_' then digitRun true n count r
      else some (n, count, c :: r)

/-- A whole number. That its digits are too many is noticed before anything wrong behind them. -/
def readInt (s : String) : Except IntFault Int :=
  let (negative, cs) := readSign (skipBlanks s.toList)
  match digitRun true 0 0 cs with
  | none => .error .malformed
  | some (n, count, rest) =>
    if maxDigits < count then .error (.tooLong count)
    else if rest.all isNumberBlank then .ok (if negative then -n else n)
    else .error .malformed

/-- A character with a decimal digit of any script written as the ASCII digit. -/
def plainDigit (c : Char) : Char :=
  match decimalValue? c with
  | some d => Char.ofNat ('0'.toNat + d)
  | none => c

/-- Whether every underscore stands between two digits. The flag says whether the character in front
is a digit. -/
def marksBetweenDigits (afterDigit : Bool) : List Char → Bool
  | [] => true
  | '_' :: r => afterDigit && (r.head?.any Char.isDigit) && marksBetweenDigits false r
  | c :: r => marksBetweenDigits c.isDigit r

/-- The number that a run of ASCII digits denotes. -/
def ofDigitChars (cs : List Char) : Nat :=
  cs.foldl (fun n c => n * 10 + (c.toNat - '0'.toNat)) 0

/-- The exponent at the end of a decimal fraction; without one it is zero. -/
def readExponent? : List Char → Option Int
  | [] => some 0
  | c :: r =>
    if c = 'e' ∨ c = 'E' then
      let (negative, ds) := readSign r
      if ds.isEmpty || !ds.all Char.isDigit then none
      else some (if negative then -(ofDigitChars ds : Int) else ofDigitChars ds)
    else none

/-- A decimal fraction without a sign: digits, a point, digits, of which one must be there, and an
exponent. -/
def readDecimal? (negative : Bool) (cs : List Char) : Option Double :=
  let whole := cs.takeWhile Char.isDigit
  let (part, rest) :=
    match cs.dropWhile Char.isDigit with
    | '.' :: r => (r.takeWhile Char.isDigit, r.dropWhile Char.isDigit)
    | r => ([], r)
  if whole.isEmpty && part.isEmpty then none
  else (readExponent? rest).map fun e =>
    Double.ofDecimal negative (ofDigitChars (whole ++ part)) (e - part.length)

/-- A number of double precision. -/
def readDouble? (s : String) : Option Double :=
  let cs := ((skipBlanks (skipBlanks s.toList).reverse).reverse).map plainDigit
  if !marksBetweenDigits false cs then none
  else
    let (negative, cs) := readSign (cs.filter (· ≠ '_'))
    match String.ofList (cs.map Char.toLower) with
    | "nan" => some .undefined
    | "inf" => some (.infinite negative)
    | "infinity" => some (.infinite negative)
    | _ => readDecimal? negative cs

end Sgr.Number
