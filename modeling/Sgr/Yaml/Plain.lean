import Sgr.Number.Radix
import Sgr.Yaml.Moment
import Sgr.Yaml.Node

/-!
# Tags of plain scalars

A plain scalar without a tag gets one from its spelling: it may look like a truth value, like
nothing, like a number or like a moment, and is a text otherwise.

## Main definitions

* `Yaml.Tag.ofPlain` — the tag of a plain scalar.
-/

namespace Sgr.Yaml

/-- The words that stand for true. -/
def trueWords : List String :=
  ["yes", "Yes", "YES", "true", "True", "TRUE", "on", "On", "ON"]

/-- The words that stand for false. -/
def falseWords : List String :=
  ["no", "No", "NO", "false", "False", "FALSE", "off", "Off", "OFF"]

/-- The words that stand for nothing. -/
def nullWords : List String := ["~", "null", "Null", "NULL", ""]

/-- The words that stand for infinity, behind a sign. -/
def infinityWords : List String := [".inf", ".Inf", ".INF"]

/-- The words that stand for the undefined number. -/
def undefinedWords : List String := [".nan", ".NaN", ".NAN"]

/-- Splits off a sign. -/
def splitSign : List Char → Bool × List Char
  | '-' :: cs => (true, cs)
  | '+' :: cs => (false, cs)
  | cs => (false, cs)

/-- Whether every character is a digit of a base or an underscore. -/
def digitsOrMarks (base : Nat) (cs : List Char) : Bool :=
  cs.all fun c => c = '_' || ((Number.hexDigit? c).any (· < base))

/-- Whether characters are decimal digits and underscores with a digit in front. -/
def startsWithDigit (cs : List Char) : Bool :=
  cs.head?.any Char.isDigit && digitsOrMarks 10 cs

/-- Whether characters are a part of a number in base sixty behind the first one. -/
def isSixtieth : List Char → Bool
  | [a] => a.isDigit
  | [a, b] => a.isDigit && a ≤ '5' && b.isDigit
  | _ => false

/-- Whether characters are a whole number: binary, hexadecimal, octal, decimal or in base sixty. -/
def isWhole (cs : List Char) : Bool :=
  match (splitSign cs).2 with
  | ['0'] => true
  | '0' :: 'b' :: ds => !ds.isEmpty && digitsOrMarks 2 ds
  | '0' :: 'x' :: ds => !ds.isEmpty && digitsOrMarks 16 ds
  | '0' :: ds => digitsOrMarks 8 ds
  | ds =>
    match ds.splitOn ':' with
    | first :: rest => startsWithDigit first && rest.all isSixtieth
    | [] => false

/-- Whether characters are an exponent, which has a sign, or nothing. -/
def isExponent : List Char → Bool
  | [] => true
  | e :: s :: ds =>
    (e = 'e' || e = 'E') && (s = '-' || s = '+') && !ds.isEmpty && ds.all Char.isDigit
  | _ => false

/-- Whether characters without a sign are a fraction: digits, a point, and perhaps more digits and
an exponent. -/
def isPointed (cs : List Char) : Bool :=
  match cs.dropWhile (· ≠ '.') with
  | '.' :: behind =>
    startsWithDigit (cs.takeWhile (· ≠ '.'))
      && isExponent (behind.dropWhile fun c => c.isDigit || c = '_')
  | _ => false

/-- Whether characters are a fraction that starts with its point, which has no sign. -/
def isPointFirst : List Char → Bool
  | '.' :: c :: cs => c.isDigit && isExponent (cs.dropWhile fun c => c.isDigit || c = '_')
  | _ => false

/-- Whether characters without a sign are a fraction in base sixty, which has no exponent. -/
def isSixtiethPointed (cs : List Char) : Bool :=
  match cs.dropWhile (· ≠ '.') with
  | '.' :: behind =>
    digitsOrMarks 10 behind &&
      match (cs.takeWhile (· ≠ '.')).splitOn ':' with
      | first :: second :: rest => startsWithDigit first && (second :: rest).all isSixtieth
      | _ => false
  | _ => false

/-- Whether characters are a fraction, or one of the words for what is no finite number. -/
def isFraction (cs : List Char) : Bool :=
  let ds := (splitSign cs).2
  isPointed ds || isPointFirst cs || isSixtiethPointed ds
    || infinityWords.contains (String.ofList ds) || undefinedWords.contains (String.ofList cs)

/-- The tag of a plain scalar. -/
def Tag.ofPlain (s : String) : Tag :=
  let cs := s.toList
  if nullWords.contains s then null
  else if trueWords.contains s || falseWords.contains s then truth
  else if s = "<<" then merge
  else if s = "=" then content
  else if isFraction cs then fraction
  else if isWhole cs then whole
  else if isPlainMoment cs then moment
  else text

end Sgr.Yaml
