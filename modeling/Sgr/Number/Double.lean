import Sgr.Number.Power

/-!
# Double-precision numbers

The fractional numbers that a caller passes as colour channels or template arguments have 53 binary
digits. They are kept here as exact dyadic fractions, so that every operation is integer
arithmetic: a result is first computed exactly, as a quotient of natural numbers, and then rounded
once, to the nearest representable number and to the even one of two that are equally near.

## Main definitions

* `Double` — the numbers, the two infinities and the undefined value.
* `Double.ofRatio` — the representable number nearest to a quotient.
* `Double.scaled` — an exact integer image that keeps the order.
* `Double.ofInt`, `Double.add`, `Double.timesNat`, `Double.truncate` — the arithmetic that is
  needed.
-/

namespace Sgr

/-- A number of double precision. A finite one is `± mantissa * 2 ^ exponent`, with the mantissa
below `2 ^ 53` and at least `2 ^ 52` unless the exponent is the least one, `-1074`. -/
inductive Double where
  | undefined
  | infinite (negative : Bool)
  | finite (negative : Bool) (mantissa : Nat) (exponent : Int)
  deriving DecidableEq, Repr, Inhabited

namespace Double

open Number (pow2 pow10)

/-- The least exponent. -/
def minExponent : Int := -1074

/-- The greatest exponent. -/
def maxExponent : Int := 971

/-- A quotient rounded to the nearest natural number, a half going to the even neighbour. -/
def roundQuotient (num den : Nat) : Nat :=
  let q := num / den
  let twice := 2 * (num % den)
  if den < twice ∨ (twice = den ∧ q % 2 = 1) then q + 1 else q

/-- The quotient `num / den` divided by `2 ^ e`, again as a quotient. -/
def shiftRatio (num den : Nat) (e : Int) : Nat × Nat :=
  if 0 ≤ e then (num, den * pow2 e.toNat) else (num * pow2 (-e).toNat, den)

/-- The greatest `l` with `2 ^ l ≤ num / den`. The difference of the two logarithms is `l` or one
more. -/
def log2Ratio (num den : Nat) : Int :=
  let l : Int := (num.log2 : Int) - den.log2
  let (n, d) := shiftRatio num den l
  if n < d then l - 1 else l

/-- The number nearest to `± num / den`; beyond the greatest number it is infinite. -/
def ofRatio (negative : Bool) (num den : Nat) : Double :=
  if num = 0 then .finite negative 0 minExponent
  else
    let e := max (log2Ratio num den - 52) minExponent
    let (n, d) := shiftRatio num den e
    let m := roundQuotient n d
    let (m, e) := if m = pow2 53 then (pow2 52, e + 1) else (m, e)
    if maxExponent < e then .infinite negative else .finite negative m e

/-- The number nearest to an integer. -/
def ofInt (i : Int) : Double :=
  ofRatio (i < 0) i.natAbs 1

/-- The number nearest to `± digits * 10 ^ power`. Powers far outside the range are cut off first,
so that the text `1e999999999` costs no more than its digits. -/
def ofDecimal (negative : Bool) (digits : Nat) (power : Int) : Double :=
  let size := (Nat.toDigits 10 digits).length
  if digits = 0 then .finite negative 0 minExponent
  else if 400 < power + size then .infinite negative
  else if power + size < -400 then .finite negative 0 minExponent
  else if 0 ≤ power then ofRatio negative (digits * pow10 power.toNat) 1
  else ofRatio negative digits (pow10 (-power).toNat)

/-- Zero, with the sign that is seldom seen but sometimes printed. -/
def isZero : Double → Bool
  | .finite _ m _ => m = 0
  | _ => false

/-- Whether the sign is a minus; the undefined value has none. -/
def isNegative : Double → Bool
  | .undefined => false
  | .infinite s => s
  | .finite s _ _ => s

/-- A number with its sign turned. -/
def neg : Double → Double
  | .undefined => .undefined
  | .infinite s => .infinite !s
  | .finite s m e => .finite (!s) m e

/-- The value of a finite number as a quotient, without the sign. -/
def ratio (m : Nat) (e : Int) : Nat × Nat :=
  if 0 ≤ e then (m * pow2 e.toNat, 1) else (m, pow2 (-e).toNat)

/-- A finite number as a multiple of the least positive one. -/
def scaled (negative : Bool) (m : Nat) (e : Int) : Int :=
  let n : Int := m * pow2 (e - minExponent).toNat
  if negative then -n else n

/-- Whether one number is less than the other; nothing is less or greater than the undefined
value. -/
def lt : Double → Double → Bool
  | .undefined, _ | _, .undefined => false
  | .infinite s, .infinite t => s && !t
  | .infinite s, .finite .. => s
  | .finite .., .infinite t => !t
  | .finite s m e, .finite t n f => scaled s m e < scaled t n f

/-- Equality of numbers: the two zeros are equal, and the undefined value equals nothing. -/
def eq : Double → Double → Bool
  | .undefined, _ | _, .undefined => false
  | .infinite s, .infinite t => s = t
  | .finite s m e, .finite t n f => scaled s m e = scaled t n f
  | _, _ => false

/-- Equality with an integer, which is exact however large the integer is. -/
def eqInt (x : Double) (i : Int) : Bool :=
  match x with
  | .finite s m e => scaled s m e = i * pow2 (-minExponent).toNat
  | _ => false

/-- The number nearest to a natural multiple. -/
def timesNat (k : Nat) : Double → Double
  | .finite s m e =>
    let (n, d) := ratio m e
    ofRatio s (k * n) d
  | x => x

/-- The number nearest to a sum. Opposite infinities have none, and a sum of zero is negative only
if both summands are. -/
def add : Double → Double → Double
  | .undefined, _ | _, .undefined => .undefined
  | .infinite s, .infinite t => if s = t then .infinite s else .undefined
  | .infinite s, .finite .. | .finite .., .infinite s => .infinite s
  | .finite s m e, .finite t n f =>
    let sum := scaled s m e + scaled t n f
    if sum = 0 then .finite (s && t) 0 minExponent
    else ofRatio (sum < 0) sum.natAbs (pow2 (-minExponent).toNat)

/-- The whole part of a number that is neither negative nor infinite. -/
def truncate : Double → Nat
  | .finite _ m e =>
    let (n, d) := ratio m e
    n / d
  | _ => 0

/-- Zero. -/
def zero : Double := .finite false 0 minExponent

/-- One. -/
def one : Double := .finite false (pow2 52) (-52)

end Double

end Sgr
