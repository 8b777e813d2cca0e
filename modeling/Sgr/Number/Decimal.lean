import Sgr.Number.Double
import Sgr.Number.Radix

/-!
# Decimal digits of a number

A number of double precision is written either with the fewest digits that read back as the same
number, or rounded to a count of digits. Both are found in exact arithmetic on the quotient of
natural numbers that the number is.

A decimal is a list of digits with the position of its point: the digits `d₁ d₂ …` with point `p`
stand for `0.d₁d₂… * 10 ^ p`.

## Main definitions

* `Decimal` — digits and point.
* `Decimal.rounded` — a count of significant digits, a half going to the even neighbour.
* `Decimal.atPlaces` — a count of places after the point, likewise.
* `Decimal.shortest` — the fewest digits that read back.
-/

namespace Sgr

/-- Digits and the position of the point in front of them. -/
structure Decimal where
  digits : List Char
  point : Int
  deriving DecidableEq, Repr, Inhabited

namespace Decimal

open Double (roundQuotient ratio)
open Number (pow2 pow10)

/-- The quotient `num / den` divided by `10 ^ k`, again as a quotient. -/
def scale10 (num den : Nat) (k : Int) : Nat × Nat :=
  if 0 ≤ k then (num, den * pow10 k.toNat) else (num * pow10 (-k).toNat, den)

/-- Whether a quotient lies below `10 ^ k`. -/
def below (num den : Nat) (k : Int) : Bool :=
  let (n, d) := scale10 num den k
  n < d

/-- The least `k` with `num / den < 10 ^ k`, for a quotient above zero. The binary logarithm gives
it up to two steps. -/
def magnitude (num den : Nat) : Int :=
  let k := (Double.log2Ratio num den * 30103) / 100000
  if below num den k then k else if below num den (k + 1) then k + 1 else k + 2

/-- The digits of a natural number on the grid `10 ^ (k - n)`, where `n` digits are wanted; one
more than all nines has a digit too many, a zero that moves into the point. -/
def onGrid (n : Nat) (k : Int) (count : Nat) : Decimal :=
  if count = pow10 n then ⟨Number.digits 10 (pow10 (n - 1)), k + 1⟩
  else ⟨Number.digits 10 count, k⟩

/-- The nearest decimal of `n` significant digits, for `n` above zero. -/
def rounded (n num den : Nat) : Decimal :=
  if num = 0 then ⟨['0'], 1⟩
  else
    let k := magnitude num den
    let (a, b) := scale10 num den (k - n)
    onGrid n k (roundQuotient a b)

/-- The nearest multiple of `10 ^ -places`, as that multiple. -/
def atPlaces (places num den : Nat) : Nat :=
  roundQuotient (num * pow10 places) den

/-- A decimal without the zeros at its end; at least one digit stays. -/
def trimmed (d : Decimal) : Decimal :=
  match (d.digits.reverse.dropWhile (· = '0')).reverse with
  | [] => ⟨['0'], d.point⟩
  | ds => ⟨ds, d.point⟩

/-- The ends of the interval of values that read back as `m * 2 ^ e`, in quarters of `2 ^ e`. Below
a power of two the neighbour is only half as far. -/
def readBackEnds (m : Nat) (e : Int) : Nat × Nat :=
  (if m = pow2 52 ∧ Double.minExponent < e then 4 * m - 1 else 4 * m - 2, 4 * m + 2)

/-- Whether `count * 10 ^ g` reads back as `m * 2 ^ e`: it lies between the ends, and may be one of
them when the mantissa is even. -/
def readsBack (m : Nat) (e : Int) (count : Nat) (g : Int) : Bool :=
  let (low, high) := readBackEnds m e
  let (un, ud) := ratio 1 (e - 2)
  let (n, d) := scale10 count 1 (-g)
  let a := low * un * d
  let x := n * ud
  let b := high * un * d
  if m % 2 = 0 then a ≤ x && x ≤ b else a < x && x < b

/-- Of the two neighbours of the value on the grid of `n` digits, the nearer one that reads back. -/
def neighbour? (m : Nat) (e : Int) (num den : Nat) (k : Int) (n : Nat) : Option Nat :=
  let (a, b) := scale10 num den (k - n)
  let near := roundQuotient a b
  let far := if near = a / b then near + 1 else a / b
  if readsBack m e near (k - n) then some near
  else if readsBack m e far (k - n) then some far
  else none

/-- The first count of digits, from `n` on, with a decimal that reads back; seventeen always have
one. -/
def search (m : Nat) (e : Int) (num den : Nat) (k : Int) (n : Nat) : Nat → Decimal
  | 0 => rounded n num den
  | fuel + 1 =>
    match neighbour? m e num den k n with
    | some count => onGrid n k count
    | none => search m e num den k (n + 1) fuel

/-- The decimal with the fewest digits that reads back as `m * 2 ^ e`, and of those the nearest. -/
def shortest (m : Nat) (e : Int) : Decimal :=
  let (num, den) := ratio m e
  if num = 0 then ⟨['0'], 1⟩ else trimmed (search m e num den (magnitude num den) 1 16)

end Decimal

end Sgr
