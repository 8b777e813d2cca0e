import Sgr.Number.Decimal

/-!
# Numbers as text

A decimal becomes text in one of two layouts: positional, as in `0.25`, or with an exponent, as in
`2.5e-01`. Four forms choose the digits and the layout. The shortest form and the general one use
the positional layout for moderate magnitudes and the exponent elsewhere; the other two have one
layout each.

## Main definitions

* `Form` — fixed, exponent, general or shortest.
* `Decimal.layOut` — digits, point and exponent as characters.
* `Double.spell` — a number in a form.
* `Double.text` — the text that a number has by itself.
-/

namespace Sgr

/-- How a number of double precision is written. -/
inductive Form where
  | fixed
  | exponent
  | general
  | shortest
  deriving DecidableEq, Repr

/-- The choices of a number's text besides its form: whether a point stays without digits after it,
whether a whole number gets `.0`, whether a minus in front of zeros only is dropped, and whether the
letters are capitals. -/
structure Spelling where
  keepPoint : Bool := false
  pointZero : Bool := false
  plainZero : Bool := false
  capitals : Bool := false
  deriving DecidableEq, Repr

namespace Decimal

/-- An exponent: its sign and at least two digits. -/
def exponentChars (e : Int) : List Char :=
  (if e < 0 then '-' else '+') :: Number.padZeros 2 (Number.digits 10 e.natAbs)

/-- The characters of a decimal with `last` digits after the position of its first digit (counted
from the point where the number is below one). With an exponent the point moves behind the first
digit. -/
def layOut (d : Decimal) (byExponent : Bool) (last : Int) (spelling : Spelling) : List Char :=
  let point := if byExponent then 1 else d.point
  let last :=
    if !byExponent && spelling.pointZero then max last (point + 1) else max last point
  let whole :=
    if point ≤ 0 then ['0']
    else d.digits.take point.toNat ++ List.replicate (point.toNat - d.digits.length) '0'
  let part := List.replicate (-point).toNat '0' ++ d.digits.drop point.toNat
  let places := part ++ List.replicate ((last - point).toNat - part.length) '0'
  whole
    ++ (if places.isEmpty && !spelling.keepPoint then [] else '.' :: places)
    ++ (if byExponent then 'e' :: exponentChars (d.point - 1) else [])

end Decimal

namespace Double

/-- The decimal, the layout and the number of digits for a form. The general form drops the zeros at
the end unless the point is kept; both it and the shortest form write an exponent from `1e16` on, or
from the precision on, and below `1e-4`. -/
def decimalFor (form : Form) (precision : Nat) (spelling : Spelling) (m : Nat) (e : Int) :
    Decimal × Bool × Int :=
  let (num, den) := ratio m e
  match form with
  | .fixed =>
    let n := Decimal.atPlaces precision num den
    let ds := Number.digits 10 n
    let point : Int := (ds.length : Int) - precision
    (⟨ds, point⟩, false, point + precision)
  | .exponent =>
    (Decimal.rounded (precision + 1) num den, true, precision + 1)
  | .general =>
    let count := max precision 1
    let d := (Decimal.rounded count num den).trimmed
    let limit : Int := count - (if spelling.pointZero then 1 else 0)
    (d, d.point ≤ -4 || limit < d.point,
      if spelling.keepPoint then count else d.digits.length)
  | .shortest =>
    let d := Decimal.shortest m e
    (d, d.point ≤ -4 || 16 < d.point, d.digits.length)

/-- The characters of a number in a form, with a minus sign where it is negative. The precision is
the count of places for the fixed and the exponent form, the count of digits for the general one,
and not used by the shortest one. -/
def spell (form : Form) (precision : Nat) (spelling : Spelling) (x : Double) : List Char :=
  let cs :=
    match x with
    | .undefined => ['n', 'a', 'n']
    | .infinite s => (if s then ['-'] else []) ++ ['i', 'n', 'f']
    | .finite s m e =>
      let (d, byExponent, last) := decimalFor form precision spelling m e
      let minus := s && !(spelling.plainZero && d.digits.all (· = '0'))
      (if minus then ['-'] else []) ++ d.layOut byExponent last spelling
  if spelling.capitals then cs.map Char.toUpper else cs

/-- The text that a number has by itself: the fewest digits, with `.0` after a whole number. -/
def text (x : Double) : String :=
  String.ofList (spell .shortest 0 { pointZero := true } x)

end Double

end Sgr
