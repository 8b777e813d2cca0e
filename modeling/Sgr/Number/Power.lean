/-!
# Powers

Fractions have a power of two or of ten for a denominator, and the bounds of machine numbers are
powers of two.

## Main definitions

* `pow2`, `pow10` — the powers.
* `maxSigned` — the greatest signed number of 64 binary digits.
-/

namespace Sgr.Number

/-- A power of two. -/
def pow2 (n : Nat) : Nat :=
  Nat.pow 2 n

/-- A power of ten. -/
def pow10 (n : Nat) : Nat :=
  Nat.pow 10 n

theorem pow2_pos (n : Nat) : 0 < pow2 n :=
  Nat.pow_pos Nat.two_pos

theorem pow10_pos (n : Nat) : 0 < pow10 n :=
  Nat.pow_pos (Nat.succ_pos 9)

theorem pow2_add (m n : Nat) : pow2 (m + n) = pow2 m * pow2 n :=
  Nat.pow_add 2 m n

theorem pow10_add (m n : Nat) : pow10 (m + n) = pow10 m * pow10 n :=
  Nat.pow_add 10 m n

/-- The greatest signed number of 64 binary digits, which bounds positions and widths. -/
def maxSigned : Nat :=
  pow2 63 - 1

end Sgr.Number
