/-!
# Whole numbers in a base

Codes and counts are written in decimal, colours in hexadecimal. The digits above nine are the
lower-case letters.

## Main definitions

* `digits` — the digits of a natural number.
* `decimal` — an integer in decimal, with a minus sign where it is negative.
* `hexPadded` — a natural number in hexadecimal, filled with zeros to a width.
* `hexValue?` — the value of a text of hexadecimal digits of either case.
-/

namespace Sgr.Number

/-- The digits of a natural number, most significant first. -/
def digits (base n : Nat) : List Char :=
  Nat.toDigits base n

/-- The characters of an integer in a base: a minus sign where it is negative, a mark such as `0x`,
and the digits. -/
def signedDigits (base : Nat) (mark : List Char) (i : Int) : List Char :=
  (if i < 0 then ['-'] else []) ++ mark ++ digits base i.natAbs

/-- An integer in decimal. -/
def decimal (i : Int) : String :=
  String.ofList (signedDigits 10 [] i)

/-- Fills a list of digits with zeros on the left. -/
def padZeros (width : Nat) (ds : List Char) : List Char :=
  List.replicate (width - ds.length) '0' ++ ds

/-- A natural number in hexadecimal, filled with zeros to `width` digits. -/
def hexPadded (width n : Nat) : String :=
  String.ofList (padZeros width (digits 16 n))

/-- The value of a hexadecimal digit of either case. -/
def hexDigit? (c : Char) : Option Nat :=
  if '0' ≤ c ∧ c ≤ '9' then some (c.toNat - '0'.toNat)
  else if 'a' ≤ c ∧ c ≤ 'f' then some (c.toNat - 'a'.toNat + 10)
  else if 'A' ≤ c ∧ c ≤ 'F' then some (c.toNat - 'A'.toNat + 10)
  else none

/-- The number that a sequence of digit values denotes. -/
def ofDigitValues (base : Nat) (values : List Nat) : Nat :=
  values.foldl (fun n d => n * base + d) 0

/-- The value of a text of at least one hexadecimal digit. -/
def hexValue? (cs : List Char) : Option Nat :=
  if cs.isEmpty then none else (cs.mapM hexDigit?).map (ofDigitValues 16)

end Sgr.Number
