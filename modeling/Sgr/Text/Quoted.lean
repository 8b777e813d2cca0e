import Sgr.Number.Radix
import Sgr.Text.Printable

/-!
# Quoted text

Messages show a text in quotes. The quotes are single ones, or double ones where the text has a
single quote and no double one. A backslash, the quote itself and the line breaks and tabs are
escaped by a letter, and what is not printable by its code point in hexadecimal.

## Main definitions

* `quote` — a text in quotes.
* `quoteBytes` — bytes in quotes, marked by a `b`.
* `onlyAscii` — a quoted text with every character outside ASCII escaped.
-/

namespace Sgr.Text

/-- The quote that needs the fewest escapes. -/
def quoteFor (hasSingle hasDouble : Bool) : Char :=
  if hasSingle && !hasDouble then '"' else '\''

/-- A code point as an escape: two, four or eight hexadecimal digits. -/
def escapeCode (n : Nat) : List Char :=
  if n < 0x100 then '\\' :: 'x' :: Number.padZeros 2 (Number.digits 16 n)
  else if n < 0x10000 then '\\' :: 'u' :: Number.padZeros 4 (Number.digits 16 n)
  else '\\' :: 'U' :: Number.padZeros 8 (Number.digits 16 n)

/-- A character as it stands between the quotes `q`. -/
def quoteChar (q c : Char) : List Char :=
  if c = q ∨ c = '\\' then ['\\', c]
  else if c = '\t' then ['\\', 't']
  else if c = '\n' then ['\\', 'n']
  else if c = '\r' then ['\\', 'r']
  else if isPrintable c then [c]
  else escapeCode c.toNat

/-- The characters of a quoted text. -/
def quoteChars (cs : List Char) : List Char :=
  let q := quoteFor (cs.contains '\'') (cs.contains '"')
  q :: cs.flatMap (quoteChar q) ++ [q]

/-- A text in quotes. -/
def quote (s : String) : String :=
  String.ofList (quoteChars s.toList)

/-- A byte as it stands between the quotes `q`. -/
def quoteByte (q : Char) (b : UInt8) : List Char :=
  let c := Char.ofNat b.toNat
  if b.toNat < 0x7F then quoteChar q c else escapeCode b.toNat

/-- Bytes in quotes, marked by a `b` in front. -/
def quoteBytes (bs : List UInt8) : String :=
  let q := quoteFor (bs.contains 0x27) (bs.contains 0x22)
  String.ofList ('b' :: q :: bs.flatMap (quoteByte q) ++ [q])

/-- A text with every character outside ASCII escaped by its code point. -/
def onlyAscii (s : String) : String :=
  String.ofList (s.toList.flatMap fun c => if c.toNat < 0x80 then [c] else escapeCode c.toNat)

end Sgr.Text
