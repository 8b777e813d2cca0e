/-!
# Letter case

Names, level names and settings are compared without regard to case, and always with words that
are written in ASCII. So it is enough that the case maps are exact wherever their value is an
ASCII letter: a character whose counterpart lies outside ASCII may stay as it is, since neither it
nor its counterpart can occur in the word it is compared with. Besides the ASCII letters that
leaves three characters: the Kelvin sign, the dotless i and the long s.

## Main definitions

* `lower`, `upper` — a text in lower and in upper case.
* `fold` — a text prepared for comparison: `lower`, and the long s counts as an s.
-/

namespace Sgr.Text

/-- The lower-case counterpart, where it is an ASCII letter. -/
def lowerChar (c : Char) : Char :=
  if c = '\u212a' then 'k' else c.toLower

/-- The upper-case counterpart, where it is an ASCII letter. -/
def upperChar (c : Char) : Char :=
  if c = '\u0131' then 'I' else if c = '\u017f' then 'S' else c.toUpper

/-- The character that stands for `c` in a comparison without regard to case. -/
def foldChar (c : Char) : Char :=
  if c = '\u017f' then 's' else lowerChar c

/-- A text in lower case. -/
def lower (s : String) : String :=
  String.ofList (s.toList.map lowerChar)

/-- A text in upper case. -/
def upper (s : String) : String :=
  String.ofList (s.toList.map upperChar)

/-- A text as it is compared without regard to case. -/
def fold (s : String) : String :=
  String.ofList (s.toList.map foldChar)

end Sgr.Text
