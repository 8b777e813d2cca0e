/-!
# Blank characters

White space is what separates the words of a colour description, what may surround a number or a
name, and what a sigil text may contain anywhere. The class is the one of the Unicode property
`White_Space` together with the four information separators U+001C to U+001F; a zero-width space
is no blank.

## Main definitions

* `isBlank` — the class itself.
* `strip` — a text without the blanks at its two ends.
* `words` — the maximal runs of characters that are not blank.
-/

namespace Sgr.Text

/-- The blank characters, as ranges of code points with both ends included. -/
def blankRanges : List (Nat × Nat) :=
  [(0x09, 0x0D), (0x1C, 0x20), (0x85, 0x85), (0xA0, 0xA0), (0x1680, 0x1680), (0x2000, 0x200A),
   (0x2028, 0x2029), (0x202F, 0x202F), (0x205F, 0x205F), (0x3000, 0x3000)]

/-- Whether a character is white space. -/
def isBlank (c : Char) : Bool :=
  blankRanges.any fun (first, last) => first ≤ c.toNat && c.toNat ≤ last

/-- Drops the blanks at both ends of a list of characters. -/
def stripChars (cs : List Char) : List Char :=
  ((cs.dropWhile isBlank).reverse.dropWhile isBlank).reverse

/-- A text without the blanks at its two ends. -/
def strip (s : String) : String :=
  String.ofList (stripChars s.toList)

/-- The words of a list of characters. A character that is not blank opens a word of its own when
a blank or the end follows, and otherwise joins the word that starts right after it. -/
def wordChars : List Char → List (List Char)
  | [] => []
  | c :: r =>
    if isBlank c then wordChars r
    else match r with
      | [] => [[c]]
      | d :: _ =>
        if isBlank d then [c] :: wordChars r
        else match wordChars r with
          | [] => [[c]]
          | w :: ws => (c :: w) :: ws

/-- The words of a text, from left to right. -/
def words (s : String) : List String :=
  (wordChars s.toList).map String.ofList

end Sgr.Text
