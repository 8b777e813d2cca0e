import Sgr.Number.Radix

/-!
# Text from bytes

A file holds text as UTF-8. Decoding stops at the first byte that cannot be part of it and says
where and why. The bytes of a character that the end of a file cuts off are a remainder with
positions of its own.

## Main definitions

* `Text.Utf8Fault` — why bytes are no text.
* `Text.decode` — the characters of bytes.
* `Text.normalizeBreaks` — a text with all its line breaks alike.
-/

namespace Sgr.Text

/-- Why bytes are no text. A fault has the first byte of a character; if more bytes than that belong
together, it has their number. -/
inductive Utf8Fault where
  | badStart (byte : UInt8) (position : Nat)
  | badContinuation (byte : UInt8) (position count : Nat)
  | cutOff (byte : UInt8) (count : Nat)
  deriving DecidableEq, Repr, Inhabited

/-- The text of a fault. -/
def Utf8Fault.message (f : Utf8Fault) : String :=
  "'utf-8' codec can't decode " ++
    match f with
    | badStart byte position => place byte position 1 ++ ": invalid start byte"
    | badContinuation byte position count =>
      place byte position count ++ ": invalid continuation byte"
    | cutOff byte count => place byte 0 count ++ ": unexpected end of data"
where
  /-- Where bytes are. -/
  place (byte : UInt8) (position count : Nat) : String :=
    if count = 1 then
      "byte 0x" ++ Number.hexPadded 2 byte.toNat ++ " in position " ++ Number.decimal position
    else
      "bytes in position " ++ Number.decimal position ++ "-"
        ++ Number.decimal (position + count - 1 : Nat)

/-- Whether a byte may stand behind the first byte of a character. Some first bytes leave less room
for the second one. -/
def isContinuation (b : UInt8) : Bool :=
  0x80 ≤ b && b ≤ 0xBF

/-- Whether a byte may stand second. -/
def isSecond (first b : UInt8) : Bool :=
  isContinuation b &&
    (first ≠ 0xE0 || 0xA0 ≤ b) && (first ≠ 0xED || b ≤ 0x9F) &&
    (first ≠ 0xF0 || 0x90 ≤ b) && (first ≠ 0xF4 || b ≤ 0x8F)

/-- The character of the low bits of bytes. -/
def charOf (high : Nat) (low : List UInt8) : Char :=
  Char.ofNat (low.foldl (fun n b => n * 64 + b.toNat % 64) high)

/-- The characters of bytes from a position. -/
def decodeFrom (position : Nat) : List UInt8 → Except Utf8Fault (List Char)
  | [] => .ok []
  | a :: r1 =>
    if a < 0x80 then (decodeFrom (position + 1) r1).map (Char.ofNat a.toNat :: ·)
    else if a < 0xC2 || 0xF4 < a then .error (.badStart a position)
    else match r1 with
      | [] => .error (.cutOff a 1)
      | b :: r2 =>
        if !isSecond a b then .error (.badContinuation a position 1)
        else if a < 0xE0 then
          (decodeFrom (position + 2) r2).map (charOf (a.toNat % 32) [b] :: ·)
        else match r2 with
          | [] => .error (.cutOff a 2)
          | c :: r3 =>
            if !isContinuation c then .error (.badContinuation a position 2)
            else if a < 0xF0 then
              (decodeFrom (position + 3) r3).map (charOf (a.toNat % 16) [b, c] :: ·)
            else match r3 with
              | [] => .error (.cutOff a 3)
              | d :: r4 =>
                if !isContinuation d then .error (.badContinuation a position 3)
                else (decodeFrom (position + 4) r4).map (charOf (a.toNat % 8) [b, c, d] :: ·)

/-- The characters of bytes. -/
def decode (bytes : List UInt8) : Except Utf8Fault (List Char) :=
  decodeFrom 0 bytes

/-- A text with each of its line breaks as a line feed. -/
def normalizeBreaks : List Char → List Char
  | '\r' :: '\n' :: cs => '\n' :: normalizeBreaks cs
  | '\r' :: cs => '\n' :: normalizeBreaks cs
  | c :: cs => c :: normalizeBreaks cs
  | [] => []

end Sgr.Text
