import Sgr.Yaml.Plain

/-!
# Values of scalars

The tag of a scalar says what its value is. A plain scalar that got its tag from its spelling has
such a value, apart from moments that do not exist and numbers that are too long or without digits;
one that was given its tag need not have one.

Bytes are written with sixty-four characters, each of which stands for six bits. Other characters
between them do not count, and equality signs fill up the last group.

## Main definitions

* `Yaml.wholeOf`, `Yaml.fractionOf`, `Yaml.truthOf`, `Yaml.momentOf` — the value of a spelling.
* `Yaml.bytesOf?` — the bytes of a text.
* `Yaml.scalarValue` — the value of a scalar.
-/

namespace Sgr.Yaml

/-! ## Numbers -/

/-- A whole number in base ten. -/
def readDecimal (cs : List Char) : Except ScalarFault Int :=
  let s := String.ofList cs
  match Number.readInt s with
  | .ok i => .ok i
  | .error f => .error (.whole 10 s f)

/-- A whole number in a base that is a power of two. -/
def readBinary (base : Nat) (cs : List Char) : Except ScalarFault Int :=
  if !cs.isEmpty && digitsOrMarks base cs then
    .ok (Number.ofDigitValues base (cs.filterMap Number.hexDigit?))
  else .error (.whole base (String.ofList cs) .malformed)

/-- Characters without underscores; there has to be one. -/
def withoutMarks (s : String) : Except ScalarFault (List Char) :=
  match s.toList.filter (· ≠ '_') with
  | [] => .error .empty
  | cs => .ok cs

/-- The whole number of a spelling. -/
def wholeOf (s : String) : Except ScalarFault Int := do
  let (negative, ds) := splitSign (← withoutMarks s)
  let n ←
    match ds with
    | [] => throw .empty
    | ['0'] => pure 0
    | '0' :: 'b' :: ds => readBinary 2 ds
    | '0' :: 'x' :: ds => readBinary 16 ds
    | '0' :: _ => readBinary 8 ds
    | _ =>
      if ds.contains ':' then do
        let parts ← (ds.splitOn ':').mapM readDecimal
        pure (parts.foldl (fun acc i => acc * 60 + i) 0)
      else readDecimal ds
  return if negative then -n else n

/-- A fraction in base ten. -/
def readFraction10 (cs : List Char) : Except ScalarFault Double :=
  let s := String.ofList cs
  match Number.readDouble? s with
  | some x => .ok x
  | none => .error (.fraction s)

/-- The sum of the parts of a number in base sixty, the last part first. -/
def sumSixtieths (base : Nat) (sum : Double) : List Double → Double
  | [] => sum
  | x :: xs => sumSixtieths (base * 60) (sum.add (x.timesNat base)) xs

/-- The fraction of a spelling. -/
def fractionOf (s : String) : Except ScalarFault Double := do
  let (negative, ds) := splitSign (← withoutMarks (Text.lower s))
  if ds = ".nan".toList then return .undefined
  let x ←
    if ds = ".inf".toList then pure (.infinite false)
    else if ds.contains ':' then do
      let parts ← (ds.splitOn ':').mapM readFraction10
      pure (sumSixtieths 1 .zero parts.reverse)
    else readFraction10 ds
  return if negative then x.neg else x

/-! ## Other values -/

/-- The truth value of a spelling. -/
def truthOf (s : String) : Except ScalarFault Bool :=
  let word := Text.lower s
  if trueWords.contains word then .ok true
  else if falseWords.contains word then .ok false
  else .error (.word word)

/-- The moment of a spelling. -/
def momentOf (s : String) : Except ScalarFault Value :=
  match readMoment? s.toList with
  | some m => (momentValue m).mapError .moment
  | none => .error .notMoment

/-- What one of the sixty-four characters stands for. -/
def sextet? (c : Char) : Option Nat :=
  if 'A' ≤ c && c ≤ 'Z' then some (c.toNat - 'A'.toNat)
  else if 'a' ≤ c && c ≤ 'z' then some (c.toNat - 'a'.toNat + 26)
  else if c.isDigit then some (c.toNat - '0'.toNat + 52)
  else if c = '+' then some 62
  else if c = '/' then some 63
  else none

/-- The bytes of characters, from the number of bits that are left over from those in front and
their value. The bits that are left over at the end have to be filled up. -/
def readBytes (bits left fill : Nat) : List Char → Option (List UInt8)
  | [] => if bits = 0 then some [] else none
  | c :: cs =>
    if c = '=' then
      if bits = 4 ∧ 1 ≤ fill ∨ bits = 2 then some [] else readBytes bits left (fill + 1) cs
    else
      match sextet? c with
      | none => readBytes bits left fill cs
      | some n =>
        let all := left * 64 + n
        if bits = 0 then readBytes 6 n 0 cs
        else
          let rest := Number.pow2 (bits - 2)
          (readBytes (bits - 2) (all % rest) 0 cs).map (UInt8.ofNat (all / rest) :: ·)

/-- The bytes of a text. -/
def bytesOf? (s : String) : Option (List UInt8) :=
  if s.toList.all fun c => c.toNat < 128 then readBytes 0 0 0 s.toList else none

/-- The value of a scalar. -/
def scalarValue (tag : Tag) (s : String) : Except LoadFault Value :=
  let made {α : Type} (f : α → Value) (x : Except ScalarFault α) : Except LoadFault Value :=
    (x.map f).mapError .scalar
  match tag with
  | .null => .ok .nothing
  | .text => .ok (.text s)
  | .truth => made .bool (truthOf s)
  | .whole => made .int (wholeOf s)
  | .fraction => made .float (fractionOf s)
  | .moment => made id (momentOf s)
  | .bytes =>
    match bytesOf? s with
    | some bs => .ok (.bytes bs)
    | none => .error (.markup .badBytes)
  | .sequence | .ordered | .pairs => .error (.markup .notSequence)
  | .mapping | .set => .error (.markup .notMapping)
  | .merge | .content | .other _ => .error (.markup (.noConstructor tag.name))

end Sgr.Yaml
