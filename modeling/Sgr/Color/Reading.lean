import Sgr.ErrorClass
import Sgr.Number.Reading
import Sgr.Value.Access

/-!
# Reading colours

A colour can be given by name, by a hexadecimal text, by a number in decimal or as an integer, by
three components, or as a colour that exists already. Numbers up to 255 pick a colour of the
palette and larger ones are packed red, green and blue. A component is a byte or a fraction of full
intensity.

Two colours in one text are separated by the word `in`: the text in front is the foreground and the
one behind it the background, and either may be missing.

## Main definitions

* `ColorError` — why there is no colour.
* `Color.ofPackedInt`, `Color.ofHex` — a packed number and a hexadecimal text.
* `Color.ofValue` — any of the spellings.
* `ColorPair.ofText` — a foreground and a background in one text.
-/

namespace Sgr

/-- A number that a colour is made of. -/
inductive Component where
  | index
  | red
  | green
  | blue
  deriving DecidableEq, Repr, Inhabited

/-- The name of a component. -/
def Component.name : Component → String
  | index => "Color index"
  | red => "Red component"
  | green => "Green component"
  | blue => "Blue component"

/-- Why there is no colour. -/
inductive ColorError where
  | notByte (what : Component) (typeName : String)
  | byteRange (what : Component) (i : Int)
  | notBase (typeName : String)
  | baseRange (v : Value)
  | packedRange (i : Int)
  | negativePart (what : Component) (x : Double)
  | excessPart (what : Component) (x : Double)
  | undefinedPart
  | negative (i : Int)
  | unreadable (text : String) (fault : Number.IntFault)
  | badHex (text : Value)
  | badName (text : String)
  | componentCount (count : Nat) (spec : Value)
  | emptyPair (text : String)
  | truthValue
  | unsupported (spec : Value)
  | unshown (fault : TextFault)
  | packedType (typeName : String)
  | packedFraction
  | unpackedFraction
  | brightness (plane : Plane) (bright : Value)
  deriving Inhabited

namespace ColorError

/-- The text of an error. -/
def message : ColorError → String
  | notByte what typeName => what.name ++ " must be an integer, got " ++ typeName
  | byteRange what i => what.name ++ " must be within 0-255, got " ++ Number.decimal i
  | notBase typeName => "Basic color must be an integer, got " ++ typeName
  | baseRange v => "Basic color must be within 0-7, got " ++ v.str
  | packedRange i =>
    "RGB color value exceeds 24 bits: " ++ String.ofList (Number.signedDigits 16 ['0', 'x'] i)
  | negativePart what x => what.name ++ " cannot be negative, got " ++ x.text
  | excessPart what x => what.name ++ " cannot exceed 1.0, got " ++ x.text
  | undefinedPart => "cannot convert float NaN to integer"
  | negative i => "Color value cannot be negative, got " ++ Number.decimal i
  | unreadable text fault => fault.message 10 text
  | badHex text => "Invalid hex color: " ++ text.repr
  | badName text => "Invalid color: " ++ Text.quote text
  | componentCount count _ => "RGB color needs 3 components, got " ++ Number.decimal count
  | emptyPair text => "Empty color: " ++ Text.quote text
  | truthValue => "A boolean is not a color"
  | unsupported spec => "Unsupported color specification: " ++ spec.repr
  | unshown fault => fault.message
  | packedType typeName => "'<=' not supported between instances of 'int' and '" ++ typeName ++ "'"
  | packedFraction => "unsupported operand type(s) for >>: 'float' and 'int'"
  | unpackedFraction => "Unknown format code 'x' for object of type 'float'"
  | brightness plane bright =>
    match bright.unhashable? with
    | some typeName => (AccessError.unhashable typeName).message
    | none => Text.parenthesized [Value.planeText plane, bright.repr]

/-- The class of an error. -/
def errorClass : ColorError → ErrorClass
  | byteRange .. | baseRange _ | packedRange _ | negativePart .. | excessPart .. | negative _ =>
    .colorRange
  | badHex _ | badName _ | componentCount .. | emptyPair _ => .grammar
  | undefinedPart | unreadable .. | unpackedFraction => .wrongValue
  | notByte .. | notBase _ | truthValue | unsupported _ | packedType _ | packedFraction =>
    .wrongType
  | unshown fault => fault.errorClass
  | brightness _ bright => if bright.unhashable?.isSome then .wrongType else .missingKey

/-- The value that an error is about, where it names one. -/
def subject? : ColorError → Option Value
  | byteRange _ i | packedRange i | negative i => some (.int i)
  | baseRange v => some v
  | negativePart _ x | excessPart _ x => some (.float x)
  | badHex v | componentCount _ v => some v
  | badName s | emptyPair s => some (.text s)
  | _ => none

/-- An error whose text shows a value. If the value has no text, that is the error. -/
def showing (e : ColorError) (v : Value) : ColorError :=
  match v.textFault? with
  | some fault => .unshown fault
  | none => e

end ColorError

namespace Color

/-- A byte from a whole number; truth values are no numbers here. -/
def byteOf (what : Component) (v : Value) : Except ColorError (Fin 256) :=
  match v.whole? with
  | some i =>
    if h : 0 ≤ i ∧ i ≤ 255 then .ok ⟨i.toNat, by omega⟩
    else .error ((ColorError.byteRange what i).showing v)
  | none => .error (.notByte what v.shortTypeName)

/-- A component of a colour: a byte, or a fraction of full intensity, whose fractional part of 255
is dropped. -/
def componentOf (what : Component) (v : Value) : Except ColorError (Fin 256) :=
  match v with
  | .float x =>
    if x.lt Double.zero then .error (.negativePart what x)
    else if Double.one.lt x then .error (.excessPart what x)
    else if x = .undefined then .error .undefinedPart
    else .ok (byteOfNat (x.timesNat 255).truncate)
  | v => byteOf what v

/-- The number of a basic colour. -/
def baseOf (v : Value) : Except ColorError (Fin 8) :=
  match v.whole? with
  | some i =>
    if h : 0 ≤ i ∧ i ≤ 7 then .ok ⟨i.toNat, by omega⟩
    else .error ((ColorError.baseRange v).showing v)
  | none => .error (.notBase v.shortTypeName)

/-- A basic colour from a number and its brightness. -/
def basicOf (v bright : Value) (p : Plane) : Except ColorError Value :=
  (baseOf v).map fun base =>
    match bright with
    | .bool b => .color (.basic base b p)
    | bright => .shade base bright p

/-- A basic colour whose brightness is no truth value; it has to be equal to one. -/
def ofShade (base : Fin 8) (bright : Value) (p : Plane) : Except ColorError Color :=
  if bright.equal (.bool false) then .ok (.basic base false p)
  else if bright.equal (.bool true) then .ok (.basic base true p)
  else .error (.brightness p bright)

/-- A colour of the palette from a number. -/
def indexedOf (v : Value) (p : Plane) : Except ColorError Color :=
  (byteOf .index v).map (.indexed · p)

/-- A 24-bit colour from three bytes. -/
def rgbOf (r g b : Value) (p : Plane) : Except ColorError Color := do
  return .rgb (← byteOf .red r) (← byteOf .green g) (← byteOf .blue b) p

/-- The greatest packed colour. -/
def maxPacked : Nat := 0xFFFFFF

/-- A 24-bit colour from a packed number. -/
def ofPackedInt (i : Int) (p : Plane) : Except ColorError Color :=
  if 0 ≤ i ∧ i ≤ maxPacked then .ok (ofPacked i.toNat p) else .error (.packedRange i)

/-- A 24-bit colour from a value that should be a packed number. A fraction in the range cannot be
taken apart, and one outside the range cannot even be shown. -/
def ofPackedValue (v : Value) (p : Plane) : Except ColorError Color :=
  match v.int?, v with
  | some i, _ => ofPackedInt i p
  | none, .float x =>
    if x = .undefined ∨ x.lt Double.zero ∨ (Double.ofInt maxPacked).lt x then
      .error .unpackedFraction
    else .error .packedFraction
  | none, v => .error (.packedType v.typeName)

/-- The digits of a hexadecimal colour, behind `#` or `0x`. -/
def hexDigits? (cs : List Char) : Option (List Char) :=
  let ds? : Option (List Char) :=
    match cs with
    | '#' :: ds => some ds
    | '0' :: 'x' :: ds => some ds
    | '0' :: 'X' :: ds => some ds
    | _ => none
  ds?.filter fun ds => !ds.isEmpty && ds.all fun c => (Number.hexDigit? c).isSome

/-- The packed number of hexadecimal digits. Three digits are doubled, one by one. -/
def packedOfDigits (ds : List Char) : Nat :=
  let ds := if ds.length = 3 then ds.flatMap fun c => [c, c] else ds
  (Number.hexValue? ds).getD 0

/-- A 24-bit colour from a hexadecimal text, which may have blanks around it. The value is the text
as it was given. -/
def ofHexValue (v : Value) (s : String) (p : Plane) : Except ColorError Color :=
  match hexDigits? (Text.stripChars s.toList) with
  | some ds => ofPackedInt (packedOfDigits ds) p
  | none => .error (.badHex v)

/-- A 24-bit colour from a hexadecimal text. -/
def ofHex (s : String) (p : Plane) : Except ColorError Color :=
  ofHexValue (.text s) s p

/-- The number of a basic colour name. -/
def baseOf? (name : String) : Option (Fin 8) :=
  (baseColorNames.findFinIdx? (· = name)).map (Fin.cast rfl)

/-- A basic colour from its words, with `bright` in front of a bright one. -/
def ofWords? (p : Plane) : List String → Option Color
  | [name] => (baseOf? name).map (.basic · false p)
  | ["bright", name] => (baseOf? name).map (.basic · true p)
  | _ => none

/-- A basic colour from a text. -/
def ofName (s : String) (p : Plane) : Except ColorError Color :=
  match ofWords? p (Text.words (Text.lower s)) with
  | some c => .ok c
  | none => .error (.badName s)

/-- A colour from a whole number. -/
def ofInt (i : Int) (p : Plane) : Except ColorError Color :=
  if i < 0 then .error ((ColorError.negative i).showing (.int i))
  else if h : i ≤ 255 then .ok (.indexed ⟨i.toNat, by omega⟩ p)
  else ofPackedInt i p

/-- A colour from a text: hexadecimal, all digits, or a name. -/
def ofText (s : String) (p : Plane) : Except ColorError Color :=
  let s := Text.strip s
  if (hexDigits? s.toList).isSome then ofHex s p
  else if Text.isDigits s then
    match Number.readInt s with
    | .ok i => ofInt i p
    | .error f => .error (.unreadable s f)
  else ofName s p

/-- A 24-bit colour from its components. The value is the container that held them. -/
def ofComponents (v : Value) (items : List Value) (p : Plane) : Except ColorError Color :=
  match items with
  | [r, g, b] => do
    return .rgb (← componentOf .red r) (← componentOf .green g) (← componentOf .blue b) p
  | items => .error (.componentCount items.length v)

/-- A colour from any of the accepted spellings, on a plane. -/
def ofValue (v : Value) (p : Plane) : Except ColorError Color :=
  match v with
  | .color c => .ok (c.onPlane p)
  | .shade base bright _ => ofShade base bright p
  | .text s => ofText s p
  | .sigil s => ofText s.text p
  | .bool _ => .error .truthValue
  | .int i => ofInt i p
  | .level l => ofInt l.code p
  | .tuple items | .list items => ofComponents v items p
  | v => .error ((ColorError.unsupported v).showing v)

/-- A value that is read as a colour. A shade stays one. -/
def readValue (v : Value) (p : Plane) : Except ColorError Value :=
  match v with
  | .shade base bright _ => .ok (.shade base bright p)
  | v => (ofValue v p).map .color

end Color

/-- A foreground and a background, either of which may be missing. -/
structure ColorPair where
  foreground : Option Color
  background : Option Color
  deriving DecidableEq, Repr, Inhabited

namespace ColorPair

/-- The words in front of the first `in` and those behind it. -/
def splitIn : List String → List String × List String
  | [] => ([], [])
  | w :: ws => if w = "in" then ([], ws) else ((w :: (splitIn ws).1), (splitIn ws).2)

/-- A colour from words, unless there are none. -/
def colorOf (words : List String) (p : Plane) : Except ColorError (Option Color) :=
  if words.isEmpty then .ok none else (Color.ofText (" ".intercalate words) p).map some

/-- The colours of a text such as `red in blue`, `red` or `in blue`. -/
def ofText (s : String) : Except ColorError ColorPair := do
  let (front, behind) := splitIn (Text.words s)
  let foreground ← colorOf front .foreground
  let background ← colorOf behind .background
  if foreground.isNone && background.isNone then .error (.emptyPair s)
  else .ok ⟨foreground, background⟩

/-- The kinds of a pair, the foreground first. -/
def kinds (c : ColorPair) : List Kind :=
  (c.foreground.toList ++ c.background.toList).map .color

end ColorPair

end Sgr
