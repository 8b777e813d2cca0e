import Sgr.LogLevel
import Sgr.Number.Layout
import Sgr.Text.Digit

/-!
# Layouts of log lines

A layout is a text with directives, which say what a line shows of a record. A directive is a
percent sign, the name of a field in parentheses, flags, a width, a precision, and a letter for how
the field is written. A doubled percent sign stands for one.

A layout has to hold a directive. Whether all of its directives can be written shows with the first
record: one with an unknown field, or with a letter that does not fit its field, has no line.

## Main definitions

* `Directive`, `Layout` — a directive, and a layout.
* `Layout.ofText?` — the layout of a text.
* `Record`, `Layout.line?` — a log record, and its line.
-/

namespace Sgr

/-- A log record. -/
structure Record where
  level : Int
  logger : String
  message : String
  deriving DecidableEq, Repr, Inhabited

/-- A field of a record as it is written by a directive. -/
structure Directive where
  field : String
  flags : List Char
  width : Nat
  precision : Option Nat
  letter : Char
  deriving DecidableEq, Repr, Inhabited

/-- A part of a line. A broken one cannot be written. -/
inductive LayoutPart where
  | char (c : Char)
  | directive (d : Directive)
  | broken
  deriving DecidableEq, Repr, Inhabited

/-- The parts of a line. -/
abbrev Layout := List LayoutPart

/-! ## Reading layouts -/

namespace Layout

/-- Whether a character is a flag. -/
def isFlag (c : Char) : Bool :=
  ['#', '0', '+', ' ', '-'].contains c

/-- Whether a character is a decimal digit. -/
def isCount (c : Char) : Bool :=
  (Text.decimalValue? c).isSome

/-- A count in front of characters, which is zero if there is none, and what follows it. -/
def readCount (cs : List Char) : Nat × List Char :=
  (Number.ofDigitValues 10 ((cs.takeWhile Char.isDigit).filterMap Text.decimalValue?),
    cs.dropWhile Char.isDigit)

/-- The name behind an opening parenthesis, whose own parentheses are balanced, and what follows the
closing one. -/
def readName : Nat → List Char → Option (List Char × List Char)
  | _, [] => none
  | 0, ')' :: cs => some ([], cs)
  | depth + 1, ')' :: cs => (readName depth cs).map fun (name, rest) => (')' :: name, rest)
  | depth, '(' :: cs => (readName (depth + 1) cs).map fun (name, rest) => ('(' :: name, rest)
  | depth, c :: cs => (readName depth cs).map fun (name, rest) => (c :: name, rest)

/-- A precision behind a point, if there is one, and what follows it. -/
def readPrecision : List Char → Option Nat × List Char
  | '.' :: cs => (some (readCount cs).1, (readCount cs).2)
  | cs => (none, cs)

/-- Characters without a letter in front that says how long a number is. -/
def dropLength : List Char → List Char
  | c :: cs => if c = 'h' || c = 'l' || c = 'L' then cs else c :: cs
  | [] => []

/-- The directive of a field, behind its name, and what follows it. -/
def readDirective (field : String) (cs : List Char) : LayoutPart × List Char :=
  let flags := cs.takeWhile isFlag
  let (width, cs) := readCount (cs.dropWhile isFlag)
  let (precision, cs) := readPrecision cs
  match dropLength cs with
  | letter :: rest => (.directive ⟨field, flags, width, precision, letter⟩, rest)
  | [] => (.broken, [])

/-- The part behind a percent sign, and what follows it. Without the name of a field only a second
percent sign can be written. -/
def readPart : List Char → LayoutPart × List Char
  | '%' :: cs => (.char '%', cs)
  | '(' :: cs =>
    match readName 0 cs with
    | some (field, rest) => readDirective (String.ofList field) rest
    | none => (.broken, [])
  | cs => (.broken, cs.tail)

/-- The parts of a text, of which no more than `fuel` are read. -/
def readParts : Nat → List Char → Layout
  | 0, _ | _, [] => []
  | fuel + 1, c :: cs =>
    if c = '%' then
      let (part, rest) := readPart cs
      part :: readParts fuel rest
    else .char c :: readParts fuel cs

/-- The parts of a text. Every part takes a character at least. -/
def ofChars (cs : List Char) : Layout :=
  readParts cs.length cs

/-- What follows a star or a count, if the characters start with one. -/
def afterCount? : List Char → Option (List Char)
  | '*' :: cs => some cs
  | c :: cs => if isCount c then some (cs.dropWhile isCount) else none
  | [] => none

/-- Whether characters behind a percent sign are a directive: a name of letters, digits and
underscores, flags, a width, a precision and a letter. -/
def isDirective (cs : List Char) : Bool :=
  match cs with
  | '(' :: cs =>
    let name := cs.takeWhile fun c => c.isAlphanum || c = '_'
    match cs.drop name.length with
    | ')' :: cs =>
      let cs := cs.dropWhile isFlag
      let cs := (afterCount? cs).getD cs
      let cs :=
        match cs with
        | '.' :: behind => (afterCount? behind).getD cs
        | cs => cs
      !name.isEmpty && cs.head?.any fun c => "diouxefgcrsa%".toList.contains c.toLower
    | _ => false
  | _ => false

/-- Whether a text holds a directive. -/
def hasDirective : List Char → Bool
  | [] => false
  | c :: cs => (c = '%' && isDirective cs) || hasDirective cs

/-- The layout of a text, which has to hold a directive. An empty text stands for the message
alone. -/
def ofText? (s : String) : Option Layout :=
  let s := if s.isEmpty then "%(message)s" else s
  if hasDirective s.toList then some (ofChars s.toList) else none

/-- The layout of the command line: time, level, logger and message. -/
def standard : Layout :=
  ofChars "%(asctime)s [%(levelname)s] [%(name)s] %(message)s".toList

end Layout

/-! ## Writing lines -/

/-- What a field of a record holds. -/
inductive FieldValue where
  | text (s : String)
  | number (i : Int)
  | other (shown : String)
  deriving DecidableEq, Repr, Inhabited

/-- A field of a record that was made at a time. -/
def Record.field? (r : Record) (now : String) : String → Option FieldValue
  | "asctime" => some (.text now)
  | "levelname" => some (.text (levelName r.level))
  | "levelno" => some (.number r.level)
  | "name" => some (.text r.logger)
  | "message" | "msg" => some (.text r.message)
  | "threadName" => some (.text "MainThread")
  | "processName" => some (.text "MainProcess")
  | "args" => some (.other "()")
  | "exc_info" | "exc_text" | "stack_info" => some (.other "None")
  | _ => none

namespace FieldValue

/-- A field as its own text. -/
def str : FieldValue → String
  | text s | other s => s
  | number i => Number.decimal i

/-- A field as messages show it. -/
def repr : FieldValue → String
  | text s => Text.quote s
  | v => v.str

end FieldValue

namespace Directive

/-- Whether a flag is set. -/
def has (d : Directive) (c : Char) : Bool :=
  d.flags.contains c

/-- Characters filled with blanks to the width. -/
def pad (d : Directive) (cs : List Char) : List Char :=
  let blanks := List.replicate (d.width - cs.length) ' '
  if d.has '-' then cs ++ blanks else blanks ++ cs

/-- A text, cut to the precision. -/
def writeText (d : Directive) (s : String) : List Char :=
  d.pad <|
    match d.precision with
    | some n => s.toList.take n
    | none => s.toList

/-- A number: its sign, its mark and its digits, between which zeros may fill the width. -/
def writeNumber (d : Directive) (negative : Bool) (mark digits : List Char) : List Char :=
  let sign :=
    if negative then ['-'] else if d.has '+' then ['+'] else if d.has ' ' then [' '] else []
  let zeros :=
    if d.has '0' && !d.has '-' then
      List.replicate (d.width - (sign.length + mark.length + digits.length)) '0'
    else []
  d.pad (sign ++ mark ++ zeros ++ digits)

/-- A whole number in a base, with at least as many digits as the precision says. -/
def writeInt (d : Directive) (base : Nat) (mark : List Char) (i : Int) : List Char :=
  let digits := Number.padZeros (d.precision.getD 0) (Number.digits base i.natAbs)
  let capital (cs : List Char) := if d.letter = 'X' then cs.map Char.toUpper else cs
  d.writeNumber (i < 0) (if d.has '#' then capital mark else []) (capital digits)

/-- A whole number as a fraction. -/
def writeFraction (d : Directive) (form : Form) (i : Int) : Option (List Char) :=
  match Double.ofInt i with
  | .finite _ m e =>
    let spelling : Spelling := { keepPoint := d.has '#', capitals := d.letter.isUpper }
    some (d.writeNumber (i < 0) [] ((Double.finite false m e).spell form (d.precision.getD 6)
      spelling))
  | _ => none

/-- A character: the one of a code point, or a text of one character. -/
def writeChar (d : Directive) : FieldValue → Option (List Char)
  | .number i =>
    if 0 ≤ i ∧ i < 0x110000 then some (d.pad [Char.ofNat i.toNat]) else none
  | .text s => if s.length = 1 then some (d.pad s.toList) else none
  | .other _ => none

/-- A field as the letter says, if it can be written so. -/
def write? (d : Directive) (v : FieldValue) : Option (List Char) :=
  match d.letter, v with
  | 's', v => some (d.writeText v.str)
  | 'r', v => some (d.writeText v.repr)
  | 'a', v => some (d.writeText (Text.onlyAscii v.repr))
  | 'c', v => d.writeChar v
  | 'd', .number i | 'i', .number i | 'u', .number i => some (d.writeInt 10 [] i)
  | 'o', .number i => some (d.writeInt 8 ['0', 'o'] i)
  | 'x', .number i | 'X', .number i => some (d.writeInt 16 ['0', 'x'] i)
  | 'e', .number i | 'E', .number i => d.writeFraction .exponent i
  | 'f', .number i | 'F', .number i => d.writeFraction .fixed i
  | 'g', .number i | 'G', .number i => d.writeFraction .general i
  | _, _ => none

end Directive

/-- A part of the line of a record that was made at a time, if it can be written. -/
def LayoutPart.write? (now : String) (r : Record) : LayoutPart → Option (List Char)
  | char c => some [c]
  | directive d => (r.field? now d.field).bind d.write?
  | broken => none

/-- The line of a record, if it can be written. -/
def Layout.line? (now : String) (r : Record) (layout : Layout) : Option String :=
  let parts? := layout.mapM fun (p : LayoutPart) => p.write? now r
  parts?.map fun parts => String.ofList parts.flatten ++ "\n"

end Sgr
