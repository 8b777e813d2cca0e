import Sgr.ErrorClass
import Sgr.Text.Blank
import Sgr.Value

/-!
# The sigils in front of a call

A call may start with an output sigil, then a revert sigil, then, if there was one of these, a
separator. Nothing after that may be an output sigil, a revert sigil or a separator:

    call    := [output] [revert] [","] content
    output  := "%" | "@" | "#"
    revert  := "!" | "*"

Only sigils count: a text that happens to be `@` is content. The output sigil for constant text is
refused unless its feature is enabled.

## Main definitions

* `SigilError` — why a call or a prefix is refused.
* `Sigil.tokenize` — the sigils of a text.
* `Leading`, `Leading.read` — the modes that the leading sigils pick, and the content.
* `Modes.ofText` — the modes of a text of sigils.
-/

namespace Sgr

/-- Why sigils are refused. -/
inductive SigilError where
  | unknown (c : Char) (text : String)
  | outputAfterRevert (s : Sigil)
  | unexpected (s : Sigil)
  | leftOver (s : Sigil) (shown : String)
  | constFormatDisabled
  deriving DecidableEq, Repr, Inhabited

namespace SigilError

/-- The text of an error. -/
def message : SigilError → String
  | unknown c text =>
    "Unknown sigil " ++ Text.quote c.toString ++ " in " ++ Text.quote text
  | outputAfterRevert s => "Output sigil '" ++ s.text ++ "' must come before the revert sigil"
  | unexpected s => "Unexpected sigil '" ++ s.text ++ "'"
  | leftOver s shown => "Unexpected sigil '" ++ s.text ++ "' in " ++ shown
  | constFormatDisabled =>
    "The '#' constant-format sigil requires the const_format feature to be enabled"

/-- The class of an error. -/
def errorClass : SigilError → ErrorClass
  | constFormatDisabled => .unsupportedMode
  | _ => .grammar

/-- The character or sigil that an error is about. -/
def subject? : SigilError → Option Value
  | unknown c _ => some (.text c.toString)
  | outputAfterRevert s | unexpected s | leftOver s _ => some (.sigil s)
  | constFormatDisabled => none

end SigilError

/-- The sigils among the characters of a text; blanks are skipped. -/
def Sigil.ofChars (text : String) : List Char → Except SigilError (List Sigil)
  | [] => .ok []
  | c :: cs =>
    if Text.isBlank c then ofChars text cs
    else match Sigil.ofChar? c with
      | some s => (ofChars text cs).map (s :: ·)
      | none => .error (.unknown c text)

/-- The sigils of a text. -/
def Sigil.tokenize (text : String) : Except SigilError (List Sigil) :=
  Sigil.ofChars text text.toList

/-- What the leading sigils of a call pick, and the content that follows them. -/
structure Leading where
  output : Option OutputMode
  revert : Option RevertMode
  content : List Value
  deriving Inhabited

namespace Leading

/-- The modes of a call: the picked ones, or literal output and reverting the kinds' own groups. -/
def modes (l : Leading) : Modes :=
  ⟨l.output.getD .literal, l.revert.getD .single⟩

/-- Reads an output sigil. -/
def readOutput (constFormat : Bool) (tokens : List Value) :
    Except SigilError (Option OutputMode × List Value) :=
  match tokens with
  | .sigil s :: rest =>
    match s.output? with
    | some m =>
      if m = .constFormat && !constFormat then .error .constFormatDisabled else .ok (some m, rest)
    | none => .ok (none, tokens)
  | _ => .ok (none, tokens)

/-- Reads a revert sigil. -/
def readRevert (tokens : List Value) : Option RevertMode × List Value :=
  match tokens with
  | .sigil s :: rest =>
    match s.revert? with
    | some m => (some m, rest)
    | none => (none, tokens)
  | _ => (none, tokens)

/-- Drops a separator. -/
def dropSeparator : List Value → List Value
  | .sigil .separator :: rest => rest
  | tokens => tokens

/-- The first sigil that belongs in front of the content. -/
def stray? : List Value → Option Sigil
  | [] => none
  | .sigil s :: rest => if s.isLeading then some s else stray? rest
  | _ :: rest => stray? rest

/-- Refuses content with a sigil that belongs in front of it. An output sigil right behind a revert
sigil is out of order. -/
def checkContent (afterRevert : Bool) (content : List Value) : Except SigilError Unit :=
  match stray? content with
  | none => .ok ()
  | some s =>
    match content with
    | .sigil t :: _ =>
      if afterRevert && t.isLeading && t.output?.isSome then .error (.outputAfterRevert s)
      else .error (.unexpected s)
    | _ => .error (.unexpected s)

/-- Reads the leading sigils of a call. -/
def read (constFormat : Bool) (tokens : List Value) : Except SigilError Leading := do
  let (output, rest) ← readOutput constFormat tokens
  let (revert, rest) := readRevert rest
  let content := if output.isSome || revert.isSome then dropSeparator rest else rest
  checkContent revert.isSome content
  return ⟨output, revert, content⟩

end Leading

/-- The modes of a text that holds nothing but sigils; messages show it as given. -/
def Modes.ofPrefix (constFormat : Bool) (shown text : String) : Except SigilError Modes := do
  let sigils ← Sigil.tokenize text
  let leading ← Leading.read constFormat (sigils.map .sigil)
  match leading.content with
  | .sigil s :: _ => .error (.leftOver s shown)
  | _ => .ok leading.modes

/-- The modes of a text that holds nothing but sigils. -/
def Modes.ofText (constFormat : Bool) (text : String) : Except SigilError Modes :=
  Modes.ofPrefix constFormat (Text.quote text) text

end Sgr
