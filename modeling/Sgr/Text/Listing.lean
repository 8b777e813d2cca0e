import Sgr.Text.Quoted

/-!
# Parts of a value in a text

A value that is made of parts is shown with its parts between brackets, a comma and a space between
two of them. Members of an enumeration are shown by their names, which have capitals and
underscores, and by what they stand for.

## Main definitions

* `commaList`, `parenthesized`, `braced` — parts put together.
* `truth` — a truth value.
* `label`, `member`, `quotedMember` — the name of a member, alone and with what it stands for.
-/

namespace Sgr.Text

/-- The text of a truth value. -/
def truth (b : Bool) : String :=
  if b then "True" else "False"

/-- Parts with a comma and a space between them. -/
def commaList (parts : List String) : String :=
  ", ".intercalate parts

/-- Parts in parentheses; a single one has a comma behind it. -/
def parenthesized : List String → String
  | [part] => "(" ++ part ++ ",)"
  | parts => "(" ++ commaList parts ++ ")"

/-- Parts in braces. -/
def braced (parts : List String) : String :=
  "\x7b" ++ commaList parts ++ "\x7d"

/-- The name of a member of an enumeration, in capitals. -/
def label (name : String) : String :=
  String.ofList (name.toList.map fun c => if c = '-' then '_' else c.toUpper)

/-- A member of an enumeration with what it stands for. -/
def member (typeName label shown : String) : String :=
  "<" ++ typeName ++ "." ++ label ++ ": " ++ shown ++ ">"

/-- A member of an enumeration that stands for a text, which is also its name. -/
def quotedMember (typeName name : String) : String :=
  member typeName (label name) (quote name)

end Sgr.Text
