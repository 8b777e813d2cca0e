import Sgr.Number.Radix
import Sgr.Text.Blank
import Sgr.Text.Case
import Sgr.Text.Listing

/-!
# Log levels

A log record has a level, any integer; six of them have names that settings can use. The last is
above every record the program makes and silences it.

## Main definitions

* `LogLevel` — the named levels.
* `LogLevel.ofName?` — the level of a name.
* `levelName` — the name of any level in a record.
-/

namespace Sgr

/-- The levels that settings can name. -/
inductive LogLevel where
  | debug
  | info
  | warning
  | error
  | critical
  | none
  deriving DecidableEq, Repr, Inhabited

namespace LogLevel

/-- All levels, in ascending order. -/
def all : List LogLevel := [.debug, .info, .warning, .error, .critical, .none]

/-- The number of a level. -/
def code : LogLevel → Int
  | debug => 10
  | info => 20
  | warning => 30
  | error => 40
  | critical => 50
  | none => 60

/-- The name of a level, in capitals. -/
def label : LogLevel → String
  | debug => "DEBUG"
  | info => "INFO"
  | warning => "WARNING"
  | error => "ERROR"
  | critical => "CRITICAL"
  | none => "NONE"

/-- The level of a name in capitals. -/
def ofLabel? (s : String) : Option LogLevel :=
  all.find? (·.label = s)

/-- The level of a name, in any case and with blanks around it. -/
def ofName? (s : String) : Option LogLevel :=
  ofLabel? (Text.upper (Text.strip s))

/-- The text of a level in a record. -/
def shown (l : LogLevel) : String :=
  Text.member "LogLevel" l.label (Number.decimal l.code)

/-- The level of a number. -/
def ofCode? (i : Int) : Option LogLevel :=
  all.find? (·.code = i)

end LogLevel

/-- The name of a level as records show it. The silent level has none of its own, and zero means
that no level is set. -/
def levelName (i : Int) : String :=
  if i = 0 then "NOTSET"
  else match LogLevel.ofCode? i with
    | some .none | none => "Level " ++ Number.decimal i
    | some l => l.label

end Sgr
