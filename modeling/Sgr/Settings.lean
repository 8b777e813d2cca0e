import Sgr.ErrorClass
import Sgr.LogLevel

/-!
# Settings

The settings say whether constant text may be made, whether the command line keeps escape sequences
in its output, and which log records are written. They come from environment variables or from a
configuration (`Sgr.Config.Reading`).

## Main definitions

* `Env`, `VariableError` — environment variables, and why one cannot be set.
* `Settings` — the settings.
* `SettingsError` — why there are none.
* `Settings.ofEnv` — the settings of an environment.
-/

namespace Sgr

/-- Environment variables. -/
abbrev Env := List (String × String)

/-- The value of a variable. -/
def Env.get? (env : Env) (name : String) : Option String :=
  List.lookup name env

/-- An environment with a variable set. -/
def Env.set (env : Env) (name value : String) : Env :=
  (name, value) :: env.filter (·.1 ≠ name)

/-- An environment without a variable. -/
def Env.unset (env : Env) (name : String) : Env :=
  env.filter (·.1 ≠ name)

/-- Why a variable cannot be set. -/
inductive VariableError where
  | notText (typeName : String)
  | nulInside
  | equalsInName
  | emptyName
  deriving DecidableEq, Repr, Inhabited

namespace VariableError

/-- The text of an error. -/
def message : VariableError → String
  | notText typeName => "str expected, not " ++ typeName
  | nulInside => "embedded null byte"
  | equalsInName => "illegal environment variable name"
  | emptyName => "[Errno 22] Invalid argument"

/-- The class of an error. -/
def errorClass : VariableError → ErrorClass
  | notText _ => .wrongType
  | nulInside | equalsInName => .wrongValue
  | emptyName => .system

end VariableError

/-- An environment with a variable set, if it can have that name and value. -/
def Env.set? (env : Env) (name value : String) : Except VariableError Env :=
  let hasNul (s : String) := s.toList.contains '\x00'
  if hasNul name || hasNul value then .error .nulInside
  else if name.toList.contains '=' then .error .equalsInName
  else if name.isEmpty then .error .emptyName
  else .ok (env.set name value)

/-- What the program is set to. The colour setting is a text, since a caller may install any. -/
structure Settings where
  constFormat : Bool := false
  color : String := "auto"
  level : LogLevel := .none
  deriving DecidableEq, Repr, Inhabited

/-- The colour settings that can be read. -/
def colorChoices : List String := ["auto", "always", "never"]

/-- The text of settings in a record. -/
def Settings.text (s : Settings) : String :=
  "Settings(features=FeatureConfig(const_format=" ++ Text.truth s.constFormat ++ "), color="
    ++ Text.quote s.color ++ ", log_level=" ++ s.level.shown ++ ")"

/-- Why there are no settings. What was read instead of a setting is given as it is shown. -/
inductive SettingsError where
  | notBool (name shown : String)
  | notColor (shown : String)
  | unknownLevel (name : String)
  | badLevel (shown : String)
  | noMember (typeName member : String)
  deriving DecidableEq, Repr, Inhabited

namespace SettingsError

/-- The text of an error. -/
def message : SettingsError → String
  | notBool name shown => "Invalid boolean for " ++ name ++ ": " ++ shown
  | notColor shown =>
    "Invalid color setting: " ++ shown ++ " (expected one of "
      ++ Text.commaList colorChoices ++ ")"
  | unknownLevel name => "Unknown log level: " ++ name
  | badLevel shown => shown ++ " is not a valid LogLevel"
  | noMember typeName member => "'" ++ typeName ++ "' object has no attribute '" ++ member ++ "'"

/-- The class of an error. -/
def errorClass : SettingsError → ErrorClass
  | noMember .. => .noAttribute
  | _ => .wrongValue

end SettingsError

/-- The texts that stand for true. -/
def trueTexts : List String := ["1", "true", "yes", "on"]

/-- The texts that stand for false. -/
def falseTexts : List String := ["", "0", "false", "no", "off"]

/-- A text as settings are compared: in lower case, without blanks around it. -/
def settingWord (s : String) : String :=
  Text.lower (Text.strip s)

/-- The truth value of a text. Errors name the setting and show the text as given. -/
def readSwitch (name shown s : String) : Except SettingsError Bool :=
  if settingWord s ∈ trueTexts then .ok true
  else if settingWord s ∈ falseTexts then .ok false
  else .error (.notBool name shown)

/-- The colour setting of a text. Errors show the text as given. -/
def readColor (shown s : String) : Except SettingsError String :=
  if settingWord s ∈ colorChoices then .ok (settingWord s) else .error (.notColor shown)

/-- The log level of a name. -/
def readLevel (name : String) : Except SettingsError LogLevel :=
  match LogLevel.ofName? name with
  | some l => .ok l
  | none => .error (.unknownLevel name)

/-- The settings of an environment. A variable that is not set has its default. -/
def Settings.ofEnv (env : Env) : Except SettingsError Settings := do
  let switch := (env.get? "SGRFMT_CONST_FORMAT").getD ""
  let constFormat ← readSwitch "SGRFMT_CONST_FORMAT" (Text.quote switch) switch
  let choice := (env.get? "SGRFMT_COLOR").getD "auto"
  let color ← readColor (Text.quote choice) choice
  let level ← readLevel ((env.get? "SGRFMT_LOG_LEVEL").getD "none")
  return { constFormat, color, level }

end Sgr
