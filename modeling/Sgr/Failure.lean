import Sgr.Content
import Sgr.Files
import Sgr.Value.Edit
import Sgr.Yaml.Fault

/-!
# Failures

Every part of the program has errors of its own. What a caller sees of them is the same for all: a
class, a text, what the failure is about, and the class of what caused it.

## Main definitions

* `CallError` — why a styling call fails before anything is rendered.
* `Failure` — the errors of all parts.
* `Failure.errorClass`, `Failure.message`, `Failure.subject?`, `Failure.cause?` — what a caller
  sees.
-/

namespace Sgr

/-- Why a styling call fails before anything is rendered. -/
inductive CallError where
  | unknownName (name : String)
  | noTemplate
  | namedArguments
  | constFormatDisabled
  | noParams (family : String)
  | noPaint
  | noMember (typeName name : String)
  | notCallable (typeName : String)
  deriving DecidableEq, Repr, Inhabited

namespace CallError

/-- The text of an error. -/
def message : CallError → String
  | unknownName name => "Unknown style or color: " ++ name
  | noTemplate => "Expected a template or an argument after the sigils"
  | namedArguments => "Keyword arguments need a format, string or constant-format mode"
  | constFormatDisabled =>
    "Constant-format output requires the const_format feature to be enabled"
  | noParams family => family ++ " expects color parameters before the content"
  | noPaint => "paint() needs a foreground or a background color"
  | noMember typeName name => "'" ++ typeName ++ "' object has no attribute '" ++ name ++ "'"
  | notCallable typeName => "'" ++ typeName ++ "' object is not callable"

/-- The class of an error. -/
def errorClass : CallError → ErrorClass
  | unknownName _ => .missingKey
  | constFormatDisabled => .unsupportedMode
  | notCallable _ => .wrongType
  | noMember .. => .noAttribute
  | _ => .grammar

end CallError

/-- Why a configuration cannot be loaded. -/
inductive ConfigError where
  | file (e : FileError)
  | document (f : Yaml.LoadFault)
  | notMapping (typeName : String)
  | invalid (message : String)
  deriving DecidableEq, Repr, Inhabited

namespace ConfigError

/-- The text of an error. -/
def message : ConfigError → String
  | file e => e.message
  | document (.markup f) => "Invalid YAML in configuration file: " ++ f.message
  | document (.scalar f) => f.message
  | notMapping typeName => "Configuration must be a mapping, got " ++ typeName
  | invalid text => text

/-- The class of an error. -/
def errorClass : ConfigError → ErrorClass
  | file e => e.errorClass
  | document (.markup _) | notMapping _ => .wrongValue
  | document (.scalar f) => f.errorClass
  | invalid _ => .invalidConfig

end ConfigError

/-- Why a name or a layout is refused. What was given as a name is shown as messages show it. -/
inductive NameError where
  | notMember (shown typeName : String)
  | noVariable (name : String)
  | badLayout (text : String)
  deriving DecidableEq, Repr, Inhabited

/-- The text of an error. -/
def NameError.message : NameError → String
  | notMember shown typeName => shown ++ " is not a valid " ++ typeName
  | noVariable name => name
  | badLayout text => "Invalid format '" ++ text ++ "' for '%' style"

/-- The class of an error. -/
def NameError.errorClass : NameError → ErrorClass
  | noVariable _ => .missingKey
  | _ => .wrongValue

/-- The errors of all parts. The key of a missing item is shown as its own text. -/
inductive Failure where
  | sigil (e : SigilError)
  | color (e : ColorError)
  | family (e : FamilyError)
  | bracket (e : BracketError)
  | kind (e : KindError)
  | content (e : ContentError)
  | template (e : TemplateError)
  | binding (e : BindingError)
  | call (e : CallError)
  | settings (e : SettingsError)
  | environment (e : VariableError)
  | config (e : ConfigError)
  | access (e : AccessError)
  | edit (e : EditError)
  | name (e : NameError)
  deriving Inhabited

/-- What a failure is about. -/
inductive Subject where
  | value (v : Value)
  | content (c : Content)
  deriving Inhabited

namespace TemplateError

/-- The text of an error. -/
def message : TemplateError → String
  | fault f => f.message
  | mismatch template f =>
    "Template " ++ Text.quote template ++ " does not match its arguments: "
      ++ (if f.errorClass = .missingKey then "missing argument " else "") ++ f.message

/-- The class of an error. -/
def errorClass : TemplateError → ErrorClass
  | fault f => f.errorClass
  | mismatch .. => .grammar

end TemplateError

namespace KindError

/-- The class of an error. -/
def errorClass : KindError → ErrorClass
  | notKind _ => .wrongType
  | unshown fault => fault.errorClass
  | noKinds => .wrongValue
  | color e => e.errorClass

end KindError

namespace ContentError

/-- What an error is about. -/
def subject : ContentError → Subject
  | templateInLiteral c | literalInTemplate _ c => .content c
  | literalPart v | templateType v | notConstant v => .value v

end ContentError

namespace RequestError

/-- The failure of a request. -/
def failure : RequestError → Failure
  | kind e => .kind e
  | content e => .content e
  | template e => .template e
  | binding e => .binding e

end RequestError

namespace Failure

/-- The class of a failure. -/
def errorClass : Failure → ErrorClass
  | sigil e => e.errorClass
  | color e => e.errorClass
  | family e => e.errorClass
  | bracket e => e.errorClass
  | kind e => e.errorClass
  | content _ => .contentType
  | template e => e.errorClass
  | binding _ => .wrongType
  | call e => e.errorClass
  | settings e => e.errorClass
  | environment e => e.errorClass
  | config e => e.errorClass
  | access e => e.errorClass
  | edit e => e.errorClass
  | name e => e.errorClass

/-- The text of a failure. -/
def message : Failure → String
  | sigil e => e.message
  | color e => e.message
  | family e => e.message
  | bracket e => e.message
  | kind e => e.message
  | content e => e.message
  | template e => e.message
  | binding e => e.message
  | call e => e.message
  | settings e => e.message
  | environment e => e.message
  | config e => e.message
  | access (.missing key) => key.str
  | access e => e.message
  | edit e => e.message
  | name e => e.message

/-- What a failure is about, where it says so. -/
def subject? : Failure → Option Subject
  | sigil e => e.subject?.map .value
  | color e => e.subject?.map .value
  | family e => e.subject?.map .value
  | bracket e => e.subject?.map .value
  | content e => some e.subject
  | template (.mismatch t _) => some (.value (.text t))
  | template (.fault f) => f.subject?.map .value
  | _ => none

/-- The class of what caused a failure. -/
def cause? : Failure → Option ErrorClass
  | template (.mismatch _ f) => some f.errorClass
  | _ => none

/-- A failure as a log record shows it: its class and its text. -/
def repr (f : Failure) : String :=
  f.errorClass.name ++ "(" ++ Text.quote f.message ++ ")"

/-- The failure of a prefix. -/
def ofPrefix : PrefixError → Failure
  | .sigil e => .sigil e
  | .settings e => .settings e

end Failure

end Sgr
