import Sgr.Template.Fill

/-!
# Styled content

A styled text is the content between the sequences of a resolution. Literal content is fixed text
given in parts; otherwise the content is a template with arguments, and the sequences become part
of the template, in which they stand for themselves since they hold no braces.

The output mode decides when the template is filled. A deferred result keeps the arguments as they
were given, cells included, and is filled when it is read; the other two are filled at once, with
what the cells hold at the moment.

## Main definitions

* `Content` — parts, or a template with arguments.
* `Value.isConstant` — whether a value can never change.
* `Styled`, `Styled.value` — the result of a styling call, and the value it is.
* `formatConstant` — a template with constant arguments.
* `assemble`, `Resolution.wrap` — content between two sequences, and between those of a resolution.
* `Request`, `Request.render` — kinds, modes and content, and what they give.
-/

namespace Sgr

/-- What a styling call wraps. -/
inductive Content where
  | literal (parts : List Value)
  | template (template : Value) (args : Arguments)
  deriving Inhabited

/-- Why content does not fit an output mode. -/
inductive ContentError where
  | templateInLiteral (content : Content)
  | literalPart (v : Value)
  | literalInTemplate (mode : OutputMode) (content : Content)
  | templateType (v : Value)
  | notConstant (v : Value)
  deriving Inhabited

/-- The text of an error. -/
def ContentError.message : ContentError → String
  | templateInLiteral _ => "Literal output takes fixed text, not a template"
  | literalPart v =>
    "Literal output takes fixed text, got " ++ v.shortTypeName
      ++ "; use a format or string mode for runtime values"
  | literalInTemplate mode _ => mode.name ++ " output takes a template and arguments"
  | templateType v => "Template must be a str, got " ++ v.shortTypeName
  | notConstant v => "Constant formatting needs constant arguments, got " ++ v.shortTypeName

/-- Why values are no kinds. -/
inductive KindError where
  | notKind (v : Value)
  | unshown (fault : TextFault)
  | noKinds
  | color (e : ColorError)
  deriving Inhabited

/-- The text of an error. -/
def KindError.message : KindError → String
  | notKind v => "Not a style or color kind: " ++ v.repr
  | unshown fault => fault.message
  | noKinds => "At least one style or color kind is required"
  | color e => e.message

/-- The error of a value that is no kind. If the value has no text, that is the error. -/
def KindError.ofValue (v : Value) : KindError :=
  match v.textFault? with
  | some fault => .unshown fault
  | none => .notKind v

/-- Why arguments cannot be bound to the parameters of a function. -/
inductive BindingError where
  | repeated (function parameter : String)
  | repeatedKeyword (function parameter : String)
  | unexpected (function parameter : String)
  | absent (function parameter : String)
  | tooMany (function : String) (most given : Nat)
  deriving DecidableEq, Repr, Inhabited

/-- The text of an error. -/
def BindingError.message : BindingError → String
  | repeated function parameter =>
    function ++ "() got multiple values for argument '" ++ parameter ++ "'"
  | repeatedKeyword function parameter =>
    "sgrfmt.macros." ++ function ++ "() got multiple values for keyword argument '" ++ parameter
      ++ "'"
  | unexpected function parameter =>
    function ++ "() got an unexpected keyword argument '" ++ parameter ++ "'"
  | absent function parameter =>
    function ++ "() missing 1 required positional argument: '" ++ parameter ++ "'"
  | tooMany function most given =>
    function ++ "() takes from 0 to " ++ Number.decimal most ++ " positional arguments but "
      ++ Number.decimal given ++ " were given"

/-- Why a styling request has no result. -/
inductive RequestError where
  | kind (e : KindError)
  | content (e : ContentError)
  | template (e : TemplateError)
  | binding (e : BindingError)
  deriving Inhabited

namespace Value

mutual

/-- Whether a value can never change: a scalar, constant text, or a tuple or set of such values. -/
def isConstant : Value → Bool
  | nothing | bool _ | int _ | level _ | float _ | complex .. | text _ | bytes _ | sigil _
  | constText _ => true
  | tuple items | set items => allConstant items
  | _ => false

/-- Whether no item can ever change. -/
def allConstant : List Value → Bool
  | [] => true
  | v :: vs => isConstant v && allConstant vs

end

/-- Whether a value may be a part of literal content: text or a number. -/
def isLiteral : Value → Bool
  | text _ | sigil _ | bool _ | int _ | level _ | float _ => true
  | _ => false

/-- The kind that a value is meant to be. -/
def kind : Value → Except KindError Kind
  | style s => .ok (.style s)
  | color c => .ok (.color c)
  | shade base bright p => ((Color.ofShade base bright p).map .color).mapError .color
  | v => .error (.ofValue v)

end Value

/-- The kinds that values are meant to be. -/
def kindsOf : List Value → Except KindError (List Kind)
  | [] => .ok []
  | v :: vs => do
    let k ← v.kind
    return k :: (← kindsOf vs)

/-- The resolution of kinds that are applied together; there must be one. -/
def Resolution.ofKinds? (kinds : List Kind) (revert : RevertMode) : Except KindError Resolution :=
  if kinds.isEmpty then .error .noKinds else .ok (Resolution.ofKinds kinds revert)

/-- The resolution of values that should be kinds. -/
def Resolution.ofValues (vs : List Value) (revert : RevertMode) : Except KindError Resolution := do
  Resolution.ofKinds? (← kindsOf vs) revert

/-- The result of a styling call. -/
inductive Styled where
  | text (s : String)
  | deferred (template : String) (args : Arguments)
  | constText (s : String)
  deriving Inhabited

/-- A result as a value. A deferred one keeps its template, and its arguments as they were given. -/
def Styled.value : Styled → Value
  | text s => .text s
  | constText s => .constText s
  | deferred t args =>
    .deferred (.text t) (.tuple args.positional)
      (.dict (args.named.map fun (name, v) => (.text name, v)))

/-- Literal content as text. -/
def literalText : List Value → Except ContentError String
  | [] => .ok ""
  | v :: vs =>
    if v.isLiteral then (literalText vs).map (v.str ++ ·) else .error (.literalPart v)

/-- Arguments with their cells looked up. -/
def Store.viewArguments (s : Store) (args : Arguments) : Arguments :=
  ⟨s.viewAll args.positional, s.viewNamed args.named⟩

/-- The first argument that can change, the positional ones first. -/
def Arguments.mutable? (args : Arguments) : Option Value :=
  (args.positional ++ args.named.map Prod.snd).find? fun v => !v.isConstant

/-- A template filled with constant arguments. An argument cannot be named `template`, which is what
the template itself is called. -/
def formatConstant (template : Value) (args : Arguments) : InContext RequestError String := do
  if args.named.any (·.1 = "template") then throw (.binding (.repeated "formatcp" "template"))
  else match template.text? with
    | none => throw (.content (.templateType template))
    | some t =>
      match args.mutable? with
      | some v => throw (.content (.notConstant v))
      | none => (renderTemplate t args).mapError .template

/-- Content between an opening and a closing sequence. Literal parts must all be fixed; a part that
is not is reported before anything is put together. -/
def assemble (store : Store) (opening closing : List Char) (content : Content)
    (output : OutputMode) : InContext RequestError Styled :=
  match output, content with
  | .literal, .literal parts => do
    let s ← InContext.ofExcept .content (literalText (store.viewAll parts))
    return .text (String.ofList opening ++ s ++ String.ofList closing)
  | .literal, content => throw (.content (.templateInLiteral content))
  | mode, .literal parts => throw (.content (.literalInTemplate mode (.literal parts)))
  | mode, .template template args =>
    match (store.view template).text? with
    | none => throw (.content (.templateType (store.view template)))
    | some t =>
      let full := String.ofList opening ++ t ++ String.ofList closing
      match mode with
      | .format => return .deferred full args
      | .constFormat => do
        return .constText (← formatConstant (.text full) (store.viewArguments args))
      | _ => do
        return .text (← (renderTemplate full (store.viewArguments args)).mapError .template)

/-- Content between the sequences of a resolution. -/
def Resolution.wrap (r : Resolution) (store : Store) (content : Content) (output : OutputMode) :
    InContext RequestError Styled :=
  assemble store r.opening r.closing content output

/-- What to apply, how to represent the result, and what to wrap. -/
structure Request where
  kinds : List Kind
  modes : Modes
  content : Content
  deriving Inhabited

/-- What a request gives. -/
def Request.render (store : Store) (q : Request) : InContext RequestError Styled := do
  let r ← InContext.ofExcept .kind (Resolution.ofKinds? q.kinds q.modes.revert)
  r.wrap store q.content q.modes.output

end Sgr
