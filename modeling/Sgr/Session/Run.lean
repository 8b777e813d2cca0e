import Sgr.Session.Evaluate

/-!
# Running sessions

An operation evaluates its arguments and then acts on the state. A session goes on after a failure;
what a failed operation did up to then stays done, and only a result can be named.

## Main definitions

* `Operation.run` — an operation.
* `Session`, `Session.Step`, `Session.step` — the state of a session, and a step of it.
* `Session.run` — the results of steps, each with the state behind it.
-/

namespace Sgr

/-- The values of expressions with their cells looked up. -/
def viewedAll (vars : Variables) (es : List Expr) : Action (List Value) := do
  let vs ← Expr.evalAll vars es
  return (← get).store.viewAll vs

/-- The value of an expression with its cells looked up. -/
def viewed (vars : Variables) (e : Expr) : Action Value := do
  viewValue (← e.eval vars)

/-- The arguments of a template. -/
def argumentsOf (vars : Variables) (args : List Expr) (named : List (String × Expr)) :
    Action Arguments := do
  let positional ← Expr.evalAll vars args
  return ⟨positional, ← Expr.evalNamed vars named⟩

/-- The content of an expression. -/
def ContentExpr.eval (vars : Variables) : ContentExpr → Action Content
  | .literal parts => do return .literal (← Expr.evalAll vars parts)
  | .template text args named => do
    let text ← text.eval vars
    return .template text (← argumentsOf vars args named)

/-- The kind that a value is meant to be. -/
def kindOf (v : Value) : Action Kind :=
  Action.lift .kind v.kind

/-- The revert group of a kind, or of the colours of a family. -/
def groupOf : Value → Action RevertGroup
  | .family f => return f.group
  | .shade _ _ p => return p.group
  | v => do return (← kindOf v).group

/-- The sequence of parameters. -/
def sequenceChars (params : List Int) : List Char :=
  sequenceOf (params.map fun i => (Number.decimal i).toList)

/-- The sequence of parameters as a text. -/
def sequenceText (params : List Int) : Value :=
  .text (String.ofList (sequenceChars params))

/-- A styled result as a value. -/
def styled (r : InContext RequestError Styled) : Action Value := do
  styledValue (← Action.inContext RequestError.failure r)

/-- The text of a template that may not be a text. -/
def fillTemplate (template : Value) (args : Arguments) : Action Value := do
  let store := (← get).store
  match (store.view template).text? with
  | none => throw (.template (.fault (.noTemplate (store.view template).typeName)))
  | some t =>
    return .text (← Action.inContext .template (renderTemplate t (store.viewArguments args)))

/-- Changes the cells. -/
def edit (change : Store → Except EditError Store) : Action Unit := do
  let store ← Action.lift .edit (change (← get).store)
  modify ({ · with store })

/-- A colour of a pair, if it is there. -/
def optionalColorValue (c : Option Color) : Value :=
  (c.map .color).getD .nothing

/-- Sets or removes an environment variable. -/
def setVariable (name : String) (v : Value) : Action Unit := do
  match v, v.text? with
  | .nothing, _ => modify fun w => { w with env := w.env.unset name }
  | _, some value =>
    let env ← Action.lift .environment ((← get).env.set? name value)
    modify ({ · with env })
  | v, none => throw (.environment (.notText v.shortTypeName))

/-- Sets up the log of the session, which is empty then. -/
def configureLog (level : Int) (layoutText : String) : Action Value := do
  modify fun w => { w with log := w.log.clear sessionStream }
  let set (layout : Layout) : Action Unit :=
    modify fun w => { w with log := w.log.configure w.now level layout sessionStream }
  match Layout.ofText? layoutText with
  | some layout => set layout
  | none =>
    if LogLevel.none.code ≤ level then set []
    else
      modify fun w => { w with log := w.log.unhandled }
      throw (.name (.badLayout layoutText))
  let log := (← get).log
  let handlers := log.handlers.map fun h => .text h.typeName
  shareValue (.record [("level", .int log.level), ("handlers", .list handlers)])

/-- Takes what the log of the session holds. -/
def readLog : Action String :=
  modifyGet fun w =>
    (w.log.textOf sessionStream, { w with log := w.log.clear sessionStream })

/-- A message of the command line. -/
def messageText (kind : MessageKind) (s : String) : Action String :=
  match kind with
  | .error => CommandLine.errorMessage s
  | .warning => CommandLine.warningMessage s
  | .success => CommandLine.successMessage s
  | .hint => CommandLine.hintMessage s

/-- Violations as a value: whether there are none, and each with its path and its message. -/
def violationsValue (vs : List Violation) : Value :=
  .tuple [.bool vs.isEmpty, .list (vs.map fun v =>
    .record [("path", .text v.pathText), ("message", .text v.message)])]

/-- The tables of styles, groups and colours as a value. -/
def registryValue : Value :=
  let number (n : Nat) : Value := .int n
  .record [
    ("styles", .list (Style.all.map fun s =>
      .list [.text s.name, number s.code, .text s.group.name])),
    ("resets", .list (RevertGroup.all.map fun g => .list [.text g.name, number g.resetCode])),
    ("offsets", .list (Plane.all.flatMap fun p => [false, true].map fun b =>
      .list [.text p.name, .bool b, number (p.basicOffset b)])),
    ("selectors", .list (Plane.all.map fun p =>
      .list [.text p.name, number p.selector, .text p.group.name])),
    ("names", .list (baseColorNames.map .text)),
    ("constants", .list [number resetAll, number indexedMode, number rgbMode])]

/-- Runs the words of a command line. -/
def runCommandLine (args : List String) (keepsControl : Bool) : Action CommandLine.Outcome :=
  modifyGet (CommandLine.run args keepsControl)

/-- The value of an operation, given the results of earlier ones. -/
def Operation.eval (vars : Variables) : Operation → Action Value
  | tokenize s => do
    shareValue (.list ((← Action.lift .sigil (Sigil.tokenize s)).map .sigil))
  | readSigils tokens constFormat => do
    let tokens ← Expr.evalAll vars tokens
    let enabled ← Action.inContext .settings (mayBeConstant constFormat)
    let leading ← Action.lift .sigil (Leading.read enabled tokens)
    return .tuple [.output leading.modes.output, .revert leading.modes.revert,
      .tuple leading.content]
  | readPrefix s constFormat => do
    let modes ← prefixModes s constFormat
    return .tuple [.output modes.output, .revert modes.revert]
  | color spec plane => do
    let v ← viewed vars spec
    Action.lift .color (Color.readValue v (← planeOf plane))
  | colorPair s => do
    let pair ← parsePair s
    return .tuple [optionalColorValue pair.foreground, optionalColorValue pair.background]
  | packedColor e plane => do
    let v ← viewed vars e
    return .color (← Action.lift .color (Color.ofPackedValue v (← planeOf plane)))
  | hexColor s plane => do
    return .color (← Action.lift .color (Color.ofHex s (← planeOf plane)))
  | registry => shareValue registryValue
  | groupOf kind => do return .group (← Sgr.groupOf (← viewed vars kind))
  | paramsOf kind => do
    let k ← kindOf (← viewed vars kind)
    return .tuple (k.params.map fun (n : Nat) => .int n)
  | resolve kind revert => do
    let k ← kindOf (← viewed vars kind)
    return .resolution (Resolution.ofKind k (← revertModeOf revert))
  | resolveAll kinds revert => do
    let vs ← viewedAll vars kinds
    return .resolution (← Action.lift .kind (Resolution.ofValues vs (← revertModeOf revert)))
  | sequence params => do return sequenceText params
  | wrap set reset => do return .tuple [sequenceText set, sequenceText reset]
  | strip s => do return .text (stripSgr s)
  | fill template args named => do
    let template ← template.eval vars
    fillTemplate template (← argumentsOf vars args named)
  | fillConstant template args named => do
    let template ← template.eval vars
    let args ← argumentsOf vars args named
    let store := (← get).store
    let s ← Action.inContext RequestError.failure
      (formatConstant (store.view template) (store.viewArguments args))
    return .constText s
  | isConstant e => do return .bool (← viewed vars e).isConstant
  | assemble set reset content output => do
    let content ← content.eval vars
    let output ← outputOf output
    styled (Sgr.assemble (← get).store (sequenceChars set) (sequenceChars reset) content output)
  | render kinds output revert content => do
    let kinds ← viewedAll vars kinds
    let output ← outputOf output
    let revert ← revertModeOf revert
    let content ← content.eval vars
    let r ← Action.lift .kind (Resolution.ofValues kinds revert)
    styled (r.wrap (← get).store content output)
  | tool t => t.eval vars
  | familyColor t params => do
    let v ← t.eval vars
    return .color (← colorOf v (← Expr.evalAll vars params))
  | call c => c.eval vars
  | invoke name tokens named => do
    let tokens ← Expr.evalAll vars tokens
    let named ← Expr.evalNamed vars named
    Sgr.invoke name tokens named
  | names => shareValue (.list (Tool.all.map fun t => .text t.name))
  | resetText => do return .text resetSequence
  | version => do return .text CommandLine.version
  | value e => e.eval vars
  | text e => do return .text (← renderValue (← e.eval vars))
  | repr e => do
    let v ← viewed vars e
    return .text (← Action.lift .access (v.checkText v.repr))
  | length e => do return .int (← Action.lift .edit (← viewed vars e).length)
  | format e spec => do
    let v ← e.eval vars
    let shown := (← get).store.viewParts v
    return .text (← Action.inContext .template (shown.format spec.toList))
  | equal a b => do
    let a ← a.eval vars
    let b ← b.eval vars
    return .bool ((← get).store.equal a b)
  | join a b => do
    let a ← a.eval vars
    let b ← b.eval vars
    let store := (← get).store
    shareValue (← Action.lift .edit ((store.contents a).join (store.contents b)))
  | append target item => do
    let target ← target.eval vars
    let item ← item.eval vars
    edit (·.append target item)
    return target
  | put target key item => do
    let target ← target.eval vars
    let key ← key.eval vars
    let item ← item.eval vars
    edit (·.put target key item)
    return target
  | setMember target name item => do
    let target ← target.eval vars
    let item ← item.eval vars
    edit (·.setMember target name item)
    return .nothing
  | useSettings constFormat colorName levelName => do
    let level ← Action.lift .settings (levelOf (← viewed vars levelName))
    let settings : Settings := { constFormat, color := colorName, level }
    Sgr.useSettings settings
    return .settings settings
  | resetSettings => do
    Sgr.resetSettings
    return .nothing
  | activeSettings => do
    return .settings (← Action.inContext .settings Sgr.activeSettings)
  | envSettings => do return .settings (← settingsFromEnv)
  | setEnv changes => do
    for (name, v) in changes do setVariable name v
    return .nothing
  | writeFiles files => do
    modify fun w => { w with
      files := files.foldl (fun fs (name, bytes) => fs.write name bytes) w.files }
    return .nothing
  | validate config => do
    shareValue (violationsValue (Schema.configuration.violations (← viewed vars config)))
  | createSettings config => do
    return .settings (← Action.inContext id (Settings.ofConfig (← viewed vars config)))
  | resolvePlaceholders e => do
    let v ← e.eval vars
    shareValue (← Sgr.resolvePlaceholders ((← get).store.unfold v))
  | findConfig path => do
    match ← Sgr.findConfig path with
    | some p => return .path p.shown
    | none => return .nothing
  | loadConfig path => do shareValue (← Sgr.loadConfig ((← get).files.place path))
  | loadResolved path => do shareValue (← Sgr.loadResolved ((← get).files.place path))
  | loadSettings path => do
    return .settings (← Sgr.loadSettings ((← get).files.place path))
  | level e => do return .level (← Action.lift .settings (levelOf (← viewed vars e)))
  | configureLog code layout => Sgr.configureLog code layout
  | log logger code line => do
    modify fun w => { w with log := w.log.send w.now ⟨code, logger, line⟩ }
    return .nothing
  | readLog => do return .text (← Sgr.readLog)
  | message kind s => do return .text (← messageText kind s)
  | readParam s => shareValue (CommandLine.readParam s)
  | palette => do return .text (← Palette.display)
  | commandLine args keepsControl => do
    return (Answer.command (← runCommandLine args keepsControl)).toValue

/-- Runs an operation, given the results of earlier ones. -/
def Operation.run (vars : Variables) : Operation → Action Answer
  | commandLine args keepsControl => do return .command (← runCommandLine args keepsControl)
  | o => do return .value (← o.eval vars)

/-- The state of a session: the shared state, and the results that have a name. -/
structure Session where
  world : World
  results : Variables := []
  deriving Inhabited

/-- An operation, and a name for its result if it is to have one. -/
structure Session.Step where
  operation : Operation
  name : Option String := none
  deriving Inhabited

/-- A session with a name for a result. -/
def Session.withResult (s : Session) (name : String) (a : Answer) : Session :=
  let (v, store) := s.world.store.share a.toValue
  { world := { s.world with store }, results := (name, v) :: s.results }

/-- Takes a step. -/
def Session.step (s : Session) (t : Session.Step) : Except Failure Answer × Session :=
  let (r, world) := (t.operation.run s.results).run.run s.world
  let s := { s with world }
  match r, t.name with
  | .ok a, some name => (r, s.withResult name a)
  | _, _ => (r, s)

/-- The results of steps, each with the state behind it. -/
def Session.run (s : Session) : List Session.Step → List (Except Failure Answer × Session)
  | [] => []
  | t :: ts =>
    let (r, s) := s.step t
    (r, s) :: s.run ts

end Sgr
