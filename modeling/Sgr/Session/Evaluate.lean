import Sgr.Session.Operation

/-!
# Evaluating expressions

An expression is evaluated from left to right. Lists, mappings and deferred texts get new cells, so
each evaluation makes its own, and a variable gives the very value that an operation returned.

## Main definitions

* `Variables` — the results of earlier operations by name.
* `Expr.eval`, `ToolExpr.eval`, `Call.eval` — the value of an expression.
-/

namespace Sgr

/-- The results of earlier operations by name. -/
abbrev Variables := List (String × Value)

/-- A variable's result. -/
def Variables.find (vars : Variables) (name : String) : Action Value :=
  match List.lookup name vars with
  | some v => return v
  | none => throw (.name (.noVariable name))

/-- The member of an enumeration that was named. -/
def memberOf {α : Type} (typeName : String) (find : String → Option α) (v : Value) : Action α :=
  match v.text?.bind find with
  | some a => return a
  | none => throw (.name (.notMember v.repr typeName))

/-- The plane that was named. -/
def planeOf : Value → Action Plane := memberOf "Plane" Plane.ofName?

/-- The output mode that was named. -/
def outputOf : Value → Action OutputMode := memberOf "OutputMode" OutputMode.ofName?

/-- The revert mode that was named. -/
def revertModeOf : Value → Action RevertMode := memberOf "RevertMode" RevertMode.ofName?

/-- The sigil of a text of one character. -/
def Sigil.ofText? (s : String) : Option Sigil :=
  match s.toList with
  | [c] => ofChar? c
  | _ => none

/-- What was named, unless nothing is given. -/
def optionalOf {α β : Type} (read : α → Action β) : Option α → Action (Option β)
  | none => return none
  | some a => do return some (← read a)

/-- Refuses a value that cannot be a key. -/
def checkKey (v : Value) : Action Unit := do
  match (← viewValue v).unhashable? with
  | some typeName => throw (.access (.unhashable typeName))
  | none => return ()

mutual

/-- The value of an expression. -/
def Expr.eval (vars : Variables) : Expr → Action Value
  | .value v => shareValue v
  | .fresh v => newCell v
  | .style name => do return .style (← memberOf "StyleKind" Style.ofName? name)
  | .group name => do return .group (← memberOf "RevertGroup" RevertGroup.ofName? name)
  | .sigil name => do return .sigil (← memberOf "Sigil" Sigil.ofText? name)
  | .list items => do newCell (.list (← Expr.evalAll vars items))
  | .tuple items => do return .tuple (← Expr.evalAll vars items)
  | .set items => do
    let items ← Expr.evalAll vars items
    for v in items do checkKey v
    return .set (Value.distinctBy (← get).store.equalPart items)
  | .dict entries => do newCell (.dict (← Expr.evalEntries vars [] entries))
  | .basic base bright plane => do
    let base ← viewValue (← base.eval vars)
    let bright ← bright.eval vars
    Action.lift .color (Color.basicOf base bright (← planeOf plane))
  | .indexed index plane => do
    let index ← viewValue (← index.eval vars)
    let plane ← planeOf plane
    Action.lift .color ((Color.indexedOf index plane).map .color)
  | .rgb red green blue plane => do
    let red ← viewValue (← red.eval vars)
    let green ← viewValue (← green.eval vars)
    let blue ← viewValue (← blue.eval vars)
    let plane ← planeOf plane
    Action.lift .color ((Color.rgbOf red green blue plane).map .color)
  | .deferred template args named => do
    let template ← template.eval vars
    let args ← Expr.evalAll vars args
    let named ← Expr.evalNamed vars named
    newCell (.deferred template (.tuple args) (.record named))
  | .call c => c.eval vars
  | .variable name => vars.find name

/-- The values of expressions. -/
def Expr.evalAll (vars : Variables) : List Expr → Action (List Value)
  | [] => return []
  | e :: es => do
    let v ← e.eval vars
    return v :: (← Expr.evalAll vars es)

/-- The entries of a mapping, behind those that were evaluated already. -/
def Expr.evalEntries (vars : Variables) (done : List (Value × Value)) :
    List (Expr × Expr) → Action (List (Value × Value))
  | [] => return done
  | (k, e) :: es => do
    let key ← k.eval vars
    let v ← e.eval vars
    checkKey key
    Expr.evalEntries vars (Value.putEntryBy (← get).store.equalPart key v done) es

/-- The values of named arguments. -/
def Expr.evalNamed (vars : Variables) : List (String × Expr) → Action (List (String × Value))
  | [] => return []
  | (name, e) :: es => do
    let v ← e.eval vars
    return (name, v) :: (← Expr.evalNamed vars es)

/-- What is called. A brush that is made here is a cell of its own. -/
def ToolExpr.eval (vars : Variables) : ToolExpr → Action Value
  | .named name => do return (← Action.lift .call (Tool.lookup name)).value
  | .paint args => do newCell (.brush (← paint (← Expr.evalAll vars args)))
  | .variable name => vars.find name
  | .index t e => do
    let v ← t.eval vars
    bracket v (← e.eval vars)
  | .bind t params => do
    let v ← t.eval vars
    bindValue v (← Expr.evalAll vars params)
  | .modes t output revert => do
    let v ← t.eval vars
    let output ← optionalOf outputOf output
    withModes v output (← optionalOf revertModeOf revert)

/-- The result of a call. -/
def Call.eval (vars : Variables) : Call → Action Value
  | .direct t tokens named => do
    let v ← t.eval vars
    let tokens ← Expr.evalAll vars tokens
    let named ← Expr.evalNamed vars named
    callValue v tokens named
  | .method m t tokens named revert => do
    let v ← t.eval vars
    let tokens ← Expr.evalAll vars tokens
    let named ← Expr.evalNamed vars named
    callMethod v m (← optionalOf revertModeOf revert) tokens named
  | .codes t revert => do
    let v ← t.eval vars
    return .resolution (← resolutionOf v (← optionalOf revertModeOf revert))

end

end Sgr
