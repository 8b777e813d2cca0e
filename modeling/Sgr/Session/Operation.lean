import Sgr.CommandLine.Run
import Sgr.Palette

/-!
# Operations of a session

A session is a list of operations. Their arguments are expressions, which make new values, call
brushes, or name the result of an earlier operation.

## Main definitions

* `Expr`, `ToolExpr`, `Call` — expressions for values, for brushes and families, and for calls.
* `Operation` — the operations.
* `Answer` — their results.
-/

namespace Sgr

mutual

/-- An expression for a value. Names of members and planes are given as they were written, and may
be of any type. A fresh value is a thing of its own each time. -/
inductive Expr where
  | value (v : Value)
  | fresh (v : Value)
  | style (name : Value)
  | group (name : Value)
  | sigil (name : Value)
  | list (items : List Expr)
  | tuple (items : List Expr)
  | set (items : List Expr)
  | dict (entries : List (Expr × Expr))
  | basic (base bright : Expr) (plane : Value)
  | indexed (index : Expr) (plane : Value)
  | rgb (red green blue : Expr) (plane : Value)
  | deferred (template : Expr) (args : List Expr) (named : List (String × Expr))
  | call (c : Call)
  | variable (name : String)

/-- An expression for what is called: a brush or a family, as a rule. -/
inductive ToolExpr where
  | named (name : String)
  | paint (args : List Expr)
  | variable (name : String)
  | index (t : ToolExpr) (e : Expr)
  | bind (t : ToolExpr) (params : List Expr)
  | modes (t : ToolExpr) (output revert : Option Value)

/-- A call: what is called, with which arguments, and how. Without a method the modes are those of
the brush or of the leading sigils; the last way asks what the brush resolves to. -/
inductive Call where
  | direct (t : ToolExpr) (tokens : List Expr) (named : List (String × Expr))
  | method (m : Method) (t : ToolExpr) (tokens : List Expr) (named : List (String × Expr))
    (revert : Option Value)
  | codes (t : ToolExpr) (revert : Option Value)

end

instance : Inhabited Expr := ⟨.value .nothing⟩

/-- An expression for content. -/
inductive ContentExpr where
  | literal (parts : List Expr)
  | template (template : Expr) (args : List Expr) (named : List (String × Expr))
  deriving Inhabited

/-- The messages of the command line. -/
inductive MessageKind where
  | error
  | warning
  | success
  | hint
  deriving DecidableEq, Repr, Inhabited

/-- The operations of a session. -/
inductive Operation where
  -- sigils
  | tokenize (text : String)
  | readSigils (tokens : List Expr) (constFormat : Option Bool)
  | readPrefix (text : String) (constFormat : Option Bool)
  -- colours and their parameters
  | color (spec : Expr) (plane : Value)
  | colorPair (text : String)
  | packedColor (e : Expr) (plane : Value)
  | hexColor (text : String) (plane : Value)
  | registry
  | groupOf (kind : Expr)
  | paramsOf (kind : Expr)
  | resolve (kind : Expr) (revert : Value)
  | resolveAll (kinds : List Expr) (revert : Value)
  -- sequences and content
  | sequence (params : List Int)
  | wrap (set reset : List Int)
  | strip (text : String)
  | fill (template : Expr) (args : List Expr) (named : List (String × Expr))
  | fillConstant (template : Expr) (args : List Expr) (named : List (String × Expr))
  | isConstant (e : Expr)
  | assemble (set reset : List Int) (content : ContentExpr) (output : Value)
  | render (kinds : List Expr) (output revert : Value) (content : ContentExpr)
  -- brushes and families
  | tool (t : ToolExpr)
  | familyColor (t : ToolExpr) (params : List Expr)
  | call (c : Call)
  | invoke (name : String) (tokens : List Expr) (named : List (String × Expr))
  | names
  | resetText
  | version
  -- values
  | value (e : Expr)
  | text (e : Expr)
  | repr (e : Expr)
  | length (e : Expr)
  | format (e : Expr) (spec : String)
  | equal (a b : Expr)
  | join (a b : Expr)
  | append (target item : Expr)
  | put (target key item : Expr)
  | setMember (target : Expr) (name : String) (item : Expr)
  -- settings and configurations
  | useSettings (constFormat : Bool) (color : String) (level : Expr)
  | resetSettings
  | activeSettings
  | envSettings
  | setEnv (changes : List (String × Value))
  | writeFiles (files : List (String × List UInt8))
  | validate (config : Expr)
  | createSettings (config : Expr)
  | resolvePlaceholders (e : Expr)
  | findConfig (path : Option String)
  | loadConfig (path : String)
  | loadResolved (path : String)
  | loadSettings (path : String)
  -- the log
  | level (e : Expr)
  | configureLog (level : Int) (layout : String)
  | log (logger : String) (level : Int) (message : String)
  | readLog
  -- the command line
  | message (kind : MessageKind) (text : String)
  | readParam (text : String)
  | commandLine (args : List String) (keepsControl : Bool)
  | palette
  deriving Inhabited

/-- The results of operations. -/
inductive Answer where
  | value (v : Value)
  | command (o : CommandLine.Outcome)
  deriving Inhabited

/-- A mapping with texts for keys. -/
def Value.record (entries : List (String × Value)) : Value :=
  .dict (entries.map fun (name, v) => (.text name, v))

/-- A result as an argument of another operation. -/
def Answer.toValue : Answer → Value
  | value v => v
  | command o =>
    .record [("exit", .int o.status), ("stdout", .text o.out), ("stderr", .text o.err)]

end Sgr
