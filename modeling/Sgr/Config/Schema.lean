import Sgr.Template.Fill

/-!
# The schema of a configuration

A schema is a list of requirements on a value, some of which concern the entries of a mapping. Each
requirement that a value does not meet is a violation, at the place where the value stands. The
violations come in the order of the requirements.

A mapping as a whole is judged by its worst violation: the one furthest out, of those the one whose
path is last in order, of those one whose value is not even of the right type, and of those the
first.

## Main definitions

* `Schema` — requirements on a value.
* `Violation`, `Schema.violations` — what does not meet them.
* `Violation.worst?` — the violation that stands for all.
* `Schema.configuration` — the schema of a configuration.
-/

namespace Sgr

/-- The types that a schema tells apart. -/
inductive SchemaType where
  | object
  | string
  | boolean
  deriving DecidableEq, Repr, Inhabited

namespace SchemaType

/-- The name of a type. -/
def name : SchemaType → String
  | object => "object"
  | string => "string"
  | boolean => "boolean"

/-- Whether a value is of a type. -/
def holds (t : SchemaType) (v : Value) : Bool :=
  match t, v with
  | object, .dict _ => true
  | string, v => v.text?.isSome
  | boolean, .bool _ => true
  | _, _ => false

end SchemaType

/-- Requirements on a value: its type, the texts it may be, and requirements on the entries of a
mapping, which may or may not have others. -/
inductive Schema where
  | mk (types : List SchemaType) (choices : Option (List String))
    (entries : List (String × Schema)) (closed : Bool)
  deriving Inhabited

/-- What a value does not meet, and whether the value is at least of the right type. -/
structure Violation where
  path : List String
  message : String
  rightType : Bool
  deriving DecidableEq, Repr, Inhabited

namespace Violation

/-- The text of a path; the whole value is its root. -/
def pathText (v : Violation) : String :=
  if v.path.isEmpty then "root" else ".".intercalate v.path

/-- Whether a path comes behind another one in order. -/
def pathAfter : List String → List String → Bool
  | [], _ => false
  | _ :: _, [] => true
  | a :: as, b :: bs => if a = b then pathAfter as bs else b < a

/-- Whether a violation is worse than another one. -/
def worse (v w : Violation) : Bool :=
  if v.path.length ≠ w.path.length then v.path.length < w.path.length
  else if v.path ≠ w.path then pathAfter v.path w.path
  else !v.rightType && w.rightType

/-- The first of the worst violations. -/
def worst? : List Violation → Option Violation
  | [] => none
  | v :: vs => some (vs.foldl (fun best w => if worse w best then w else best) v)

end Violation

namespace Schema

/-- Texts between quotes and with commas. -/
def quotedList (names : List String) : String :=
  Text.commaList (names.map fun s => "'" ++ s ++ "'")

/-- The entries that a closed mapping may not have. -/
def extras (known : List String) (entries : List (Value × Value)) : List Value :=
  (entries.map Prod.fst).filter fun k => !known.any fun name => k.equal (.text name)

/-- A value as text, by which extra entries are put in order. -/
def keyText (v : Value) : String :=
  match (v.render.run {}).1 with
  | .ok s => s
  | .error _ => v.repr

/-- The message about entries that a mapping may not have. -/
def extrasMessage (keys : List Value) : String :=
  let sorted := keys.mergeSort fun a b => !(keyText b < keyText a)
  "Additional properties are not allowed (" ++ Text.commaList (sorted.map Value.repr)
    ++ (if keys.length = 1 then " was" else " were") ++ " unexpected)"

/-- The violations of a requirement on the type. -/
def typeViolations (types : List SchemaType) (path : List String) (v : Value) : List Violation :=
  if types.any (·.holds v) then []
  else [⟨path, v.repr ++ " is not of type " ++ quotedList (types.map SchemaType.name), false⟩]

/-- The violations of a requirement to be one of some texts. -/
def choiceViolations (types : List SchemaType) (choices : Option (List String))
    (path : List String) (v : Value) : List Violation :=
  match choices with
  | none => []
  | some texts =>
    if texts.any fun s => v.equal (.text s) then []
    else [⟨path, v.repr ++ " is not one of [" ++ Text.commaList (texts.map Text.quote) ++ "]",
      types.any (·.holds v)⟩]

/-- The violation of a requirement to have no other entries. -/
def extraViolations (known : List String) (closed : Bool) (path : List String) (v : Value) :
    List Violation :=
  match v with
  | .dict entries =>
    let keys := extras known entries
    if closed && !keys.isEmpty then [⟨path, extrasMessage keys, true⟩] else []
  | _ => []

mutual

/-- The violations of a value at a path. -/
def violationsAt (path : List String) (v : Value) : Schema → List Violation
  | .mk types choices entries closed =>
    typeViolations types path v ++ choiceViolations types choices path v
      ++ entryViolations path v entries
      ++ extraViolations (entries.map Prod.fst) closed path v

/-- The violations of the entries of a mapping; a missing entry has none. -/
def entryViolations (path : List String) (v : Value) : List (String × Schema) → List Violation
  | [] => []
  | (name, schema) :: rest =>
    (match v with
      | .dict entries =>
        match Value.lookup? (.text name) entries with
        | some x => violationsAt (path ++ [name]) x schema
        | none => []
      | _ => []) ++ entryViolations path v rest

end

/-- The violations of a value. -/
def violations (schema : Schema) (v : Value) : List Violation :=
  violationsAt [] v schema

/-- A text that is one of some. -/
def choice (texts : List String) : Schema :=
  .mk [.string] (some texts) [] false

/-- A mapping that has no entries but the given ones. -/
def record (entries : List (String × Schema)) : Schema :=
  .mk [.object] none entries true

/-- The schema of a configuration. -/
def configuration : Schema :=
  record [
    ("version", choice ["1"]),
    ("features", record [("const_format", .mk [.boolean, .string] none [] false)]),
    ("output", record [("color", choice ["auto", "always", "never"])]),
    ("log_level", choice
      ["debug", "info", "warning", "error", "critical", "none",
       "DEBUG", "INFO", "WARNING", "ERROR", "CRITICAL", "NONE"])]

end Schema

end Sgr
