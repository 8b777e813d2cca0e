import Sgr.Number.Radix
import Sgr.Text.Case
import Sgr.Text.Quoted
import Sgr.Text.Similar

/-!
# The words of a command line

A command has options, which may stand anywhere among its arguments until a double hyphen, and
positional arguments. A long option takes its value from behind an equals sign or from the next
word; short ones can be joined, and the rest of such a word is the value of the first that takes
one. The last value of an option counts, unless the option collects all of them.

## Main definitions

* `OptionSpec`, `CommandSpec` — what a command takes.
* `UsageError` — why words do not fit a command.
* `Words.read` — the values of options, and the positional arguments.
-/

namespace Sgr.CommandLine

/-- What an option takes: nothing, one value, any number of values, or one of some choices. -/
inductive OptionKind where
  | flag
  | value
  | collected
  | choice (choices : List String)
  deriving DecidableEq, Repr, Inhabited

/-- An option: its long name, its short name if it has one, and what it takes. -/
structure OptionSpec where
  long : String
  short : Option String := none
  kind : OptionKind
  deriving DecidableEq, Repr, Inhabited

/-- What a command takes. Of its positional arguments the first few are required, and others may
follow if it says so. -/
structure CommandSpec where
  name : String
  options : List OptionSpec
  required : List String := []
  more : Option String := none
  deriving DecidableEq, Repr, Inhabited

/-- Why words do not fit a command. -/
inductive UsageError where
  | noOption (name : String) (similar : List String)
  | needsValue (name : String)
  | takesNoValue (name : String)
  | badChoice (option value : String) (choices : List String)
  | missing (argument : String)
  | extra (arguments : List String)
  | noCommand (name : String) (similar : List String)
  deriving DecidableEq, Repr, Inhabited

namespace UsageError

/-- The names that may have been meant. -/
def suggestion : List String → String
  | [] => ""
  | [name] => " Did you mean " ++ Text.quote name ++ "?"
  | names => " (Did you mean one of: " ++ ", ".intercalate (names.map Text.quote) ++ "?)"

/-- The text of an error. -/
def message : UsageError → String
  | noOption name similar => "No such option " ++ Text.quote name ++ "." ++ suggestion similar
  | needsValue name => "Option " ++ Text.quote name ++ " requires an argument."
  | takesNoValue name => "Option " ++ Text.quote name ++ " does not take a value."
  | badChoice option value choices =>
    "Invalid value for '" ++ option ++ "': " ++ Text.quote value ++ " is not one of "
      ++ ", ".intercalate (choices.map fun s => Text.quote (Text.fold s)) ++ "."
  | missing argument => "Missing argument '" ++ argument ++ "'."
  | extra [argument] => "Got unexpected extra argument (" ++ argument ++ ")"
  | extra arguments =>
    "Got unexpected extra arguments (" ++ " ".intercalate arguments ++ ")"
  | noCommand name similar => "No such command " ++ Text.quote name ++ "." ++ suggestion similar

/-- Whether the usage of the command is shown with an error. Errors about the value of an option are
found before the command is known to them. -/
def showsUsage : UsageError → Bool
  | needsValue _ | takesNoValue _ => false
  | _ => true

end UsageError

/-- The values of options in the order they were given, and the positional arguments. -/
structure Words where
  values : List (OptionSpec × String) := []
  arguments : List String := []
  deriving Inhabited

namespace Words

/-- The words with the value of an option. -/
def add (w : Words) (o : OptionSpec) (value : String) : Words :=
  { w with values := w.values ++ [(o, value)] }

/-- The values of an option. -/
def all (w : Words) (long : String) : List String :=
  (w.values.filter (·.1.long = long)).map Prod.snd

/-- The value of an option that counts. -/
def last? (w : Words) (long : String) : Option String :=
  (w.all long).getLast?

/-- Whether a flag was given. -/
def has (w : Words) (long : String) : Bool :=
  !(w.all long).isEmpty

end Words

/-- Splits a word at its first equals sign. -/
def splitEquals (word : String) : String × Option String :=
  match word.toList.span (· ≠ '=') with
  | (front, _ :: behind) => (String.ofList front, some (String.ofList behind))
  | (front, []) => (String.ofList front, none)

/-- Reads the letters of a word of short options. The value of one that takes it is the rest of the
word, or the next word; the latter is returned as still to be read. -/
def readShort (options : List OptionSpec) (w : Words) (next : List String) :
    List Char → Except UsageError (Words × List String)
  | [] => .ok (w, next)
  | c :: cs =>
    let name := String.ofList ['-', c]
    match options.find? (·.short = some name) with
    | none => .error (.noOption name [])
    | some o =>
      if o.kind = .flag then readShort options (w.add o "") next cs
      else if cs.isEmpty then
        match next with
        | [] => .error (.needsValue name)
        | v :: next => .ok (w.add o v, next)
      else .ok (w.add o (String.ofList cs), next)

/-- Reads a word that starts with a hyphen. -/
def readOption (options : List OptionSpec) (w : Words) (word : String) (next : List String) :
    Except UsageError (Words × List String) :=
  let (name, value) := splitEquals word
  match options.find? (·.long = name) with
  | some o =>
    if o.kind = .flag then
      if value.isSome then .error (.takesNoValue name) else .ok (w.add o "", next)
    else match value, next with
      | some v, _ => .ok (w.add o v, next)
      | none, v :: next => .ok (w.add o v, next)
      | none, [] => .error (.needsValue name)
  | none =>
    if word.toList.take 2 = ['-', '-'] then
      .error (.noOption name (Text.similarTo name (options.map OptionSpec.long)))
    else readShort options w next word.toList.tail

theorem length_readShort {options : List OptionSpec} {w w' : Words} {next next' : List String}
    {cs : List Char} (h : readShort options w next cs = .ok (w', next')) :
    next'.length ≤ next.length := by
  induction cs generalizing w with
  | nil =>
    simp only [readShort, Except.ok.injEq, Prod.mk.injEq] at h
    simp [h.2]
  | cons c cs ih =>
    simp only [readShort] at h
    split at h
    · simp at h
    · split at h
      · exact ih h
      · split at h
        · split at h
          · simp at h
          · simp only [Except.ok.injEq, Prod.mk.injEq] at h
            simp [← h.2]
        · simp only [Except.ok.injEq, Prod.mk.injEq] at h
          simp [h.2]

theorem length_readOption {options : List OptionSpec} {w w' : Words} {word : String}
    {next next' : List String} (h : readOption options w word next = .ok (w', next')) :
    next'.length ≤ next.length := by
  simp only [readOption] at h
  split at h
  · split at h
    · split at h
      · simp at h
      · simp only [Except.ok.injEq, Prod.mk.injEq] at h
        simp [h.2]
    · split at h
      · simp only [Except.ok.injEq, Prod.mk.injEq] at h
        simp [h.2]
      · simp only [Except.ok.injEq, Prod.mk.injEq] at h
        simp [← h.2]
      · simp at h
  · split at h
    · simp at h
    · exact length_readShort h

/-- Reads words. With `interspersed` options may follow positional arguments; without it the first
positional argument ends the options. -/
def readWords (options : List OptionSpec) (interspersed : Bool) (w : Words) :
    List String → Except UsageError Words
  | [] => .ok w
  | word :: next =>
    if word = "--" then .ok { w with arguments := w.arguments ++ next }
    else if word.toList.head? = some '-' && word.length ≠ 1 then
      match h : readOption options w word next with
      | .error e => .error e
      | .ok (w', next') =>
        have := length_readOption h
        readWords options interspersed w' next'
    else if interspersed then
      readWords options interspersed { w with arguments := w.arguments ++ [word] } next
    else .ok { w with arguments := w.arguments ++ word :: next }
termination_by words => words.length
decreasing_by all_goals simp only [List.length_cons]; omega

/-- The choice that a value stands for, whatever its case. -/
def choiceOf? (choices : List String) (value : String) : Option String :=
  choices.find? fun c => Text.fold c = Text.fold value

/-- The first option, in the order they were given, whose last value is none of its choices. -/
def badChoice? (w : Words) : Option UsageError :=
  w.values.findSome? fun (o, _) =>
    match o.kind, w.last? o.long with
    | .choice choices, some v =>
      if (choiceOf? choices v).isSome then none else some (.badChoice o.long v choices)
    | _, _ => none

/-- Refuses positional arguments that a command does not take, or that it misses. -/
def checkArguments (spec : CommandSpec) (arguments : List String) : Except UsageError Unit :=
  match spec.required.drop arguments.length with
  | name :: _ => .error (.missing name)
  | [] =>
    match spec.more, arguments.drop spec.required.length with
    | none, a :: more => .error (.extra (a :: more))
    | _, _ => .ok ()

/-- The words of a command. -/
def Words.read (spec : CommandSpec) (args : List String) : Except UsageError Words := do
  let w ← readWords spec.options true {} args
  match badChoice? w with
  | some e => throw e
  | none =>
    checkArguments spec w.arguments
    return w

/-- How a command is used. -/
def CommandSpec.usage (spec : CommandSpec) (program : String) : String :=
  "Usage: " ++ program ++ " " ++ spec.name ++ " [OPTIONS]"
    ++ String.join (spec.required.map (" " ++ ·))
    ++ (match spec.more with
      | some name => " [" ++ name ++ "]..."
      | none => "")

end Sgr.CommandLine
