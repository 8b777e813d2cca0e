import Sgr.Sequence
import Sgr.World

/-!
# The console of a command

A command writes to two streams and ends with an exit status. Log records that go to the standard
error of a command are part of it, in order with the rest. A failure that a command does not handle
ends it and is reported with the result.

What is written as output loses its escape sequences unless the write asks for them or, if it leaves
that open, the console keeps them.

## Main definitions

* `Console` — the state of a command that runs.
* `Run` — what a command does.
* `Run.echo`, `Run.echoError`, `Run.exit` — output, and the end.
* `Run.result` — the streams and the exit status.
-/

namespace Sgr.CommandLine

/-- Whether a character may stand among the parameters of a control sequence. -/
def isControlParameter (c : Char) : Bool :=
  '0' ≤ c && c ≤ '?'

/-- Whether a character may stand between the parameters and the end of a control sequence. -/
def isIntermediate (c : Char) : Bool :=
  ' ' ≤ c && c ≤ '/'

/-- Whether a character ends a control sequence. -/
def isFinal (c : Char) : Bool :=
  '@' ≤ c && c ≤ '~'

/-- What follows a control sequence whose introducer stands in front of the characters, if they
start with the rest of one: parameters, intermediate characters, and a final one. -/
def afterControl? (cs : List Char) : Option (List Char) :=
  match (cs.dropWhile isControlParameter).dropWhile isIntermediate with
  | c :: r => if isFinal c then some r else none
  | [] => none

theorem length_afterControl? {cs r : List Char} (h : afterControl? cs = some r) :
    r.length < cs.length := by
  have front := (List.dropWhile_sublist (l := cs) isControlParameter).length_le
  have back :=
    (List.dropWhile_sublist (l := cs.dropWhile isControlParameter) isIntermediate).length_le
  unfold afterControl? at h
  split at h
  · next eq =>
    rw [eq] at back
    split at h
    · simp only [Option.some.injEq] at h
      subst h
      simp only [List.length_cons] at back
      omega
    · simp at h
  · simp at h

/-- Removes the control sequences of a text, from left to right. -/
def stripControlChars : List Char → List Char
  | '\x1b' :: '[' :: cs =>
    match h : afterControl? cs with
    | some r =>
      have := length_afterControl? h
      stripControlChars r
    | none => '\x1b' :: '[' :: stripControlChars cs
  | c :: cs => c :: stripControlChars cs
  | [] => []
termination_by cs => cs.length
decreasing_by all_goals simp_all <;> omega

/-- A text without its control sequences. -/
def stripControl (s : String) : String :=
  String.ofList (stripControlChars s.toList)

/-- The state of a command that runs. -/
structure Console where
  world : World
  out : String := ""
  stream : Nat
  keepsControl : Bool
  deriving Inhabited

/-- How a command ends before its end: by an exit status, or by a failure that it does not
handle. -/
inductive Stop where
  | exit (status : Nat)
  | failure (f : Failure)
  deriving Inhabited

/-- What a command does. -/
abbrev Run := ExceptT Stop (StateM Console)

/-- What a command leaves behind. -/
structure Outcome where
  status : Nat
  out : String
  err : String
  failure : Option Failure := none
  deriving Inhabited

namespace Run

/-- Does something in the session and hands over how it ended. -/
def attempt {α : Type} (a : Action α) : Run (Except Failure α) :=
  modifyGet fun c =>
    let (r, world) := a.run.run c.world
    (r, { c with world })

/-- Does something in the session; a failure is not handled. -/
def perform {α : Type} (a : Action α) : Run α := do
  match ← attempt a with
  | .ok r => return r
  | .error f => throw (.failure f)

/-- Ends the command. -/
def exit {α : Type} (status : Nat) : Run α :=
  throw (.exit status)

/-- A text as it is written: with its control sequences, or without them. -/
def shown (c : Console) (keep : Option Bool) (s : String) : String :=
  if keep.getD c.keepsControl then s else stripControl s

/-- Writes to the standard output. -/
def echo (s : String) (keep : Option Bool) : Run Unit :=
  modify fun c => { c with out := c.out ++ shown c keep s }

/-- Writes to the standard error. -/
def echoError (s : String) : Run Unit :=
  modify fun c =>
    let log := { c.world.log with lines := c.world.log.lines ++ [(c.stream, shown c none s)] }
    { c with world := { c.world with log } }

/-- The streams and the exit status of a command, and the state that it leaves. -/
def result (r : Run Unit) (world : World) (keepsControl : Bool) : Outcome × World :=
  let (stream, world) := world.newStream
  let (ended, c) := (r.run).run { world, stream, keepsControl }
  let outcome : Outcome := { status := 0, out := c.out, err := c.world.log.textOf stream }
  match ended with
  | .ok () => (outcome, c.world)
  | .error (.exit status) => ({ outcome with status }, c.world)
  | .error (.failure f) => ({ outcome with status := 1, failure := some f }, c.world)

end Run

end Sgr.CommandLine
