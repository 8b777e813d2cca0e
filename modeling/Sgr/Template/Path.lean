import Sgr.Template.Fault
import Sgr.Text.Digit

/-!
# Field names

The name of a field says where its value comes from. It starts with the position or the name of an
argument; an empty start stands for the next position. Steps into the value may follow: `.name` for
an attribute and `[key]` for an item.

A step is taken before the next one is read, so a malformed step shows only after those in front of
it were taken.

## Main definitions

* `Path` — a start, steps, and the fault that ends them.
* `Path.ofChars` — the path of a field name.
-/

namespace Sgr

/-- Where the value of a field starts. -/
inductive Head where
  | next
  | position (index : Nat)
  | name (s : String)
  deriving DecidableEq, Repr, Inhabited

/-- A step into a value. -/
inductive Step where
  | member (name : String)
  | index (n : Nat)
  | key (s : String)
  deriving DecidableEq, Repr, Inhabited

/-- A start, the steps up to the first malformed one, and what is wrong with that. -/
structure Path where
  head : Head
  steps : List Step
  fault : Option FormatFault
  deriving Inhabited

namespace Path

/-- Reads an index, given the number so far. Characters that are no decimal digits make it a name
instead, unless the digits in front of them are too many already. -/
def readIndexFrom (n : Nat) : List Char → Except FormatFault (Option Nat)
  | [] => .ok (some n)
  | c :: r =>
    match Text.decimalValue? c with
    | none => .ok none
    | some d =>
      if Number.maxSigned < n * 10 + d then .error .tooManyDigits
      else readIndexFrom (n * 10 + d) r

/-- The index that a text is, if it is one. -/
def readIndex (cs : List Char) : Except FormatFault (Option Nat) :=
  if cs.isEmpty then .ok none else readIndexFrom 0 cs

/-- Steps with one more in front. -/
def consStep (s : Step) (rest : List Step × Option FormatFault) :
    List Step × Option FormatFault :=
  (s :: rest.1, rest.2)

/-- Whether a character ends the name of an argument or an attribute. -/
def endsName (c : Char) : Bool :=
  c = '.' || c = '['

/-- The step of the text between brackets. -/
def bracketStep (inner : List Char) : Except FormatFault Step :=
  match readIndex inner with
  | .error f => .error f
  | .ok (some n) => .ok (.index n)
  | .ok none => if inner.isEmpty then .error .emptyStep else .ok (.key (String.ofList inner))

/-- The steps of what follows the start of a field name. -/
def readSteps : List Char → List Step × Option FormatFault
  | [] => ([], none)
  | '.' :: r =>
    if (r.takeWhile (!endsName ·)).isEmpty then ([], some .emptyStep)
    else
      have : (r.dropWhile (!endsName ·)).length ≤ r.length := (List.dropWhile_sublist _).length_le
      consStep (.member (String.ofList (r.takeWhile (!endsName ·))))
        (readSteps (r.dropWhile (!endsName ·)))
  | '[' :: r =>
    match h : r.dropWhile (· ≠ ']') with
    | [] => ([], some .unclosedBracket)
    | _ :: rest =>
      have : rest.length < r.length := by
        have := (List.dropWhile_sublist (l := r) (· ≠ ']')).length_le
        rw [h] at this
        exact this
      match bracketStep (r.takeWhile (· ≠ ']')) with
      | .error f => ([], some f)
      | .ok s => consStep s (readSteps rest)
  | _ :: _ => ([], some .afterBracket)
termination_by cs => cs.length
decreasing_by all_goals simp only [List.length_cons]; omega

/-- The path of a field name. -/
def ofChars (cs : List Char) : Except FormatFault Path :=
  let start := cs.takeWhile (!endsName ·)
  match readIndex start with
  | .error f => .error f
  | .ok index? =>
    let head : Head :=
      match index? with
      | some n => .position n
      | none => if start.isEmpty then .next else .name (String.ofList start)
    let (steps, fault) := readSteps (cs.dropWhile (!endsName ·))
    .ok ⟨head, steps, fault⟩

end Path

end Sgr
