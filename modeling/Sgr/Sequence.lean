import Sgr.Color
import Sgr.Mode

/-!
# Resolutions and escape sequences

Kinds that are applied together resolve to the parameters that open a span and those that close
it. Parameters are sent to a terminal between the control sequence introducer and a final `m`.

## Main definitions

* `Resolution` — the parameters that set and reset, and the groups they touch.
* `Resolution.ofKind`, `Resolution.ofKinds` — one kind, and the ordered combination of kinds, under
  a revert mode.
* `sgr` — the escape sequence of parameters; no parameters give no sequence.
* `Resolution.opening`, `Resolution.closing` — the two sequences around a span.
* `stripSgr` — a text without its SGR sequences.
-/

namespace Sgr

/-- The parameters that set and reset a style, and the revert groups of its kinds. -/
structure Resolution where
  set : List Nat
  reset : List Nat
  groups : List RevertGroup
  deriving DecidableEq, Repr, Inhabited

namespace Resolution

/-- Whether anything follows the content. -/
def reverts (r : Resolution) : Bool :=
  !r.reset.isEmpty

/-- The groups of kinds that were not seen before, each once, in order of first appearance. -/
def newGroups (seen : List RevertGroup) : List Kind → List RevertGroup
  | [] => []
  | k :: ks =>
    if k.group ∈ seen then newGroups seen ks else k.group :: newGroups (k.group :: seen) ks

/-- The parameters that revert groups under a mode. -/
def resetParams (groups : List RevertGroup) : RevertMode → List Nat
  | .single => groups.map RevertGroup.resetCode
  | .total => [resetAll]
  | .none => []

/-- The resolution of one kind: its parameters and its group. -/
def ofKind (k : Kind) (revert : RevertMode) : Resolution where
  set := k.params
  reset := resetParams [k.group] revert
  groups := [k.group]

/-- The resolution of kinds that are applied together: their parameters in order, and every group
once. -/
def ofKinds (kinds : List Kind) (revert : RevertMode) : Resolution :=
  let groups := newGroups [] kinds
  { set := kinds.flatMap Kind.params, reset := resetParams groups revert, groups := groups }

end Resolution

/-- The control sequence introducer. -/
def introducer : List Char := ['\x1b', '[']

/-- The escape sequence around the texts of parameters. -/
def sequenceOf (params : List (List Char)) : List Char :=
  if params.isEmpty then [] else introducer ++ [';'].intercalate params ++ ['m']

/-- The escape sequence of parameters; no parameters give no sequence. -/
def sgr (params : List Nat) : List Char :=
  sequenceOf (params.map (Number.digits 10))

/-- The sequence that resets every attribute. -/
def resetSequence : String :=
  String.ofList (sgr [resetAll])

/-- The sequence in front of a span. -/
def Resolution.opening (r : Resolution) : List Char := sgr r.set

/-- The sequence behind a span. -/
def Resolution.closing (r : Resolution) : List Char := sgr r.reset

/-- Whether a character may stand among the parameters of a sequence. -/
def isParamChar (c : Char) : Bool :=
  c.isDigit || c = ';'

/-- What follows the parameters and the final `m`, if the characters start with them. -/
def afterParams? (cs : List Char) : Option (List Char) :=
  match cs.dropWhile isParamChar with
  | 'm' :: r => some r
  | _ => none

theorem length_afterParams? {cs r : List Char} (h : afterParams? cs = some r) :
    r.length < cs.length := by
  have le : (cs.dropWhile isParamChar).length ≤ cs.length := (List.dropWhile_sublist _).length_le
  unfold afterParams? at h
  split at h
  · next eq =>
    rw [eq] at le
    simp only [Option.some.injEq] at h
    subst h
    exact le
  · simp at h

/-- Removes the SGR sequences of a text, from left to right. -/
def stripSgrChars : List Char → List Char
  | '\x1b' :: '[' :: cs =>
    match h : afterParams? cs with
    | some r =>
      have := length_afterParams? h
      stripSgrChars r
    | none => '\x1b' :: '[' :: stripSgrChars cs
  | c :: cs => c :: stripSgrChars cs
  | [] => []
termination_by cs => cs.length
decreasing_by all_goals simp_all <;> omega

/-- A text without its SGR sequences. -/
def stripSgr (s : String) : String :=
  String.ofList (stripSgrChars s.toList)

end Sgr
