import Sgr.Settings
import Sgr.Value

/-!
# Placeholders

A text of a configuration can refer to an environment variable by `${{ env.NAME }}`. The text is
split from left to right into characters and placeholders, and each placeholder is then replaced by
the value of its variable, or stays as it is if there is none. What a variable puts in is not split
again.

## Main definitions

* `Placeholder.segments` — the characters and placeholders of a text.
* `Placeholder.fill` — a text with its placeholders replaced.
* `Placeholder.fillValue` — a value with its texts filled; keys are left alone.
-/

namespace Sgr.Placeholder

/-- Whether a character may be part of a variable's name. -/
def isNameChar (c : Char) : Bool :=
  c.isAlphanum || c = '_'

/-- What follows a prefix, if the characters start with it. -/
def afterPrefix? : List Char → List Char → Option (List Char)
  | [], cs => some cs
  | p :: ps, c :: cs => if p = c then afterPrefix? ps cs else none
  | _ :: _, [] => none

/-- The name of a placeholder and what follows it, if the characters start with one. -/
def read? (cs : List Char) : Option (List Char × List Char) := do
  let inner ← afterPrefix? ['$', '\x7b', '\x7b'] cs
  let named ← afterPrefix? ['e', 'n', 'v', '.'] (inner.dropWhile Text.isBlank)
  let name := named.takeWhile isNameChar
  if name.isEmpty then none
  else
    let rest ← afterPrefix? ['\x7d', '\x7d'] ((named.dropWhile isNameChar).dropWhile Text.isBlank)
    return (name, rest)

theorem length_afterPrefix? {ps cs r : List Char} (h : afterPrefix? ps cs = some r) :
    r.length + ps.length = cs.length := by
  induction ps generalizing cs with
  | nil => simp_all [afterPrefix?]
  | cons p ps ih =>
    cases cs with
    | nil => simp [afterPrefix?] at h
    | cons c cs =>
      simp only [afterPrefix?] at h
      split at h
      · have := ih h
        simp only [List.length_cons]
        omega
      · simp at h

theorem length_read? {cs name r : List Char} (h : read? cs = some (name, r)) :
    r.length < cs.length := by
  unfold read? at h
  simp only [Option.bind_eq_bind, Option.bind_eq_some_iff] at h
  obtain ⟨inner, h1, named, h2, h⟩ := h
  split at h
  · simp at h
  · simp only [Option.bind_eq_some_iff] at h
    obtain ⟨rest, h3, h⟩ := h
    have hr : rest = r := by simpa using (Prod.mk.inj (Option.some.inj h)).2
    subst hr
    have := length_afterPrefix? h1
    have := length_afterPrefix? h2
    have := length_afterPrefix? h3
    have drop (p : Char → Bool) (l : List Char) : (l.dropWhile p).length ≤ l.length :=
      (List.dropWhile_sublist p).length_le
    have := drop Text.isBlank inner
    have := drop isNameChar named
    have := drop Text.isBlank (named.dropWhile isNameChar)
    simp only [List.length_cons, List.length_nil] at *
    omega

/-- A character, or a placeholder with its name as it stands in the text. -/
inductive Segment where
  | char (c : Char)
  | variable (name source : List Char)
  deriving DecidableEq, Repr, Inhabited

/-- The characters and placeholders of a text. -/
def segments (cs : List Char) : List Segment :=
  match h : read? cs with
  | some (name, rest) =>
    have := length_read? h
    .variable name (cs.take (cs.length - rest.length)) :: segments rest
  | none =>
    match cs with
    | [] => []
    | c :: cs => .char c :: segments cs
termination_by cs.length

/-- What a segment stands for. -/
def Segment.fill (env : Env) : Segment → List Char
  | char c => [c]
  | .variable name source =>
    match env.get? (String.ofList name) with
    | some s => s.toList
    | none => source

/-- The name of a variable that a segment asks for and the environment does not have. -/
def Segment.missing? (env : Env) : Segment → Option String
  | char _ => none
  | .variable name _ =>
    if (env.get? (String.ofList name)).isSome then none else some (String.ofList name)

/-- A text with its placeholders replaced. -/
def fill (env : Env) (s : String) : String :=
  String.ofList ((segments s.toList).flatMap (·.fill env))

/-- The variables that a text asks for and the environment does not have, once for each time. -/
def missing (env : Env) (s : String) : List String :=
  (segments s.toList).filterMap (·.missing? env)

mutual

/-- A value with its texts filled, in lists and mappings too. -/
def fillValue (env : Env) : Value → Value
  | .text s => .text (fill env s)
  | .sigil s => .text (fill env s.text)
  | .list items => .list (fillAll env items)
  | .dict entries => .dict (fillEntries env entries)
  | v => v

/-- Items with their texts filled. -/
def fillAll (env : Env) : List Value → List Value
  | [] => []
  | v :: vs => fillValue env v :: fillAll env vs

/-- Entries with the texts of their values filled. -/
def fillEntries (env : Env) : List (Value × Value) → List (Value × Value)
  | [] => []
  | (k, v) :: es => (k, fillValue env v) :: fillEntries env es

end

mutual

/-- The missing variables of a value, in order. -/
def missingIn (env : Env) : Value → List String
  | .text s => missing env s
  | .list items => missingInAll env items
  | .dict entries => missingInEntries env entries
  | _ => []

/-- The missing variables of items. -/
def missingInAll (env : Env) : List Value → List String
  | [] => []
  | v :: vs => missingIn env v ++ missingInAll env vs

/-- The missing variables of the values of entries. -/
def missingInEntries (env : Env) : List (Value × Value) → List String
  | [] => []
  | (_, v) :: es => missingIn env v ++ missingInEntries env es

end

end Sgr.Placeholder
