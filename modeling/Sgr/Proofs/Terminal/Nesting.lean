import Sgr.Proofs.Content.Request
import Sgr.Proofs.Resolution
import Sgr.Proofs.Terminal.Replay

/-!
# Nested styling calls on a terminal

Literal styling calls can be nested: the text of one is a part of the content of the next. The text
that comes out at the end holds the sequences of all calls, and a terminal that shows it goes
through the calls from the outside in. Entering a call applies its kinds, and leaving it reverts the
groups of its kinds and of no other, so a call inside another of the same group takes the outer one
off as well. The reading of a terminal and this meaning of the calls agree in every state.

## Main definitions

* `Nested` — nested styling calls around texts.
* `Nested.chars` — the characters of the texts, without the calls.
* `Nested.written` — the characters of the text that the calls give, sequences included.
* `Nested.render` — the value that the calls give.
* `Nested.meaning` — what they mean: the characters under their attributes, and what is on
  afterwards.

## Main statements

* `Nested.render_eq` — nested calls give a text, whatever they hold.
* `Nested.render_replay` — a terminal shows the text of nested calls as they mean it.
-/

namespace Sgr

/-- Nested styling calls: text without escape characters, or a call with kinds, of which there is
one at least, around parts. -/
inductive Nested where
  | text (s : String) (h : '\x1b' ∉ s.toList)
  | call (k : Kind) (ks : List Kind) (revert : RevertMode) (parts : List Nested)

namespace Nested

mutual

/-- The characters of the texts, in order. -/
def chars : Nested → List Char
  | text s _ => s.toList
  | call _ _ _ parts => allChars parts

/-- The characters of the texts of parts. -/
def allChars : List Nested → List Char
  | [] => []
  | t :: ts => chars t ++ allChars ts

end

mutual

/-- The characters that nested calls give: each call puts its parts between its sequences. -/
def written : Nested → List Char
  | text s _ => s.toList
  | call k ks revert parts =>
    let r := Resolution.ofKinds (k :: ks) revert
    r.opening ++ allWritten parts ++ r.closing

/-- The characters that parts give. -/
def allWritten : List Nested → List Char
  | [] => []
  | t :: ts => written t ++ allWritten ts

end

mutual

/-- The value that nested calls give, the inner ones first. -/
def render (store : Store) : Nested → InContext RequestError Value
  | text s _ => return .text s
  | call k ks revert parts => do
    let values ← renderAll store parts
    let styled ← Request.render store ⟨k :: ks, ⟨.literal, revert⟩, .literal values⟩
    return styled.value

/-- The values that parts give. -/
def renderAll (store : Store) : List Nested → InContext RequestError (List Value)
  | [] => return []
  | t :: ts => do
    let v ← render store t
    let vs ← renderAll store ts
    return v :: vs

end

mutual

/-- What nested calls mean: a call applies its kinds in order, shows its parts, and leaves the
groups of its kinds. -/
def meaning (a : Attributes) : Nested → Shown × Attributes
  | text s _ => (s.toList.map (·, a), a)
  | call k ks revert parts =>
    let (shown, b) := meaningAll ((k :: ks).foldl Attributes.apply a) parts
    (shown, b.leave ((k :: ks).map Kind.group) revert)

/-- What parts mean, one after the other. -/
def meaningAll (a : Attributes) : List Nested → Shown × Attributes
  | [] => ([], a)
  | t :: ts =>
    let (shown, b) := meaning a t
    let (more, c) := meaningAll b ts
    (shown ++ more, c)

end

/-! ## The text of nested calls -/

theorem flatMap_written : ∀ ts : List Nested,
    (ts.map fun t => String.ofList t.written).flatMap String.toList = allWritten ts
  | [] => by rw [allWritten, List.map_nil, List.flatMap_nil]
  | t :: ts => by
    rw [allWritten, List.map_cons, List.flatMap_cons, String.toList_ofList, flatMap_written ts]

mutual

/-- Nested calls give a text, whatever they hold. -/
theorem render_eq (store : Store) : ∀ t : Nested,
    t.render store = pure (.text (String.ofList t.written))
  | text s h => by rw [render, written, String.ofList_toList]
  | call k ks revert parts => by
    rw [render, renderAll_eq store parts, pure_bind, render_texts, pure_bind, flatMap_written]
    rfl

theorem renderAll_eq (store : Store) : ∀ ts : List Nested,
    renderAll store ts = pure ((ts.map fun t => String.ofList t.written).map .text)
  | [] => rfl
  | t :: ts => by
    rw [renderAll, render_eq store t, pure_bind, renderAll_eq store ts, pure_bind]
    rfl

end

/-! ## Entering and leaving -/

/-- Reverting every group once is reverting the group of every kind. -/
theorem leave_newGroups (a : Attributes) (kinds : List Kind) (revert : RevertMode) :
    a.leave (Resolution.newGroups [] kinds) revert = a.leave (kinds.map Kind.group) revert := by
  cases revert with
  | single =>
    funext g
    simp [Attributes.leave, Attributes.revert, Resolution.mem_newGroups]
  | total => rfl
  | none => rfl

theorem replay_opening (kinds : List Kind) (revert : RevertMode) (a : Attributes) (shown : Shown) :
    Terminal.replay ⟨.text, a, shown⟩ (Resolution.ofKinds kinds revert).opening =
      some ⟨.text, kinds.foldl Attributes.apply a, shown⟩ := by
  rw [Resolution.opening, Resolution.ofKinds,
    Terminal.replay_sgr (Instruction.readAll?_set kinds), Instruction.foldl_apply]

theorem replay_closing (kinds : List Kind) (revert : RevertMode) (a : Attributes) (shown : Shown) :
    Terminal.replay ⟨.text, a, shown⟩ (Resolution.ofKinds kinds revert).closing =
      some ⟨.text, a.leave (kinds.map Kind.group) revert, shown⟩ := by
  obtain ⟨ds, hds, hrun⟩ := Instruction.readAll?_reset (Resolution.newGroups [] kinds) revert
  rw [Resolution.closing, Resolution.ofKinds, Terminal.replay_sgr hds, hrun, leave_newGroups]

/-! ## Showing -/

/-- A terminal shows characters under every state as they mean it. -/
def Shows (cs : List Char) (meaning : Attributes → Shown × Attributes) : Prop :=
  ∀ a shown, Terminal.replay ⟨.text, a, shown⟩ cs =
    some ⟨.text, (meaning a).2, shown ++ (meaning a).1⟩

theorem shows_append {cs ds : List Char} {f g : Attributes → Shown × Attributes}
    (hf : Shows cs f) (hg : Shows ds g) :
    Shows (cs ++ ds) fun a => ((f a).1 ++ (g (f a).2).1, (g (f a).2).2) := by
  intro a shown
  rw [Terminal.replay_append, hf, Option.bind_some, hg, List.append_assoc]

/-- Sequences around what is shown apply the kinds in front of it and leave them behind it. -/
theorem shows_call (k : Kind) (ks : List Kind) (revert : RevertMode) {cs : List Char}
    {parts : List Nested} (h : Shows cs fun a => meaningAll a parts) :
    let r := Resolution.ofKinds (k :: ks) revert
    Shows (r.opening ++ cs ++ r.closing) fun a => meaning a (.call k ks revert parts) := by
  intro r a shown
  rw [Terminal.replay_append, Terminal.replay_append, replay_opening, Option.bind_some, h,
    Option.bind_some, replay_closing]
  rfl

mutual

theorem shows_written : ∀ t : Nested, Shows t.written fun a => t.meaning a
  | text s h => fun a shown => Terminal.replay_text h a shown
  | call k ks revert parts => by
    rw [written]
    exact shows_call k ks revert (shows_allWritten parts)

theorem shows_allWritten : ∀ ts : List Nested, Shows (allWritten ts) fun a => meaningAll a ts
  | [] => by
    intro a shown
    simp only [meaningAll, List.append_nil]
    rfl
  | t :: ts => shows_append (shows_written t) (shows_allWritten ts)

end

mutual

/-- What is shown is the texts. -/
theorem map_fst_meaning (a : Attributes) : ∀ t : Nested, (t.meaning a).1.map Prod.fst = t.chars
  | text s h => by simp [meaning, chars, Function.comp_def]
  | call k ks revert parts => by
    rw [meaning, chars]
    exact map_fst_meaningAll _ parts

theorem map_fst_meaningAll (a : Attributes) : ∀ ts : List Nested,
    (meaningAll a ts).1.map Prod.fst = allChars ts
  | [] => by rw [meaningAll, allChars, List.map_nil]
  | t :: ts => by
    rw [meaningAll, allChars, ← map_fst_meaning a t, ← map_fst_meaningAll (t.meaning a).2 ts,
      List.map_append]

end

/-- Nested calls give a text, whatever they hold. A terminal understands all of it, shows the texts
in order under the attributes that the calls mean them to have, and ends with those that they
leave. -/
theorem render_replay (store : Store) (t : Nested) :
    ∃ s : String, t.render store = pure (.text s) ∧
      ∀ a : Attributes,
        Terminal.replay { attributes := a } s.toList =
          some { attributes := (t.meaning a).2, shown := (t.meaning a).1 } ∧
        (t.meaning a).1.map Prod.fst = t.chars := by
  refine ⟨_, render_eq store t, fun a => ⟨?_, map_fst_meaning a t⟩⟩
  rw [String.toList_ofList]
  exact shows_written t a []

/-- Faint text inside bold text takes the bold off, since both are of one group. -/
example : ((call (.style .bold) [] .single [call (.style .faint) [] .single [text "a" (by decide)],
    text "b" (by decide)]).meaning .plain).1.map (fun (c, a) => (c, a .intensity)) =
      [('a', some (.style .faint)), ('b', none)] := by
  rfl

end Nested

end Sgr
