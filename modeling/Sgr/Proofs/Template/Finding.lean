import Sgr.Proofs.Running
import Sgr.Template.Fill

/-!
# What a field finds

A field starts at an argument and steps into it. A step that succeeds finds a part of the value, or a
value that is made on the way and has no parts, such as a character of a text. Only a step into a
brush or a family does more than that: it reads sigils, and gives a brush again. So a field that finds
something else never stepped into a brush, and asked nothing.

## Main definitions

* `Arguments.values` — the arguments, the positional ones first.
* `Value.IsLeaf`, `Value.FoundIn` — a value without parts, and one that a step can find in another.

## Main statements

* `Arguments.mem_values_of_start` — a field starts at an argument.
* `Value.foundIn_of_item`, `Value.foundIn_of_getMember` — items and members are found in a value.
* `Arguments.ofParts_eq_ok` — which arguments the parts of a deferred text are.
* `Arguments.find_eq_pure` — a field that finds no brush has its value whatever the context is.
-/

namespace Sgr

/-! ## Arguments -/

namespace Arguments

variable {args : Arguments}

/-- The values of arguments, the positional ones first. -/
def values (args : Arguments) : List Value :=
  args.positional ++ args.named.map Prod.snd

theorem mem_values_of_atPosition {i : Nat} {v : Value} (h : args.atPosition i = .ok v) :
    v ∈ args.values := by
  unfold atPosition at h
  split at h
  · next hget =>
    cases h
    exact List.mem_append_left _ (List.mem_of_getElem? hget)
  · cases h

theorem mem_values_of_ofName {name : String} {v : Value} (h : args.ofName name = .ok v) :
    v ∈ args.values := by
  unfold ofName at h
  split at h
  · next hfind =>
    cases h
    exact List.mem_append_right _ (List.mem_map_of_mem (List.mem_of_find?_eq_some hfind))
  · cases h

/-- A field starts at an argument. -/
theorem mem_values_of_start {head : Head} {n : Numbering} {r : Value × Numbering}
    (h : args.start head n = .ok r) : r.1 ∈ args.values := by
  unfold start at h
  split at h
  · obtain ⟨v, hv, rfl⟩ := exists_of_map_ok h
    exact mem_values_of_atPosition hv
  · obtain ⟨v, hv, rfl⟩ := exists_of_map_ok h
    exact mem_values_of_atPosition hv
  · cases h
  · cases h
  · obtain ⟨v, hv, rfl⟩ := exists_of_map_ok h
    exact mem_values_of_atPosition hv
  · obtain ⟨v, hv, rfl⟩ := exists_of_map_ok h
    exact mem_values_of_ofName hv

/-- What the parts of a deferred text are as arguments. -/
theorem ofParts_eq_ok {positional named : Value}
    (h : ofParts positional named = .ok args) :
    positional.parts? = some args.positional ∧
      (args.named = [] ∨ ∃ es, named = .dict es ∧ args.named = Value.namedEntries es) := by
  unfold ofParts at h
  dsimp only at h
  split at h
  · simp only [bind, Except.bind] at h
    grind
  · split at h
    · simp only [bind, Except.bind] at h
      grind
    · cases h

end Arguments

namespace Value

/-! ## Items and members -/

/-- A value without parts, as it is made by a step. -/
def IsLeaf : Value → Prop
  | nothing | int _ | float _ | text _ | object .. => True
  | _ => False

/-- What a step can find in a value: an item, a part of a deferred text, or a value without parts. -/
inductive FoundIn (u : Value) : Value → Prop where
  | leaf {v : Value} : u.IsLeaf → FoundIn u v
  | list {items : List Value} : u ∈ items → FoundIn u (.list items)
  | tuple {items : List Value} : u ∈ items → FoundIn u (.tuple items)
  | dict {entries : List (Value × Value)} {key : Value} :
    (key, u) ∈ entries → FoundIn u (.dict entries)
  | template {args named : Value} : FoundIn u (.deferred u args named)
  | args {template named : Value} : FoundIn u (.deferred template u named)
  | named {template args : Value} : FoundIn u (.deferred template args u)

theorem mem_of_itemAt {container : String} {items : List Value} {i : Int} {u : Value}
    (h : itemAt container items i = .ok u) : u ∈ items := by
  unfold itemAt at h
  split at h
  · cases h
  · split at h
    · next hget =>
      cases h
      obtain ⟨n, -, hn⟩ := Option.bind_eq_some_iff.mp hget
      exact List.mem_of_getElem? hn
    · cases h

theorem mem_of_entryOf {eq : Value → Value → Bool} {entries : List (Value × Value)}
    {key u : Value} (h : entryOf eq entries key = .ok u) : ∃ k, (k, u) ∈ entries := by
  unfold entryOf lookupBy at h
  split at h
  · cases h
  · split at h
    · next hfind =>
      cases h
      obtain ⟨⟨k, x⟩, he, rfl⟩ := Option.map_eq_some_iff.mp hfind
      exact ⟨k, List.mem_of_find?_eq_some he⟩
    · cases h

theorem isLeaf_of_mem_characters {s : String} {u : Value} (h : u ∈ characters s) : u.IsLeaf := by
  obtain ⟨c, -, rfl⟩ := List.mem_map.mp h
  trivial

/-- The item of a key is found in a value. -/
theorem foundIn_of_item {v key u : Value} (h : v.item key = .ok u) : u.FoundIn v := by
  unfold item at h
  split at h
  · exact .leaf (isLeaf_of_mem_characters (mem_of_itemAt h))
  · exact .leaf (isLeaf_of_mem_characters (mem_of_itemAt h))
  · cases h
  · cases h
  · obtain ⟨b, -, rfl⟩ := List.mem_map.mp (mem_of_itemAt h)
    exact .leaf trivial
  · cases h
  · exact .list (mem_of_itemAt h)
  · cases h
  · exact .tuple (mem_of_itemAt h)
  · cases h
  · obtain ⟨k, he⟩ := mem_of_entryOf h
    exact .dict he
  · cases h

theorem isLeaf_of_momentPart? {m : Moment} {name : String} {u : Value}
    (h : momentPart? m name = some u) : u.IsLeaf := by
  unfold momentPart? at h
  split at h <;> cases h <;> try trivial
  unfold offset
  split <;> trivial

/-- The member of a name is found in a value. -/
theorem foundIn_of_getMember {v u : Value} {name : String} (h : v.getMember name = .ok u) :
    u.FoundIn v := by
  unfold getMember at h
  split at h
  · cases h; exact .leaf trivial
  · cases h; exact .leaf trivial
  · cases h; exact .leaf trivial
  · cases h; exact .leaf trivial
  · cases h; exact .leaf trivial
  · cases h; exact .template
  · cases h; exact .args
  · cases h; exact .named
  · split at h
    · next hpart =>
      cases h
      exact .leaf (isLeaf_of_momentPart? hpart)
    · cases h
  · split at h <;> cases h <;> exact .leaf trivial

/-! ## Steps -/

/-- A brush, whether its parts fit or not, or a family. -/
def IsTool : Value → Prop
  | brush _ | makeshift .. | family _ => True
  | _ => False

/-- The items of what is no brush and no family are those of a container. -/
theorem bracket_of_not_isTool {v : Value} (h : ¬v.IsTool) (key : Value) :
    v.bracket key = InContext.ofExcept .access (v.item key) := by
  have hnone : v.tool? = none ∧ v.brushParts? = none := by
    cases v <;> first | exact ⟨rfl, rfl⟩ | exact absurd trivial h
  rw [bracket, hnone.1, hnone.2]

/-- The brush of parts is a brush, whether they fit or not. -/
theorem isTool_value (p : BrushParts) : p.value.IsTool := by
  unfold BrushParts.value
  split <;> trivial

/-- The items of a brush and of a family are brushes. -/
theorem isTool_of_bracket {v key u : Value} {c c' : Context} (hv : v.IsTool)
    (h : (v.bracket key).run.run c = (.ok u, c')) : u.IsTool := by
  unfold bracket at h
  split at h
  · obtain ⟨b, c₁, -, h⟩ := exists_of_run_bind h
    cases h
    trivial
  · next p _ _ =>
    obtain ⟨modes, c₁, -, hmade⟩ := exists_of_run_bind (InContext.run_of_mapError h)
    cases hmodes : p.withModes (some modes.output) (some modes.revert) with
    | error e =>
      rw [hmodes] at hmade
      cases hmade
    | ok made =>
      rw [hmodes] at hmade
      cases hmade
      obtain ⟨kinds, -, hvalue⟩ := exists_of_bind_ok hmodes
      cases hvalue
      exact isTool_value _
  · next htool hparts =>
    cases v with
    | brush b => cases htool
    | family f => cases htool
    | makeshift name kinds output revert => cases hparts
    | _ => exact hv.elim

/-- What a step finds in a brush or a family is a brush: they have no members. -/
theorem isTool_of_step {v u : Value} {s : Step} {c c' : Context} (hv : v.IsTool)
    (h : (v.step s).run.run c = (.ok u, c')) : u.IsTool := by
  cases s with
  | member name =>
    have hnone : ∃ e, v.getMember name = .error e := by
      cases v with
      | brush b => exact ⟨_, rfl⟩
      | makeshift name kinds output revert => exact ⟨_, rfl⟩
      | family f => exact ⟨_, rfl⟩
      | _ => exact hv.elim
    obtain ⟨e, he⟩ := hnone
    rw [step, he] at h
    cases h
  | index i => exact isTool_of_bracket hv h
  | key s => exact isTool_of_bracket hv h

theorem isTool_of_walk {v u : Value} {steps : List Step} {c c' : Context} (hv : v.IsTool)
    (h : (v.walk steps).run.run c = (.ok u, c')) : u.IsTool := by
  induction steps generalizing v c with
  | nil =>
    cases h
    exact hv
  | cons s ss ih =>
    obtain ⟨x, c₁, hx, h⟩ := exists_of_run_bind h
    exact ih (isTool_of_step hv hx) h

/-- Elsewhere a step is a result, which is found in the value. -/
theorem step_of_not_isTool {v : Value} (hv : ¬v.IsTool) (s : Step) :
    ∃ r : Except AccessError Value, v.step s = InContext.ofExcept .access r ∧
      ∀ u, r = .ok u → u.FoundIn v := by
  cases s with
  | member name => exact ⟨_, rfl, fun _ => foundIn_of_getMember⟩
  | index i => exact ⟨_, bracket_of_not_isTool hv _, fun _ => foundIn_of_item⟩
  | key s => exact ⟨_, bracket_of_not_isTool hv _, fun _ => foundIn_of_item⟩

/-- A walk that ends outside of brushes was a result all along. -/
theorem walk_eq_pure {v u : Value} {steps : List Step} {c c' : Context} (hu : ¬u.IsTool)
    (h : (v.walk steps).run.run c = (.ok u, c')) : v.walk steps = pure u := by
  induction steps generalizing v c with
  | nil =>
    cases h
    rfl
  | cons s ss ih =>
    obtain ⟨x, c₁, hx, h⟩ := exists_of_run_bind h
    have hv : ¬v.IsTool := fun hv => hu (isTool_of_walk (isTool_of_step hv hx) h)
    obtain ⟨r, hr, -⟩ := step_of_not_isTool hv s
    rw [hr] at hx
    cases r with
    | error e => cases hx
    | ok y =>
      cases hx
      rw [walk, hr, InContext.ofExcept_ok, pure_bind]
      exact ih h

end Value

/-- A field that finds something else than a brush has its value whatever the context is. -/
theorem Arguments.find_eq_pure {args : Arguments} {name : List Char} {n n' : Numbering}
    {v : Value} {c c' : Context} (hv : ¬v.IsTool)
    (h : (args.find name n).run.run c = (.ok (v, n'), c')) : args.find name n = pure (v, n') := by
  unfold find at h ⊢
  cases hpath : Path.ofChars name with
  | error e =>
    rw [hpath] at h
    cases h
  | ok path =>
    rw [hpath, InContext.ofExcept_ok, pure_bind] at h
    rw [InContext.ofExcept_ok, pure_bind]
    cases hstart : args.start path.head n with
    | error e =>
      rw [hstart] at h
      cases h
    | ok r =>
      rw [hstart, InContext.ofExcept_ok, pure_bind] at h
      rw [InContext.ofExcept_ok, pure_bind]
      obtain ⟨u, c₁, hwalk, h⟩ := exists_of_run_bind h
      dsimp only at h ⊢
      cases hfault : path.fault with
      | some f =>
        rw [hfault] at h
        cases h
      | none =>
        rw [hfault] at h
        cases h
        rw [Value.walk_eq_pure hv hwalk, pure_bind]

end Sgr
