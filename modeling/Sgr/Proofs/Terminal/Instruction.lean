import Sgr.Sequence

/-!
# What parameters mean to a terminal

A terminal keeps the kind that was applied last in each revert group. The parameters of a sequence
are read from left to right, by the tables of styles, groups and planes: a parameter applies a kind,
reverts a group or resets everything, and the selector of a plane takes the parameters of a colour
with it. Those may look like the codes of styles, so what a parameter means depends on what stands
in front of it.

## Main definitions

* `Attributes` — the kinds that are on, by group.
* `Attributes.leave` — what a revert mode does to groups.
* `Instruction` — what parameters ask for.
* `Instruction.read?`, `Instruction.readAll?` — the first instruction of parameters, and all of
  them.

## Main statements

* `Instruction.read?_params` — the parameters of a kind apply it, whatever follows them.
* `Instruction.readAll?_set`, `Instruction.readAll?_reset` — what the parameters of kinds and of a
  revert mode ask for.
-/

namespace Sgr

/-- The kind that is on in each group, if one is. -/
abbrev Attributes := RevertGroup → Option Kind

namespace Attributes

/-- Nothing is on. -/
def plain : Attributes := fun _ => none

/-- A kind is applied, in place of another of its group. -/
def apply (a : Attributes) (k : Kind) : Attributes :=
  fun g => if g = k.group then some k else a g

/-- Groups are reverted. -/
def revert (a : Attributes) (groups : List RevertGroup) : Attributes :=
  fun g => if g ∈ groups then none else a g

/-- Groups are left under a mode, which may revert them, revert everything or leave all on. -/
def leave (a : Attributes) (groups : List RevertGroup) : RevertMode → Attributes
  | .single => a.revert groups
  | .total => plain
  | .none => a

@[simp] theorem revert_nil (a : Attributes) : a.revert [] = a := by
  funext g
  simp [revert]

theorem revert_cons (a : Attributes) (g : RevertGroup) (groups : List RevertGroup) :
    a.revert (g :: groups) = (a.revert [g]).revert groups := by
  funext h
  by_cases hg : h = g <;> simp [revert, hg]

end Attributes

/-- What parameters ask a terminal for. -/
inductive Instruction where
  | apply (k : Kind)
  | revert (g : RevertGroup)
  | reset
  deriving DecidableEq, Repr, Inhabited

namespace Instruction

/-- What an instruction does. -/
def run (a : Attributes) : Instruction → Attributes
  | apply k => a.apply k
  | revert g => a.revert [g]
  | reset => .plain

/-! ## Reading -/

/-- The planes with their brightnesses, in table order. -/
def basicPlanes : List (Plane × Bool) :=
  Plane.all.flatMap fun p => [(p, false), (p, true)]

/-- The basic colour of a parameter: a base colour counts from the offset of its plane. -/
def basicColor? (n : Nat) : Option Color :=
  basicPlanes.findSome? fun (p, bright) =>
    if h : p.basicOffset bright ≤ n ∧ n - p.basicOffset bright < 8 then
      some (.basic ⟨n - p.basicOffset bright, h.2⟩ bright p)
    else none

/-- The instruction of a parameter that stands for itself. -/
def ofCode? (n : Nat) : Option Instruction :=
  if n = resetAll then some .reset
  else (((Style.all.find? (·.code = n)).map fun s => apply (.style s)).or
    ((RevertGroup.all.find? (·.resetCode = n)).map revert)).or
    ((basicColor? n).map fun c => apply (.color c))

/-- The colour behind the selector of a plane, and the rest. -/
def readColor? (p : Plane) : List Nat → Option (Color × List Nat)
  | [] => none
  | mode :: params =>
    if mode = indexedMode then
      match params with
      | i :: rest => if h : i < 256 then some (.indexed ⟨i, h⟩ p, rest) else none
      | _ => none
    else if mode = rgbMode then
      match params with
      | r :: g :: b :: rest =>
        if h : r < 256 ∧ g < 256 ∧ b < 256 then
          some (.rgb ⟨r, h.1⟩ ⟨g, h.2.1⟩ ⟨b, h.2.2⟩ p, rest)
        else none
      | _ => none
    else none

/-- The first instruction of parameters, and the rest. -/
def read? : List Nat → Option (Instruction × List Nat)
  | [] => none
  | n :: params =>
    match Plane.all.find? (·.selector = n) with
    | some p => (readColor? p params).map fun (c, rest) => (apply (.color c), rest)
    | none => (ofCode? n).map (·, params)

theorem length_readColor? {p : Plane} {params rest : List Nat} {c : Color}
    (h : readColor? p params = some (c, rest)) : rest.length < params.length := by
  unfold readColor? at h
  grind

theorem length_read? {params rest : List Nat} {d : Instruction}
    (h : read? params = some (d, rest)) : rest.length < params.length := by
  rcases params with _ | ⟨n, params⟩
  · cases h
  · rw [read?] at h
    split at h
    · simp only [Option.map_eq_some_iff, Prod.mk.injEq] at h
      obtain ⟨⟨c, r⟩, hc, _, rfl⟩ := h
      exact Nat.lt_succ_of_lt (length_readColor? hc)
    · simp only [Option.map_eq_some_iff, Prod.mk.injEq] at h
      obtain ⟨_, _, _, rfl⟩ := h
      exact Nat.lt_succ_self _

/-- The instructions of parameters, of which every one has to be understood. -/
def readAll? (params : List Nat) : Option (List Instruction) :=
  if params.isEmpty then some []
  else
    match h : read? params with
    | none => none
    | some (d, rest) =>
      have := length_read? h
      (readAll? rest).map (d :: ·)
termination_by params.length

/-! ## What kinds and groups are read as -/

theorem read?_selector (p : Plane) (params : List Nat) :
    read? (p.selector :: params) =
      (readColor? p params).map fun (c, rest) => (apply (.color c), rest) := by
  cases p <;> rfl

/-- A parameter that is no selector is read by itself. -/
theorem read?_code {n : Nat} (hn : Plane.all.find? (·.selector = n) = none) (params : List Nat) :
    read? (n :: params) = (ofCode? n).map (·, params) := by
  rw [read?, hn]

theorem read?_style (s : Style) (rest : List Nat) :
    read? (s.code :: rest) = some (apply (.style s), rest) := by
  rw [read?_code (by cases s <;> rfl)]
  cases s <;> rfl

theorem read?_basic (base : Fin 8) (bright : Bool) (p : Plane) (rest : List Nat) :
    read? ((p.basicOffset bright + base) :: rest) =
      some (apply (.color (.basic base bright p)), rest) := by
  have hcode : ofCode? (p.basicOffset bright + base) =
      some (apply (.color (.basic base bright p))) := by
    cases p <;> cases bright <;> decide +revert
  rw [read?_code, hcode]
  · rfl
  · cases p <;> cases bright <;> decide +revert

theorem read?_reset (rest : List Nat) : read? (resetAll :: rest) = some (reset, rest) := rfl

theorem read?_resetCode (g : RevertGroup) (rest : List Nat) :
    read? (g.resetCode :: rest) = some (revert g, rest) := by
  rw [read?_code (by cases g <;> rfl)]
  cases g <;> rfl

/-- The parameters of a kind apply it, whatever follows them. -/
theorem read?_params (k : Kind) (rest : List Nat) :
    read? (k.params ++ rest) = some (apply k, rest) := by
  rcases k with s | c
  · exact read?_style s rest
  · rcases c with ⟨base, bright, p⟩ | ⟨i, p⟩ | ⟨r, g, b, p⟩
    · exact read?_basic base bright p rest
    · simp [Kind.params, Color.params, read?_selector, readColor?]
    · simp [Kind.params, Color.params, read?_selector, readColor?, indexedMode, rgbMode]

theorem readAll?_nil : readAll? [] = some [] := by
  rw [readAll?]
  rfl

theorem readAll?_of_read? {params rest : List Nat} {d : Instruction}
    (h : read? params = some (d, rest)) : readAll? params = (readAll? rest).map (d :: ·) := by
  have hne : params.isEmpty = false := by
    rcases params with _ | ⟨n, params⟩
    · cases h
    · rfl
  rw [readAll?, hne]
  simp only [Bool.false_eq_true, if_false]
  split
  · simp_all
  · simp_all

/-- The parameters that set kinds apply them, one after the other. -/
theorem readAll?_set (kinds : List Kind) :
    readAll? (kinds.flatMap Kind.params) = some (kinds.map apply) := by
  induction kinds with
  | nil => exact readAll?_nil
  | cons k kinds ih =>
    rw [List.flatMap_cons, readAll?_of_read? (read?_params k _), ih]
    rfl

theorem readAll?_resetCodes (groups : List RevertGroup) :
    readAll? (groups.map RevertGroup.resetCode) = some (groups.map revert) := by
  induction groups with
  | nil => exact readAll?_nil
  | cons g groups ih =>
    rw [List.map_cons, readAll?_of_read? (read?_resetCode g _), ih]
    rfl

/-! ## What they do together -/

theorem foldl_apply (a : Attributes) (kinds : List Kind) :
    (kinds.map apply).foldl run a = kinds.foldl Attributes.apply a := by
  rw [List.foldl_map]
  rfl

theorem foldl_revert (a : Attributes) (groups : List RevertGroup) :
    (groups.map revert).foldl run a = a.revert groups := by
  induction groups generalizing a with
  | nil => rw [Attributes.revert_nil, List.map_nil, List.foldl_nil]
  | cons g groups ih =>
    rw [List.map_cons, List.foldl_cons, ih, Attributes.revert_cons]
    rfl

/-- The parameters that revert groups under a mode leave them. -/
theorem readAll?_reset (groups : List RevertGroup) (m : RevertMode) :
    ∃ ds, readAll? (Resolution.resetParams groups m) = some ds ∧
      ∀ a, ds.foldl run a = Attributes.leave a groups m := by
  cases m with
  | single => exact ⟨_, readAll?_resetCodes groups, fun a => foldl_revert a groups⟩
  | total =>
    refine ⟨[reset], ?_, fun a => rfl⟩
    rw [Resolution.resetParams, readAll?_of_read? (read?_reset []), readAll?_nil]
    rfl
  | none => exact ⟨[], readAll?_nil, fun a => rfl⟩

end Instruction

end Sgr
