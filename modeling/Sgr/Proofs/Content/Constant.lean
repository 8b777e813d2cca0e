import Sgr.Proofs.Content.Request
import Sgr.Proofs.Template.Silent

/-!
# Constant arguments

A value is constant if it is a scalar, or a tuple or a set of constant values: so only the leaves of
the tree of tuples and sets matter. No brush is among constant values, so a template that is filled
with them asks nothing, and its text or its failure is the same in every context. The first argument
that is not constant is reported before the template is read.

## Main definitions

* `Value.leaves`, `Value.isScalar` — the leaves of tuples and sets, and the values that are fixed and
  have no parts.

## Main statements

* `Value.isConstant_eq_all_leaves` — a value is constant if all its leaves are scalars.
* `formatConstant_computes` — constant arguments give a result whatever the context is.
* `formatConstant_notConstant` — the first argument that is not constant is reported.
-/

namespace Sgr

namespace Value

/-- The values without parts that can never change. -/
def isScalar : Value → Bool
  | nothing | bool _ | int _ | level _ | float _ | complex .. | text _ | sigil _ | bytes _
  | constText _ => true
  | _ => false

mutual

/-- The leaves of the tree of tuples and sets that a value is. -/
def leaves : Value → List Value
  | tuple items | set items => allLeaves items
  | v => [v]

/-- The leaves of items. -/
def allLeaves : List Value → List Value
  | [] => []
  | v :: vs => leaves v ++ allLeaves vs

end

mutual

/-- A value is constant if all its leaves are scalars. -/
theorem isConstant_eq_all_leaves (v : Value) : v.isConstant = v.leaves.all isScalar := by
  cases v with
  | tuple items => exact allConstant_eq_all_leaves items
  | set items => exact allConstant_eq_all_leaves items
  | _ => simp only [isConstant, leaves, isScalar, List.all_cons, List.all_nil, Bool.and_true]

theorem allConstant_eq_all_leaves (vs : List Value) :
    allConstant vs = (allLeaves vs).all isScalar := by
  cases vs with
  | nil => rfl
  | cons v vs =>
    rw [allConstant, allLeaves, List.all_append, isConstant_eq_all_leaves v,
      allConstant_eq_all_leaves vs]

end

theorem allConstant_iff {items : List Value} : allConstant items ↔ ∀ v ∈ items, v.isConstant := by
  induction items with
  | nil => simp [allConstant]
  | cons v vs ih => simp [allConstant, ih]

mutual

/-- There is no brush in a constant value. -/
theorem isSilent_of_isConstant {keys : Bool} {v : Value} (h : v.isConstant) : v.isSilent keys := by
  cases v with
  | tuple items => exact allSilent_of_allConstant h
  | set items => exact allSilent_of_allConstant h
  | _ => first | rfl | cases h

theorem allSilent_of_allConstant {keys : Bool} {vs : List Value} (h : allConstant vs) :
    allSilent keys vs := by
  cases vs with
  | nil => rfl
  | cons v vs =>
    rw [allConstant, Bool.and_eq_true] at h
    rw [allSilent, isSilent_of_isConstant h.1, allSilent_of_allConstant h.2]
    rfl

end

end Value

/-! ## Arguments -/

namespace Arguments

variable {args : Arguments}

theorem values_view (s : Store) (args : Arguments) :
    (s.viewArguments args).values = args.values.map s.view := by
  rw [values, values, Store.viewArguments, Store.viewNamed, s.viewAll_eq_map, List.map_append,
    List.map_map, List.map_map]
  rfl

theorem isSilent_of_isConstant {keys : Bool} (h : ∀ v ∈ args.values, v.isConstant) :
    args.IsSilent keys where
  positional v hv := Value.isSilent_of_isConstant (h v (List.mem_append_left _ hv))
  named a ha := Value.isSilent_of_isConstant
    (h a.2 (List.mem_append_right _ (List.mem_map_of_mem ha)))

theorem mutable?_eq_none (h : ∀ v ∈ args.values, v.isConstant) : args.mutable? = none := by
  refine List.find?_eq_none.mpr fun v hv => ?_
  rw [h v hv]
  exact Bool.false_ne_true

/-- The first argument that is not constant stands behind constant ones only. -/
theorem mutable?_eq_some {front behind : List Value} {v : Value}
    (hvalues : args.values = front ++ v :: behind) (hfront : ∀ u ∈ front, u.isConstant)
    (hv : v.isConstant = false) : args.mutable? = some v := by
  refine List.find?_eq_some_iff_append.mpr ⟨?_, front, behind, hvalues, fun u hu => ?_⟩
  · rw [hv]
    rfl
  · rw [hfront u hu]
    rfl

end Arguments

/-! ## Filling -/

section Filling

variable {template : Value} {t : String} {args : Arguments}

/-- A template with constant arguments has its text or its failure, whatever the context is. -/
theorem formatConstant_computes (ht : template.text? = some t)
    (hnames : ∀ a ∈ args.named, a.1 ≠ "template") (h : ∀ v ∈ args.values, v.isConstant) :
    Computes (fun _ => True) (formatConstant template args) := by
  rw [formatConstant_of_text? ht hnames, Arguments.mutable?_eq_none h]
  have hsilent : args.IsSilent true := Arguments.isSilent_of_isConstant h
  exact (renderTemplate_computes hsilent fun _ => rfl).mapError _

/-- The first argument that is not constant is reported, whatever the template is. -/
theorem formatConstant_notConstant (ht : template.text? = some t)
    (hnames : ∀ a ∈ args.named, a.1 ≠ "template") {front behind : List Value} {v : Value}
    (hvalues : args.values = front ++ v :: behind) (hfront : ∀ u ∈ front, u.isConstant)
    (hv : v.isConstant = false) :
    formatConstant template args = throw (.content (.notConstant v)) := by
  rw [formatConstant_of_text? ht hnames, Arguments.mutable?_eq_some hvalues hfront hv]

end Filling

end Sgr
