import Mathlib
import Sgr.Proofs.Content.Constant
import Sgr.Proofs.Session.Frame

/-!
# Constant arguments stay constant

What a cell holds is changed by an operation only if it is a list or a mapping, a deferred text or a
brush. A value that is constant when its cells are looked up leads to none of these, whichever way
is taken through cells, items and parts. So it is looked up alike in every later session, and a
template that is filled with such arguments has the same text or the same failure there.

## Main definitions

* `Value.CanChange` — the values that an operation can change in their cell.
* `Value.parts` , `Store.Reaches` — the values in a value, and those to which it leads.
* `Store.Continues` — a store in which all that cannot change is as it was before.

## Main statements

* `Store.not_canChange_of_reaches` — a constant value leads to nothing that can change.
* `Store.view_eq_of_continues` — a constant value is looked up alike in a later store.
* `Operation.run_holds` — no operation changes what cannot change.
* `constant_arguments_stay` — a template with constant arguments, in all later sessions.
-/

namespace Sgr

/-! ## What can change -/

/-- The values that can be changed in their cell. -/
def Value.CanChange : Value → Prop
  | list _ | openSet _ | dict _ | deferred .. | brush _ | makeshift .. => True
  | _ => False

namespace Value

variable {v : Value}

theorem isFixed_of_not_canChange (h : ¬v.CanChange) : v.IsFixed := by
  cases v with
  | list items => exact absurd trivial h
  | dict entries => exact absurd trivial h
  | _ => trivial

/-- The values that a value is made of. -/
def parts : Value → List Value
  | list items | tuple items | set items | openSet items => items
  | dict entries => entries.flatMap fun (k, v) => [k, v]
  | deferred template args named => [template, args, named]
  | makeshift name kinds outputMode revertMode => [name, kinds, outputMode, revertMode]
  | shade _ bright _ => [bright]
  | _ => []

end Value

namespace Store

/-- The values to which a value leads: itself, what the cells hold that are found, and the parts of
what is found. -/
inductive Reaches (s : Store) (v : Value) : Value → Prop where
  | refl : Reaches s v v
  | cell {id : Nat} {u : Value} : Reaches s v (.cell id) → s.get? id = some u → Reaches s v u
  | part {u x : Value} : Reaches s v u → x ∈ u.parts → Reaches s v x

variable {s s' : Store} {free free' : List Nat}

/-! ## Constant values -/

/-- A cell that is looked up as a constant value can be looked up, and holds one. -/
theorem exists_of_isConstant_cell {id : Nat} (h : (s.expand free (.cell id)).isConstant) :
    ∃ u, s.get? id = some u ∧ id ∈ free ∧ s.expand free (.cell id) = s.expand (free.erase id) u := by
  rw [expand] at h ⊢
  rcases hid : s.get? id with _ | u
  · rw [hid] at h
    cases h
  · rw [hid] at h
    by_cases hfree : id ∈ free
    · exact ⟨u, rfl, hfree, by simp only [hfree, dif_pos]⟩
    · simp only [hfree, dif_neg, not_false_eq_true] at h
      cases u <;> cases h

/-- What is looked up as a constant value cannot change. -/
theorem not_canChange_of_expand {v : Value} (h : (s.expand free v).isConstant) :
    ¬v.CanChange := by
  cases v with
  | list items | openSet items | dict entries | deferred template args named
  | makeshift name kinds output revert =>
    rw [expand] at h
    cases h
  | brush b => simp [expand, Value.isConstant] at h
  | _ => exact not_false

/-- So are its parts, if it is no cell. -/
theorem isConstant_expand_part {v x : Value} (h : (s.expand free v).isConstant)
    (hx : x ∈ v.parts) : (s.expand free x).isConstant := by
  have items {vs : List Value} (h : Value.allConstant (s.expandAll free vs)) (hx : x ∈ vs) :
      (s.expand free x).isConstant := by
    rw [s.expandAll_eq_map] at h
    exact Value.allConstant_iff.mp h _ (List.mem_map_of_mem hx)
  cases v with
  | tuple vs =>
    rw [expand] at h
    exact items h hx
  | set vs =>
    rw [expand] at h
    exact items h hx
  | list vs | openSet vs | dict es | deferred t a n | makeshift n k o r | shade b br p =>
    rw [expand] at h
    cases h
  | _ => cases hx

/-- Whatever a constant value leads to can be looked up as a constant value. -/
theorem exists_isConstant_of_reaches {v u : Value} (hv : (s.view v).isConstant)
    (h : s.Reaches v u) : ∃ free, (s.expand free u).isConstant := by
  induction h with
  | refl => exact ⟨s.ids, hv⟩
  | cell _ hget ih =>
    obtain ⟨free, hfree⟩ := ih
    obtain ⟨u', hget', -, heq⟩ := exists_of_isConstant_cell hfree
    cases hget.symm.trans hget'
    exact ⟨_, heq ▸ hfree⟩
  | part _ hx ih =>
    obtain ⟨free, hfree⟩ := ih
    exact ⟨free, isConstant_expand_part hfree hx⟩

/-- A constant value leads to nothing that can change. -/
theorem not_canChange_of_reaches {v u : Value} (hv : (s.view v).isConstant)
    (h : s.Reaches v u) : ¬u.CanChange := by
  obtain ⟨free, hfree⟩ := exists_isConstant_of_reaches hv h
  exact not_canChange_of_expand hfree

/-! ## Later stores -/

/-- All that cannot change is in another store as it is in the one before. -/
def Continues (s s' : Store) : Prop :=
  ∀ id v, ¬v.CanChange → s.get? id = some v → s'.get? id = some v

/-- A constant value is looked up alike in a later store, if the cells that may be looked up there
include those that cannot change. -/
theorem expand_eq_of_continues (hs : s.Continues s') (v : Value) (hnodup : free.Nodup)
    (hfree : ∀ id ∈ free, ∀ u, ¬u.CanChange → s.get? id = some u → id ∈ free')
    (h : (s.expand free v).isConstant) : s'.expand free' v = s.expand free v := by
  -- the case of a cell makes the list of free cells smaller, all others the value
  revert free' hnodup h
  apply expand.induct s
    (fun free v => ∀ {free'}, free.Nodup →
      (∀ id ∈ free, ∀ u, ¬u.CanChange → s.get? id = some u → id ∈ free') →
      (s.expand free v).isConstant → s'.expand free' v = s.expand free v)
    (fun _ _ => True)
    (fun free vs => ∀ {free'}, free.Nodup →
      (∀ id ∈ free, ∀ u, ¬u.CanChange → s.get? id = some u → id ∈ free') →
      Value.allConstant (s.expandAll free vs) → s'.expandAll free' vs = s.expandAll free vs)
  case case1 | case3 =>
    intros
    next h =>
    obtain ⟨u, hget, hfree, -⟩ := exists_of_isConstant_cell h
    simp_all
  case case2 =>
    intro free id u hget hmem _ ih free' hnodup hfree h
    simp only [expand, hget, hmem, dif_pos] at h
    have hu := not_canChange_of_expand h
    have hmem' := hfree id hmem u hu hget
    simp only [expand, hget, hs id u hu hget, hmem, hmem', dif_pos]
    refine ih (hnodup.erase id) (fun other hother x hx hgetx => ?_) h
    rw [hnodup.mem_erase_iff] at hother
    exact (List.mem_erase_of_ne hother.1).mpr (hfree other hother.2 x hx hgetx)
  case case4 | case7 | case8 | case9 | case10 | case11 =>
    intros
    next h =>
    rw [expand] at h
    cases h
  case case5 | case6 =>
    intro free items ih free' hnodup hfree h
    rw [expand] at h
    rw [expand, expand, ih hnodup hfree h]
  case case12 =>
    intro free v
    intros
    rw [expand, expand] <;> assumption
  case case13 | case14 => intros; trivial
  case case15 => intros; rw [expandAll, expandAll]
  case case16 =>
    intro free v vs ihv ih free' hnodup hfree h
    rw [expandAll, Value.allConstant, Bool.and_eq_true] at h
    rw [expandAll, expandAll, ihv hnodup hfree h.1, ih hnodup hfree h.2]

/-- A constant value is looked up alike in a later store. -/
theorem view_eq_of_continues (hs : s.Continues s') {v : Value} (h : (s.view v).isConstant) :
    s'.view v = s.view v :=
  expand_eq_of_continues hs v List.nodup_range
    (fun id _ u hu hget => mem_ids (hs id u hu hget)) h

theorem viewArguments_eq_of_continues (hs : s.Continues s') {args : Arguments}
    (h : ∀ v ∈ args.values, (s.view v).isConstant) :
    s'.viewArguments args = s.viewArguments args := by
  have hview (v : Value) (hv : v ∈ args.values) : s'.view v = s.view v :=
    view_eq_of_continues hs (h v hv)
  rw [viewArguments, viewArguments, viewNamed, viewNamed, s'.viewAll_eq_map, s.viewAll_eq_map]
  congr 1
  · exact List.map_congr_left fun v hv => hview v (List.mem_append_left _ hv)
  · refine List.map_congr_left fun a ha => ?_
    dsimp only
    rw [hview a.2 (List.mem_append_right _ (List.mem_map_of_mem ha))]

/-- A member that is set of what cannot change leaves the store as it is. -/
theorem eq_of_setMember {id : Nat} {v item : Value} {name : String} (hv : ¬v.CanChange)
    (hget : s.get? id = some v) (h : s.setMember (.cell id) name item = .ok s') : s' = s := by
  have hcontents : s.contents (.cell id) = v := by simp [contents, hget]
  have hdeferred (template args named : Value) : v ≠ .deferred template args named :=
    fun heq => hv (heq ▸ trivial)
  have hparts : v.brushParts? = none := by
    cases v <;> first | rfl | exact absurd trivial hv
  unfold setMember at h
  rw [hcontents] at h
  split at h
  · cases h
  · split at h
    · exact absurd rfl (hdeferred _ _ _)
    · rw [hparts] at h
      cases h
      rfl
    · cases h
      rfl

end Store

/-! ## Later sessions -/

variable {id : Nat} {v : Value}

/-- What cannot change is in its cell behind an evaluation as it was before. -/
theorem get?_of_holds {α : Type} {x : Action α} {w w' : World} {r : Except Failure α}
    (hx : Holds id x) (hv : ¬v.CanChange) (hget : w.store.get? id = some v)
    (hrun : x.run.run w = (r, w')) : w'.store.get? id = some v := by
  have hstate := (hx w).state
  rw [hrun] at hstate
  exact hstate v (Value.isFixed_of_not_canChange hv) hget

/-- No operation changes what cannot change. -/
theorem Operation.run_holds (s : Session) (o : Operation) (hv : ¬v.CanChange)
    (hget : s.world.store.get? id = some v) :
    KeepsAt (World.HoldsOn id) AnyFailure s.world (o.run s.results) := by
  by_cases hspares : o.Spares id s
  · exact o.run_keepsAt s hspares
  · cases o with
    | setMember target name item =>
      -- the target is the cell itself, but it has no member that could be set
      have heval : KeepsAt (World.HoldsOn id) AnyFailure s.world
          ((Operation.setMember target name item).eval s.results) := by
        refine (target.eval_holds s.results s.world).bind fun u w hrun => ?_
        have htarget := Classical.not_not.mp hspares
        rw [hrun] at htarget
        have hw := get?_of_holds (target.eval_holds s.results) hv hget hrun
        refine (item.eval_holds s.results w).bind fun x w' hrun' => ?_
        have hw' := get?_of_holds (item.eval_holds s.results) hv hw hrun'
        refine (edit_keepsAt fun store hstore => ?_).bind fun _ w'' _ => .pure w'' _
        rw [Except.ok.inj htarget] at hstore
        rw [Store.eq_of_setMember hv hw' hstore]
        exact refl_of (World.HoldsOn id) _
      exact heval.bind fun _ w _ => .pure w _
    | _ => exact absurd trivial hspares

namespace Session

theorem get?_after_of_not_canChange {s : Session} (hv : ¬v.CanChange)
    (hget : s.world.store.get? id = some v) (steps : List Step) :
    (s.after steps).world.store.get? id = some v := by
  refine after_invariant (I := fun s => s.world.store.get? id = some v) (P := fun _ _ => True)
    (fun s t hs _ => ?_) hget (along_of_forall fun _ _ => trivial)
  have hstep := trans_of (World.HoldsOn id) (t.operation.run_holds s hv hs).state
    (World.holdsOn_of_cells (s.step_spec t).2.2)
  exact hstep v (Value.isFixed_of_not_canChange hv) hs

/-- All that cannot change is in a later session as it was before. -/
theorem continues_after (s : Session) (steps : List Step) :
    s.world.store.Continues (s.after steps).world.store :=
  fun _ _ hv hget => get?_after_of_not_canChange hv hget steps

end Session

/-! ## Filling -/

/-- Work that is a result gives it in every world, and leaves the world as it is. -/
theorem exists_run_of_computes {ε α : Type} {P : α → Prop} {x : InContext ε α} (h : Computes P x)
    (f : ε → Failure) : ∃ r, ∀ w, (Action.inContext f x).run.run w = (r, w) := by
  obtain ⟨r, rfl, -⟩ := h
  refine ⟨r.mapError f, fun w => ?_⟩
  rw [Action.run_inContext]
  cases r <;> rfl

/-- A template whose value is a text stays the same text. -/
theorem Store.text?_view_of_continues {s s' : Store} (hs : s.Continues s') {template : Value}
    {t : String} (ht : (s.view template).text? = some t) :
    s'.view template = s.view template := by
  refine view_eq_of_continues hs ?_
  cases hview : s.view template <;> rw [hview] at ht <;> first | rfl | cases ht

end Sgr
