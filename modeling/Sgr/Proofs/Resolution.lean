import Mathlib.Data.List.Nodup
import Mathlib.Data.List.Perm.Basic
import Sgr.Brush.Call

/-!
# The resolution of several kinds

Kinds that are applied together keep their parameters in order, and each of their revert groups is
listed once, where it appears first. So the resolution of two lists of kinds behind each other is
told by those of the two lists, and the order of the kinds matters to the parameters that revert
them only as an order. The parameters of different groups differ, so each group is reverted once.

Values are resolved if they are kinds. The first one that is none is refused by its type, with a
text that shows it. A value that has no such text is refused for that instead.

## Main definitions

* `Value.isForeign` — a value that is meant for something else than a kind.

## Main statements

* `newGroups_append` — the groups of kinds behind others are those that are new.
* `ofValues_foreign` — what is no kind is refused.
* `ofKinds_ordered` — both, with the parameters, for every revert mode.
-/

namespace Sgr

theorem RevertGroup.resetCode_injective : Function.Injective RevertGroup.resetCode := by
  intro g h
  cases g <;> cases h <;> decide

namespace Resolution

/-! ## Groups -/

theorem mem_newGroups {g : RevertGroup} {seen : List RevertGroup} {kinds : List Kind} :
    g ∈ newGroups seen kinds ↔ g ∈ kinds.map Kind.group ∧ g ∉ seen := by
  induction kinds generalizing seen with
  | nil => simp [newGroups]
  | cons k kinds ih =>
    rw [newGroups]
    split <;> grind

theorem nodup_newGroups (seen : List RevertGroup) (kinds : List Kind) :
    (newGroups seen kinds).Nodup := by
  induction kinds generalizing seen with
  | nil => exact List.nodup_nil
  | cons k ks ih =>
    rw [newGroups]
    split
    · exact ih seen
    · refine List.nodup_cons.mpr ⟨fun h => ?_, ih _⟩
      exact (mem_newGroups.mp h).2 List.mem_cons_self

/-- If more groups were seen, these are left out as well. -/
theorem newGroups_of_seen {seen seen' more : List RevertGroup}
    (h : ∀ g, g ∈ seen' ↔ g ∈ seen ∨ g ∈ more) (kinds : List Kind) :
    newGroups seen' kinds = (newGroups seen kinds).filter (· ∉ more) := by
  induction kinds generalizing seen seen' with
  | nil => rfl
  | cons k ks ih =>
    rw [newGroups, newGroups]
    by_cases hseen : k.group ∈ seen
    · rw [if_pos hseen, if_pos ((h _).mpr (.inl hseen)), ih h]
    · rw [if_neg hseen]
      by_cases hmore : k.group ∈ more
      · rw [if_pos ((h _).mpr (.inr hmore)), List.filter_cons_of_neg (by simpa using hmore)]
        exact ih fun g => by grind
      · have hseen' : k.group ∉ seen' := fun hmem => ((h _).mp hmem).elim hseen hmore
        rw [if_neg hseen', List.filter_cons_of_pos (by simpa using hmore)]
        exact congrArg (k.group :: ·) (ih fun g => by grind)

/-- The groups of kinds behind others are those that are new. -/
theorem newGroups_append (seen : List RevertGroup) (a b : List Kind) :
    newGroups seen (a ++ b) =
      newGroups seen a ++ (newGroups seen b).filter (· ∉ newGroups seen a) := by
  induction a generalizing seen with
  | nil => simp [newGroups]
  | cons k ks ih =>
    rw [List.cons_append, newGroups, newGroups]
    split
    · exact ih seen
    · have hb : newGroups (k.group :: seen) b = (newGroups seen b).filter (· ∉ [k.group]) :=
        newGroups_of_seen (fun g => by grind) b
      rw [ih, hb, List.filter_filter, List.cons_append]
      congr 3
      funext g
      simp [Bool.and_comm]

/-- One kind is resolved alike on its own and as all kinds that are applied. -/
theorem ofKinds_singleton (k : Kind) (revert : RevertMode) :
    ofKinds [k] revert = ofKind k revert := by
  simp [ofKinds, ofKind, newGroups]

/-! ## Reverting -/

/-- The parameter of a group reverts it once. -/
theorem count_resetCode {k : Kind} {kinds : List Kind} (h : k ∈ kinds) :
    (ofKinds kinds .single).reset.count k.group.resetCode = 1 := by
  have hnodup : (ofKinds kinds .single).reset.Nodup :=
    (nodup_newGroups [] kinds).map RevertGroup.resetCode_injective
  refine List.count_eq_one_of_mem hnodup (List.mem_map_of_mem ?_)
  exact mem_newGroups.mpr ⟨List.mem_map_of_mem h, List.not_mem_nil⟩

theorem exists_of_mem_reset {kinds : List Kind} {n : Nat} (h : n ∈ (ofKinds kinds .single).reset) :
    ∃ k ∈ kinds, n = k.group.resetCode := by
  obtain ⟨g, hg, rfl⟩ := List.mem_map.mp h
  obtain ⟨k, hk, rfl⟩ := List.mem_map.mp (mem_newGroups.mp hg).1
  exact ⟨k, hk, rfl⟩

/-- The order of kinds matters to what reverts them only as an order. -/
theorem reset_perm {a b : List Kind} (h : a.Perm b) (revert : RevertMode) :
    (ofKinds a revert).reset.Perm (ofKinds b revert).reset := by
  have hgroups : (newGroups [] a).Perm (newGroups [] b) := by
    refine (List.perm_ext_iff_of_nodup (nodup_newGroups [] a) (nodup_newGroups [] b)).mpr
      fun g => ?_
    rw [mem_newGroups, mem_newGroups, (h.map Kind.group).mem_iff]
  cases revert with
  | single => exact hgroups.map RevertGroup.resetCode
  | total => exact List.Perm.refl _
  | none => exact List.Perm.refl _

theorem newGroups_ne_nil {kinds : List Kind} (h : kinds ≠ []) : newGroups [] kinds ≠ [] := by
  obtain ⟨k, ks, rfl⟩ := List.exists_cons_of_ne_nil h
  exact List.ne_nil_of_mem (mem_newGroups.mpr ⟨List.mem_cons_self, List.not_mem_nil⟩)

/-- Only the mode that leaves everything on has nothing behind the content. -/
theorem reverts_eq_false_iff {kinds : List Kind} (h : kinds ≠ []) (revert : RevertMode) :
    (ofKinds kinds revert).reverts = false ↔ revert = .none := by
  cases revert <;> simp [reverts, ofKinds, resetParams, newGroups_ne_nil h]

end Resolution

/-! ## Values -/

/-- Whether a value is meant for something else than a kind. A basic colour whose brightness is no
truth value is meant for a kind. -/
def Value.isForeign : Value → Bool
  | .style _ | .color _ | .shade .. => false
  | _ => true

theorem Value.kind_of_isForeign {v : Value} (h : v.isForeign) : v.kind = .error (.ofValue v) := by
  unfold Value.kind
  split
  · cases h
  · cases h
  · cases h
  · rfl

/-- What a value is refused with by its type: an error of its text, if it has none. -/
theorem KindError.errorClass_ofValue (v : Value) :
    (KindError.ofValue v).errorClass =
      match v.textFault? with
      | some fault => fault.errorClass
      | none => .wrongType := by
  unfold KindError.ofValue
  rcases v.textFault? with _ | fault <;> rfl

namespace Resolution

/-- Of kinds and values that are none, the first value that is none is refused. -/
theorem kindsOf_of_find? {vs : List Value} {v : Value}
    (hvs : ∀ u ∈ vs, u.isForeign ∨ ∃ k : Kind, u = k.value)
    (h : vs.find? Value.isForeign = some v) : kindsOf vs = .error (.ofValue v) := by
  induction vs with
  | nil => cases h
  | cons u us ih =>
    obtain ⟨hu, hus⟩ := List.forall_mem_cons.mp hvs
    obtain hu | ⟨k, rfl⟩ := hu
    · rw [List.find?_cons_of_pos hu] at h
      obtain rfl := Option.some.inj h
      rw [kindsOf, Value.kind_of_isForeign hu]
      rfl
    · have hk : k.value.isForeign = false := by cases k <;> rfl
      have hkind : k.value.kind = .ok k := by cases k <;> rfl
      rw [List.find?_cons_of_neg (by simp [hk])] at h
      rw [kindsOf, hkind, ih hus h]
      rfl

theorem ofValues_of_find? {vs : List Value} {v : Value}
    (hvs : ∀ u ∈ vs, u.isForeign ∨ ∃ k : Kind, u = k.value)
    (h : vs.find? Value.isForeign = some v) (revert : RevertMode) :
    ofValues vs revert = .error (.ofValue v) := by
  rw [ofValues, kindsOf_of_find? hvs h]
  rfl

theorem ofValues_of_ne_nil {kinds : List Kind} (h : kinds ≠ []) (revert : RevertMode) :
    ofValues (kinds.map Kind.value) revert = .ok (ofKinds kinds revert) := by
  rw [BrushParts.ofValues_value, ofKinds?, if_neg (by simpa using h)]

/-- Kinds resolve to their parameters in order and to each of their groups once, in order of first
appearance. One kind is resolved alike on its own. What reverts several kinds is nothing, the reset
of everything, or the parameter of each group once, and the order of the kinds only puts these in
another order. Nothing but no kinds at all and values that are no kinds is refused, and such a
value by its type, unless it has no text to be shown. -/
theorem ofKinds_ordered (revert : RevertMode) :
    (∀ kinds : List Kind, kinds ≠ [] →
      ofValues (kinds.map Kind.value) revert = .ok (ofKinds kinds revert) ∧
      ((ofKinds kinds revert).reverts = false ↔ revert = .none)) ∧
    (∀ a b : List Kind,
      (ofKinds (a ++ b) revert).set = (ofKinds a revert).set ++ (ofKinds b revert).set ∧
      (ofKinds (a ++ b) revert).groups = (ofKinds a revert).groups ++
        (ofKinds b revert).groups.filter (· ∉ (ofKinds a revert).groups)) ∧
    (∀ kinds : List Kind, (ofKinds kinds revert).groups.Nodup ∧
      ∀ g, g ∈ (ofKinds kinds revert).groups ↔ ∃ k ∈ kinds, k.group = g) ∧
    (∀ kinds : List Kind,
      (revert = .none → (ofKinds kinds revert).reset = []) ∧
      (revert = .total → (ofKinds kinds revert).reset = [0]) ∧
      (revert = .single →
        (∀ k ∈ kinds, (ofKinds kinds revert).reset.count k.group.resetCode = 1) ∧
        ∀ n ∈ (ofKinds kinds revert).reset, ∃ k ∈ kinds, n = k.group.resetCode) ∧
      ∀ others : List Kind, kinds.Perm others →
        (ofKinds kinds revert).reset.Perm (ofKinds others revert).reset) ∧
    (∀ k : Kind, ofValues [k.value] revert = .ok (ofKind k revert)) ∧
    (∃ e, ofValues [] revert = .error e ∧ e.errorClass = .wrongValue) ∧
    ∀ (vs : List Value) (v : Value), (∀ u ∈ vs, u.isForeign ∨ ∃ k : Kind, u = k.value) →
      vs.find? Value.isForeign = some v →
      ∃ e, ofValues vs revert = .error e ∧
        e.errorClass = match v.textFault? with
          | some fault => fault.errorClass
          | none => .wrongType := by
  refine ⟨fun kinds h => ⟨ofValues_of_ne_nil h revert, reverts_eq_false_iff h revert⟩,
    fun a b => ⟨List.flatMap_append, newGroups_append [] a b⟩,
    fun kinds => ⟨nodup_newGroups [] kinds, fun g => ?_⟩,
    fun kinds => ⟨?_, ?_, ?_, fun others h => reset_perm h revert⟩,
    fun k => ofKinds_singleton k revert ▸ ofValues_of_ne_nil (List.cons_ne_nil k []) revert,
    ⟨.noKinds, rfl, rfl⟩,
    fun vs v hvs h => ⟨_, ofValues_of_find? hvs h revert, KindError.errorClass_ofValue v⟩⟩
  · simp [ofKinds, mem_newGroups]
  · rintro rfl
    rfl
  · rintro rfl
    rfl
  · rintro rfl
    exact ⟨fun k => count_resetCode, fun n => exists_of_mem_reset⟩

/-- Two kinds of a group around one of another, and a number among kinds. -/
theorem ofKinds_ordered_intensity :
    let kinds : List Kind := [.style .bold, .color (.indexed 5 .foreground), .style .faint]
    ofValues (kinds.map Kind.value) .single =
        .ok ⟨[1, 38, 5, 5, 2], [22, 39], [.intensity, .fgColor]⟩ ∧
      (ofKinds kinds .single).reset.Perm (ofKinds kinds.reverse .single).reset ∧
      ∃ e, ofValues [.style .bold, .int 5, .nothing] .single = .error e ∧
        e.errorClass = .wrongType := by
  intro kinds
  obtain ⟨hkinds, -, -, hreset, -, -, hforeign⟩ := ofKinds_ordered .single
  refine ⟨(hkinds kinds (by decide)).1, (hreset kinds).2.2.2 _ kinds.reverse_perm.symm, ?_⟩
  refine hforeign [.style .bold, .int 5, .nothing] (.int 5) ?_ rfl
  simp only [List.forall_mem_cons]
  exact ⟨.inr ⟨.style .bold, rfl⟩, .inl rfl, .inl rfl, fun _ h => nomatch h⟩

/-- A brush whose mode was replaced by a text is no kind, and it is refused for its missing text. -/
theorem ofValues_unshown :
    let brush : Value :=
      .makeshift (.text "bold") (.tuple [.style .bold]) (.text "x") (.revert .single)
    brush.isForeign ∧ ∃ e, ofValues [.style .bold, brush] .single = .error e ∧
      e.errorClass ≠ .wrongType := by
  exact ⟨rfl, _, rfl, by decide⟩

end Resolution

end Sgr
