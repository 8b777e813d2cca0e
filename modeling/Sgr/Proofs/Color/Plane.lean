import Sgr.Brush.Call
import Sgr.Proofs.Color.Refusal
import Sgr.Proofs.Resolution

/-!
# Colours on a plane

The plane that a colour is asked for on has no part in how the colour is read: a value is read on
another plane as the same colour moved there, or refused with the same error. So a colour that was
read is read again as itself, wherever it is asked for next.

A family asks for its colours on its own plane. Whatever parameters it is given, the brush that it
makes of them applies one colour, which lies there, and reverts the group of the family.

## Main definitions

* `Color.InRange`, `Value.InRange` — the numbers of a colour are those that its sort allows.
* `Value.onPlane` — a value moved to a plane, if it is a colour.

## Main statements

* `Color.readValue_onPlane` — reading on another plane.
* `ColorFamily.plane_of_color` — the colours of a family lie on its plane.
* `Color.readValue_uniform` — both, with the brushes of families.
-/

namespace Sgr

/-- The number of a basic colour is below eight, and other numbers of colours are bytes. -/
def Color.InRange : Color → Prop
  | basic base _ _ => base.val ≤ 7
  | indexed index _ => index.val ≤ 255
  | rgb r g b _ => r.val ≤ 255 ∧ g.val ≤ 255 ∧ b.val ≤ 255

theorem Color.inRange (c : Color) : c.InRange := by
  cases c <;> simp only [InRange] <;> omega

namespace Value

/-- The numbers of a colour are in range, whatever its brightness is. -/
def InRange : Value → Prop
  | color c => c.InRange
  | shade base _ _ => base.val ≤ 7
  | _ => False

/-- A colour moved to a plane. Other values stay. -/
def onPlane (p : Plane) : Value → Value
  | color c => color (c.onPlane p)
  | shade base bright _ => shade base bright p
  | v => v

theorem inRange_of_isOn {p : Plane} {v : Value} (h : Color.IsOn p v) : v.InRange := by
  cases v with
  | color c => exact c.inRange
  | shade base => exact Nat.le_of_lt_succ base.isLt
  | _ => exact h.elim

end Value

namespace Color

variable (p q : Plane)

/-! ## Reading on another plane -/

theorem ofPackedInt_onPlane (i : Int) : ofPackedInt i q = (ofPackedInt i p).map (onPlane q) := by
  unfold ofPackedInt
  split <;> rfl

theorem ofInt_onPlane (i : Int) : ofInt i q = (ofInt i p).map (onPlane q) := by
  unfold ofInt
  split
  · rfl
  · split
    · rfl
    · exact ofPackedInt_onPlane p q i

theorem ofHexValue_onPlane (v : Value) (s : String) :
    ofHexValue v s q = (ofHexValue v s p).map (onPlane q) := by
  unfold ofHexValue
  split
  · exact ofPackedInt_onPlane p q _
  · rfl

theorem ofWords?_onPlane (words : List String) :
    ofWords? q words = (ofWords? p words).map (onPlane q) := by
  unfold ofWords?
  split <;> simp [Function.comp_def, onPlane]

theorem ofName_onPlane (s : String) : ofName s q = (ofName s p).map (onPlane q) := by
  unfold ofName
  rw [ofWords?_onPlane p q]
  rcases ofWords? p (Text.words (Text.lower s)) with _ | c <;> rfl

theorem ofText_onPlane (s : String) : ofText s q = (ofText s p).map (onPlane q) := by
  unfold ofText
  dsimp only
  split
  · exact ofHexValue_onPlane p q _ _
  · split
    · split
      · exact ofInt_onPlane p q _
      · rfl
    · exact ofName_onPlane p q _

theorem ofComponents_onPlane (v : Value) (items : List Value) :
    ofComponents v items q = (ofComponents v items p).map (onPlane q) := by
  unfold ofComponents
  split
  · next r g b =>
    rcases componentOf .red r with _ | _
    · rfl
    · rcases componentOf .green g with _ | _
      · rfl
      · rcases componentOf .blue b with _ | _ <;> rfl
  · rfl

theorem ofValue_onPlane {v : Value} (hshade : ∀ base bright r, v ≠ .shade base bright r) :
    ofValue v q = (ofValue v p).map (onPlane q) := by
  unfold ofValue
  split
  · simp [Except.map]
  · exact absurd rfl (hshade _ _ _)
  · exact ofText_onPlane p q _
  · exact ofText_onPlane p q _
  · rfl
  · exact ofInt_onPlane p q _
  · exact ofInt_onPlane p q _
  · exact ofComponents_onPlane p q _ _
  · exact ofComponents_onPlane p q _ _
  · rfl

/-- A value is read on another plane as the colour that is moved there, and is refused alike. -/
theorem readValue_onPlane (v : Value) : readValue v q = (readValue v p).map (·.onPlane q) := by
  unfold readValue
  split
  · rfl
  · next hshade =>
    rw [ofValue_onPlane p q hshade]
    rcases ofValue v p with _ | c <;> rfl

variable {p q}

theorem isOn_of_readValue {v r : Value} (h : readValue v p = .ok r) : IsOn p r := by
  unfold readValue at h
  split at h
  · cases h
    exact rfl
  · obtain ⟨c, hc, rfl⟩ := exists_of_map_ok h
    exact plane_of_ofValue hc

/-- A colour is read as itself, on the plane that it is asked for on. -/
theorem readValue_of_isOn {r : Value} (h : IsOn p r) : readValue r q = .ok (r.onPlane q) := by
  cases r with
  | color | shade => rfl
  | _ => exact h.elim

/-- What was read on one plane is read on another one as the value that it was read from. -/
theorem readValue_readValue {v r : Value} (h : readValue v p = .ok r) :
    readValue r q = readValue v q := by
  rw [readValue_of_isOn (isOn_of_readValue h), readValue_onPlane p q v, h]
  rfl

end Color

/-! ## Families -/

namespace ColorFamily

variable {f : ColorFamily} {params : List Value} {c : Color}

theorem plane_of_packedColor {v : Value} (h : f.packedColor v = .ok c) : c.plane = f.plane := by
  unfold packedColor at h
  split at h
  · exact Color.plane_of_ofPackedInt h
  · unfold Color.ofHexValue at h
    split at h
    · exact Color.plane_of_ofPackedInt h
    · cases h
  · exact Color.plane_of_ofValue h

/-- The colours of a family lie on its plane. -/
theorem plane_of_color (h : f.color params = .ok c) : c.plane = f.plane := by
  unfold color at h
  split at h
  · split at h
    · exact plane_of_packedColor (mapError_eq_ok.mp h)
    · exact Color.plane_of_ofValue (mapError_eq_ok.mp h)
    · cases h
  · split at h
    · obtain ⟨i, -, rfl⟩ := exists_of_map_ok (mapError_eq_ok.mp h)
      rfl
    · cases h

/-- A brush of a family applies one colour, which lies on the plane of the family. -/
theorem exists_of_bind {b : Brush} (h : f.bind params = .ok b) :
    ∃ c : Color, b.kinds = [.color c] ∧ c.plane = f.plane := by
  obtain ⟨c, hc, hb⟩ := exists_of_bind_ok h
  cases hb
  exact ⟨c, rfl, plane_of_color hc⟩

end ColorFamily

/-- A brush of one kind resolves to what the kind does. -/
theorem Brush.resolve_of_kinds {b : Brush} {k : Kind} (h : b.kinds = [k])
    (revert : Option RevertMode) :
    b.resolve revert = .ok (Resolution.ofKind k (revert.getD b.modes.revert)) := by
  rw [Brush.resolve, h, ← Resolution.ofKinds_singleton]
  rfl

/-- The plane has no part in how a value is read: on every plane the same values are colours, and
the others are refused with the same errors. What is read is in range and lies on the plane, and is
read again as what it came from. A brush that a family makes of parameters has one kind, a colour
in range on the plane of the family, and the group of that is the group of the family. -/
theorem Color.readValue_uniform :
    (∀ (v : Value) (p q : Plane),
      ((∃ r, readValue v p = .ok r) ↔ ∃ r, readValue v q = .ok r) ∧
      (∀ e, readValue v p = .error e ↔ readValue v q = .error e) ∧
      ∀ r, readValue v p = .ok r → r.InRange ∧ IsOn p r ∧ readValue r q = readValue v q) ∧
    ∀ (f : ColorFamily) (params : List Value) (b : Brush), f.bind params = .ok b →
      ∃ c : Color, b.kinds = [.color c] ∧ c.InRange ∧ c.plane = f.plane ∧
        ∀ revert, ∃ r, b.resolve revert = .ok r ∧ r.groups = [f.group] := by
  refine ⟨fun v p q => ⟨?_, fun e => ?_, fun r hr => ?_⟩, fun f params b hb => ?_⟩
  · rw [readValue_onPlane p q v]
    rcases readValue v p with _ | r <;> simp [Except.map]
  · rw [readValue_onPlane p q v]
    rcases readValue v p with _ | r <;> simp [Except.map]
  · have hplane := isOn_of_readValue hr
    exact ⟨Value.inRange_of_isOn hplane, hplane, readValue_readValue hr⟩
  · obtain ⟨c, hkinds, hplane⟩ := ColorFamily.exists_of_bind hb
    refine ⟨c, hkinds, c.inRange, hplane, fun revert => ⟨_, b.resolve_of_kinds hkinds revert, ?_⟩⟩
    rw [ColorFamily.group, ← hplane]
    rfl

end Sgr
