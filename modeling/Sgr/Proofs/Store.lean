import Sgr.Brush.Makeshift
import Sgr.Value.Store

/-!
# Looking up cells

A value is looked up part by part. A cell that holds a brush shows it, and goes on to do so when new
cells come. The same is true of any value that is looked up without a cell left in it.

## Main definitions

* `Value.isClosed` — whether a value mentions no cell.

## Main statements

* `Store.viewAll_eq_map` — values are looked up one by one.
* `Store.contents_add`, `Store.contents_add_self` — a new cell holds its value and changes no other.
* `Store.view_of_brush`, `Store.view_brushParts` — what is looked up of a brush.
* `Store.view_add` — a value without loose cells is looked up alike when a new cell comes.
-/

namespace Sgr

/-- Whether a value mentions no cell. -/
def Value.isClosed : Value → Bool
  | .cell _ => false
  | .list items | .tuple items | .set items | .openSet items => allClosed items
  | .dict entries => entriesClosed entries
  | .deferred template args named => template.isClosed && args.isClosed && named.isClosed
  | .makeshift name kinds outputMode revertMode =>
    name.isClosed && kinds.isClosed && outputMode.isClosed && revertMode.isClosed
  | .shade _ bright _ => bright.isClosed
  | _ => true
where
  /-- Whether items mention no cell. -/
  allClosed : List Value → Bool
    | [] => true
    | v :: vs => v.isClosed && allClosed vs
  /-- Whether the entries of a mapping mention no cell. -/
  entriesClosed : List (Value × Value) → Bool
    | [] => true
    | (k, v) :: es => k.isClosed && v.isClosed && entriesClosed es

namespace Store

variable (s : Store)

theorem expandAll_eq_map (free : List Nat) (vs : List Value) :
    s.expandAll free vs = vs.map (s.expand free) := by
  induction vs with
  | nil => rw [expandAll, List.map_nil]
  | cons v vs ih => rw [expandAll, ih, List.map_cons]

theorem expandEntries_eq_map (free : List Nat) (es : List (Value × Value)) :
    s.expandEntries free es = es.map fun (k, v) => (s.expand free k, s.expand free v) := by
  induction es with
  | nil => rw [expandEntries, List.map_nil]
  | cons e es ih =>
    obtain ⟨k, v⟩ := e
    rw [expandEntries, ih, List.map_cons]

theorem viewAll_eq_map (vs : List Value) : s.viewAll vs = vs.map s.view :=
  s.expandAll_eq_map s.ids vs

@[simp] theorem view_text (t : String) : s.view (.text t) = .text t := by
  simp [view, expand]

/-! ## Contents -/

variable {s} {v : Value}

theorem mem_ids {id : Nat} {u : Value} (h : s.get? id = some u) : id ∈ s.ids := by
  rw [ids, List.mem_range]
  exact (List.getElem?_eq_some_iff.mp h).1

/-- A brush has no cells, so it is looked up as it is. -/
theorem view_of_brush {b : Brush} (h : s.contents v = .brush b) : s.view v = .brush b := by
  cases v with
  | cell id =>
    rcases hid : s.get? id with _ | u
    · simp [contents, hid] at h
    · obtain rfl : u = .brush b := by simpa [contents, hid] using h
      simp [view, expand, hid, mem_ids hid]
  | _ => simp_all [contents, view, expand]

/-- A family has no cells either. -/
theorem view_of_family {f : ColorFamily} (h : s.contents v = .family f) : s.view v = .family f := by
  cases v with
  | cell id =>
    rcases hid : s.get? id with _ | u
    · simp [contents, hid] at h
    · obtain rfl : u = .family f := by simpa [contents, hid] using h
      simp [view, expand, hid, mem_ids hid]
  | _ => simp_all [contents, view, expand]

/-- Looking up the cells of a brush leaves its output mode as it is. -/
theorem expand_brushParts {u : Value} {p : BrushParts} (free : List Nat)
    (h : u.brushParts? = some p) :
    ∃ p', (s.expand free u).brushParts? = some p' ∧
      ∀ o, p.output = .output o → p'.output = .output o := by
  cases u with
  | brush b =>
    rw [expand]
    · exact ⟨p, h, fun _ ho => ho⟩
    all_goals simp
  | makeshift name kinds output revert =>
    cases h
    rw [expand]
    refine ⟨_, rfl, ?_⟩
    rintro o rfl
    simp [expand]
  | _ => cases h

/-- What names a brush is looked up as a brush with the same output mode. -/
theorem view_brushParts {p : BrushParts}
    (h : (s.contents v).brushParts? = some p) :
    ∃ p', (s.view v).brushParts? = some p' ∧
      ∀ o, p.output = .output o → p'.output = .output o := by
  cases v with
  | cell id =>
    rcases hid : s.get? id with _ | u
    · simp [contents, hid, Value.brushParts?] at h
    · rw [contents, hid] at h
      rw [view, expand, hid]
      simp only [mem_ids hid, dif_pos]
      exact expand_brushParts _ h
  | _ => exact expand_brushParts _ h

/-! ## New cells -/

section NewCells

open Value.isClosed

theorem contents_add_self (s : Store) (u : Value) : (s.add u).2.contents (s.add u).1 = u := by
  simp [contents, add, get?]

theorem lt_of_get? {id : Nat} {x : Value} (h : s.get? id = some x) : id < s.cells.length := by
  simpa [ids] using mem_ids h

theorem get?_add_of_get? {id : Nat} {x : Value} (h : s.get? id = some x) (u : Value) :
    (s.add u).2.get? id = some x := by
  rw [s.get?_add u (lt_of_get? h), h]

/-- What a cell holds it goes on to hold, unless that is a cell in turn. -/
theorem contents_add {x : Value} (h : s.contents v = x) (hx : x.isClosed) (u : Value) :
    (s.add u).2.contents v = x := by
  cases v with
  | cell id =>
    rcases hid : s.get? id with _ | y
    · obtain rfl : Value.cell id = x := by simpa [contents, hid] using h
      cases hx
    · simpa [contents, get?_add_of_get? hid u, hid] using h
  | _ => exact h

variable (s)

/-- A value that is looked up without a cell left is looked up alike when there is a new cell. -/
theorem expand_add (u : Value) (free : List Nat) (v : Value) (h : (s.expand free v).isClosed) :
    (s.add u).2.expand (free ++ [s.cells.length]) v = s.expand free v := by
  -- the case of a cell makes the list of free cells smaller, all others the value
  revert h
  apply expand.induct s
    (fun free v => (s.expand free v).isClosed →
      (s.add u).2.expand (free ++ [s.cells.length]) v = s.expand free v)
    (fun free es => entriesClosed (s.expandEntries free es) →
      (s.add u).2.expandEntries (free ++ [s.cells.length]) es = s.expandEntries free es)
    (fun free vs => allClosed (s.expandAll free vs) →
      (s.add u).2.expandAll (free ++ [s.cells.length]) vs = s.expandAll free vs)
  case case1 =>
    intro free id hid h
    simp [expand, hid, Value.isClosed] at h
  case case2 =>
    intro free id x hid hfree _ ih h
    have hadd := get?_add_of_get? hid u
    have herase : (free ++ [s.cells.length]).erase id = free.erase id ++ [s.cells.length] :=
      List.erase_append_left _ hfree
    simp only [expand, hid, hadd, hfree, dif_pos, List.mem_append, true_or, herase] at h ⊢
    exact ih h
  case case3 =>
    intro free id x hid hfree _
    have hadd := get?_add_of_get? hid u
    have hmem : id ∉ free ++ [s.cells.length] := by
      simp only [List.mem_append, List.mem_singleton, not_or]
      exact ⟨hfree, Nat.ne_of_lt (lt_of_get? hid)⟩
    rw [expand, expand, hid, hadd]
    simp only [hmem, hfree, dif_neg, not_false_eq_true]
  case case4 | case5 | case6 | case7 | case8 =>
    intro free items ih h
    simp only [expand, Value.isClosed] at h ⊢
    rw [ih h]
  case case9 =>
    intro free template args named iht iha ihn h
    simp only [expand, Value.isClosed, Bool.and_eq_true] at h ⊢
    rw [iht h.1.1, iha h.1.2, ihn h.2]
  case case10 =>
    intro free name kinds output revert ihn ihk iho ihr h
    simp only [expand, Value.isClosed, Bool.and_eq_true] at h ⊢
    rw [ihn h.1.1.1, ihk h.1.1.2, iho h.1.2, ihr h.2]
  case case11 =>
    intro free base bright p ih h
    simp only [expand, Value.isClosed] at h ⊢
    rw [ih h]
  case case12 =>
    intro free v
    intros
    rw [expand, expand] <;> assumption
  case case13 => simp [expandEntries]
  case case14 =>
    intro free k v es ihk ihv ih h
    simp only [expandEntries, entriesClosed, Bool.and_eq_true] at h ⊢
    rw [ihk h.1.1, ihv h.1.2, ih h.2]
  case case15 => simp [expandAll]
  case case16 =>
    intro free v vs ihv ih h
    simp only [expandAll, allClosed, Bool.and_eq_true] at h ⊢
    rw [ihv h.1, ih h.2]

/-- The parameters of a brush, say, stay what they are when the brush becomes a cell. -/
theorem view_add {v : Value} (h : (s.view v).isClosed) (u : Value) :
    (s.add u).2.view v = s.view v := by
  have hids : (s.add u).2.ids = s.ids ++ [s.cells.length] := by
    simp [ids, add, List.range_succ]
  rw [view, hids]
  exact s.expand_add u s.ids v h

end NewCells

end Store

end Sgr
