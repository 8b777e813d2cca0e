import Mathlib
import Sgr.Proofs.Config.Loading

/-!
# Texts cut at their placeholders

Every text can be cut at its placeholders from left to right: in the plain part in front of a
placeholder no placeholder of the text starts, and what stands behind the placeholder is cut in the
same way. Filling a text keeps its plain parts and puts the value of the variable in the place of
each placeholder whose variable has one. The values are put between the plain parts as they are, so
nothing of them is looked at again.

## Main definitions

* `Occurrence` — a placeholder as it stands in a text.
* `Cut`, `Cut.IsLeftmost` — a text cut at placeholders, and the cut that takes the leftmost one each
  time.
* `Resolves` — what a value becomes in an environment.
* `Mentions` — the names in the placeholders of a value.

## Main statements

* `exists_cut`, `fill_source` — every text has a leftmost cut, by which it is filled.
* `resolves_iff` — filling a value gives what it becomes, and nothing else.
* `resolvePlaceholders_leftmost` — the same of a configuration, and what of the environment matters
  to it.
-/

namespace Sgr.Placeholder

/-! ## Placeholders -/

/-- A placeholder as it stands in a text: the name of a variable, with blanks on both sides. -/
structure Occurrence where
  front : List Char
  name : List Char
  back : List Char
  isBlank_front : ∀ c ∈ front, Text.isBlank c
  isNameChar_name : ∀ c ∈ name, isNameChar c
  name_ne_nil : name ≠ []
  isBlank_back : ∀ c ∈ back, Text.isBlank c

namespace Occurrence

/-- The characters of a placeholder. -/
def source (p : Occurrence) : List Char :=
  ['$', '\x7b', '\x7b'] ++ p.front ++ ['e', 'n', 'v', '.'] ++ p.name ++ p.back ++ ['\x7d', '\x7d']

/-- What stands in the place of a placeholder: the value of its variable, or itself. -/
def filled (env : Env) (p : Occurrence) : List Char :=
  match env.get? (String.ofList p.name) with
  | some s => s.toList
  | none => p.source

end Occurrence

theorem afterPrefix?_eq_some {ps cs rest : List Char} :
    afterPrefix? ps cs = some rest ↔ cs = ps ++ rest := by
  induction ps generalizing cs with
  | nil => simp [afterPrefix?]
  | cons p ps ih =>
    cases cs with
    | nil => simp [afterPrefix?]
    | cons c cs =>
      by_cases h : p = c
      · simp [afterPrefix?, h, ih]
      · simp [afterPrefix?, h, Ne.symm h]

theorem toNat_of_isNameChar {c : Char} (h : isNameChar c) : 48 ≤ c.toNat ∧ c.toNat ≤ 122 := by
  simp only [isNameChar, Char.isAlphanum, Char.isAlpha, Char.isUpper, Char.isLower, Char.isDigit,
    Bool.or_eq_true, Bool.and_eq_true, decide_eq_true_eq, UInt32.le_iff_toNat_le, ge_iff_le] at h
  change (((65 ≤ c.toNat ∧ c.toNat ≤ 90) ∨ (97 ≤ c.toNat ∧ c.toNat ≤ 122)) ∨
    (48 ≤ c.toNat ∧ c.toNat ≤ 57)) ∨ c = '_' at h
  rcases h with ((h | h) | h) | rfl
  · omega
  · omega
  · omega
  · decide

/-- A blank is no part of a name, so a name ends where its blanks start. -/
theorem isNameChar_of_isBlank {c : Char} (h : Text.isBlank c) : isNameChar c = false := by
  obtain ⟨r, hr, hrange⟩ := List.any_eq_true.mp h
  have hout : ∀ r ∈ Text.blankRanges, r.2 < 48 ∨ 122 < r.1 := by decide
  have hr := hout r hr
  simp only [Bool.and_eq_true, decide_eq_true_eq] at hrange
  have hname : ¬isNameChar c := fun hc => by
    have := toNat_of_isNameChar hc
    omega
  simpa using hname

/-- Characters of a sort are taken up to a character of another sort. -/
theorem takeWhile_append_cons {sort : Char → Bool} {cs r : List Char} {c : Char}
    (hcs : ∀ c ∈ cs, sort c) (hc : sort c = false) :
    (cs ++ c :: r).takeWhile sort = cs ∧ (cs ++ c :: r).dropWhile sort = c :: r := by
  have hc' : ¬sort c := by simp [hc]
  rw [List.takeWhile_append_of_pos hcs, List.dropWhile_append_of_pos hcs,
    List.takeWhile_cons_of_neg hc', List.dropWhile_cons_of_neg hc', List.append_nil]
  exact ⟨rfl, rfl⟩

/-- Neither blanks nor a brace go on with a name. -/
theorem exists_cons_closing {cs : List Char} (hcs : ∀ c ∈ cs, Text.isBlank c) (rest : List Char) :
    ∃ c r, cs ++ '\x7d' :: rest = c :: r ∧ isNameChar c = false := by
  cases cs with
  | nil => exact ⟨_, _, rfl, by decide⟩
  | cons c cs =>
    exact ⟨c, cs ++ '\x7d' :: rest, rfl, isNameChar_of_isBlank (hcs c List.mem_cons_self)⟩

/-- A placeholder is read as its name, whatever follows it. -/
theorem read?_source (p : Occurrence) (rest : List Char) :
    read? (p.source ++ rest) = some (p.name, rest) := by
  let closing := p.back ++ '\x7d' :: '\x7d' :: rest
  let inner := p.front ++ 'e' :: 'n' :: 'v' :: '.' :: (p.name ++ closing)
  have hopen : afterPrefix? ['$', '\x7b', '\x7b'] (p.source ++ rest) = some inner :=
    afterPrefix?_eq_some.mpr (by simp [Occurrence.source, inner, closing])
  have hfront : afterPrefix? ['e', 'n', 'v', '.'] (inner.dropWhile Text.isBlank) =
      some (p.name ++ closing) := by
    rw [(takeWhile_append_cons p.isBlank_front (by decide)).2]
    exact afterPrefix?_eq_some.mpr rfl
  have hname : (p.name ++ closing).takeWhile isNameChar = p.name ∧
      (p.name ++ closing).dropWhile isNameChar = closing := by
    obtain ⟨c, r, hclosing, hc⟩ := exists_cons_closing p.isBlank_back ('\x7d' :: rest)
    have hparts := takeWhile_append_cons (r := r) p.isNameChar_name hc
    rwa [← hclosing] at hparts
  have hback : afterPrefix? ['\x7d', '\x7d'] (closing.dropWhile Text.isBlank) = some rest := by
    rw [(takeWhile_append_cons p.isBlank_back (by decide)).2]
    exact afterPrefix?_eq_some.mpr rfl
  simp only [read?, hopen, Option.bind_eq_bind, Option.bind_some, hfront, hname, hback,
    List.isEmpty_iff, p.name_ne_nil, if_false, Option.pure_def]

/-- What is read as a name is a placeholder. -/
theorem exists_of_read? {cs name rest : List Char} (h : read? cs = some (name, rest)) :
    ∃ p : Occurrence, p.name = name ∧ cs = p.source ++ rest := by
  simp only [read?, Option.bind_eq_bind, Option.bind_eq_some_iff, afterPrefix?_eq_some] at h
  obtain ⟨inner, rfl, named, hnamed, h⟩ := h
  split at h
  · cases h
  · next hne =>
    simp only [Option.bind_eq_some_iff, afterPrefix?_eq_some] at h
    obtain ⟨rest', hrest, h⟩ := h
    cases h
    let p : Occurrence := {
      front := inner.takeWhile Text.isBlank
      name := named.takeWhile isNameChar
      back := (named.dropWhile isNameChar).takeWhile Text.isBlank
      isBlank_front := fun _ => List.mem_takeWhile_imp
      isNameChar_name := fun _ => List.mem_takeWhile_imp
      name_ne_nil := by simpa using hne
      isBlank_back := fun _ => List.mem_takeWhile_imp }
    have hback : named.dropWhile isNameChar = p.back ++ ['\x7d', '\x7d'] ++ rest := by
      rw [List.append_assoc, ← hrest, List.takeWhile_append_dropWhile]
    have hname : named = p.name ++ (p.back ++ ['\x7d', '\x7d'] ++ rest) := by
      rw [← hback, List.takeWhile_append_dropWhile]
    have hfront : inner = p.front ++ (['e', 'n', 'v', '.'] ++ named) := by
      rw [← hnamed, List.takeWhile_append_dropWhile]
    refine ⟨p, rfl, ?_⟩
    rw [hfront, hname, Occurrence.source]
    simp only [List.append_assoc]

/-! ## Cuts -/

/-- A text cut at placeholders: a plain part, and then either nothing more, or a placeholder and the
text behind it. -/
inductive Cut where
  | plain (lead : List Char)
  | next (lead : List Char) (p : Occurrence) (rest : Cut)

namespace Cut

/-- The characters of a text that was cut. -/
def source : Cut → List Char
  | plain lead => lead
  | next lead p rest => lead ++ p.source ++ rest.source

/-- The characters of a text that was cut, with its placeholders replaced. -/
def filled (env : Env) : Cut → List Char
  | plain lead => lead
  | next lead p rest => lead ++ p.filled env ++ rest.filled env

/-- The names in the placeholders of a text that was cut. -/
def names : Cut → List String
  | plain _ => []
  | next _ p rest => String.ofList p.name :: rest.names

/-- The characters and placeholders of a text that was cut. -/
def segments : Cut → List Segment
  | plain lead => lead.map .char
  | next lead p rest => lead.map .char ++ .variable p.name p.source :: rest.segments

/-- No placeholder of the text starts in a plain part, counting those that end behind it. -/
def IsLeftmost : Cut → Prop
  | plain lead => ∀ front (q : Occurrence) back, lead ≠ front ++ q.source ++ back
  | next lead p rest =>
    (∀ front (q : Occurrence) back, lead ++ p.source ++ rest.source = front ++ q.source ++ back →
      lead.length ≤ front.length) ∧ rest.IsLeftmost

/-- A cut with a character in front. -/
def cons (c : Char) : Cut → Cut
  | plain lead => plain (c :: lead)
  | next lead p rest => next (c :: lead) p rest

theorem source_cons (c : Char) (cut : Cut) : (cut.cons c).source = c :: cut.source := by
  cases cut <;> rfl

/-- A character in front makes no difference if no placeholder starts with it. -/
theorem IsLeftmost.cons {c : Char} {cut : Cut} (h : cut.IsLeftmost)
    (hc : read? (c :: cut.source) = none) : (cut.cons c).IsLeftmost := by
  have hfront {front : List Char} {q : Occurrence} {back : List Char}
      (heq : c :: cut.source = front ++ q.source ++ back) :
      ∃ front', front = c :: front' ∧ cut.source = front' ++ q.source ++ back := by
    cases front with
    | nil =>
      rw [heq, List.nil_append, read?_source] at hc
      cases hc
    | cons d front =>
      obtain ⟨rfl, hcs⟩ := List.cons.inj heq
      exact ⟨front, rfl, hcs⟩
  cases cut with
  | plain lead =>
    intro front q back heq
    obtain ⟨front, rfl, hcs⟩ := hfront heq
    exact h front q back hcs
  | next lead p rest =>
    refine ⟨fun front q back heq => ?_, h.2⟩
    obtain ⟨front, rfl, hcs⟩ := hfront heq
    exact Nat.succ_le_succ (h.1 front q back hcs)

end Cut

/-- Every text has a leftmost cut. -/
theorem exists_cut (cs : List Char) : ∃ cut : Cut, cut.source = cs ∧ cut.IsLeftmost := by
  induction cs using segments.induct with
  | case1 cs name rest hread _ ih =>
    obtain ⟨cut, rfl, hcut⟩ := ih
    obtain ⟨p, -, rfl⟩ := exists_of_read? hread
    exact ⟨.next [] p cut, rfl, fun _ _ _ _ => Nat.zero_le _, hcut⟩
  | case2 hread =>
    refine ⟨.plain [], rfl, fun front q back heq => ?_⟩
    simp [Occurrence.source] at heq
  | case3 c cs hread ih =>
    obtain ⟨cut, rfl, hcut⟩ := ih
    exact ⟨cut.cons c, cut.source_cons c, hcut.cons hread⟩

/-! ## Filling -/

theorem segments_nil : segments [] = [] := by
  have hread : read? [] = none := rfl
  rw [segments]
  split
  · next h => cases hread.symm.trans h
  · rfl

theorem segments_source (p : Occurrence) (rest : List Char) :
    segments (p.source ++ rest) = .variable p.name p.source :: segments rest := by
  have hread := read?_source p rest
  rw [segments]
  split
  · next h =>
    cases hread.symm.trans h
    simp
  · next h => cases hread.symm.trans h

theorem segments_cons {c : Char} {cs : List Char} (h : read? (c :: cs) = none) :
    segments (c :: cs) = .char c :: segments cs := by
  rw [segments]
  split
  · next h' => cases h.symm.trans h'
  · rfl

/-- Characters in which no placeholder starts stand for themselves. -/
theorem segments_append {lead rest : List Char}
    (h : ∀ front (q : Occurrence) back, lead ++ rest = front ++ q.source ++ back →
      lead.length ≤ front.length) :
    segments (lead ++ rest) = lead.map .char ++ segments rest := by
  induction lead with
  | nil => rfl
  | cons c lead ih =>
    have hread : read? (c :: (lead ++ rest)) = none := by
      rcases hsome : read? (c :: (lead ++ rest)) with _ | ⟨name, back⟩
      · rfl
      · obtain ⟨q, -, hq⟩ := exists_of_read? hsome
        cases h [] q back hq
    rw [List.cons_append, segments_cons hread, ih, List.map_cons, List.cons_append]
    intro front q back heq
    exact Nat.le_of_succ_le_succ (h (c :: front) q back (congrArg (c :: ·) heq))

/-- A text is split into the plain parts and the placeholders of its leftmost cut. -/
theorem segments_cut {cut : Cut} (h : cut.IsLeftmost) : segments cut.source = cut.segments := by
  induction cut with
  | plain lead =>
    have hlead : segments (lead ++ []) = lead.map .char ++ segments [] :=
      segments_append fun front q back heq => absurd (lead.append_nil ▸ heq) (h front q back)
    rwa [List.append_nil, segments_nil, List.append_nil] at hlead
  | next lead p rest ih =>
    rw [Cut.source, List.append_assoc, segments_append (by simpa using h.1), segments_source,
      ih h.2]
    rfl

theorem flatMap_fill_char (env : Env) (lead : List Char) :
    (lead.map Segment.char).flatMap (·.fill env) = lead := by
  induction lead with
  | nil => rfl
  | cons c lead ih =>
    rw [List.map_cons, List.flatMap_cons, ih]
    rfl

theorem flatMap_fill_segments (env : Env) (cut : Cut) :
    cut.segments.flatMap (·.fill env) = cut.filled env := by
  induction cut with
  | plain lead => exact flatMap_fill_char env lead
  | next lead p rest ih =>
    rw [Cut.segments, List.flatMap_append, flatMap_fill_char, List.flatMap_cons, ih, Cut.filled,
      List.append_assoc]
    rfl

/-- A text is filled by its leftmost cut. -/
theorem fill_source {cut : Cut} {s : String} (hs : cut.source = s.toList) (h : cut.IsLeftmost)
    (env : Env) : fill env s = String.ofList (cut.filled env) := by
  rw [fill, ← hs, segments_cut h, flatMap_fill_segments]

theorem filled_congr {env env' : Env} {cut : Cut}
    (h : ∀ name ∈ cut.names, env.get? name = env'.get? name) :
    cut.filled env = cut.filled env' := by
  induction cut with
  | plain lead => rfl
  | next lead p rest ih =>
    obtain ⟨hname, hrest⟩ := List.forall_mem_cons.mp h
    rw [Cut.filled, Cut.filled, ih hrest, Occurrence.filled, Occurrence.filled, hname]

theorem filled_of_undefined {env : Env} {cut : Cut} (h : ∀ name ∈ cut.names, env.get? name = none) :
    cut.filled env = cut.source := by
  induction cut with
  | plain lead => rfl
  | next lead p rest ih =>
    obtain ⟨hname, hrest⟩ := List.forall_mem_cons.mp h
    rw [Cut.filled, Cut.source, ih hrest, Occurrence.filled, hname]

/-! ## Values -/

/-- What a value becomes in an environment. A text is filled by its leftmost cut. A list keeps its
length and a mapping its keys, and the values in them become what they become on their own. Other
values stay as they are. -/
inductive Resolves (env : Env) : Value → Value → Prop
  | text {v : Value} {s : String} {cut : Cut} (hv : v.text? = some s)
      (hcut : cut.source = s.toList) (hleft : cut.IsLeftmost) :
      Resolves env v (.text (String.ofList (cut.filled env)))
  | list {items results : List Value} (hlength : items.length = results.length)
      (hitems : ∀ x ∈ items.zip results, Resolves env x.1 x.2) :
      Resolves env (.list items) (.list results)
  | dict {entries results : List (Value × Value)}
      (hkeys : entries.map Prod.fst = results.map Prod.fst)
      (hvalues : ∀ x ∈ entries.zip results, Resolves env x.1.2 x.2.2) :
      Resolves env (.dict entries) (.dict results)
  | other {v : Value} (htext : v.text? = none) (hlist : ∀ items, v ≠ .list items)
      (hdict : ∀ entries, v ≠ .dict entries) : Resolves env v v

/-- A name stands in a placeholder of a text in the value, in lists and mappings too. -/
inductive Mentions : Value → String → Prop
  | text {v : Value} {s : String} {cut : Cut} {name : String} (hv : v.text? = some s)
      (hcut : cut.source = s.toList) (hleft : cut.IsLeftmost) (hname : name ∈ cut.names) :
      Mentions v name
  | item {items : List Value} {x : Value} {name : String} (hx : x ∈ items) (h : Mentions x name) :
      Mentions (.list items) name
  | entry {entries : List (Value × Value)} {x : Value × Value} {name : String} (hx : x ∈ entries)
      (h : Mentions x.2 name) : Mentions (.dict entries) name

/-- The name of a placeholder. -/
def Segment.name? : Segment → Option String
  | char _ => none
  | .variable name _ => some (String.ofList name)

theorem filterMap_name?_segments (cut : Cut) :
    cut.segments.filterMap Segment.name? = cut.names := by
  induction cut with
  | plain lead => simp [Cut.segments, Segment.name?, Cut.names]
  | next lead p rest ih => simp [Cut.segments, Segment.name?, Cut.names, ih]

/-- The names of a text are those of the placeholders that it is split into. -/
theorem mentions_text_iff {v : Value} {s name : String} (hv : v.text? = some s) :
    Mentions v name ↔ name ∈ (segments s.toList).filterMap Segment.name? := by
  constructor
  · intro h
    cases h with
    | text hv' hcut hleft hname =>
      obtain rfl := Option.some.inj (hv.symm.trans hv')
      rwa [← hcut, segments_cut hleft, filterMap_name?_segments]
    | item => cases hv
    | entry => cases hv
  · intro h
    obtain ⟨cut, hcut, hleft⟩ := exists_cut s.toList
    rw [← hcut, segments_cut hleft, filterMap_name?_segments] at h
    exact .text hv hcut hleft h

theorem fillAll_eq_map (env : Env) (items : List Value) :
    fillAll env items = items.map (fillValue env) := by
  induction items with
  | nil => rfl
  | cons v vs ih => rw [fillAll, ih, List.map_cons]

theorem fillEntries_eq_map (env : Env) (entries : List (Value × Value)) :
    fillEntries env entries = entries.map fun e => (e.1, fillValue env e.2) := by
  induction entries with
  | nil => rfl
  | cons e es ih => rw [fillEntries, ih, List.map_cons]

theorem fillValue_of_text? {v : Value} {s : String} (h : v.text? = some s) (env : Env) :
    fillValue env v = .text (fill env s) := by
  cases v <;> cases h <;> rw [fillValue]

theorem resolves_text {v : Value} {s : String} (h : v.text? = some s) (env : Env) :
    Resolves env v (fillValue env v) := by
  obtain ⟨cut, hcut, hleft⟩ := exists_cut s.toList
  rw [fillValue_of_text? h, fill_source hcut hleft]
  exact .text h hcut hleft

mutual

/-- Filling a value gives what it becomes. -/
theorem resolves_fillValue (env : Env) (v : Value) : Resolves env v (fillValue env v) := by
  cases v with
  | text s => exact resolves_text rfl env
  | sigil s => exact resolves_text rfl env
  | list items =>
    rw [fillValue]
    exact .list (by simp [fillAll_eq_map]) (resolves_fillAll env items)
  | dict entries =>
    rw [fillValue]
    exact .dict (by simp [fillEntries_eq_map]) (resolves_fillEntries env entries)
  | _ => exact .other rfl (fun _ h => nomatch h) fun _ h => nomatch h

theorem resolves_fillAll (env : Env) (items : List Value) :
    ∀ x ∈ items.zip (fillAll env items), Resolves env x.1 x.2 := by
  cases items with
  | nil => simp [fillAll]
  | cons v vs =>
    rw [fillAll, List.zip_cons_cons, List.forall_mem_cons]
    exact ⟨resolves_fillValue env v, resolves_fillAll env vs⟩

theorem resolves_fillEntries (env : Env) (entries : List (Value × Value)) :
    ∀ x ∈ entries.zip (fillEntries env entries), Resolves env x.1.2 x.2.2 := by
  cases entries with
  | nil => simp [fillEntries]
  | cons e es =>
    rw [fillEntries, List.zip_cons_cons, List.forall_mem_cons]
    exact ⟨resolves_fillValue env e.2, resolves_fillEntries env es⟩

end

/-- Items that are related one by one to others are turned into them. -/
theorem eq_map_of_zip {α β γ : Type} {f : α → γ} {g : β → γ} {xs : List α} {ys : List β}
    (hlength : xs.length = ys.length) (h : ∀ x ∈ xs.zip ys, g x.2 = f x.1) :
    ys.map g = xs.map f := by
  induction xs generalizing ys with
  | nil =>
    rw [List.length_eq_zero_iff.mp hlength.symm]
    rfl
  | cons x xs ih =>
    cases ys with
    | nil => cases hlength
    | cons y ys =>
      rw [List.zip_cons_cons, List.forall_mem_cons] at h
      rw [List.map_cons, List.map_cons, h.1, ih (Nat.succ_inj.mp hlength) h.2]

/-- A value becomes what filling gives, and nothing else. -/
theorem resolves_iff {env : Env} {v r : Value} : Resolves env v r ↔ r = fillValue env v := by
  constructor
  · intro h
    induction h with
    | text hv hcut hleft => rw [fillValue_of_text? hv, fill_source hcut hleft]
    | @list items results hlength _ ih =>
      rw [fillValue, fillAll_eq_map, ← eq_map_of_zip (g := id) hlength ih, List.map_id]
    | @dict entries results hkeys _ ih =>
      have hlength : entries.length = results.length := by simpa using congrArg List.length hkeys
      have hvalues : results.map Prod.snd = entries.map fun e => fillValue env e.2 :=
        eq_map_of_zip hlength ih
      have hzip : results = (results.map Prod.fst).zip (results.map Prod.snd) := by
        rw [← List.unzip_fst, ← List.unzip_snd, List.zip_unzip]
      rw [fillValue, fillEntries_eq_map, hzip, ← hkeys, hvalues, List.zip_map']
    | other htext hlist hdict =>
      unfold fillValue
      split
      · cases htext
      · cases htext
      · exact absurd rfl (hlist _)
      · exact absurd rfl (hdict _)
      · rfl
  · rintro rfl
    exact resolves_fillValue env v

/-- Environments that agree on the names of a value make the same of it. -/
theorem Resolves.congr {env env' : Env} {v r : Value} (h : Resolves env v r)
    (hnames : ∀ name, Mentions v name → env.get? name = env'.get? name) : Resolves env' v r := by
  induction h with
  | text hv hcut hleft =>
    rw [filled_congr fun name hname => hnames name (.text hv hcut hleft hname)]
    exact .text hv hcut hleft
  | list hlength _ ih =>
    exact .list hlength fun x hx =>
      ih x hx fun name hname => hnames name (.item (List.of_mem_zip hx).1 hname)
  | dict hkeys _ ih =>
    exact .dict hkeys fun x hx =>
      ih x hx fun name hname => hnames name (.entry (List.of_mem_zip hx).1 hname)
  | other htext hlist hdict => exact .other htext hlist hdict

/-! ## Configurations -/

theorem run_record (level : LogLevel) (logger message : String) (w : World) :
    (Action.record level logger message).run.run w =
      (.ok (), { w with toContext := w.toContext.record level logger message }) := rfl

/-- Putting missing variables on record never fails. -/
theorem result_resolvePlaceholders (v : Value) (w : World) :
    ((resolvePlaceholders v).run.run w).1 = .ok (fillValue w.env v) := by
  have hrecords (names : List String) (w : World) : ∃ w',
      (forIn names PUnit.unit fun name _ => do
        Action.record .warning configLogger ("Environment variable not found: " ++ name)
        pure (ForInStep.yield PUnit.unit) : Action PUnit).run.run w = (.ok ⟨⟩, w') := by
    induction names generalizing w with
    | nil => exact ⟨w, rfl⟩
    | cons name names ih =>
      have hrecord :=
        run_record .warning configLogger ("Environment variable not found: " ++ name) w
      rw [List.forIn_cons, bind_assoc, run_bind_ok hrecord, pure_bind]
      exact ih _
  obtain ⟨w', hw'⟩ := hrecords (missingIn w.env v) w
  rw [resolvePlaceholders, run_bind_ok (run_get w), run_bind_ok hw']
  rfl

/-- A configuration becomes what its texts make of it, cut at their leftmost placeholders. Only the
variables that its placeholders name matter to that, and a text none of whose placeholders has a
variable stays as it is. -/
theorem resolvePlaceholders_leftmost :
    (∀ (v : Value) (w : World), ∃ r, ((resolvePlaceholders v).run.run w).1 = .ok r ∧
      ∀ r', Resolves w.env v r' ↔ r' = r) ∧
    (∀ (v : Value) (w w' : World),
      (∀ name, Mentions v name → w.env.get? name = w'.env.get? name) →
      ((resolvePlaceholders v).run.run w).1 = ((resolvePlaceholders v).run.run w').1) ∧
    ∀ (v : Value) (s : String) (w : World), v.text? = some s →
      (∀ name, Mentions v name → w.env.get? name = none) →
      ((resolvePlaceholders v).run.run w).1 = .ok (.text s) := by
  refine ⟨fun v w => ?_, fun v w w' hnames => ?_, fun v s w hv hnames => ?_⟩
  · exact ⟨fillValue w.env v, result_resolvePlaceholders v w, fun _ => resolves_iff⟩
  · have hsame := (resolves_fillValue w.env v).congr hnames
    rw [result_resolvePlaceholders, result_resolvePlaceholders, ← resolves_iff.mp hsame]
  · obtain ⟨cut, hcut, hleft⟩ := exists_cut s.toList
    have hplain := filled_of_undefined fun name hname => hnames name (.text hv hcut hleft hname)
    rw [result_resolvePlaceholders, fillValue_of_text? hv, fill_source hcut hleft, hplain, hcut,
      String.ofList_toList]

/-- The value of a variable completes a placeholder with the dollar sign in front of it, which is
not looked at again. -/
theorem resolvePlaceholders_leftmost_completed :
    let v : Value := .text "$$\x7b\x7b env.X \x7d\x7d"
    let u : Value := .text "$\x7b\x7b env.Y \x7d\x7d \x7d\x7d"
    let w : World := { env := [("X", "\x7b\x7b env.X \x7d\x7d")] }
    let w' : World := { env := [("Y", "y"), ("X", "\x7b\x7b env.X \x7d\x7d")] }
    Resolves w.env v (.text "$\x7b\x7b env.X \x7d\x7d") ∧
      ((resolvePlaceholders v).run.run w).1 = ((resolvePlaceholders v).run.run w').1 ∧
      ((resolvePlaceholders u).run.run w).1 = .ok u := by
  intro v u w w'
  obtain ⟨hresult, hagree, hundefined⟩ := resolvePlaceholders_leftmost
  refine ⟨?_, hagree v w w' fun name hname => ?_, hundefined u _ w rfl fun name hname => ?_⟩
  · obtain ⟨r, hr, hiff⟩ := hresult v w
    have hrun : ((resolvePlaceholders v).run.run w).1 =
        .ok (.text "$\x7b\x7b env.X \x7d\x7d") := by
      cbv
    exact (hiff _).mpr (Except.ok.inj (hrun.symm.trans hr))
  · have hnames : (segments "$$\x7b\x7b env.X \x7d\x7d".toList).filterMap Segment.name? =
        ["X"] := by
      cbv
    rw [mentions_text_iff rfl, hnames, List.mem_singleton] at hname
    rw [hname]
    rfl
  · have hnames : (segments "$\x7b\x7b env.Y \x7d\x7d \x7d\x7d".toList).filterMap
        Segment.name? = ["Y"] := by
      cbv
    rw [mentions_text_iff rfl, hnames, List.mem_singleton] at hname
    rw [hname]
    rfl

end Sgr.Placeholder
