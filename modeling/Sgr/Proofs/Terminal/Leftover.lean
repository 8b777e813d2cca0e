import Mathlib
import Sgr.Proofs.Terminal.Strip

/-!
# What stripping leaves

Every sequence of a text is removed, and nothing else: what is left are the pieces around the
sequences. But they are put together, and a sequence that was begun at the end of a piece may be
finished by the pieces behind it. So the text that is left can hold a sequence that the given one
did not hold, and stripping it once more would remove that as well.

## Main definitions

* `IsSequence`, `HasSequence` — a whole sequence, and characters that hold one.
* `Rejoins` — a sequence is begun in front of a whole one and finished behind it.

## Main statements

* `exists_pieces` — what is removed are sequences, and none is left in a piece.
* `hasSequence_strip_iff` — a sequence is left exactly where one is rejoined.
* `stripSgrChars_eq_self_iff` — stripping changes characters exactly if they hold a sequence.
-/

namespace Sgr

/-- A whole sequence: the introducer, digits and semicolons, and the final `m`. -/
def IsSequence (cs : List Char) : Prop :=
  ∃ params : List Char, params.all isParamChar ∧ cs = introducer ++ params ++ ['m']

/-- Somewhere in the characters is a whole sequence. -/
def HasSequence (cs : List Char) : Prop :=
  ∃ q, IsSequence q ∧ q <:+: cs

/-! ## Whole sequences -/

theorem afterParams?_eq_some {cs r : List Char} :
    afterParams? cs = some r ↔ ∃ params : List Char, params.all isParamChar ∧
      cs = params ++ 'm' :: r := by
  constructor
  · intro h
    refine ⟨cs.takeWhile isParamChar, List.all_takeWhile, ?_⟩
    unfold afterParams? at h
    split at h
    · next hdrop =>
      cases h
      rw [← hdrop, List.takeWhile_append_dropWhile]
    · cases h
  · rintro ⟨params, hparams, rfl⟩
    have hdrop : (params ++ 'm' :: r).dropWhile isParamChar = 'm' :: r := by
      rw [List.dropWhile_append_of_pos (List.all_eq_true.mp hparams)]
      exact List.dropWhile_cons_of_neg (by decide)
    rw [afterParams?, hdrop]
    rfl

theorem IsSequence.of_afterParams? {cs r : List Char} (h : afterParams? cs = some r) :
    ∃ q, IsSequence q ∧ '\x1b' :: '[' :: cs = q ++ r := by
  obtain ⟨params, hparams, rfl⟩ := afterParams?_eq_some.mp h
  exact ⟨_, ⟨params, hparams, rfl⟩, by simp [introducer]⟩

/-- A sequence starts with an escape character, whatever stands behind it. -/
theorem IsSequence.head? {q : List Char} (h : IsSequence q) (more : List Char) :
    ∀ c ∈ (q ++ more).head?, c = '\x1b' := by
  obtain ⟨params, -, rfl⟩ := h
  rintro c ⟨⟩
  rfl

/-- Nothing is left of a sequence, whatever stands behind it. -/
theorem IsSequence.stripsTo {q : List Char} (h : IsSequence q) : StripsTo q [] := by
  obtain ⟨params, hparams, rfl⟩ := h
  intro more
  have hafter : afterParams? (params ++ 'm' :: more) = some more :=
    afterParams?_eq_some.mpr ⟨params, hparams, rfl⟩
  simpa [introducer] using stripSgrChars_sequence hafter

theorem not_hasSequence_nil : ¬HasSequence [] := by
  rintro ⟨_, ⟨params, -, rfl⟩, h⟩
  simp [introducer] at h

/-- The first sequence of characters starts with them or stands behind the first character. -/
theorem hasSequence_cons {c : Char} {cs : List Char} :
    HasSequence (c :: cs) ↔
      (c = '\x1b' ∧ ∃ ds r, cs = '[' :: ds ∧ afterParams? ds = some r) ∨ HasSequence cs := by
  constructor
  · rintro ⟨q, hq, hinfix⟩
    rcases List.infix_cons_iff.mp hinfix with ⟨r, hr⟩ | hinfix
    · obtain ⟨params, hparams, rfl⟩ := hq
      simp only [introducer, List.cons_append, List.nil_append, List.append_assoc,
        List.cons.injEq] at hr
      obtain ⟨rfl, rfl⟩ := hr
      exact .inl ⟨rfl, _, r, rfl, afterParams?_eq_some.mpr ⟨params, hparams, rfl⟩⟩
    · exact .inr ⟨q, hq, hinfix⟩
  · rintro (⟨rfl, ds, r, rfl, hafter⟩ | ⟨q, hq, hinfix⟩)
    · obtain ⟨q, hq, heq⟩ := IsSequence.of_afterParams? hafter
      exact ⟨q, hq, heq ▸ (List.prefix_append q r).isInfix⟩
    · exact ⟨q, hq, List.infix_cons_iff.mpr (.inr hinfix)⟩

/-! ## What is removed -/

/-- The pieces behind the first one, each with the sequence in front of it, start with an escape
character. -/
theorem head?_sequences {rest : List (List Char × List Char)} (h : ∀ a ∈ rest, IsSequence a.1) :
    ∀ c ∈ (rest.flatMap fun a => a.1 ++ a.2).head?, c = '\x1b' := by
  rcases rest with _ | ⟨a, rest⟩
  · rintro c ⟨⟩
  · rw [List.flatMap_cons, List.append_assoc]
    exact (h a List.mem_cons_self).head? _

/-- Characters are pieces without sequences, with whole sequences between them, and the pieces are
what is left. -/
theorem exists_pieces (cs : List Char) :
    ∃ (first : List Char) (rest : List (List Char × List Char)),
      cs = first ++ rest.flatMap (fun a => a.1 ++ a.2) ∧
      stripSgrChars cs = first ++ rest.flatMap Prod.snd ∧
      ¬HasSequence first ∧ ∀ a ∈ rest, IsSequence a.1 ∧ ¬HasSequence a.2 := by
  fun_induction stripSgrChars cs with
  | case1 cs r h _ ih =>
    obtain ⟨first, rest, hr, hleft, hfirst, hrest⟩ := ih
    obtain ⟨q, hq, heq⟩ := IsSequence.of_afterParams? h
    refine ⟨[], (q, first) :: rest, ?_, ?_, not_hasSequence_nil,
      List.forall_mem_cons.mpr ⟨⟨hq, hfirst⟩, hrest⟩⟩
    · rw [heq, hr, List.flatMap_cons, List.append_assoc, List.nil_append]
    · rw [hleft, List.flatMap_cons, List.nil_append]
  | case2 cs h ih =>
    obtain ⟨first, rest, hcs, hleft, hfirst, hrest⟩ := ih
    refine ⟨'\x1b' :: '[' :: first, rest, by rw [hcs]; rfl, by rw [hleft]; rfl, fun hhas => ?_,
      hrest⟩
    rcases hasSequence_cons.mp hhas with ⟨-, ds, r, hds, hafter⟩ | hhas
    · -- a sequence that the first piece finishes would have been one of the given characters
      cases hds
      have hcut := afterParams?_append (head?_sequences fun a ha => (hrest a ha).1) first
      rw [← hcs, h, hafter] at hcut
      cases hcut
    · rcases hasSequence_cons.mp hhas with ⟨⟨⟩, -⟩ | hhas
      exact hfirst hhas
  | case3 c cs hc ih =>
    obtain ⟨first, rest, hcs, hleft, hfirst, hrest⟩ := ih
    refine ⟨c :: first, rest, by rw [hcs]; rfl, by rw [hleft]; rfl, fun hhas => ?_, hrest⟩
    rcases hasSequence_cons.mp hhas with ⟨rfl, ds, r, rfl, -⟩ | hhas
    · exact hc _ rfl hcs
    · exact hfirst hhas
  | case4 => exact ⟨[], [], rfl, rfl, not_hasSequence_nil, List.forall_mem_nil _⟩

/-- Pieces are not longer than they are with the sequences in front of them. -/
theorem length_pieces_le (rest : List (List Char × List Char)) :
    (rest.flatMap Prod.snd).length ≤ (rest.flatMap fun a => a.1 ++ a.2).length := by
  induction rest with
  | nil => exact Nat.le_refl _
  | cons a rest ih =>
    simp only [List.flatMap_cons, List.length_append]
    omega

/-- Stripping changes characters exactly if they hold a sequence. -/
theorem stripSgrChars_eq_self_iff (cs : List Char) :
    stripSgrChars cs = cs ↔ ¬HasSequence cs := by
  obtain ⟨first, rest, hcs, hleft, hfirst, hrest⟩ := exists_pieces cs
  rcases rest with _ | ⟨a, rest⟩
  · simp only [List.flatMap_nil, List.append_nil] at hcs hleft
    rw [hleft, hcs]
    exact iff_of_true rfl hfirst
  · obtain ⟨⟨hq, -⟩, hrest⟩ := List.forall_mem_cons.mp hrest
    have hhas : HasSequence cs := by
      refine ⟨a.1, hq, first, a.2 ++ rest.flatMap fun a => a.1 ++ a.2, ?_⟩
      rw [hcs, List.flatMap_cons]
      simp only [List.append_assoc]
    have hshorter : (stripSgrChars cs).length < cs.length := by
      obtain ⟨params, -, hparams⟩ := hq
      have hrest := length_pieces_le rest
      rw [hleft, hcs]
      simp only [List.flatMap_cons, List.length_append, hparams, introducer, List.length_cons]
      omega
    refine iff_of_false (fun heq => ?_) (not_not_intro hhas)
    rw [heq] at hshorter
    exact Nat.lt_irrefl _ hshorter

/-! ## What is rejoined -/

/-- A sequence is begun directly in front of a whole one, and what is left of the characters behind
that one finishes it. -/
def Rejoins (cs : List Char) : Prop :=
  ∃ front begun q behind finish rest, cs = front ++ (begun ++ (q ++ behind)) ∧ begun ≠ [] ∧
    IsSequence q ∧ stripSgrChars behind = finish ++ rest ∧ finish ≠ [] ∧
    IsSequence (begun ++ finish)

theorem Rejoins.append {cs : List Char} (h : Rejoins cs) (front : List Char) :
    Rejoins (front ++ cs) := by
  obtain ⟨front', begun, q, behind, finish, rest, rfl, h⟩ := h
  exact ⟨front ++ front', begun, q, behind, finish, rest, by rw [List.append_assoc], h⟩

/-- If what is left starts with parameters and the final `m`, and the given characters do not, then
the parameters are begun in front of a sequence and go on behind it. -/
theorem exists_of_strip_params {cs params t : List Char} (hparams : params.all isParamChar)
    (h : stripSgrChars cs = params ++ 'm' :: t) (hnone : afterParams? cs = none) :
    ∃ begun q behind params', cs = begun ++ (q ++ behind) ∧ params = begun ++ params' ∧
      IsSequence q ∧ stripSgrChars behind = params' ++ 'm' :: t := by
  fun_induction stripSgrChars cs generalizing params with
  | case1 cs r hafter _ =>
    obtain ⟨q, hq, heq⟩ := IsSequence.of_afterParams? hafter
    exact ⟨[], q, r, params, heq, rfl, hq, h⟩
  | case2 cs _ _ =>
    -- what is left starts with an escape character, which is no parameter
    rcases params with _ | ⟨c, params⟩
    · cases h
    · rw [List.cons_append, List.cons.injEq] at h
      rw [← h.1] at hparams
      simp [isParamChar] at hparams
  | case3 c cs _ ih =>
    rcases params with _ | ⟨d, params⟩
    · cases h
      cases hnone
    · rw [List.cons_append, List.cons.injEq] at h
      obtain ⟨rfl, h⟩ := h
      simp only [List.all_cons, Bool.and_eq_true] at hparams
      obtain ⟨hc, hparams⟩ := hparams
      have hnone' : afterParams? cs = none := by
        rw [afterParams?, List.dropWhile_cons_of_pos hc] at hnone
        exact hnone
      obtain ⟨begun, q, behind, params', rfl, rfl, hq, hbehind⟩ := ih hparams h hnone'
      exact ⟨c :: begun, q, behind, params', rfl, rfl, hq, hbehind⟩
  | case4 =>
    cases params <;> cases h

/-- What is left starts like the given characters, unless these start with a sequence. -/
theorem head_of_strip {cs ds : List Char} {d : Char} (h : stripSgrChars cs = d :: ds) :
    (∃ r, cs = d :: r) ∨
      ∃ q behind, cs = q ++ behind ∧ IsSequence q ∧ stripSgrChars behind = d :: ds := by
  fun_cases stripSgrChars cs with
  | case1 cs r hafter _ =>
    obtain ⟨q, hq, heq⟩ := IsSequence.of_afterParams? hafter
    rw [stripSgrChars_sequence hafter] at h
    exact .inr ⟨q, r, heq, hq, h⟩
  | case2 cs hnone =>
    rw [stripSgrChars_broken hnone] at h
    cases h
    exact .inl ⟨_, rfl⟩
  | case3 c cs hc =>
    rw [stripSgrChars] at h
    · cases h
      exact .inl ⟨_, rfl⟩
    · exact hc
  | case4 =>
    rw [stripSgrChars_nil] at h
    cases h

/-- A sequence is left only where one is rejoined. -/
theorem rejoins_of_hasSequence {cs : List Char} (h : HasSequence (stripSgrChars cs)) :
    Rejoins cs := by
  fun_induction stripSgrChars cs with
  | case1 cs r hafter _ ih =>
    obtain ⟨q, -, heq⟩ := IsSequence.of_afterParams? hafter
    rw [heq]
    exact (ih h).append q
  | case2 cs hnone ih =>
    rcases hasSequence_cons.mp h with ⟨-, ds, r, hds, hafter⟩ | h
    · cases hds
      obtain ⟨params, hparams, hleft⟩ := afterParams?_eq_some.mp hafter
      obtain ⟨begun, q, behind, params', rfl, rfl, hq, hbehind⟩ :=
        exists_of_strip_params hparams hleft hnone
      refine ⟨[], '\x1b' :: '[' :: begun, q, behind, params' ++ ['m'], r, rfl, by simp, hq, ?_,
        by simp, begun ++ params', hparams, ?_⟩
      · rw [hbehind, List.append_assoc]
        rfl
      · simp [introducer]
    · rcases hasSequence_cons.mp h with ⟨⟨⟩, -⟩ | h
      exact (ih h).append ['\x1b', '[']
  | case3 c cs hc ih =>
    rcases hasSequence_cons.mp h with ⟨rfl, ds, r, hds, hafter⟩ | h
    · -- the introducer itself was begun in front of a sequence
      obtain ⟨params, hparams, rfl⟩ := afterParams?_eq_some.mp hafter
      rcases head_of_strip hds with ⟨r', rfl⟩ | ⟨q, behind, rfl, hq, hbehind⟩
      · exact absurd rfl (hc r' rfl)
      · refine ⟨[], ['\x1b'], q, behind, '[' :: (params ++ ['m']), r, rfl, by simp, hq, ?_, by simp,
          params, hparams, rfl⟩
        rw [hbehind, List.cons_append, List.append_assoc]
        rfl
    · exact (ih h).append [c]
  | case4 => exact absurd h not_hasSequence_nil

/-- The begin of a sequence starts with an escape character and holds no whole one, since it lacks
the final `m`. -/
theorem IsSequence.begun {begun finish : List Char} (h : IsSequence (begun ++ finish))
    (hbegun : begun ≠ []) (hfinish : finish ≠ []) :
    (∀ c ∈ begun.head?, c = '\x1b') ∧ ¬HasSequence begun := by
  constructor
  · have hhead := h.head? []
    rw [List.append_nil, List.head?_append_of_ne_nil _ hbegun] at hhead
    exact hhead
  · obtain ⟨params, hparams, heq⟩ := h
    have hfront : begun ++ finish.dropLast = introducer ++ params := by
      rw [← List.dropLast_append_of_ne_nil hfinish, heq, List.dropLast_concat]
    have hm : 'm' ∉ introducer ++ params := by
      rw [List.mem_append, not_or]
      exact ⟨by decide, fun hmem => absurd (List.all_eq_true.mp hparams 'm' hmem) (by decide)⟩
    rintro ⟨_, ⟨more, -, rfl⟩, hwithin⟩
    refine hm (hfront ▸ List.mem_append_left _ (hwithin.subset ?_))
    exact List.mem_append_right _ List.mem_cons_self

/-- Where a sequence is rejoined, one is left. -/
theorem hasSequence_of_rejoins {cs : List Char} (h : Rejoins cs) :
    HasSequence (stripSgrChars cs) := by
  obtain ⟨front, begun, q, behind, finish, rest, rfl, hbegun, hq, hbehind, hfinish, hwhole⟩ := h
  obtain ⟨hhead, hnone⟩ := hwhole.begun hbegun hfinish
  have hhead' : ∀ c ∈ (begun ++ (q ++ behind)).head?, c = '\x1b' := by
    rw [List.head?_append_of_ne_nil _ hbegun]
    exact hhead
  refine ⟨begun ++ finish, hwhole, stripSgrChars front, rest, ?_⟩
  rw [stripSgrChars_append hhead', stripSgrChars_append (hq.head? behind),
    (stripSgrChars_eq_self_iff begun).mpr hnone, hq.stripsTo, hbehind]
  simp only [List.append_assoc, List.nil_append]

/-- Stripping leaves a sequence exactly where one is rejoined. -/
theorem hasSequence_strip_iff (cs : List Char) : HasSequence (stripSgrChars cs) ↔ Rejoins cs :=
  ⟨rejoins_of_hasSequence, hasSequence_of_rejoins⟩

/-- Stripping removes whole sequences and nothing else, and leaves the pieces around them, none of
which holds one. Put together they hold one exactly where a sequence was begun in front of a removed
one and is finished behind it, and exactly then stripping once more would go on removing. -/
theorem strip_leaves_rejoined (s : String) :
    (∃ (first : List Char) (rest : List (List Char × List Char)),
      s.toList = first ++ rest.flatMap (fun a => a.1 ++ a.2) ∧
      stripSgr s = String.ofList (first ++ rest.flatMap Prod.snd) ∧
      ¬HasSequence first ∧ ∀ a ∈ rest, IsSequence a.1 ∧ ¬HasSequence a.2) ∧
    (HasSequence (stripSgr s).toList ↔ Rejoins s.toList) ∧
    (stripSgr (stripSgr s) = stripSgr s ↔ ¬HasSequence (stripSgr s).toList) := by
  refine ⟨?_, ?_, ?_⟩
  · obtain ⟨first, rest, hs, hleft, hpieces⟩ := exists_pieces s.toList
    exact ⟨first, rest, hs, congrArg String.ofList hleft, hpieces⟩
  · rw [stripSgr, String.toList_ofList]
    exact hasSequence_strip_iff s.toList
  · rw [← stripSgrChars_eq_self_iff]
    generalize stripSgr s = left
    rw [stripSgr]
    constructor
    · intro h
      rw [← String.toList_ofList (l := stripSgrChars left.toList), h]
    · intro h
      rw [h, String.ofList_toList]

/-- A sequence that is begun in front of another one is whole when that one is removed. -/
theorem strip_finishes_sequence :
    stripSgr "\x1b[1\x1b[2mm" = "\x1b[1m" ∧ HasSequence "\x1b[1m".toList ∧
      stripSgr (stripSgr "\x1b[1\x1b[2mm") ≠ stripSgr "\x1b[1\x1b[2mm" := by
  have hstrip : stripSgr "\x1b[1\x1b[2mm" = "\x1b[1m" := by cbv
  have hwhole : HasSequence "\x1b[1m".toList :=
    ⟨_, ⟨['1'], by decide, rfl⟩, List.infix_rfl⟩
  refine ⟨hstrip, hwhole, fun hsame => ?_⟩
  rw [hstrip] at hsame
  have hempty : stripSgr "\x1b[1m" = "" := by cbv
  rw [hempty] at hsame
  exact absurd hsame (by decide)

end Sgr
