import Sgr.Proofs.Template.Surround

/-!
# Templates that spell a text

A text can be put into a template in two ways. Its braces are doubled, and the template stands for
the text without any argument; or the text is cut into values, and the template is a pair of braces
for each of them. The first is a round trip through the scanner of templates, and the second goes
through the numbering of fields that name no argument.

## Main definitions

* `doubleBraces` — a text with its braces doubled.
* `nextFields` — a template that shows its arguments one by one.
* `Numbering.nextPosition?` — the argument that the next field without a name shows.

## Main statements

* `Script.ofChars_doubleBraces` — doubled braces are read as the text that they were made from.
* `renderTemplate_doubleBraces`, `renderTemplate_nextFields` — both templates give the text.
* `renderTemplate_plain` — plain text is a template for itself.
* `renderTemplate_within` — with plain text around it a template gives its text within that.
-/

namespace Sgr

/-! ## Doubled braces -/

/-- A text with its braces doubled. -/
def doubleBraces (cs : List Char) : List Char :=
  cs.flatMap fun c => if Script.isPlain c then [c] else [c, c]

/-- A brace that is doubled stands for itself. -/
theorem Script.ofChars_double {c : Char} (h : isPlain c = false) (r : List Char) :
    ofChars (c :: c :: r) = cons (.char c) (ofChars r) := by
  have hbrace : ¬c = '\x7b' → c = '\x7d' := by
    simpa [isPlain] using h
  by_cases hopen : c = '\x7b'
  · subst hopen
    rw [ofChars]
  · obtain rfl := hbrace hopen
    rw [ofChars]

/-- Every text comes back from its doubled braces, with no fault, also in front of a template. -/
theorem Script.ofChars_doubleBraces (cs r : List Char) :
    ofChars (doubleBraces cs ++ r) = ⟨cs.map .char ++ (ofChars r).pieces, (ofChars r).fault⟩ := by
  induction cs with
  | nil => rfl
  | cons c cs ih =>
    have hcons : doubleBraces (c :: cs) =
        (if isPlain c then [c] else [c, c]) ++ doubleBraces cs := rfl
    rw [hcons, List.append_assoc]
    by_cases hc : isPlain c
    · rw [if_pos hc, List.singleton_append, ofChars_cons_of_plain hc, ih]
      rfl
    · rw [if_neg hc, List.cons_append, List.cons_append, List.nil_append,
        ofChars_double (by simpa using hc), ih]
      rfl

/-! ## Fields that are numbered by themselves -/

/-- The field that shows the next argument as it is. -/
def Field.next : Field :=
  ⟨[], none, [], false⟩

/-- A template that shows as many arguments, one by one. -/
def nextFields (count : Nat) : List Char :=
  (List.replicate count ['\x7b', '\x7d']).flatten

theorem Script.ofChars_nextFields (count : Nat) :
    ofChars (nextFields count) = ⟨List.replicate count (.field .next), none⟩ := by
  induction count with
  | zero => rw [nextFields, List.replicate_zero, List.flatten_nil, ofChars, List.replicate_zero]
  | succ count ih =>
    have hread : Field.read ('\x7d' :: nextFields count) = .ok (.next, nextFields count) := rfl
    have hcons : nextFields (count + 1) = '\x7b' :: '\x7d' :: nextFields count := rfl
    rw [hcons, ofChars_field hread, ih]
    rfl

/-- The position of the argument that the next field without a name shows. -/
def Numbering.nextPosition? : Numbering → Option Nat
  | .unset => some 0
  | .automatic n => some n
  | .manual => none

section Fields

variable {w : Writer} {args : Arguments} {expand : Expand} {n : Nat} {numbering : Numbering}
  {v : Value}

/-- A field without a name finds the next argument. -/
theorem find_next (hn : numbering.nextPosition? = some n) (hv : args.positional[n]? = some v) :
    args.find [] numbering = pure (v, .automatic (n + 1)) := by
  have hpath : Path.ofChars [] = .ok ⟨.next, [], none⟩ := by
    simp [Path.ofChars, Path.readIndex, Path.readSteps]
  have hstart : args.start .next numbering = .ok (v, .automatic (n + 1)) := by
    have hat : args.atPosition n = .ok v := by rw [Arguments.atPosition, hv]
    cases numbering with
    | manual => cases hn
    | unset =>
      obtain rfl : 0 = n := Option.some.inj hn
      rw [Arguments.start, hat]
      rfl
    | automatic k =>
      obtain rfl : k = n := Option.some.inj hn
      rw [Arguments.start, hat]
      rfl
  rw [Arguments.find, hpath, InContext.ofExcept_ok, pure_bind, hstart, InContext.ofExcept_ok,
    pure_bind]
  rfl

/-- It shows that argument under an empty specification. -/
theorem fillField_next (hn : numbering.nextPosition? = some n)
    (hv : args.positional[n]? = some v) {s : String} (hs : w.present v [] = pure s) :
    fillField w args expand .next numbering = pure (s.toList, .automatic (n + 1)) := by
  have hfind : args.find Field.next.name numbering = pure (v, .automatic (n + 1)) :=
    find_next hn hv
  rw [fillField, hfind]
  simp only [Field.next, InContext.mapError_pure, pure_bind, Writer.convert, Bool.false_eq_true,
    if_false, hs]

/-- As many fields as there are arguments left show all of them, one behind the other. -/
theorem fillPieces_next {shown : Value → String} {vs : List Value}
    (hs : ∀ v ∈ vs, w.present v [] = pure (shown v)) (hn : numbering.nextPosition? = some n)
    (hvs : args.positional.drop n = vs) :
    ∃ numbering', fillPieces w args expand (List.replicate vs.length (.field .next)) numbering =
      pure (vs.flatMap fun v => (shown v).toList, numbering') := by
  induction vs generalizing n numbering with
  | nil => exact ⟨numbering, rfl⟩
  | cons v vs ih =>
    have hv : args.positional[n]? = some v := by
      rw [← List.head?_drop, hvs, List.head?_cons]
    have hrest : args.positional.drop (n + 1) = vs := by
      rw [← List.tail_drop, hvs, List.tail_cons]
    obtain ⟨hfirst, hothers⟩ := List.forall_mem_cons.mp hs
    have hnext : (Numbering.automatic (n + 1)).nextPosition? = some (n + 1) := rfl
    obtain ⟨numbering', ih⟩ := ih hothers hnext hrest
    refine ⟨numbering', ?_⟩
    rw [List.length_cons, List.replicate_succ, fillPieces, fillField_next hn hv hfirst]
    simp only [pure_bind, ih, List.flatMap_cons]

end Fields

/-! ## Texts of templates -/

/-- Texts and numbers show as they are under an empty specification. -/
theorem present_of_isLiteral (render : String → Arguments → Filling String) {v : Value}
    (h : v.isLiteral) : (writerFor render).present v [] = pure v.str := by
  cases v with
  | text | sigil | bool | int | level | float => rfl
  | _ => cases h

/-- What texts and numbers are together. -/
def joinedText (vs : List Value) : List Char :=
  vs.flatMap fun v => v.str.toList

/-- A template that shows texts and numbers one by one gives them joined. -/
theorem renderTemplate_nextFields {vs : List Value} (h : ∀ v ∈ vs, v.isLiteral) :
    renderTemplate (String.ofList (nextFields vs.length)) ⟨vs, []⟩ =
      pure (String.ofList (joinedText vs)) := by
  let w := writerFor (renderAt (Arguments.depth ⟨vs, []⟩))
  have hs : ∀ v ∈ vs, w.present v [] = pure v.str := fun v hv => present_of_isLiteral _ (h v hv)
  have hnext : Numbering.unset.nextPosition? = some 0 := rfl
  have hvs : (⟨vs, []⟩ : Arguments).positional.drop 0 = vs := rfl
  obtain ⟨numbering, hpieces⟩ : ∃ numbering,
      fillPieces w ⟨vs, []⟩ (fillSpec w ⟨vs, []⟩) (List.replicate vs.length (.field .next)) .unset =
        pure (vs.flatMap fun v => v.str.toList, numbering) := fillPieces_next hs hnext hvs
  rw [renderTemplate, renderAt, String.toList_ofList, fill, Script.ofChars_nextFields, fillScript,
    hpieces]
  rfl

/-- A text with doubled braces is a template for the text. -/
theorem renderTemplate_doubleBraces (cs : List Char) (args : Arguments) :
    renderTemplate (String.ofList (doubleBraces cs)) args = pure (String.ofList cs) := by
  have hscript : Script.ofChars (doubleBraces cs) = ⟨cs.map .char, none⟩ := by
    have h := Script.ofChars_doubleBraces cs []
    rw [List.append_nil, Script.ofChars, List.append_nil] at h
    exact h
  rw [renderTemplate, renderAt, String.toList_ofList, fill, hscript, fillScript, fillPieces_chars]
  rfl

theorem doubleBraces_of_plain {cs : List Char} (h : cs.all Script.isPlain) :
    doubleBraces cs = cs := by
  induction cs with
  | nil => rfl
  | cons c cs ih =>
    obtain ⟨hc, hcs⟩ := Bool.and_eq_true_iff.mp h
    have hcons : doubleBraces (c :: cs) =
        (if Script.isPlain c then [c] else [c, c]) ++ doubleBraces cs := rfl
    rw [hcons, if_pos hc, ih hcs, List.singleton_append]

/-- Plain text is a template for itself. -/
theorem renderTemplate_plain {cs : List Char} (h : cs.all Script.isPlain) (args : Arguments) :
    renderTemplate (String.ofList cs) args = pure (String.ofList cs) := by
  have hdoubled := renderTemplate_doubleBraces cs args
  rwa [doubleBraces_of_plain h] at hdoubled

/-- Plain text around a template that has a text stands around the text. -/
theorem renderTemplate_within {o c : List Char} (ho : o.all Script.isPlain)
    (hc : c.all Script.isPlain) {t : String} {args : Arguments} {cs : List Char}
    (h : renderTemplate t args = pure (String.ofList cs)) :
    renderTemplate (String.ofList o ++ t ++ String.ofList c) args =
      pure (String.ofList (o ++ cs ++ c)) := by
  apply InContext.eq_pure_of_mapError (f := TemplateError.signature)
  rw [renderTemplate_surround ho hc, h, String.ofList_append, String.ofList_append]
  rfl

/-- Braces of any number come back, and what looks like a field is none. -/
example : renderTemplate (String.ofList (doubleBraces "\x7b0\x7d\x7d".toList)) {} =
    pure "\x7b0\x7d\x7d" :=
  renderTemplate_doubleBraces _ _

end Sgr
