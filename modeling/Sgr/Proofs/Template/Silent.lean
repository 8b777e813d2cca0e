import Sgr.Proofs.Lazy
import Sgr.Proofs.Template.Finding
import Sgr.Proofs.Template.Surround

/-!
# Templates that ask nothing

A template asks for the settings where a field steps into a brush by a key that is a text of sigils.
So there are two reasons why filling one asks nothing: no brush and no family is in its arguments, so
there is none to step into, since whatever a field finds is a part of an argument; or neither it nor a
deferred text in its arguments has such a key. Such a template has its text or its failure, whatever
the context is, and leaves the context as it is.

One parameter, `keys`, tells the reasons apart: whether templates may have keys of sigils, so that
arguments may have no brushes.

## Main definitions

* `templateHasSigils` — whether a field of a template has a key of sigils.
* `Value.isSilent` — whether templates with or without such keys ask nothing of a value.
* `Computes` — work that is a result and nothing else.

## Main statements

* `walk_computes` — a field finds a silent value in a silent one.
* `renderTemplate_computes`, `render_computes` — the text of a template with silent arguments, and
  that of a silent value.
-/

namespace Sgr

variable {ε δ α β : Type} {keys : Bool}

/-! ## Keys of sigils -/

/-- Whether a key is a text of nothing but sigils. -/
def isSigils (key : Value) : Bool :=
  match key.text? with
  | some text => (Sigil.tokenize text).toOption.isSome
  | none => false

/-- Whether a step is such a key in brackets. -/
def Step.isSigils : Step → Bool
  | key s => Sgr.isSigils (.text s)
  | _ => false

/-- Whether the name of a field has such a step. -/
def nameHasSigils (name : List Char) : Bool :=
  match Path.ofChars name with
  | .ok path => path.steps.any Step.isSigils
  | .error _ => false

/-- Whether a field of a script has one, or else its specification. -/
def Script.hasSigils (nested : List Char → Bool) (s : Script) : Bool :=
  s.pieces.any fun p => match p with
    | .char _ => false
    | .field f => nameHasSigils f.name || f.isNested && nested f.spec

/-- Whether a specification has one. Its fields have no specifications with fields. -/
def specHasSigils (spec : List Char) : Bool :=
  (Script.ofChars spec).hasSigils fun _ => false

/-- Whether a template has one. -/
def templateHasSigils (template : List Char) : Bool :=
  (Script.ofChars template).hasSigils specHasSigils

/-- Whether a value is a template that has one. -/
def Value.hasSigils (v : Value) : Bool :=
  v.text?.any fun t => templateHasSigils t.toList

/-- Fields that show the next values have none. -/
theorem templateHasSigils_fields (vs : List α) :
    templateHasSigils (vs.flatMap fun _ => ['\x7b', '\x7d']) = false := by
  induction vs with
  | nil => simp [templateHasSigils, Script.ofChars, Script.hasSigils]
  | cons v vs ih =>
    have hread : Field.read ('\x7d' :: vs.flatMap fun _ => ['\x7b', '\x7d']) =
      .ok (⟨[], none, [], false⟩, vs.flatMap fun _ => ['\x7b', '\x7d']) := rfl
    have hname : nameHasSigils [] = false := by decide +kernel
    rw [templateHasSigils, Script.hasSigils] at ih
    rw [templateHasSigils, List.flatMap_cons, List.cons_append, List.cons_append, List.nil_append,
      Script.ofChars_field hread, Script.hasSigils, Script.cons, List.any_cons, ih, Bool.or_false]
    simp only [hname, Bool.false_and, Bool.or_false]

/-! ## Silent values -/

namespace Value

mutual

/-- Whether a template asks nothing of a value. If templates may have keys of sigils, no brush and no
family may be in it; otherwise no deferred text in it may have such a key. -/
def isSilent (keys : Bool) : Value → Bool
  | brush _ | makeshift .. | family _ => !keys
  | list items | tuple items | set items | openSet items => allSilent keys items
  | dict entries => allSilentEntries keys entries
  | deferred template args named =>
    (!template.hasSigils || keys) && isSilent keys template && isSilent keys args &&
      isSilent keys named
  | shade _ bright _ => isSilent keys bright
  | _ => true

/-- Whether it asks nothing of items. -/
def allSilent (keys : Bool) : List Value → Bool
  | [] => true
  | v :: vs => isSilent keys v && allSilent keys vs

/-- Whether it asks nothing of the entries of a mapping. -/
def allSilentEntries (keys : Bool) : List (Value × Value) → Bool
  | [] => true
  | (k, v) :: es => isSilent keys k && isSilent keys v && allSilentEntries keys es

end

theorem allSilent_iff {items : List Value} : allSilent keys items ↔ ∀ v ∈ items, v.isSilent keys := by
  induction items with
  | nil => simp [allSilent]
  | cons v vs ih => simp [allSilent, ih]

theorem allSilentEntries_iff {entries : List (Value × Value)} :
    allSilentEntries keys entries ↔ ∀ e ∈ entries, e.1.isSilent keys ∧ e.2.isSilent keys := by
  induction entries with
  | nil => simp [allSilentEntries]
  | cons e es ih => simp [allSilentEntries, ih, and_assoc]

theorem isSilent_characters (s : String) : allSilent keys (characters s) := by
  rw [allSilent_iff]
  intro v hv
  obtain ⟨c, -, rfl⟩ := List.mem_map.mp hv
  rfl

/-- What a step finds in a silent value is silent. -/
theorem isSilent_of_foundIn {v u : Value} (h : v.isSilent keys) (hu : u.FoundIn v) :
    u.isSilent keys := by
  cases hu with
  | leaf hleaf => cases u <;> first | rfl | exact hleaf.elim
  | list hmem => exact allSilent_iff.mp h u hmem
  | tuple hmem => exact allSilent_iff.mp h u hmem
  | dict hmem => exact (allSilentEntries_iff.mp h _ hmem).2
  | template | args | named =>
    simp only [isSilent, Bool.and_eq_true] at h
    simp only [h]

end Value

/-! ## Work that is a result -/

/-- Work that is a result and nothing else, with a property that results have. -/
def Computes (P : α → Prop) (x : InContext ε α) : Prop :=
  ∃ r : Except ε α, x = InContext.ofExcept id r ∧ ∀ a, r = .ok a → P a

section Computes

variable {P : α → Prop} {Q : β → Prop}

theorem Computes.pure {a : α} (h : P a) : Computes P (pure a : InContext ε α) :=
  ⟨.ok a, rfl, fun _ ha => by cases ha; exact h⟩

theorem Computes.throw (e : ε) : Computes P (throw e : InContext ε α) :=
  ⟨.error e, rfl, fun _ ha => by cases ha⟩

theorem Computes.ofExcept {f : δ → ε} {r : Except δ α} (h : ∀ a, r = .ok a → P a) :
    Computes P (InContext.ofExcept f r) := by
  cases r with
  | error e => exact .throw (f e)
  | ok a => exact .pure (h a rfl)

theorem Computes.bind {x : InContext ε α} {f : α → InContext ε β} (hx : Computes P x)
    (hf : ∀ a, P a → Computes Q (f a)) : Computes Q (x >>= f) := by
  obtain ⟨r, rfl, hr⟩ := hx
  cases r with
  | error e =>
    have hthrow : (MonadExcept.throw e : InContext ε α) >>= f = MonadExcept.throw e :=
      run_ext fun _ => rfl
    rw [InContext.ofExcept_error, id, hthrow]
    exact .throw e
  | ok a => exact hf a (hr a rfl)

/-- Another form of the failures. -/
theorem Computes.mapError {x : InContext δ α} (h : Computes P x) (f : δ → ε) :
    Computes P (x.mapError f) := by
  obtain ⟨r, rfl, hr⟩ := h
  cases r with
  | error e => exact .throw (f e)
  | ok a => exact .pure (hr a rfl)

/-- What is a result asks nothing. -/
theorem Computes.quiet {x : InContext ε α} (h : Computes P x) : Quiet x := by
  obtain ⟨r, rfl, -⟩ := h
  exact .ofExcept id r

end Computes

/-! ## Finding values -/

/-- A key that is no text of sigils is refused by a brush before it asks. -/
theorem prefixOf_computes {key : Value} (h : isSigils key = false) :
    Computes (fun _ => False) (prefixOf key) := by
  unfold isSigils at h
  unfold prefixOf
  split
  · exact .throw _
  · next text htext =>
    have refused : Computes (fun _ => False) (readPrefix key.repr text none) := by
      unfold readPrefix
      rw [htext] at h
      cases htokens : Sigil.tokenize text with
      | error e => exact .throw _
      | ok sigils =>
        simp only [htokens] at h
        cases h
    exact refused.mapError _

/-- A brush is silent if templates may have no keys of sigils. -/
theorem bracket_computes {v key : Value} (h : v.isSilent keys) (hkey : isSigils key → keys) :
    Computes (fun u => u.isSilent keys) (v.bracket key) := by
  cases keys with
  | true =>
    have htool : v.tool? = none := by cases v <;> first | rfl | cases h
    have hparts : v.brushParts? = none := by cases v <;> first | rfl | cases h
    rw [Value.bracket, htool, hparts]
    exact .ofExcept fun u hu => Value.isSilent_of_foundIn h (Value.foundIn_of_item hu)
  | false =>
    have hnone := Bool.of_not_eq_true fun hsigils => Bool.false_ne_true (hkey hsigils)
    have refused := prefixOf_computes hnone
    have index (t : Tool) : Computes (fun _ => True) (t.index key) := by
      cases t with
      | brush b => exact refused.bind fun _ h => h.elim
      | family f => exact .ofExcept fun _ _ => trivial
    have made (p : BrushParts) : Computes (fun u => u.isSilent false) (p.index key) :=
      refused.bind fun _ h => h.elim
    unfold Value.bracket
    split
    · exact ((index _).mapError _).bind fun _ _ => .pure rfl
    · exact (made _).mapError _
    · exact .ofExcept fun u hu => Value.isSilent_of_foundIn h (Value.foundIn_of_item hu)

theorem step_computes {v : Value} (h : v.isSilent keys) {s : Step} (hs : s.isSigils → keys) :
    Computes (fun u => u.isSilent keys) (v.step s) := by
  cases s with
  | member name =>
    exact .ofExcept fun u hu => Value.isSilent_of_foundIn h (Value.foundIn_of_getMember hu)
  | index n => exact bracket_computes h fun hn => by cases hn
  | key s => exact bracket_computes h hs

/-- The steps of a field stay within silent values. -/
theorem walk_computes {v : Value} (h : v.isSilent keys) {steps : List Step}
    (hsteps : steps.any Step.isSigils → keys) :
    Computes (fun u => u.isSilent keys) (v.walk steps) := by
  induction steps generalizing v with
  | nil => exact .pure h
  | cons s ss ih =>
    rw [List.any_cons, Bool.or_eq_true] at hsteps
    refine (step_computes h fun hs => hsteps (.inl hs)).bind fun u hu => ?_
    exact ih hu fun hss => hsteps (.inr hss)

/-- Arguments of which a template asks nothing. -/
structure Arguments.IsSilent (keys : Bool) (args : Arguments) : Prop where
  positional : ∀ v ∈ args.positional, v.isSilent keys
  named : ∀ a ∈ args.named, a.2.isSilent keys

variable {args : Arguments}

theorem Arguments.IsSilent.values (h : args.IsSilent keys) {v : Value} (hv : v ∈ args.values) :
    v.isSilent keys := by
  rcases List.mem_append.mp hv with hv | hv
  · exact h.positional v hv
  · obtain ⟨a, ha, rfl⟩ := List.mem_map.mp hv
    exact h.named a ha

/-- What a field finds in silent arguments is silent. -/
theorem find_computes (h : args.IsSilent keys) {name : List Char} (hname : nameHasSigils name → keys)
    (n : Numbering) : Computes (fun r => r.1.isSilent keys) (args.find name n) := by
  have hpath : Computes (fun path : Path => path.steps.any Step.isSigils → keys)
      (InContext.ofExcept id (Path.ofChars name)) := by
    refine .ofExcept fun path hp => ?_
    rw [nameHasSigils, hp] at hname
    exact hname
  refine hpath.bind fun path hsteps => ?_
  refine Computes.bind (.ofExcept fun r hr => h.values (Arguments.mem_values_of_start hr)) fun (v, n) hv => ?_
  refine (walk_computes hv hsteps).bind fun u hu => ?_
  split
  · exact .throw _
  · exact .pure hu

/-! ## Filling -/

/-- A way of writing silent values that is a result and nothing else. -/
structure Writer.Computes (keys : Bool) (w : Writer) : Prop where
  present : ∀ v spec, v.isSilent keys → Sgr.Computes (fun _ => True) (w.present v spec)
  own : ∀ v, v.isSilent keys → Sgr.Computes (fun _ => True) (w.own v)

variable {w : Writer}

theorem convert_computes (hw : w.Computes keys) (conversion : Option Char) {v : Value}
    (h : v.isSilent keys) : Computes (fun u => u.isSilent keys) (w.convert conversion v) := by
  have shown : Computes (fun _ => True) (Writer.convert.shown v) := .ofExcept fun _ _ => trivial
  unfold Writer.convert
  split
  · exact .pure h
  · split
    · exact shown.bind fun s _ => .pure rfl
    · split
      · exact (hw.own v h).bind fun s _ => .pure rfl
      · split
        · exact shown.bind fun s _ => .pure rfl
        · exact .throw _

section Filling

variable {expand : Expand} {nested : List Char → Bool} (hw : w.Computes keys)
  (hargs : args.IsSilent keys)
  (hexpand : ∀ spec n, (nested spec → keys) → Computes (fun _ => True) (expand spec n))

include hw hargs hexpand

/-- The text of a field, given what its specification becomes. -/
theorem fillField_computes {f : Field}
    (hf : (nameHasSigils f.name || f.isNested && nested f.spec) → keys) (n : Numbering) :
    Computes (fun _ => True) (fillField w args expand f n) := by
  rw [Bool.or_eq_true] at hf
  refine Computes.bind ((find_computes hargs (fun hn => hf (.inl hn)) n).mapError
    TemplateError.fault) fun (v, n) hv => ?_
  refine (convert_computes hw f.conversion hv).bind fun u hu => ?_
  have presented (spec : List Char) (n : Numbering) :
      Computes (fun _ => True) (do return ((← w.present u spec).toList, n)) :=
    (hw.present u spec hu).bind fun _ _ => .pure trivial
  dsimp only
  split
  · next hnested =>
    have hspec (h : nested f.spec) : keys = true := hf (.inr (by rw [hnested, h]; rfl))
    exact (hexpand f.spec n hspec).bind fun (spec, n) _ => presented spec n
  · exact presented f.spec n

theorem fillScript_computes {s : Script} (hs : s.hasSigils nested → keys) (n : Numbering) :
    Computes (fun _ => True) (fillScript w args expand s n) := by
  have pieces {ps : List Piece} (hps : Script.hasSigils nested ⟨ps, none⟩ → keys) (n : Numbering) :
      Computes (fun _ => True) (fillPieces w args expand ps n) := by
    induction ps generalizing n with
    | nil => exact .pure trivial
    | cons p ps ih =>
      rw [Script.hasSigils, List.any_cons, Bool.or_eq_true] at hps
      have hrest := ih fun h => hps (.inr h)
      cases p with
      | char c => exact (hrest n).bind fun _ _ => .pure trivial
      | field f =>
        exact (fillField_computes hw hargs hexpand (fun h => hps (.inl h)) n).bind fun (_, n) _ =>
          (hrest n).bind fun _ _ => .pure trivial
  refine (pieces hs n).bind fun _ _ => ?_
  split
  · exact .throw _
  · exact .pure trivial

end Filling

/-- The text of a template, given how values are written. -/
theorem fill_computes (hw : w.Computes keys) (hargs : args.IsSilent keys) {template : List Char}
    (ht : templateHasSigils template → keys) : Computes (fun _ => True) (fill w args template) := by
  have tooDeep (spec : List Char) (n : Numbering) (_ : false = true → keys = true) :
      Computes (fun _ => True) (throw (.fault .nestedTooDeep) : Filling (List Char × Numbering)) :=
    .throw _
  have nested (spec : List Char) (n : Numbering) (hspec : specHasSigils spec → keys) :
      Computes (fun _ => True) (fillSpec w args spec n) :=
    fillScript_computes hw hargs tooDeep hspec n
  exact (fillScript_computes hw hargs nested ht .unset).bind fun _ _ => .pure trivial

/-! ## Deferred texts -/

theorem isSilent_parts? {v : Value} {items : List Value} (h : v.isSilent keys)
    (hitems : v.parts? = some items) : ∀ u ∈ items, u.isSilent keys := by
  unfold Value.parts? at hitems
  split at hitems <;> cases hitems
  · exact Value.allSilent_iff.mp (Value.isSilent_characters _)
  · exact Value.allSilent_iff.mp (Value.isSilent_characters _)
  · simp [Value.isSilent]
  · exact Value.allSilent_iff.mp h
  · exact Value.allSilent_iff.mp h
  · exact Value.allSilent_iff.mp h
  · exact Value.allSilent_iff.mp h
  · rintro u hu
    obtain ⟨e, he, rfl⟩ := List.mem_map.mp hu
    exact (Value.allSilentEntries_iff.mp h e he).1

/-- The parts of a silent deferred text are silent arguments. -/
theorem isSilent_ofParts {positional named : Value} (hpositional : positional.isSilent keys)
    (hnamed : named.isSilent keys) (h : Arguments.ofParts positional named = .ok args) :
    args.IsSilent keys := by
  obtain ⟨hparts, hentries⟩ := Arguments.ofParts_eq_ok h
  refine ⟨isSilent_parts? hpositional hparts, fun a ha => ?_⟩
  obtain hnone | ⟨es, rfl, hsome⟩ := hentries
  · rw [hnone] at ha
    cases ha
  · rw [hsome] at ha
    obtain ⟨e, he, ha⟩ := List.mem_filterMap.mp ha
    obtain ⟨t, -, rfl⟩ := Option.map_eq_some_iff.mp ha
    exact (Value.allSilentEntries_iff.mp hnamed e he).2

variable {render : String → Arguments → Filling String}

theorem renderParts_computes
    (h : ∀ t args, args.IsSilent keys → (templateHasSigils t.toList → keys) →
      Computes (fun _ => True) (render t args))
    {template positional named : Value} (htemplate : template.hasSigils → keys)
    (hpositional : positional.isSilent keys) (hnamed : named.isSilent keys) :
    Computes (fun _ => True) (renderParts render template positional named) := by
  unfold renderParts
  split
  · exact .throw _
  · next t ht =>
    have hkeys (hsigils : templateHasSigils t.toList) : keys = true :=
      htemplate (by rw [Value.hasSigils, ht]; exact hsigils)
    split
    · exact .throw _
    · next hparts => exact h _ _ (isSilent_ofParts hpositional hnamed hparts) hkeys

theorem writerFor_computes
    (h : ∀ t args, args.IsSilent keys → (templateHasSigils t.toList → keys) →
      Computes (fun _ => True) (render t args)) :
    (writerFor render).Computes keys := by
  have parts (template positional named : Value)
      (hv : (Value.deferred template positional named).isSilent keys) :
      Computes (fun _ => True) (renderParts render template positional named) := by
    simp only [Value.isSilent, Bool.and_eq_true, Bool.or_eq_true, Bool.not_eq_true'] at hv
    obtain ⟨⟨⟨htemplate, -⟩, hpositional⟩, hnamed⟩ := hv
    refine renderParts_computes h (fun hsigils => ?_) hpositional hnamed
    exact htemplate.resolve_left fun hnone => Bool.false_ne_true (hnone.symm.trans hsigils)
  constructor
  · intro v spec hv
    simp only [writerFor]
    split
    · exact (parts _ _ _ hv).bind fun _ _ => .ofExcept fun _ _ => trivial
    · exact .ofExcept fun _ _ => trivial
  · intro v hv
    simp only [writerFor]
    split
    · exact parts _ _ _ hv
    · exact .ofExcept fun _ _ => trivial

theorem renderAt_computes (depth : Nat) {template : String} (hargs : args.IsSilent keys)
    (ht : templateHasSigils template.toList → keys) :
    Computes (fun _ => True) (renderAt depth template args) := by
  induction depth generalizing template args with
  | zero => exact .throw _
  | succ depth ih =>
    have writer : (writerFor (renderAt depth)).Computes keys :=
      writerFor_computes fun t args hargs ht => ih hargs ht
    exact ((fill_computes writer hargs ht).mapError _).bind fun _ _ => .pure trivial

/-- A template has its text or its failure, whatever the context is, if it has no keys of sigils or
may have them, and its arguments are silent then. -/
theorem renderTemplate_computes {template : String} (hargs : args.IsSilent keys)
    (ht : templateHasSigils template.toList → keys) :
    Computes (fun _ => True) (renderTemplate template args) :=
  renderAt_computes _ hargs ht

/-- A silent value has its text or its failure, whatever the context is. -/
theorem render_computes {v : Value} (h : v.isSilent keys) : Computes (fun _ => True) v.render :=
  (writerFor_computes fun _ _ hargs ht => renderAt_computes _ hargs ht).own v h

end Sgr
