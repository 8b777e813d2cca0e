import Sgr.Config.Reading
import Sgr.Config.Schema
import Sgr.Proofs.Running

/-!
# Configurations that meet the schema

A choice is met by its texts, and a record by mappings that have no other entries than its own and
whose entries meet what it asks of them. So the schema of a configuration lets through what the
settings can be read from, with one exception: a switch may be any text for the schema, but only
some texts stand for a truth value.

## Main definitions

* `Value.IsSwitch` — a truth value, or a text for one.
* `Settings.switch?` — what a configuration says about constant text.
* `Settings.IsResultOf` — settings, or a refusal of the switch of a configuration.

## Main statements

* `violationsAt_choice`, `violationsAt_record` — what meets a choice, and a record.
* `ofConfig_of_meets`, `exists_ofConfig` — the settings of a configuration that meets the schema.
-/

namespace Sgr

/-! ## Texts -/

namespace Value

theorem equal_text {v : Value} {t : String} (h : v.text? = some t) (s : String) :
    v.equal (.text s) = decide (t = s) := by
  cases v <;> cases h <;> simp [equal, equalWith, equalScalar, int?, whole?, text?]

/-- A text is rendered as it is. -/
theorem render_of_text? {v : Value} {t : String} (h : v.text? = some t) : v.render = pure t := by
  cases v <;> cases h <;> rfl

end Value

/-! ## Schemas -/

namespace Schema

variable {path : List String} {v : Value}

theorem holds_string : SchemaType.string.holds v = v.text?.isSome := by
  cases v <;> rfl

theorem holds_object : SchemaType.object.holds v = true ↔ ∃ entries, v = .dict entries := by
  cases v <;> simp [SchemaType.holds]

theorem holds_boolean : SchemaType.boolean.holds v = true ↔ ∃ b, v = .bool b := by
  cases v <;> simp [SchemaType.holds]

theorem typeViolations_eq_nil {types : List SchemaType} :
    typeViolations types path v = [] ↔ ∃ t ∈ types, t.holds v := by
  simp [typeViolations]

/-- A choice is met by its texts. -/
theorem violationsAt_choice {texts : List String} :
    violationsAt path v (choice texts) = [] ↔ ∃ s ∈ texts, v.text? = some s := by
  have hparts : violationsAt path v (choice texts) =
      typeViolations [.string] path v ++ choiceViolations [.string] (some texts) path v := by
    cases v <;> simp [choice, violationsAt, entryViolations, extraViolations]
  rw [hparts, List.append_eq_nil_iff, typeViolations_eq_nil]
  rcases htext : v.text? with _ | t
  · simp [holds_string, htext]
  · simp [holds_string, htext, choiceViolations, Value.equal_text htext]

theorem entryViolations_eq_nil {entries : List (Value × Value)} {schemas : List (String × Schema)} :
    entryViolations path (.dict entries) schemas = [] ↔
      ∀ e ∈ schemas, ∀ x, Value.lookup? (.text e.1) entries = some x →
        violationsAt (path ++ [e.1]) x e.2 = [] := by
  induction schemas with
  | nil => simp [entryViolations]
  | cons e schemas ih =>
    obtain ⟨name, schema⟩ := e
    rw [entryViolations, List.append_eq_nil_iff, ih, List.forall_mem_cons]
    rcases Value.lookup? (.text name) entries with _ | x <;> simp

/-- A record is met by mappings whose entries meet what it asks of them, and which have no
others. -/
theorem violationsAt_record {schemas : List (String × Schema)} :
    violationsAt path v (record schemas) = [] ↔
      ∃ entries, v = .dict entries ∧ extras (schemas.map Prod.fst) entries = [] ∧
        ∀ e ∈ schemas, ∀ x, Value.lookup? (.text e.1) entries = some x →
          violationsAt (path ++ [e.1]) x e.2 = [] := by
  by_cases hv : ∃ entries, v = .dict entries
  · obtain ⟨entries, rfl⟩ := hv
    rw [record, violationsAt, List.append_eq_nil_iff, List.append_eq_nil_iff,
      List.append_eq_nil_iff, entryViolations_eq_nil]
    simp [typeViolations, SchemaType.holds, choiceViolations, extraViolations, and_comm]
  · constructor
    · intro h
      rw [record, violationsAt] at h
      simp only [List.append_eq_nil_iff, typeViolations_eq_nil, List.mem_singleton, exists_eq_left,
        holds_object] at h
      exact absurd h.1.1.1 hv
    · rintro ⟨entries, rfl, -⟩
      exact absurd ⟨entries, rfl⟩ hv

/-- A switch is met by truth values and texts. -/
theorem violationsAt_switch :
    violationsAt path v (.mk [.boolean, .string] none [] false) = [] ↔
      (∃ b, v = .bool b) ∨ ∃ s, v.text? = some s := by
  have hparts : violationsAt path v (.mk [.boolean, .string] none [] false) =
      typeViolations [.boolean, .string] path v := by
    cases v <;> simp [violationsAt, choiceViolations, entryViolations, extraViolations]
  rw [hparts, typeViolations_eq_nil]
  simp [holds_boolean, holds_string, Option.isSome_iff_exists]

/-- What the entries of a configuration are that meets the schema, as far as they are there. -/
theorem entries_of_meets {config : Value} (h : configuration.violations config = []) :
    ∃ entries, config = .dict entries ∧
      (∀ x, Value.lookup? (.text "features") entries = some x → ∃ es, x = .dict es ∧
        ∀ y, Value.lookup? (.text "const_format") es = some y →
          (∃ b, y = .bool b) ∨ ∃ s, y.text? = some s) ∧
      (∀ x, Value.lookup? (.text "output") entries = some x → ∃ es, x = .dict es ∧
        ∀ y, Value.lookup? (.text "color") es = some y →
          ∃ s ∈ ["auto", "always", "never"], y.text? = some s) ∧
      ∀ x, Value.lookup? (.text "log_level") entries = some x →
        ∃ s ∈ ["debug", "info", "warning", "error", "critical", "none",
          "DEBUG", "INFO", "WARNING", "ERROR", "CRITICAL", "NONE"], x.text? = some s := by
  obtain ⟨entries, rfl, -, hentries⟩ := violationsAt_record.mp h
  simp only [List.forall_mem_cons] at hentries
  obtain ⟨-, hfeatures, houtput, hlevel, -⟩ := hentries
  refine ⟨entries, rfl, fun x hx => ?_, fun x hx => ?_, fun x hx => ?_⟩
  · obtain ⟨es, rfl, -, hes⟩ := violationsAt_record.mp (hfeatures x hx)
    exact ⟨es, rfl, fun y hy => violationsAt_switch.mp (hes _ (List.mem_singleton_self _) y hy)⟩
  · obtain ⟨es, rfl, -, hes⟩ := violationsAt_record.mp (houtput x hx)
    exact ⟨es, rfl, fun y hy => violationsAt_choice.mp (hes _ (List.mem_singleton_self _) y hy)⟩
  · exact violationsAt_choice.mp (hlevel x hx)

end Schema

/-! ## Settings -/

/-- A truth value, or a text that stands for one. -/
def Value.IsSwitch (v : Value) : Prop :=
  (∃ b, v = .bool b) ∨
    ∃ s, v.text? = some s ∧ (settingWord s ∈ trueTexts ∨ settingWord s ∈ falseTexts)

namespace Settings

/-- The section of a configuration, which has no entries if it is not there. -/
def sectionEntries (config : Value) (name : String) : List (Value × Value) :=
  match config with
  | .dict entries =>
    match Value.lookup? (.text name) entries with
    | some (.dict es) => es
    | _ => []
  | _ => []

/-- What a configuration says about constant text. -/
def switch? (config : Value) : Option Value :=
  Value.lookup? (.text "const_format") (sectionEntries config "features")

/-- An entry of a section stands in a mapping that stands in the configuration. -/
theorem exists_of_lookup_sectionEntries {entries : List (Value × Value)} {name : String}
    {key y : Value} (h : Value.lookup? key (sectionEntries (.dict entries) name) = some y) :
    ∃ es, Value.lookup? (.text name) entries = some (.dict es) ∧
      Value.lookup? key es = some y := by
  rw [sectionEntries] at h
  split at h
  · next es hes => exact ⟨es, hes, h⟩
  · cases h

theorem sectionOf_eq {entries : List (Value × Value)} {name : String}
    (h : ∀ x, Value.lookup? (.text name) entries = some x → ∃ es, x = .dict es) :
    sectionOf (.dict entries) name = .ok (.dict (sectionEntries (.dict entries) name)) := by
  rw [sectionOf, entry, sectionEntries]
  rcases hx : Value.lookup? (.text name) entries with _ | x
  · rfl
  · obtain ⟨es, rfl⟩ := h x hx
    cases es <;> rfl

theorem switchOf_of_isSwitch {v : Value} (h : v.IsSwitch) (name : String) :
    ∃ b, switchOf v name = pure b := by
  obtain ⟨b, rfl⟩ | ⟨s, hs, hword⟩ := h
  · exact ⟨b, rfl⟩
  · have hread : ∃ b, readSwitch name v.repr s = .ok b := by
      unfold readSwitch
      split
      · exact ⟨true, rfl⟩
      · next hnot => exact ⟨false, if_pos (hword.resolve_left hnot)⟩
    obtain ⟨b, hb⟩ := hread
    refine ⟨b, ?_⟩
    have hswitch : switchOf v name = (do
        InContext.ofExcept .settings (readSwitch name v.repr (← v.render.mapError .template))) := by
      cases v <;> cases hs <;> rfl
    rw [hswitch, Value.render_of_text? hs, InContext.mapError_pure, pure_bind, hb,
      InContext.ofExcept_ok]

theorem switchOf_of_not_isSwitch {v : Value} {s : String} (hs : v.text? = some s)
    (h : ¬v.IsSwitch) (name : String) :
    switchOf v name = throw (.settings (.notBool name v.repr)) := by
  have hword := not_or.mp fun hword => h (.inr ⟨s, hs, hword⟩)
  have hread : readSwitch name v.repr s = .error (.notBool name v.repr) := by
    rw [readSwitch, if_neg hword.1, if_neg hword.2]
  have hswitch : switchOf v name = (do
      InContext.ofExcept .settings (readSwitch name v.repr (← v.render.mapError .template))) := by
    cases v <;> cases hs <;> rfl
  rw [hswitch, Value.render_of_text? hs, InContext.mapError_pure, pure_bind, hread,
    InContext.ofExcept_error]

/-- A colour setting that is one of the choices is read as it is. -/
theorem colorOf_of_mem {v : Value} {s : String} (hs : v.text? = some s) (hmem : s ∈ colorChoices) :
    colorOf v = pure s := by
  have hword : ∀ t ∈ colorChoices, settingWord t = t := by decide
  rw [colorOf, Value.render_of_text? hs, InContext.mapError_pure, pure_bind, readColor,
    hword s hmem, if_pos hmem, InContext.ofExcept_ok]

/-- A level that the schema lets through is one. -/
theorem levelOf_of_mem {v : Value} {s : String} (hs : v.text? = some s)
    (hmem : s ∈ ["debug", "info", "warning", "error", "critical", "none",
      "DEBUG", "INFO", "WARNING", "ERROR", "CRITICAL", "NONE"]) :
    ∃ level, levelOf v = .ok level := by
  have hname : ∀ t ∈ ["debug", "info", "warning", "error", "critical", "none",
      "DEBUG", "INFO", "WARNING", "ERROR", "CRITICAL", "NONE"],
      (LogLevel.ofName? t).isSome := by decide
  obtain ⟨level, hlevel⟩ := Option.isSome_iff_exists.mp (hname s hmem)
  refine ⟨level, ?_⟩
  have hread : levelOf v = readLevel s := by
    cases v <;> cases hs <;> rfl
  rw [hread, readLevel, hlevel]

/-- The settings of a configuration that meets the schema: of what they are read from, only the
switch may still be refused. -/
theorem ofConfig_of_meets {config : Value} (h : Schema.configuration.violations config = []) :
    ∃ color ∈ colorChoices, ∃ level, ofConfig config = (do
      let constFormat ← switchOf ((switch? config).getD (.bool false)) "features.const_format"
      return { constFormat, color, level }) := by
  obtain ⟨entries, rfl, hfeatures, houtput, hlevel⟩ := Schema.entries_of_meets h
  have hfeatures' := sectionOf_eq fun x hx => (hfeatures x hx).imp fun _ h => h.1
  have houtput' := sectionOf_eq fun x hx => (houtput x hx).imp fun _ h => h.1
  have hcolor : ∃ color ∈ colorChoices,
      colorOf ((Value.lookup? (.text "color")
        (sectionEntries (.dict entries) "output")).getD (.text "auto")) = pure color := by
    rcases hy : Value.lookup? (.text "color") (sectionEntries (.dict entries) "output") with _ | y
    · exact ⟨"auto", by decide, colorOf_of_mem rfl (by decide)⟩
    · obtain ⟨es, hes, hy⟩ := exists_of_lookup_sectionEntries hy
      obtain ⟨_, hdict, hes'⟩ := houtput _ hes
      cases hdict
      obtain ⟨s, hs, htext⟩ := hes' y hy
      exact ⟨s, hs, colorOf_of_mem htext hs⟩
  have hlevel : ∃ level,
      levelOf ((Value.lookup? (.text "log_level") entries).getD (.text "none")) = .ok level := by
    rcases hx : Value.lookup? (.text "log_level") entries with _ | x
    · exact ⟨.none, rfl⟩
    · obtain ⟨s, hs, htext⟩ := hlevel x hx
      exact levelOf_of_mem htext hs
  obtain ⟨color, hmem, hcolor⟩ := hcolor
  obtain ⟨level, hlevel⟩ := hlevel
  refine ⟨color, hmem, level, ?_⟩
  have hentry (es : List (Value × Value)) (key : String) (default : Value) :
      entry (.dict es) key default = .ok ((Value.lookup? (.text key) es).getD default) := rfl
  rw [ofConfig]
  simp only [hfeatures', houtput', hentry, InContext.ofExcept_ok, pure_bind, hcolor, hlevel]
  rfl

/-- What the schema lets through as a switch is a truth value or a text. -/
theorem switch?_of_meets {config v : Value} (h : Schema.configuration.violations config = [])
    (hv : switch? config = some v) : (∃ b, v = .bool b) ∨ ∃ s, v.text? = some s := by
  obtain ⟨entries, rfl, hfeatures, -⟩ := Schema.entries_of_meets h
  obtain ⟨es, hes, hy⟩ := exists_of_lookup_sectionEntries hv
  obtain ⟨_, hdict, hes'⟩ := hfeatures _ hes
  cases hdict
  exact hes' v hy

/-- A configuration that meets the schema has settings if it has no switch or a proper one. -/
theorem ofConfig_of_isSwitch {config : Value} (h : Schema.configuration.violations config = [])
    (hswitch : ∀ v, switch? config = some v → v.IsSwitch) :
    ∃ s : Settings, s.color ∈ colorChoices ∧ ofConfig config = pure s := by
  obtain ⟨color, hmem, level, hconfig⟩ := ofConfig_of_meets h
  have hread : ∃ b, switchOf ((switch? config).getD (.bool false)) "features.const_format" =
      pure b := by
    rcases hv : switch? config with _ | v
    · exact ⟨false, rfl⟩
    · exact switchOf_of_isSwitch (hswitch v hv) _
  obtain ⟨b, hb⟩ := hread
  exact ⟨⟨b, color, level⟩, hmem, by rw [hconfig, hb, pure_bind]⟩

/-- If its switch is not a proper one, it is refused for that. -/
theorem ofConfig_of_not_isSwitch {config v : Value}
    (h : Schema.configuration.violations config = []) (hv : switch? config = some v)
    (hswitch : ¬v.IsSwitch) :
    ofConfig config = throw (.settings (.notBool "features.const_format" v.repr)) := by
  obtain ⟨color, -, level, hconfig⟩ := ofConfig_of_meets h
  obtain ⟨b, rfl⟩ | ⟨s, hs⟩ := switch?_of_meets h hv
  · exact absurd (.inl ⟨b, rfl⟩) hswitch
  · rw [hconfig, hv, Option.getD_some, switchOf_of_not_isSwitch hs hswitch]
    rfl

/-- Settings, unless a configuration has a switch that is not a proper one: then that is what is
refused. -/
structure IsResultOf (config : Value) (r : Except Failure Settings) : Prop where
  settings : (∀ v, switch? config = some v → v.IsSwitch) →
    ∃ s : Settings, s.color ∈ colorChoices ∧ r = .ok s
  refused : ∀ v, switch? config = some v → ¬v.IsSwitch →
    r = .error (.settings (.notBool "features.const_format" v.repr))

theorem IsResultOf.color {config : Value} {s : Settings} (h : IsResultOf config (.ok s)) :
    s.color ∈ colorChoices := by
  by_cases hswitch : ∀ v, switch? config = some v → v.IsSwitch
  · obtain ⟨s', hcolor, hs⟩ := h.settings hswitch
    rwa [Except.ok.inj hs]
  · obtain ⟨v, hv, hnot⟩ := by simpa using hswitch
    cases h.refused v hv hnot

/-- The settings of a configuration that meets the schema are a result, and the same one in every
context. -/
theorem exists_ofConfig {config : Value} (h : Schema.configuration.violations config = []) :
    ∃ r, ofConfig config = .ofExcept id r ∧ IsResultOf config r := by
  by_cases hswitch : ∀ v, switch? config = some v → v.IsSwitch
  · obtain ⟨s, hcolor, hs⟩ := ofConfig_of_isSwitch h hswitch
    exact ⟨.ok s, hs, fun _ => ⟨s, hcolor, rfl⟩, fun v hv hnot => absurd (hswitch v hv) hnot⟩
  · obtain ⟨v, hv, hnot⟩ := by simpa using hswitch
    refine ⟨.error (.settings (.notBool "features.const_format" v.repr)),
      ofConfig_of_not_isSwitch h hv hnot, fun h => absurd (h v hv) hnot, fun v' hv' _ => ?_⟩
    rw [Option.some.inj (hv.symm.trans hv')]

end Settings

end Sgr
