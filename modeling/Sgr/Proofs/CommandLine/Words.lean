import Sgr.CommandLine.Command

/-!
# The words of commands

Options with their long names, a double hyphen and the arguments behind it are read as what they
stand for, whatever the texts are. So every rendering command can be given, with any style and any
content, every command that shows parameters with any style, and every validating command with any
path.

## Main definitions

* `OptionSpec.IsReadBy` — an option that is found by its long name.
* `RenderOptions.words`, `CodesOptions.words`, `validateWords` — the words of a rendering command,
  of one that shows parameters, and of a validating command.

## Main statements

* `readWords_words` — options in front of a double hyphen are read one by one.
* `ofWords_render`, `ofWords_render_plain`, `ofWords_codes`, `ofWords_validate` — the words of a
  command are read as that command.
* `color_of_ofWords` — a colour that was read is one of the choices.
-/

namespace Sgr.CommandLine

/-! ## Words -/

/-- An option that is found by its long name, which is nothing but a name. -/
def OptionSpec.IsReadBy (options : List OptionSpec) (o : OptionSpec) : Prop :=
  options.find? (·.long = o.long) = some o ∧ splitEquals o.long = (o.long, none) ∧
    o.long ≠ "--" ∧ o.long.toList.head? = some '-' ∧ o.long.length ≠ 1

instance (options : List OptionSpec) (o : OptionSpec) : Decidable (o.IsReadBy options) :=
  inferInstanceAs (Decidable (_ ∧ _))

/-- The words of an option with its value. A flag has none. -/
def optionWords (value : OptionSpec × String) : List String :=
  if value.1.kind = .flag then [value.1.long] else [value.1.long, value.2]

section Reading

variable {options : List OptionSpec} {interspersed : Bool}

theorem readWords_optionWords {o : OptionSpec} (ho : o.IsReadBy options) {v : String}
    (hv : o.kind = .flag → v = "") (w : Words) (rest : List String) :
    readWords options interspersed w (optionWords (o, v) ++ rest) =
      readWords options interspersed (w.add o v) rest := by
  obtain ⟨hfind, hsplit, hdash, hhead, hlength⟩ := ho
  have hstep {next next' : List String}
      (h : readOption options w o.long next = .ok (w.add o v, next')) :
      readWords options interspersed w (o.long :: next) =
        readWords options interspersed (w.add o v) next' := by
    rw [readWords, if_neg hdash, if_pos (by simp [hhead, hlength])]
    split
    · next h' => rw [h] at h'; cases h'
    · next h' => rw [h] at h'; cases h'; rfl
  by_cases hflag : o.kind = .flag
  · rw [optionWords, if_pos hflag]
    refine hstep ?_
    rw [readOption, hsplit]
    simp [hfind, hflag, hv hflag]
  · rw [optionWords, if_neg hflag]
    refine hstep ?_
    rw [readOption, hsplit]
    simp [hfind, hflag]

/-- Options in front of a double hyphen are read one by one. What is behind it are arguments. -/
theorem readWords_words {values : List (OptionSpec × String)}
    (hvalues : ∀ a ∈ values, a.1.IsReadBy options ∧ (a.1.kind = .flag → a.2 = ""))
    (w : Words) (arguments : List String) :
    readWords options interspersed w (values.flatMap optionWords ++ "--" :: arguments) =
      .ok ⟨w.values ++ values, w.arguments ++ arguments⟩ := by
  induction values generalizing w with
  | nil => rw [List.flatMap_nil, List.nil_append, readWords, if_pos rfl, List.append_nil]
  | cons a values ih =>
    obtain ⟨⟨ho, hv⟩, hrest⟩ := List.forall_mem_cons.mp hvalues
    rw [List.flatMap_cons, List.append_assoc, readWords_optionWords ho hv, ih hrest]
    simp [Words.add]

/-- So they are read for a command that takes the arguments, if none of them is a bad choice. -/
theorem read_words {spec : CommandSpec} {values : List (OptionSpec × String)}
    {arguments : List String}
    (hvalues : ∀ a ∈ values, a.1.IsReadBy spec.options ∧ (a.1.kind = .flag → a.2 = ""))
    (hgood : badChoice? ⟨values, arguments⟩ = none)
    (harguments : checkArguments spec arguments = .ok ()) :
    Words.read spec (values.flatMap optionWords ++ "--" :: arguments) =
      .ok ⟨values, arguments⟩ := by
  have hwords : readWords spec.options true {} (values.flatMap optionWords ++ "--" :: arguments) =
      .ok ⟨values, arguments⟩ := readWords_words hvalues {} arguments
  simp only [Words.read, hwords, bind, Except.bind, hgood, harguments]
  rfl

/-- Words that do not look like options are arguments. -/
theorem readWords_plain {arguments : List String}
    (h : ∀ s ∈ arguments, s.toList.head? ≠ some '-') (w : Words) :
    readWords options true w arguments = .ok { w with arguments := w.arguments ++ arguments } := by
  induction arguments generalizing w with
  | nil => rw [readWords, List.append_nil]
  | cons s arguments ih =>
    obtain ⟨hs, hrest⟩ := List.forall_mem_cons.mp h
    have hdash : s ≠ "--" := by
      rintro rfl
      exact hs (by decide)
    rw [readWords, if_neg hdash, if_neg (by simp [hs]), if_pos rfl, ih hrest, List.append_assoc,
      List.singleton_append]

end Reading

/-- The values that options are given by name, one option after the other. -/
theorem Words.all_texts (texts : List (OptionSpec × List String)) (arguments : List String)
    (long : String) :
    Words.all ⟨texts.flatMap fun a => a.2.map (a.1, ·), arguments⟩ long =
      texts.flatMap fun a => if a.1.long = long then a.2 else [] := by
  have hpiece (a : OptionSpec × List String) :
      ((a.2.map (a.1, ·)).filter (·.1.long = long)).map Prod.snd =
        if a.1.long = long then a.2 else [] := by
    by_cases h : a.1.long = long <;> simp [List.filter_map, Function.comp_def, h]
  rw [Words.all, List.filter_flatMap, List.map_flatMap]
  simp only [hpiece]

/-! ## Rendering -/

/-- The option for colour. -/
def colorOption : OptionSpec := ⟨"--color", none, .choice colorChoices⟩

/-- The option that leaves out the line break. -/
def newlineOption : OptionSpec := ⟨"--no-newline", some "-n", .flag⟩

/-- The option for a log level. -/
def levelOption : OptionSpec := ⟨"--log-level", none, .choice (LogLevel.all.map LogLevel.label)⟩

namespace RenderOptions

/-- The options of a rendering command, each with its values. -/
def optionTexts (o : RenderOptions) : List (OptionSpec × List String) :=
  [(sigilsOption, [o.sigils]), (paramOption, o.params), (colorOption, o.color.toList),
    (newlineOption, if o.newline then [] else [""]), (fileOption, o.file.toList),
    (levelOption, (o.level.map LogLevel.label).toList)]

/-- What is read of the words of a rendering command. -/
def read (o : RenderOptions) : Words where
  values := o.optionTexts.flatMap fun a => a.2.map (a.1, ·)
  arguments := o.style :: o.content

/-- The words of a rendering command: its options, and behind a double hyphen its arguments. -/
def words (o : RenderOptions) : List String :=
  "render" :: (o.read.values.flatMap optionWords ++ "--" :: o.style :: o.content)

variable {o : RenderOptions}

/-- The options that a rendering command can have values of. -/
def renderOptions : List OptionSpec :=
  [sigilsOption, paramOption, colorOption, newlineOption, fileOption, levelOption]

theorem exists_of_mem_values {a : OptionSpec × String} (ha : a ∈ o.read.values) :
    a.1 ∈ renderOptions ∧ ∃ vs, (a.1, vs) ∈ o.optionTexts ∧ a.2 ∈ vs := by
  obtain ⟨⟨s, vs⟩, hmem, ha⟩ := List.mem_flatMap.mp ha
  obtain ⟨v, hv, rfl⟩ := List.mem_map.mp ha
  have hs : s ∈ o.optionTexts.map Prod.fst := List.mem_map_of_mem hmem
  exact ⟨hs, vs, hmem, hv⟩

theorem isReadBy_of_mem_values :
    ∀ a ∈ o.read.values, a.1.IsReadBy renderSpec.options ∧ (a.1.kind = .flag → a.2 = "") := by
  have hread : ∀ s ∈ renderOptions,
      s.IsReadBy renderSpec.options ∧ (s.kind = .flag → s = newlineOption) := by decide +kernel
  intro a ha
  obtain ⟨hoption, vs, hmem, hv⟩ := exists_of_mem_values ha
  obtain ⟨hisRead, hflag⟩ := hread a.1 hoption
  refine ⟨hisRead, fun h => ?_⟩
  rw [hflag h] at hmem
  have hvs : vs = if o.newline then [] else [""] := by
    simpa [optionTexts, sigilsOption, paramOption, colorOption, newlineOption, fileOption,
      levelOption] using hmem
  rw [hvs] at hv
  split at hv
  · cases hv
  · exact List.mem_singleton.mp hv

/-- The values of an option. -/
theorem all_read (long : String) : o.read.all long =
    o.optionTexts.flatMap fun a => if a.1.long = long then a.2 else [] :=
  Words.all_texts _ _ _

theorem getLast?_toList {α : Type} (a : Option α) : a.toList.getLast? = a := by
  cases a <;> rfl

theorem last?_read (long : String) : o.read.last? long =
    (o.optionTexts.flatMap fun a => if a.1.long = long then a.2 else []).getLast? := by
  rw [Words.last?, all_read]

theorem last?_color : o.read.last? "--color" = o.color := by
  rw [last?_read]
  simp [optionTexts, sigilsOption, paramOption, colorOption, newlineOption, fileOption, levelOption,
    getLast?_toList]

theorem last?_level : o.read.last? "--log-level" = o.level.map LogLevel.label := by
  rw [last?_read]
  simp [optionTexts, sigilsOption, paramOption, colorOption, newlineOption, fileOption, levelOption,
    getLast?_toList]

theorem choiceOf?_color : ∀ c ∈ colorChoices, choiceOf? colorChoices c = some c := by
  decide +kernel

theorem choiceOf?_level (l : LogLevel) :
    choiceOf? (LogLevel.all.map LogLevel.label) l.label = some l.label := by
  cases l <;> decide +kernel

/-- What is read of a rendering command is that command. -/
theorem ofWords_read (hcolor : ∀ c ∈ o.color, c ∈ colorChoices) :
    RenderOptions.ofWords o.read = o := by
  have hall := all_read (o := o)
  have hlast := last?_read (o := o)
  simp only [optionTexts, sigilsOption, paramOption, colorOption, newlineOption, fileOption,
    levelOption] at hall hlast
  have hsigils : o.read.last? "--sigils" = some o.sigils := by
    rw [hlast]
    simp
  have hparams : o.read.all "--param" = o.params := by
    rw [hall]
    simp
  have hchoice : (o.read.last? "--color").bind (choiceOf? colorChoices) = o.color := by
    rw [last?_color]
    rcases hc : o.color with _ | c
    · rfl
    · exact choiceOf?_color c (hcolor c hc)
  have hnewline : (!o.read.has "--no-newline") = o.newline := by
    rw [Words.has, hall]
    cases o.newline <;> simp
  have hfile : o.read.last? "--file" = o.file := by
    rw [hlast]
    simp [getLast?_toList]
  have hlevel : ((o.read.last? "--log-level").bind
      (choiceOf? (LogLevel.all.map LogLevel.label))).bind LogLevel.ofLabel? = o.level := by
    rw [last?_level]
    rcases o.level with _ | l
    · rfl
    · rw [Option.map_some, Option.bind_some, choiceOf?_level]
      cases l <;> rfl
  rw [RenderOptions.ofWords, hsigils, hparams, hchoice, hnewline, hfile, hlevel]
  rfl

theorem badChoice?_read (hcolor : ∀ c ∈ o.color, c ∈ colorChoices) : badChoice? o.read = none := by
  rw [badChoice?, List.findSome?_eq_none_iff]
  rintro ⟨s, v⟩ ha
  have hs : s ∈ renderOptions := (exists_of_mem_values ha).1
  simp only [renderOptions, List.mem_cons, List.not_mem_nil, or_false] at hs
  rcases hs with rfl | rfl | rfl | rfl | rfl | rfl
  · rfl
  · rfl
  · have hlast : o.read.last? colorOption.long = o.color := last?_color
    dsimp only
    rw [hlast]
    rcases hc : o.color with _ | c
    · rfl
    · simp [colorOption, choiceOf?_color c (hcolor c hc)]
  · rfl
  · rfl
  · have hlast : o.read.last? levelOption.long = o.level.map LogLevel.label := last?_level
    dsimp only
    rw [hlast]
    rcases o.level with _ | l
    · rfl
    · simp [levelOption, choiceOf?_level l]

end RenderOptions

/-- The name of a command is in front of its words. -/
theorem ofWords_of_read {spec : CommandSpec} (hspec : spec ∈ specs) {args : List String} {w : Words}
    (h : Words.read spec args = .ok w) :
    Command.ofWords (spec.name :: args) = .ok (.ofSpec spec w) := by
  have hname : ∀ spec ∈ specs, spec.name ≠ "--" ∧ spec.name.toList.head? ≠ some '-' ∧
      specs.find? (·.name = spec.name) = some spec := by decide
  obtain ⟨hdash, hhead, hfind⟩ := hname spec hspec
  have hprogram : readWords programOptions false {} (spec.name :: args) =
      .ok { arguments := spec.name :: args } := by
    rw [readWords, if_neg hdash, if_neg (by simp [hhead]), if_neg (by decide)]
    rfl
  have hnone : Command.ofProgram? { arguments := spec.name :: args } = none := rfl
  have hok {ε α : Type} (f : ε → CommandError) (a : α) :
      Except.mapError f (.ok a) = .ok a := rfl
  simp only [Command.ofWords, hprogram, hnone, bind, Except.bind, hok, hfind, h]
  rfl

/-- The words of a rendering command are read as that command. -/
theorem ofWords_render {o : RenderOptions} (hcolor : ∀ c ∈ o.color, c ∈ colorChoices) :
    Command.ofWords o.words = .ok (.render o) := by
  have hread : Words.read renderSpec
      (o.read.values.flatMap optionWords ++ "--" :: o.style :: o.content) = .ok o.read :=
    read_words RenderOptions.isReadBy_of_mem_values (RenderOptions.badChoice?_read hcolor)
      (by simp [checkArguments, renderSpec])
  have hhelp : o.read.has "--help" = false := by
    rw [Words.has, RenderOptions.all_read]
    simp [RenderOptions.optionTexts, sigilsOption, paramOption, colorOption, newlineOption,
      fileOption, levelOption]
  have hspec : Command.ofSpec renderSpec o.read = .render o := by
    rw [Command.ofSpec, hhelp]
    exact congrArg Command.render (RenderOptions.ofWords_read hcolor)
  rw [← hspec]
  exact ofWords_of_read (by decide) hread

/-- A style and content that do not look like options need no more words. -/
theorem ofWords_render_plain {style : String} {content : List String}
    (h : ∀ s ∈ style :: content, s.toList.head? ≠ some '-') :
    Command.ofWords ("render" :: style :: content) = .ok (.render { style, content }) := by
  have hread : Words.read renderSpec (style :: content) =
      .ok { arguments := style :: content } := by
    have harguments : checkArguments renderSpec (style :: content) = .ok () := by
      simp [checkArguments, renderSpec]
    have hwords : readWords renderSpec.options true {} (style :: content) =
        .ok { arguments := style :: content } := readWords_plain h {}
    have hgood : badChoice? { arguments := style :: content } = none := rfl
    simp only [Words.read, hwords, bind, Except.bind, hgood, harguments]
    rfl
  exact ofWords_of_read (by decide) hread

theorem ofProgram?_ne_render (w : Words) (o : RenderOptions) :
    Command.ofProgram? w ≠ some (.render o) := by
  rw [Command.ofProgram?]
  split
  · simp
  · split <;> simp

/-- A rendering command was read from the words of its options and arguments. -/
theorem exists_of_ofWords_render {args : List String} {o : RenderOptions}
    (h : Command.ofWords args = .ok (.render o)) : ∃ w, o = .ofWords w := by
  have hspec {spec : CommandSpec} {w : Words} (h : Command.ofSpec spec w = .render o) :
      ∃ w, o = .ofWords w := by
    unfold Command.ofSpec at h
    split at h
    · cases h
    · split at h <;> cases h
      exact ⟨w, rfl⟩
  simp only [Command.ofWords, bind, Except.bind] at h
  split at h
  · cases h
  · split at h
    · next hprogram =>
      obtain rfl := Except.ok.inj h
      exact absurd hprogram (ofProgram?_ne_render _ o)
    · cases h
    · split at h
      · split at h
        · cases h
        · exact hspec (Except.ok.inj h)
      · split at h
        · cases h
        · split at h
          · next hprogram =>
            obtain rfl := Except.ok.inj h
            exact absurd hprogram (ofProgram?_ne_render _ o)
          · cases h

/-- A colour that was read is one of the choices. -/
theorem color_of_ofWords {args : List String} {o : RenderOptions}
    (h : Command.ofWords args = .ok (.render o)) : ∀ c ∈ o.color, c ∈ colorChoices := by
  obtain ⟨w, rfl⟩ := exists_of_ofWords_render h
  intro c hc
  obtain ⟨v, -, hv⟩ := Option.bind_eq_some_iff.mp hc
  exact List.mem_of_find?_eq_some hv

/-! ## Showing parameters -/

namespace CodesOptions

/-- The options of a command that shows parameters, each with its values. -/
def optionTexts (o : CodesOptions) : List (OptionSpec × List String) :=
  [(paramOption, o.params), (sigilsOption, [o.sigils])]

/-- What is read of the words of a command that shows parameters. -/
def read (o : CodesOptions) : Words where
  values := o.optionTexts.flatMap fun a => a.2.map (a.1, ·)
  arguments := [o.style]

/-- The words of a command that shows parameters. -/
def words (o : CodesOptions) : List String :=
  "codes" :: (o.read.values.flatMap optionWords ++ ["--", o.style])

variable {o : CodesOptions}

/-- Neither option is a flag or has a choice of values. -/
theorem exists_of_mem_values {a : OptionSpec × String} (ha : a ∈ o.read.values) :
    ∃ v, a = (paramOption, v) ∨ a = (sigilsOption, v) := by
  obtain ⟨⟨s, vs⟩, hmem, ha⟩ := List.mem_flatMap.mp ha
  obtain ⟨v, -, rfl⟩ := List.mem_map.mp ha
  simp only [optionTexts, List.mem_cons, List.not_mem_nil, or_false, Prod.mk.injEq] at hmem
  exact ⟨v, hmem.imp (fun h => by rw [h.1]) fun h => by rw [h.1]⟩

theorem ofSpec_read : Command.ofSpec codesSpec o.read = .codes o := by
  have hall (long : String) : o.read.all long =
      o.optionTexts.flatMap fun a => if a.1.long = long then a.2 else [] :=
    Words.all_texts _ _ _
  simp only [optionTexts, paramOption, sigilsOption] at hall
  have hhelp : o.read.has "--help" = false := by
    rw [Words.has, hall]
    rfl
  have hparams : o.read.all "--param" = o.params := by
    rw [hall]
    simp
  have hsigils : o.read.last? "--sigils" = some o.sigils := by
    rw [Words.last?, hall]
    simp
  have hspec : Command.ofSpec codesSpec o.read =
      .codes ⟨o.style, o.read.all "--param", (o.read.last? "--sigils").getD ""⟩ := by
    rw [Command.ofSpec, hhelp]
    rfl
  rw [hspec, hparams, hsigils]
  rfl

end CodesOptions

/-- The words of a command that shows parameters are read as that command. -/
theorem ofWords_codes (o : CodesOptions) : Command.ofWords o.words = .ok (.codes o) := by
  have hoptions : paramOption.IsReadBy codesSpec.options ∧
      sigilsOption.IsReadBy codesSpec.options := by decide +kernel
  have hvalues : ∀ a ∈ o.read.values,
      a.1.IsReadBy codesSpec.options ∧ (a.1.kind = .flag → a.2 = "") := by
    intro a ha
    obtain ⟨v, rfl | rfl⟩ := CodesOptions.exists_of_mem_values ha
    · exact ⟨hoptions.1, nofun⟩
    · exact ⟨hoptions.2, nofun⟩
  have hgood : badChoice? o.read = none := by
    rw [badChoice?, List.findSome?_eq_none_iff]
    intro a ha
    obtain ⟨v, rfl | rfl⟩ := CodesOptions.exists_of_mem_values ha <;> rfl
  rw [← CodesOptions.ofSpec_read]
  exact ofWords_of_read (by decide) (read_words hvalues hgood rfl)

/-! ## Validating -/

/-- The option that makes violations an error. -/
def strictOption : OptionSpec := ⟨"--strict", none, .flag⟩

/-- The options of a validating command. -/
def validateValues (file : Option String) (strict : Bool) : List (OptionSpec × String) :=
  file.toList.map (fileOption, ·) ++ if strict then [(strictOption, "")] else []

/-- The words of a validating command. -/
def validateWords (file : Option String) (strict : Bool) : List String :=
  "validate" :: ((validateValues file strict).flatMap optionWords ++ ["--"])

/-- The words of a validating command are read as that command. -/
theorem ofWords_validate (file : Option String) (strict : Bool) :
    Command.ofWords (validateWords file strict) = .ok (.validate file strict) := by
  have hoptions : fileOption.IsReadBy validateSpec.options ∧
      strictOption.IsReadBy validateSpec.options := by decide +kernel
  have hvalues : ∀ a ∈ validateValues file strict,
      a.1.IsReadBy validateSpec.options ∧ (a.1.kind = .flag → a.2 = "") := by
    intro a ha
    rcases List.mem_append.mp ha with hfile | hstrict
    · obtain ⟨path, -, rfl⟩ := List.mem_map.mp hfile
      exact ⟨hoptions.1, nofun⟩
    · split at hstrict
      · obtain rfl := List.mem_singleton.mp hstrict
        exact ⟨hoptions.2, fun _ => rfl⟩
      · cases hstrict
  have hgood : badChoice? ⟨validateValues file strict, []⟩ = none := by
    cases file <;> cases strict <;> rfl
  have hspec : Command.ofSpec validateSpec ⟨validateValues file strict, []⟩ =
      .validate file strict := by
    cases file <;> cases strict <;> rfl
  rw [← hspec]
  exact ofWords_of_read (by decide) (read_words hvalues hgood rfl)

end Sgr.CommandLine
