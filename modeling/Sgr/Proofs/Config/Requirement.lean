import Sgr.Proofs.Config.Schema

/-!
# The requirements of a schema

A schema is a tree of requirements. Each of them is about one place: the value there is of a type,
it is one of some texts, or it has no keys but the known ones. A place that is missing, or that lies
in something else than a mapping, meets all that is asked of it.

Written out, the requirements of the tree are a list, and what is reported of a value is told by the
list alone: each requirement that is not met is reported once, in order, at its place. A value that
has to be one of some texts and is no text at all meets neither of two requirements, so it is
reported twice, while a mapping with several keys that are not known is reported once.

## Main definitions

* `Value.entry?`, `Value.at?` — an entry of a mapping, and the value at a place.
* `Demand`, `Requirement` — what is asked of a value, and of the value at a place.
* `Schema.requirements` — the requirements of a schema.
* `Schema.configurationRequirements` — what is asked of a configuration.
* `Value.IsConfiguration` — a mapping with the entries of a configuration and no others.

## Main statements

* `map_report_violationsAt` — the violations are the requirements that are not met.
* `violations_configuration_eq_nil` — what has no violations.
* `violations_configuration_exact` — both of a configuration.
-/

namespace Sgr

/-! ## Places -/

namespace Value

/-- The entry of a mapping; other values have none. -/
def entry? (name : String) : Value → Option Value
  | .dict entries => lookup? (.text name) entries
  | _ => none

/-- The value at a place: an entry, or an entry of an entry, and so on. -/
def at? (v : Value) : List String → Option Value
  | [] => some v
  | name :: rest => (v.entry? name).bind (·.at? rest)

/-- The keys of a mapping; other values have none. -/
def keys : Value → List Value
  | .dict entries => entries.map Prod.fst
  | _ => []

/-- A value equals a text if it is that text. -/
theorem equal_text_iff (v : Value) (s : String) : v.equal (.text s) = true ↔ v.text? = some s := by
  rcases h : v.text? with _ | t
  · refine iff_of_false ?_ nofun
    cases v <;> cases h <;> simp [equal, equalWith, equalScalar, equalScalar.ofInt, int?, whole?,
      text?]
  · simp [equal_text h]

theorem any_equal_text (texts : List String) (v : Value) :
    texts.any (fun s => v.equal (.text s)) = decide (∃ s ∈ texts, v.text? = some s) := by
  rw [Bool.eq_iff_iff, List.any_eq_true, decide_eq_true_eq]
  simp only [equal_text_iff]

end Value

/-- The dotted text of a place; the whole value is the root. -/
def placeText (path : List String) : String :=
  if path = [] then "root" else ".".intercalate path

/-- The place of a violation and what it says. -/
def Violation.report (x : Violation) : List String × String :=
  (x.path, x.message)

/-! ## Requirements -/

/-- What is asked of a value. -/
inductive Demand where
  | type (types : List SchemaType)
  | choice (texts : List String)
  | closed (known : List String)
  deriving DecidableEq, Repr

namespace Demand

/-- Whether a value is what is asked: of one of the types, one of the texts, or without other keys
than the known ones. -/
def Met (v : Value) : Demand → Prop
  | type types => ∃ t ∈ types, t.holds v
  | choice texts => ∃ s ∈ texts, v.text? = some s
  | closed known => ∀ k ∈ v.keys, ∃ name ∈ known, k.text? = some name

instance (v : Value) (d : Demand) : Decidable (d.Met v) :=
  match d with
  | type types => inferInstanceAs (Decidable (∃ t ∈ types, t.holds v))
  | choice texts => inferInstanceAs (Decidable (∃ s ∈ texts, v.text? = some s))
  | closed known => inferInstanceAs (Decidable (∀ k ∈ v.keys, ∃ name ∈ known, k.text? = some name))

/-- What is said of a value that is not what is asked. -/
def message (v : Value) : Demand → String
  | type types => v.repr ++ " is not of type " ++ Schema.quotedList (types.map SchemaType.name)
  | choice texts => v.repr ++ " is not one of [" ++ Text.commaList (texts.map Text.quote) ++ "]"
  | closed known =>
    Schema.extrasMessage (v.keys.filter fun k => ¬∃ name ∈ known, k.text? = some name)

end Demand

/-- What is asked of the value at a place. -/
structure Requirement where
  path : List String
  demand : Demand
  deriving DecidableEq, Repr

namespace Requirement

/-- What is said of a value that does not meet a requirement: the place is there, and the value at
it is not what is asked. -/
def fault? (v : Value) (r : Requirement) : Option String :=
  (v.at? r.path).bind fun x => if r.demand.Met x then none else some (r.demand.message x)

/-- A requirement has a fault if the value at its place does not meet it. -/
theorem fault?_isSome {v : Value} {r : Requirement} :
    (r.fault? v).isSome ↔ ∃ x, v.at? r.path = some x ∧ ¬r.demand.Met x := by
  rcases h : v.at? r.path with _ | x
  · simp [fault?, h]
  · by_cases hx : r.demand.Met x <;> simp [fault?, h, hx]

/-- The same requirement on an entry of a mapping. -/
def under (name : String) (r : Requirement) : Requirement :=
  { r with path := name :: r.path }

end Requirement

namespace Schema

mutual

/-- The requirements of a schema. -/
def requirements : Schema → List Requirement
  | .mk types choices entries closed =>
    [⟨[], .type types⟩] ++ (choices.toList.map fun texts => ⟨[], .choice texts⟩)
      ++ entryRequirements entries
      ++ if closed then [⟨[], .closed (entries.map Prod.fst)⟩] else []

/-- The requirements on the entries of a mapping. -/
def entryRequirements : List (String × Schema) → List Requirement
  | [] => []
  | (name, schema) :: rest => schema.requirements.map (·.under name) ++ entryRequirements rest

end

/-- What is reported of a value at a path: of each requirement that it does not meet, the place and
what is said. -/
def reportsAt (path : List String) (v : Value) (rs : List Requirement) :
    List (List String × String) :=
  rs.filterMap fun r => (r.fault? v).map (path ++ r.path, ·)

variable {path : List String} {v : Value}

theorem reportsAt_append (rs rs' : List Requirement) :
    reportsAt path v (rs ++ rs') = reportsAt path v rs ++ reportsAt path v rs' :=
  List.filterMap_append

theorem reportsAt_self (d : Demand) :
    reportsAt path v [⟨[], d⟩] = if d.Met v then [] else [(path, d.message v)] := by
  by_cases h : d.Met v <;> simp [reportsAt, Requirement.fault?, Value.at?, h]

/-- What is reported of an entry is reported of its value, at the longer path; without the entry
it is nothing. -/
theorem reportsAt_under (name : String) (rs : List Requirement) :
    reportsAt path v (rs.map (·.under name)) =
      match v.entry? name with
      | some x => reportsAt (path ++ [name]) x rs
      | none => [] := by
  simp only [reportsAt, List.filterMap_map, Function.comp_def, Requirement.fault?,
    Requirement.under, Value.at?]
  rcases v.entry? name with _ | x <;> simp

/-! ## Violations -/

theorem map_report_typeViolations (types : List SchemaType) :
    (typeViolations types path v).map Violation.report = reportsAt path v [⟨[], .type types⟩] := by
  rw [reportsAt_self]
  by_cases h : (Demand.type types).Met v
  · rw [if_pos h, typeViolations_eq_nil.mpr h, List.map_nil]
  · have hany : types.any (·.holds v) = false := by simpa [Demand.Met] using h
    simp [typeViolations, hany, h, Demand.message, Violation.report]

theorem map_report_choiceViolations (types : List SchemaType) (choices : Option (List String)) :
    (choiceViolations types choices path v).map Violation.report =
      reportsAt path v (choices.toList.map fun texts => ⟨[], .choice texts⟩) := by
  rcases choices with _ | texts
  · rfl
  · have hany : texts.any (fun s => v.equal (.text s)) = decide ((Demand.choice texts).Met v) :=
      Value.any_equal_text texts v
    rw [Option.toList_some, List.map_singleton, reportsAt_self, choiceViolations, hany]
    by_cases h : (Demand.choice texts).Met v <;> simp [h, Demand.message, Violation.report]

/-- The keys of a mapping that are not known. -/
theorem extras_eq (known : List String) (entries : List (Value × Value)) :
    extras known entries =
      (Value.dict entries).keys.filter fun k => ¬∃ name ∈ known, k.text? = some name := by
  refine List.filter_congr fun k _ => ?_
  rw [Value.any_equal_text, decide_not]

theorem extras_eq_nil {known : List String} {entries : List (Value × Value)} :
    extras known entries = [] ↔ (Demand.closed known).Met (.dict entries) := by
  simp [extras_eq, List.filter_eq_nil_iff, Demand.Met]

theorem map_report_extraViolations (known : List String) (closed : Bool) :
    (extraViolations known closed path v).map Violation.report =
      reportsAt path v (if closed then [⟨[], .closed known⟩] else []) := by
  cases closed with
  | false => cases v <;> rfl
  | true =>
    rw [if_pos rfl, reportsAt_self]
    by_cases hv : ∃ entries, v = .dict entries
    · obtain ⟨entries, rfl⟩ := hv
      by_cases h : (Demand.closed known).Met (.dict entries)
      · simp [extraViolations, extras_eq_nil.mpr h, h]
      · have hne : extras known entries ≠ [] := mt extras_eq_nil.mp h
        rw [if_neg h, Demand.message, ← extras_eq]
        simp [extraViolations, hne, Violation.report]
    · have hkeys : v.keys = [] := by
        cases v <;> first | rfl | exact absurd ⟨_, rfl⟩ hv
      have hmet : (Demand.closed known).Met v := by
        simp [Demand.Met, hkeys]
      have hnone : extraViolations known true path v = [] := by
        cases v <;> first | rfl | exact absurd ⟨_, rfl⟩ hv
      rw [if_pos hmet, hnone, List.map_nil]

/-- The violations of an entry are those of its value; without the entry there are none. -/
theorem entryViolations_cons (name : String) (schema : Schema) (rest : List (String × Schema)) :
    entryViolations path v ((name, schema) :: rest) =
      (match v.entry? name with
        | some x => violationsAt (path ++ [name]) x schema
        | none => []) ++ entryViolations path v rest := by
  cases v <;> rfl

mutual

/-- The violations of a value are the requirements that it does not meet, in order. -/
theorem map_report_violationsAt (path : List String) (v : Value) : ∀ schema : Schema,
    (violationsAt path v schema).map Violation.report = reportsAt path v schema.requirements
  | .mk types choices entries closed => by
    simp only [violationsAt, requirements, List.map_append, reportsAt_append,
      map_report_typeViolations, map_report_choiceViolations, map_report_extraViolations,
      map_report_entryViolations path v entries]

theorem map_report_entryViolations (path : List String) (v : Value) :
    ∀ entries : List (String × Schema), (entryViolations path v entries).map Violation.report =
      reportsAt path v (entryRequirements entries)
  | [] => rfl
  | (name, schema) :: rest => by
    rw [entryViolations_cons, entryRequirements, List.map_append, reportsAt_append,
      map_report_entryViolations path v rest, reportsAt_under]
    congr 1
    rcases v.entry? name with _ | x
    · rfl
    · exact map_report_violationsAt (path ++ [name]) x schema

end

/-! ## Configurations -/

/-- The names of levels that a configuration may have, in lower or in upper case. -/
def levelNames : List String :=
  ["debug", "info", "warning", "error", "critical", "none"]

/-- What is asked of a configuration. -/
def configurationRequirements : List Requirement :=
  [⟨[], .type [.object]⟩,
    ⟨["version"], .type [.string]⟩,
    ⟨["version"], .choice ["1"]⟩,
    ⟨["features"], .type [.object]⟩,
    ⟨["features", "const_format"], .type [.boolean, .string]⟩,
    ⟨["features"], .closed ["const_format"]⟩,
    ⟨["output"], .type [.object]⟩,
    ⟨["output", "color"], .type [.string]⟩,
    ⟨["output", "color"], .choice ["auto", "always", "never"]⟩,
    ⟨["output"], .closed ["color"]⟩,
    ⟨["log_level"], .type [.string]⟩,
    ⟨["log_level"], .choice (levelNames ++ levelNames.map Text.upper)⟩,
    ⟨[], .closed ["version", "features", "output", "log_level"]⟩]

theorem requirements_configuration : configuration.requirements = configurationRequirements := by
  rfl

end Schema

/-- A mapping without other keys than the known ones. -/
structure Value.IsRecord (known : List String) (v : Value) : Prop where
  mapping : ∃ entries, v = .dict entries
  known : ∀ k ∈ v.keys, ∃ name ∈ known, k.text? = some name

/-- A mapping with no other entries than those of a configuration, each of which is what it has to
be if it is there. -/
structure Value.IsConfiguration (c : Value) : Prop where
  record : c.IsRecord ["version", "features", "output", "log_level"]
  version : ∀ v, c.entry? "version" = some v → v.text? = some "1"
  features : ∀ v, c.entry? "features" = some v → v.IsRecord ["const_format"] ∧
    ∀ x, v.entry? "const_format" = some x → (∃ b, x = .bool b) ∨ ∃ s, x.text? = some s
  output : ∀ v, c.entry? "output" = some v → v.IsRecord ["color"] ∧
    ∀ x, v.entry? "color" = some x → ∃ s ∈ ["auto", "always", "never"], x.text? = some s
  logLevel : ∀ v, c.entry? "log_level" = some v →
    ∃ s ∈ Schema.levelNames, v.text? = some s ∨ v.text? = some (Text.upper s)

namespace Schema

/-- A record is met by mappings without other keys whose entries meet what it asks of them. -/
theorem violationsAt_record_iff {schemas : List (String × Schema)} :
    violationsAt path v (record schemas) = [] ↔
      v.IsRecord (schemas.map Prod.fst) ∧
      ∀ e ∈ schemas, ∀ x, v.entry? e.1 = some x → violationsAt (path ++ [e.1]) x e.2 = [] := by
  rw [violationsAt_record]
  constructor
  · rintro ⟨entries, rfl, hknown, hentries⟩
    exact ⟨⟨⟨entries, rfl⟩, extras_eq_nil.mp hknown⟩, hentries⟩
  · rintro ⟨⟨⟨entries, rfl⟩, hknown⟩, hentries⟩
    exact ⟨entries, rfl, extras_eq_nil.mpr hknown, hentries⟩

theorem violationsAt_section {name : String} {schema : Schema} :
    violationsAt path v (record [(name, schema)]) = [] ↔
      v.IsRecord [name] ∧
      ∀ x, v.entry? name = some x → violationsAt (path ++ [name]) x schema = [] := by
  rw [violationsAt_record_iff, List.forall_mem_singleton]
  rfl

/-- The texts of levels are the names in lower and in upper case. -/
theorem exists_mem_levelNames_iff {v : Value} :
    (∃ s ∈ levelNames ++ levelNames.map Text.upper, v.text? = some s) ↔
      ∃ s ∈ levelNames, v.text? = some s ∨ v.text? = some (Text.upper s) := by
  simp only [List.mem_append, List.mem_map]
  grind

/-- A value has no violations if it is a configuration. -/
theorem violations_configuration_eq_nil {c : Value} :
    configuration.violations c = [] ↔ c.IsConfiguration := by
  have hlevels : ["debug", "info", "warning", "error", "critical", "none",
      "DEBUG", "INFO", "WARNING", "ERROR", "CRITICAL", "NONE"] =
        levelNames ++ levelNames.map Text.upper := rfl
  rw [violations, configuration, violationsAt_record_iff, hlevels]
  simp only [List.forall_mem_cons, violationsAt_section, violationsAt_choice, violationsAt_switch,
    exists_mem_levelNames_iff]
  constructor
  · rintro ⟨record, version, features, output, level, -⟩
    exact ⟨record, fun v hv => by simpa using version v hv, features, output, level⟩
  · rintro ⟨record, version, features, output, level⟩
    exact ⟨record, fun v hv => by simpa using version v hv, features, output, level,
      List.forall_mem_nil _⟩

theorem pathText_eq (x : Violation) : x.pathText = placeText x.path := by
  rcases h : x.path with _ | ⟨name, rest⟩ <;> simp [Violation.pathText, placeText, h]

/-- A number is neither a text nor one of some texts, and two keys that are not known are one
violation. -/
example :
    let c : Value := .dict [(.text "version", .int 1), (.text "a", .nothing), (.int 2, .nothing)]
    (configuration.violations c).map Violation.pathText = ["version", "version", "root"] := by
  decide +kernel

end Schema

end Sgr
