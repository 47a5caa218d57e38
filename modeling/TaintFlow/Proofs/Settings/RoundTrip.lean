import TaintFlow.Proofs.Yaml.Value
import TaintFlow.Settings.Document

namespace TaintFlow

open Yaml (Document Node Value present)

variable {d : Document}

theorem Attribution.ofNode?_toValue (d : Document) (a : Attribution) :
    ofNode? d a.toValue.toNode = some a := by
  rw [ofNode?, toValue, Document.variant?_toNode]
  cases a <;> rfl

theorem Preset.ofName?_name (p : Preset) : ofName? p.name = .ok p := by
  have hlower : p.name.map Char.toLower = p.name := by
    rw [← String.toList_inj, String.toList_map]
    cases p <;> rfl
  rw [ofName?, hlower]
  cases p <;> rfl

theorem Knobs.lt_size_of_validate {k : Knobs} (h : k.validate = .ok ()) :
    k.maxStates < UInt64.size ∧ (∀ n ∈ k.timeoutMs, n < UInt64.size) ∧
      k.maxFindings < UInt64.size := by
  have hsize : 50000000 < UInt64.size := by decide
  unfold validate at h
  by_cases hstates : k.maxStates = 0 ∨ 50000000 < k.maxStates
  · rw [if_pos hstates] at h
    cases h
  rw [if_neg hstates] at h
  by_cases hfindings : k.maxFindings = 0 ∨ 1000000 < k.maxFindings
  · simp only [if_pos hfindings] at h
    split at h
    · split at h <;> cases h
    · cases h
  refine ⟨by omega, fun t ht ↦ ?_, by omega⟩
  have htime : k.timeoutMs = some t := ht
  by_cases hlate : 3600000 < t
  · simp only [htime, if_pos hlate] at h
    cases h
  · omega

namespace KnobPatch

variable {base k : Knobs} {p : KnobPatch}

theorem getD_changed {α : Type} [DecidableEq α] (old new : α) :
    (changed old new).getD old = new := by
  unfold changed
  split
  · assumption
  · rfl

theorem eq_of_mem_changed {α : Type} [DecidableEq α] {old new a : α} (h : a ∈ changed old new) :
    a = new := by
  unfold changed at h
  split at h
  · cases h
  · cases h
    rfl

theorem apply_between (base k : Knobs) : (between base k).apply base = k := by
  simp only [apply, between, getD_changed]

structure InRange (p : KnobPatch) : Prop where
  maxStates : ∀ n ∈ p.maxStates, n < UInt64.size
  timeoutMs : ∀ t ∈ p.timeoutMs, ∀ n ∈ t, n < UInt64.size
  maxFindings : ∀ n ∈ p.maxFindings, n < UInt64.size

theorem inRange_between (base : Knobs) (h : k.validate = .ok ()) : (between base k).InRange := by
  obtain ⟨hstates, htimeout, hfindings⟩ := Knobs.lt_size_of_validate h
  refine ⟨fun n hn ↦ ?_, fun t ht ↦ ?_, fun n hn ↦ ?_⟩
  · rwa [eq_of_mem_changed hn]
  · rwa [eq_of_mem_changed ht]
  · rwa [eq_of_mem_changed hn]

def table (p : KnobPatch) : List (String × Option Value) :=
  [("max_states", p.maxStates.map .natural),
    ("timeout_ms", p.timeoutMs.map (.ofOption .natural)),
    ("field_sensitive", p.fieldSensitive.map .bool),
    ("context_sensitive", p.contextSensitive.map .bool),
    ("attribution", p.attribution.map Attribution.toValue),
    ("partial_results", p.partialResults.map .bool),
    ("max_findings", p.maxFindings.map .natural),
    ("parallel", p.parallel.map .bool),
    ("validate_paths", p.validatePaths.map .bool)]

theorem toValue_eq_present (p : KnobPatch) : p.toValue = .record (present p.table) := by
  rw [toValue, Yaml.present_eq_filterMap_id, table]
  simp only [List.map_cons, List.map_nil, Option.map_map, Function.comp_def]

theorem toValue_ne_null (p : KnobPatch) : p.toValue ≠ .null := by
  rw [toValue_eq_present]
  nofun

theorem nullable_ofOption {t : Option Nat} (h : ∀ n ∈ t, n < UInt64.size) :
    d.nullable (d.below? UInt64.size) (Value.ofOption .natural t).toNode = some t := by
  cases t with
  | none => exact Document.nullable_null
  | some n =>
    have hnull : Value.natural n ≠ .null := nofun
    rw [Value.ofOption, Document.nullable_toNode hnull, Document.below?_toNode (h n rfl)]
    rfl

theorem ofNode?_toValue (h : p.InRange) : ofNode? d p.toValue.toNode = some p := by
  have hnames : p.table.map (·.1) = Knobs.fieldNames := rfl
  have hnodup : Knobs.fieldNames.Nodup := by decide
  have htable : (p.table.map (·.1)).Nodup := hnodup
  have hnumber {name : String} {a : Option Nat} (hmem : (name, a.map .natural) ∈ p.table)
      (ha : ∀ n ∈ a, n < UInt64.size) :=
    Document.optional_nullable_present (d := d) htable hmem nofun
      fun n hn ↦ Document.below?_toNode (d := d) (ha n hn)
  have hbool {name : String} {a : Option Bool} (hmem : (name, a.map .bool) ∈ p.table) :=
    Document.optional_nullable_present (d := d) htable hmem nofun
      fun b _ ↦ Document.bool?_toNode d b
  have hmember {name : String} {o : Option Value} (i : Nat) (hi : p.table[i]? = some (name, o)) :
      (name, o) ∈ p.table := List.mem_of_getElem? hi
  have hstates := hnumber (hmember 0 rfl) h.maxStates
  have htimeout : Document.optional (Yaml.presentNodes p.table) "timeout_ms" none
      (fun v ↦ (d.nullable (d.below? UInt64.size) v).map some) = some p.timeoutMs := by
    rw [Document.optional_present htable (hmember 1 rfl)]
    obtain htime | ⟨t, htime⟩ := Option.eq_none_or_eq_some p.timeoutMs
    · rw [htime]
      rfl
    · have hlimit := nullable_ofOption (d := d) (h.timeoutMs t htime)
      simp only [htime, Option.map_some, Option.getD_some, hlimit]
  have hfield := hbool (hmember 2 rfl)
  have hcontext := hbool (hmember 3 rfl)
  have hattribution := Document.optional_nullable_present (d := d) htable (hmember 4 rfl) nofun
    fun a _ ↦ Attribution.ofNode?_toValue d a
  have hpartial := hbool (hmember 5 rfl)
  have hfindings := hnumber (hmember 6 rfl) h.maxFindings
  have hparallel := hbool (hmember 7 rfl)
  have hvalidate := hbool (hmember 8 rfl)
  rw [ofNode?, toValue_eq_present, Document.fields?_present hnames hnodup]
  simp only [Option.bind_eq_bind, Option.bind_some, hstates, htimeout, hfield, hcontext,
    hattribution, hpartial, hfindings, hparallel, hvalidate]
  rfl

end KnobPatch

namespace NameOverrides

def table (o : NameOverrides) : List (String × Option Value) :=
  PatternSlot.all.map (fun slot ↦ (slot.name, (o.pattern? slot).map .string)) ++
    MethodSlot.all.map fun slot ↦
      (slot.name, (o.methods? slot).map fun names ↦ .list (names.map .string))

theorem toValue_eq_present (o : NameOverrides) : o.toValue = .record (present o.table) := by
  rw [toValue, present, table, patterns, methods, List.filterMap_append, List.filterMap_map,
    List.filterMap_map, List.map_filterMap, List.map_filterMap]
  simp only [Function.comp_def, Option.map_map]

theorem toValue_ne_null (o : NameOverrides) : o.toValue ≠ .null := by
  rw [toValue_eq_present]
  nofun

theorem ofNode?_toValue (d : Document) (o : NameOverrides) :
    ofNode? d o.toValue.toNode = some o := by
  have hnames : o.table.map (·.1) = PatternSlot.all.map (·.name) ++ MethodSlot.all.map (·.name) :=
    rfl
  have hnodup : (PatternSlot.all.map (·.name) ++ MethodSlot.all.map (·.name)).Nodup := by decide
  have htable : (o.table.map (·.1)).Nodup := hnodup
  have hpattern (slot : PatternSlot) (hslot : slot ∈ PatternSlot.all) :
      Document.optional (Yaml.presentNodes o.table) slot.name none (d.nullable d.string?) =
        some (o.pattern? slot) := by
    apply Document.optional_nullable_present htable _ nofun fun s _ ↦ Document.string?_toNode d s
    exact List.mem_append_left _ (List.mem_map_of_mem hslot)
  have hmethods (slot : MethodSlot) (hslot : slot ∈ MethodSlot.all) :
      Document.optional (Yaml.presentNodes o.table) slot.name none
        (d.nullable (d.list? d.string?)) = some (o.methods? slot) := by
    apply Document.optional_nullable_present htable _ nofun
      fun names _ ↦ Document.list?_string_toNode d names
    exact List.mem_append_right _ (List.mem_map_of_mem hslot)
  have hpatterns := Yaml.mapM_of_forall fun slot hslot ↦
    congrArg (Option.map (slot, ·)) (hpattern slot hslot)
  have hlists := Yaml.mapM_of_forall fun slot hslot ↦
    congrArg (Option.map (slot, ·)) (hmethods slot hslot)
  simp only [Option.map_eq_bind, Function.comp_def] at hpatterns hlists
  rw [ofNode?, toValue_eq_present, Document.fields?_present hnames hnodup]
  simp only [Option.bind_eq_bind, Option.bind_some, Option.pure_def, hpatterns, hlists]
  rfl

end NameOverrides

namespace SettingsFile

variable {f : SettingsFile}

structure InRange (f : SettingsFile) : Prop where
  version : ∀ n ∈ f.version, n < UInt32.size
  knobs : ∀ p ∈ f.knobs, p.InRange

def overridesTable (f : SettingsFile) : List (String × Option Value) :=
  [("taint", f.knobs.map KnobPatch.toValue), ("heuristics", f.names.map NameOverrides.toValue)]

theorem overrides_eq_present (f : SettingsFile) : f.overrides = present f.overridesTable := by
  obtain ⟨_, _, _, _ | p, _ | o⟩ := f <;> rfl

theorem overridesOfNode?_overrides (h : ∀ p ∈ f.knobs, p.InRange) :
    overridesOfNode? d (Value.record f.overrides).toNode = some (f.knobs, f.names) := by
  have hnames : f.overridesTable.map (·.1) = ["taint", "heuristics"] := rfl
  have hnodup : ["taint", "heuristics"].Nodup := by decide
  have htable : (f.overridesTable.map (·.1)).Nodup := hnodup
  have hmember {name : String} {o : Option Value} (i : Nat)
      (hi : f.overridesTable[i]? = some (name, o)) : (name, o) ∈ f.overridesTable :=
    List.mem_of_getElem? hi
  have hknobs := Document.optional_nullable_present (d := d) htable (hmember 0 rfl)
    KnobPatch.toValue_ne_null fun p hp ↦ KnobPatch.ofNode?_toValue (d := d) (h p hp)
  have hoverrides := Document.optional_nullable_present (d := d) htable (hmember 1 rfl)
    NameOverrides.toValue_ne_null fun o _ ↦ NameOverrides.ofNode?_toValue d o
  rw [overridesOfNode?, overrides_eq_present, Document.fields?_present hnames hnodup]
  simp only [Option.bind_eq_bind, Option.bind_some, hknobs, hoverrides, Option.pure_def]

def table (f : SettingsFile) : List (String × Option Value) :=
  [("version", f.version.map .natural), ("preset", some (.string f.preset)),
    ("rules", f.rules.map fun names ↦ .list (names.map .string)),
    ("overrides", if f.overrides.isEmpty then none else some (.record f.overrides))]

theorem map_fst_table (f : SettingsFile) :
    f.table.map (·.1) = ["version", "preset", "rules", "overrides"] := rfl

theorem nodup_table (f : SettingsFile) : (f.table.map (·.1)).Nodup := by
  rw [map_fst_table]
  decide

theorem toValue_eq_present (f : SettingsFile) : f.toValue = .record (present f.table) := by
  rw [toValue, table]
  cases f.version <;> cases f.rules <;> cases f.overrides.isEmpty <;> rfl

theorem exists_overrides (h : ∀ p ∈ f.knobs, p.InRange) :
    ∃ o, Document.optional (Yaml.presentNodes f.table) "overrides" none
      (d.nullable (overridesOfNode? d)) = some o ∧ o.bind (·.1) = f.knobs ∧
        o.bind (·.2) = f.names := by
  have htable : (f.table.map (·.1)).Nodup := nodup_table f
  have hmem := List.mem_of_getElem? (show f.table[3]? = some _ from rfl)
  rw [Document.optional_present htable hmem]
  by_cases hempty : f.overrides.isEmpty
  · rw [if_pos hempty]
    obtain ⟨_, _, _, _ | p, _ | o⟩ := f <;> simp [overrides] at hempty
    exact ⟨none, rfl, rfl, rfl⟩
  · have hnull : Value.record f.overrides ≠ .null := nofun
    refine ⟨some (f.knobs, f.names), ?_, rfl, rfl⟩
    rw [if_neg hempty, Option.map_some, Option.getD_some, Document.nullable_toNode hnull,
      overridesOfNode?_overrides h, Option.map_some]

theorem ofDocument?_toValue (h : f.InRange) : ofDocument? ⟨some f.toValue.toNode⟩ = some f := by
  have htable : (f.table.map (·.1)).Nodup := nodup_table f
  have hmember {name : String} {o : Option Value} (i : Nat)
      (hi : f.table[i]? = some (name, o)) : (name, o) ∈ f.table := List.mem_of_getElem? hi
  generalize hd : (⟨some f.toValue.toNode⟩ : Document) = d
  have hroot : d.root = some (Value.record (present f.table)).toNode := by
    rw [← hd, toValue_eq_present]
  have hversion := Document.optional_nullable_present (d := d) htable (hmember 0 rfl) nofun
    fun n hn ↦ Document.below?_toNode (d := d) (h.version n hn)
  have hpreset := Yaml.lookup_presentNodes htable (hmember 1 rfl)
  have hrules := Document.optional_nullable_present (d := d) htable (hmember 2 rfl) nofun
    fun names _ ↦ Document.list?_string_toNode d names
  obtain ⟨o, hoverrides, hknobs, hnames⟩ := exists_overrides (d := d) h.knobs
  have hfields := Document.fields?_present (d := d) (map_fst_table f) (nodup_table f)
  rw [ofDocument?, hroot]
  simp only [Option.bind_eq_bind, Option.bind_some]
  rw [hfields]
  simp only [Option.bind_some, hoverrides, hversion, hpreset, hrules, hknobs, hnames,
    Option.map_some, Document.string?_toNode]
  rfl

end SettingsFile

namespace Settings

variable {s : Settings}

theorem validate_knobs (h : s.validate = .ok ()) : s.knobs.validate = .ok () := by
  unfold validate at h
  cases hk : s.knobs.validate with
  | ok u => rfl
  | error e =>
    rw [hk] at h
    cases h

theorem toFile_inRange (h : s.validate = .ok ()) : s.toFile.InRange := by
  refine ⟨fun n hn ↦ ?_, fun p hp ↦ ?_⟩
  · cases hn
    decide
  · have hpatch : p ∈ if (KnobPatch.between (.ofPreset s.preset) s.knobs).isEmpty then none
        else some (KnobPatch.between (.ofPreset s.preset) s.knobs) := hp
    split at hpatch
    · cases hpatch
    · cases hpatch
      exact KnobPatch.inRange_between _ (validate_knobs h)

theorem apply_toFile_knobs (s : Settings) :
    (s.toFile.knobs.getD {}).apply (.ofPreset s.preset) = s.knobs := by
  have happly := KnobPatch.apply_between (.ofPreset s.preset) s.knobs
  by_cases hempty : (KnobPatch.between (.ofPreset s.preset) s.knobs).isEmpty
  · have hpatch : KnobPatch.between (.ofPreset s.preset) s.knobs = {} := by
      simpa [KnobPatch.isEmpty] using hempty
    rw [hpatch] at happly
    simpa [toFile, hempty] using happly
  · simpa [toFile, hempty] using happly

theorem toFile_names_getD (s : Settings) : s.toFile.names.getD {} = s.names := by
  by_cases h : s.names = {}
  · simp [toFile, h]
  · simp [toFile, h]

/-- The file of valid settings gives the settings. -/
theorem settings_toFile (h : s.validate = .ok ()) : s.toFile.settings = .ok s := by
  have hversion : s.toFile.version = some 1 := rfl
  have hsupported : SettingsFile.supportedVersions.contains 1 = true := rfl
  have hrules : s.toFile.rules = s.rules := rfl
  have hpreset : Preset.ofName? s.toFile.preset = .ok s.preset := Preset.ofName?_name s.preset
  have hbuild : s.build = .ok s := by
    rw [build, h]
    rfl
  have hsame : { preset := s.preset, knobs := (s.toFile.knobs.getD {}).apply (.ofPreset s.preset)
                 names := s.names, rules := s.rules } = s := by
    rw [apply_toFile_knobs]
  unfold SettingsFile.settings
  simp only [hversion, hsupported, hpreset, hrules, toFile_names_getD, patch, ofPreset, if_true]
  rw [← hbuild]
  exact congrArg build hsame

theorem ofDocument_toFile (h : s.validate = .ok ()) :
    ofDocument ⟨some s.toFile.toValue.toNode⟩ = .ok s := by
  rw [ofDocument, SettingsFile.ofDocument?_toValue (toFile_inRange h)]
  exact settings_toFile h

/-- Valid settings are read back from the text they are written as, if YAML reads back the value
that is written. -/
theorem ofYaml_toYaml (s : Settings) (hvalid : s.validate = .ok ())
    (hyaml : s.toFile.toValue.ReadsBack) : ofYaml s.toYaml = .ok s := by
  have hread : Document.ofText? s.toYaml = some ⟨some s.toFile.toValue.toNode⟩ := hyaml
  rw [ofYaml, hread]
  exact ofDocument_toFile hvalid

def unlimited : Settings where
  preset := .thorough
  knobs := { Knobs.ofPreset .thorough with timeoutMs := none }
  names := { log := some ["true"] }
  rules := some []

def unlimitedTokens : List Yaml.Token :=
  [.blockMapping, .key, .scalar .plain "version", .value, .scalar .plain "1",
    .key, .scalar .plain "preset", .value, .scalar .plain "thorough",
    .key, .scalar .plain "rules", .value, .flowSequence, .flowSequenceEnd,
    .key, .scalar .plain "overrides", .value,
    .blockMapping, .key, .scalar .plain "taint", .value,
    .blockMapping, .key, .scalar .plain "timeout_ms", .value, .scalar .plain "null", .blockEnd,
    .key, .scalar .plain "heuristics", .value,
    .blockMapping, .key, .scalar .plain "log_methods", .value,
    .item, .scalar .singleQuoted "true", .blockEnd, .blockEnd, .blockEnd]

theorem ofText?_unlimited : Yaml.Token.ofText? unlimited.toYaml = some unlimitedTokens := by
  decide +kernel

set_option maxRecDepth 4000 in
theorem ofTokens?_unlimited :
    Document.ofTokens? unlimitedTokens = some ⟨some unlimited.toFile.toValue.toNode⟩ := by
  with_unfolding_all rfl

theorem readsBack_unlimited : unlimited.toFile.toValue.ReadsBack := by
  have htokens : Yaml.Token.ofText? unlimited.toFile.toValue.print = some unlimitedTokens :=
    ofText?_unlimited
  rw [Value.ReadsBack, Document.ofText?, htokens]
  exact ofTokens?_unlimited

theorem ofYaml_toYaml_unlimited :
    unlimited.validate = .ok () ∧ ofYaml unlimited.toYaml = .ok unlimited := by
  have hvalid : unlimited.validate = .ok () := rfl
  exact ⟨hvalid, ofYaml_toYaml unlimited hvalid readsBack_unlimited⟩

end Settings

end TaintFlow
