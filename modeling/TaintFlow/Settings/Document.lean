import TaintFlow.Settings.Basic
import TaintFlow.Yaml.Printer
import TaintFlow.Yaml.Record

namespace TaintFlow

namespace Attribution

def toValue (a : Attribution) : Yaml.Value := .string a.name

def ofNode? (d : Yaml.Document) (n : Yaml.Node) : Option Attribution := do
  let name ← d.variant? n
  [perSource, shared].find? (·.name == name)

end Attribution

namespace KnobPatch

open Yaml (Value)

def toValue (p : KnobPatch) : Value :=
  .record <| [
    p.maxStates.map fun n ↦ ("max_states", Value.natural n),
    p.timeoutMs.map fun n ↦ ("timeout_ms", Value.ofOption .natural n),
    p.fieldSensitive.map fun b ↦ ("field_sensitive", Value.bool b),
    p.contextSensitive.map fun b ↦ ("context_sensitive", Value.bool b),
    p.attribution.map fun a ↦ ("attribution", a.toValue),
    p.partialResults.map fun b ↦ ("partial_results", Value.bool b),
    p.maxFindings.map fun n ↦ ("max_findings", Value.natural n),
    p.parallel.map fun b ↦ ("parallel", Value.bool b),
    p.validatePaths.map fun b ↦ ("validate_paths", Value.bool b)].filterMap id

/-- Null is no change, except for the time limit, where it takes the limit away. -/
def ofNode? (d : Yaml.Document) (n : Yaml.Node) : Option KnobPatch := do
  let fields ← d.fields? Knobs.fieldNames n
  let setting {α : Type} (name : String) (decode : Yaml.Node → Option α) :=
    Yaml.Document.optional fields name none (d.nullable decode)
  let number := d.below? UInt64.size
  return {
    maxStates := ← setting "max_states" number
    timeoutMs := ← Yaml.Document.optional fields "timeout_ms" none fun value ↦
      (d.nullable number value).map some
    fieldSensitive := ← setting "field_sensitive" d.bool?
    contextSensitive := ← setting "context_sensitive" d.bool?
    attribution := ← setting "attribution" (Attribution.ofNode? d)
    partialResults := ← setting "partial_results" d.bool?
    maxFindings := ← setting "max_findings" number
    parallel := ← setting "parallel" d.bool?
    validatePaths := ← setting "validate_paths" d.bool? }

end KnobPatch

namespace NameOverrides

open Yaml (Value)

def toValue (o : NameOverrides) : Value :=
  .record (o.patterns.map (fun (name, pattern) ↦ (name, .string pattern)) ++
    o.methods.map fun (name, methods) ↦ (name, .list (methods.map .string)))

def ofNode? (d : Yaml.Document) (n : Yaml.Node) : Option NameOverrides := do
  let fields ← d.fields? (PatternSlot.all.map (·.name) ++ MethodSlot.all.map (·.name)) n
  let patterns ← PatternSlot.all.mapM fun slot ↦
    return (slot, ← Yaml.Document.optional fields slot.name none (d.nullable d.string?))
  let methods ← MethodSlot.all.mapM fun slot ↦
    return (slot, ← Yaml.Document.optional fields slot.name none
      (d.nullable (d.list? d.string?)))
  return ofSlots (fun slot ↦ (patterns.lookup slot).join)
    (fun slot ↦ (methods.lookup slot).join)

end NameOverrides

/-- What a settings file says, before it is applied to its preset. -/
structure SettingsFile where
  version : Option Nat
  preset : String
  rules : Option (List String)
  knobs : Option KnobPatch
  names : Option NameOverrides
deriving DecidableEq, Repr

namespace SettingsFile

open Yaml (Value)

def supportedVersions : List Nat := [1]

def overrides (f : SettingsFile) : List (String × Value) :=
  f.knobs.toList.map (fun p ↦ ("taint", p.toValue)) ++
    f.names.toList.map fun o ↦ ("heuristics", o.toValue)

def toValue (f : SettingsFile) : Value :=
  .record <| f.version.toList.map (fun n ↦ ("version", .natural n)) ++
    [("preset", .string f.preset)] ++
    f.rules.toList.map (fun names ↦ ("rules", .list (names.map .string))) ++
    if f.overrides.isEmpty then [] else [("overrides", .record f.overrides)]

def overridesOfNode? (d : Yaml.Document) (n : Yaml.Node) :
    Option (Option KnobPatch × Option NameOverrides) := do
  let fields ← d.fields? ["taint", "heuristics"] n
  let optional {α : Type} (name : String) (decode : Yaml.Node → Option α) :=
    Yaml.Document.optional fields name none (d.nullable decode)
  return (← optional "taint" (KnobPatch.ofNode? d),
    ← optional "heuristics" (NameOverrides.ofNode? d))

def ofDocument? (d : Yaml.Document) : Option SettingsFile := do
  let fields ← d.fields? ["version", "preset", "rules", "overrides"] (← d.root)
  let optional {α : Type} (name : String) (decode : Yaml.Node → Option α) :=
    Yaml.Document.optional fields name none (d.nullable decode)
  let overrides ← optional "overrides" (overridesOfNode? d)
  return {
    version := ← optional "version" (d.below? UInt32.size)
    preset := ← d.string? (← fields.lookup "preset")
    rules := ← optional "rules" (d.list? d.string?)
    knobs := overrides.bind (·.1)
    names := overrides.bind (·.2) }

/-- The settings that a file gives. The version is looked at first, then the preset, and then what
results. -/
def settings (f : SettingsFile) : Except SettingsError Settings := do
  let some version := f.version | throw .missingVersion
  unless supportedVersions.contains version do
    throw (.unsupportedVersion version supportedVersions)
  let preset ← Preset.ofName? f.preset
  let s := { Settings.ofPreset preset with rules := f.rules, names := f.names.getD {} }
  (s.patch (f.knobs.getD {})).build

end SettingsFile

namespace Settings

def toFile (s : Settings) : SettingsFile :=
  let patch := KnobPatch.between (.ofPreset s.preset) s.knobs
  { version := some 1
    preset := s.preset.name
    rules := s.rules
    knobs := if patch.isEmpty then none else some patch
    names := if s.names = {} then none else some s.names }

def toYaml (s : Settings) : String :=
  s.toFile.toValue.print

def ofDocument (d : Yaml.Document) : Except SettingsError Settings :=
  match SettingsFile.ofDocument? d with
  | some file => file.settings
  | none => .error (.malformedYaml "not a settings document")

def ofYaml (text : String) : Except SettingsError Settings :=
  match Yaml.Document.ofText? text with
  | some d => ofDocument d
  | none => .error (.malformedYaml "not a YAML document")

end Settings

end TaintFlow
