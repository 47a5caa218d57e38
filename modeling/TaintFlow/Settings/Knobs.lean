import TaintFlow.Settings.Preset
import TaintFlow.Json.Record

namespace TaintFlow

inductive Attribution where
  | perSource
  /-- One pass for all sources: what is reached belongs to the source that reaches it first. -/
  | shared
deriving DecidableEq, Repr, Inhabited

def Attribution.describe : Attribution → String
  | perSource => "PerSource"
  | shared => "Shared"

namespace Attribution

def name : Attribution → String
  | perSource => "per_source"
  | shared => "shared"

def toJson (a : Attribution) : Json := .string a.name

def ofJson? (j : Json) : Option Attribution := do
  match ← j.variant? with
  | ("per_source", payload) => Json.plain? perSource payload
  | ("shared", payload) => Json.plain? shared payload
  | _ => none

end Attribution

structure Knobs where
  maxStates : Nat
  timeoutMs : Option Nat
  fieldSensitive : Bool
  /-- Return only to the call that was entered. -/
  contextSensitive : Bool
  attribution : Attribution
  partialResults : Bool
  maxFindings : Nat
  parallel : Bool
  validatePaths : Bool
deriving DecidableEq, Repr

namespace Knobs

def ofPreset : Preset → Knobs
  | .fast => {
      maxStates := 100000, timeoutMs := some 5000, fieldSensitive := false,
      contextSensitive := false, attribution := .shared, partialResults := true,
      maxFindings := 1000, parallel := true, validatePaths := false }
  | .balanced | .custom => {
      maxStates := 1000000, timeoutMs := some 30000, fieldSensitive := true,
      contextSensitive := true, attribution := .perSource, partialResults := true,
      maxFindings := 10000, parallel := true, validatePaths := true }
  | .thorough => {
      maxStates := 10000000, timeoutMs := some 300000, fieldSensitive := true,
      contextSensitive := true, attribution := .perSource, partialResults := false,
      maxFindings := 100000, parallel := true, validatePaths := true }

instance : Inhabited Knobs := ⟨ofPreset .balanced⟩

def outOfRange (field : String) (value min max : Nat) (hint : String) : SettingsError :=
  .range field (toString value) (toString min) (toString max) hint

/-- Refuses the first budget that is out of range, in the order states, time, findings. -/
def validate (k : Knobs) : Except SettingsError Unit := do
  if k.maxStates = 0 ∨ 50000000 < k.maxStates then
    throw (outOfRange "max_states" k.maxStates 1 50000000
      "A pass needs room for at least its sources")
  if let some timeout := k.timeoutMs then
    if 3600000 < timeout then
      throw (outOfRange "timeout_ms" timeout 0 3600000 "Use null for an unlimited deadline")
  if k.maxFindings = 0 ∨ 1000000 < k.maxFindings then
    throw (outOfRange "max_findings" k.maxFindings 1 1000000 "Findings per rule must be bounded")

theorem maxStates_le_of_validate {k : Knobs} (h : k.validate = .ok ()) :
    k.maxStates ≤ 50000000 := by
  unfold validate at h
  by_cases hstates : k.maxStates = 0 ∨ 50000000 < k.maxStates
  · rw [if_pos hstates] at h
    cases h
  · omega

def fieldNames : List String :=
  ["max_states", "timeout_ms", "field_sensitive", "context_sensitive", "attribution",
    "partial_results", "max_findings", "parallel", "validate_paths"]

def toJson (k : Knobs) : Json :=
  .object [("max_states", .natural k.maxStates), ("timeout_ms", .ofOption .natural k.timeoutMs),
    ("field_sensitive", .bool k.fieldSensitive), ("context_sensitive", .bool k.contextSensitive),
    ("attribution", k.attribution.toJson), ("partial_results", .bool k.partialResults),
    ("max_findings", .natural k.maxFindings), ("parallel", .bool k.parallel),
    ("validate_paths", .bool k.validatePaths)]

def number? : Json → Option Nat := Json.below? UInt64.size

def ofJson? (j : Json) : Option Knobs := do
  let fields ← j.fields? fieldNames false
  let base := ofPreset .balanced
  return {
    maxStates := ← fields.optional "max_states" base.maxStates number?
    timeoutMs := ← fields.optional "timeout_ms" base.timeoutMs (Json.nullable number?)
    fieldSensitive := ← fields.optional "field_sensitive" base.fieldSensitive Json.bool?
    contextSensitive := ← fields.optional "context_sensitive" base.contextSensitive Json.bool?
    attribution := ← fields.optional "attribution" base.attribution Attribution.ofJson?
    partialResults := ← fields.optional "partial_results" base.partialResults Json.bool?
    maxFindings := ← fields.optional "max_findings" base.maxFindings number?
    parallel := ← fields.optional "parallel" base.parallel Json.bool?
    validatePaths := ← fields.optional "validate_paths" base.validatePaths Json.bool? }

end Knobs

end TaintFlow
