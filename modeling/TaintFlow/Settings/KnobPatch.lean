import TaintFlow.Settings.Knobs

namespace TaintFlow

structure KnobPatch where
  maxStates : Option Nat := none
  /-- A change to no limit is `some none`. -/
  timeoutMs : Option (Option Nat) := none
  fieldSensitive : Option Bool := none
  contextSensitive : Option Bool := none
  attribution : Option Attribution := none
  partialResults : Option Bool := none
  maxFindings : Option Nat := none
  parallel : Option Bool := none
  validatePaths : Option Bool := none
deriving DecidableEq, Repr

namespace KnobPatch

def apply (p : KnobPatch) (base : Knobs) : Knobs where
  maxStates := p.maxStates.getD base.maxStates
  timeoutMs := p.timeoutMs.getD base.timeoutMs
  fieldSensitive := p.fieldSensitive.getD base.fieldSensitive
  contextSensitive := p.contextSensitive.getD base.contextSensitive
  attribution := p.attribution.getD base.attribution
  partialResults := p.partialResults.getD base.partialResults
  maxFindings := p.maxFindings.getD base.maxFindings
  parallel := p.parallel.getD base.parallel
  validatePaths := p.validatePaths.getD base.validatePaths

def changed {α : Type} [DecidableEq α] (old new : α) : Option α :=
  if old = new then none else some new

def between (base k : Knobs) : KnobPatch where
  maxStates := changed base.maxStates k.maxStates
  timeoutMs := changed base.timeoutMs k.timeoutMs
  fieldSensitive := changed base.fieldSensitive k.fieldSensitive
  contextSensitive := changed base.contextSensitive k.contextSensitive
  attribution := changed base.attribution k.attribution
  partialResults := changed base.partialResults k.partialResults
  maxFindings := changed base.maxFindings k.maxFindings
  parallel := changed base.parallel k.parallel
  validatePaths := changed base.validatePaths k.validatePaths

def isEmpty (p : KnobPatch) : Bool :=
  p = {}

def toJson (p : KnobPatch) : Json :=
  .object <| [
    p.maxStates.map fun n ↦ ("max_states", Json.natural n),
    p.timeoutMs.map fun n ↦ ("timeout_ms", Json.ofOption .natural n),
    p.fieldSensitive.map fun b ↦ ("field_sensitive", Json.bool b),
    p.contextSensitive.map fun b ↦ ("context_sensitive", Json.bool b),
    p.attribution.map fun a ↦ ("attribution", a.toJson),
    p.partialResults.map fun b ↦ ("partial_results", Json.bool b),
    p.maxFindings.map fun n ↦ ("max_findings", Json.natural n),
    p.parallel.map fun b ↦ ("parallel", Json.bool b),
    p.validatePaths.map fun b ↦ ("validate_paths", Json.bool b)].filterMap id

def ofJson? (j : Json) : Option KnobPatch := do
  let fields ← j.fields? Knobs.fieldNames true
  let setting {α : Type} (name : String) (decode : Json → Option α) :=
    fields.optional name none (Json.nullable decode)
  return {
    maxStates := ← setting "max_states" Knobs.number?
    timeoutMs := ← fields.optional "timeout_ms" none fun value ↦
      (Json.nullable Knobs.number? value).map some
    fieldSensitive := ← setting "field_sensitive" Json.bool?
    contextSensitive := ← setting "context_sensitive" Json.bool?
    attribution := ← setting "attribution" Attribution.ofJson?
    partialResults := ← setting "partial_results" Json.bool?
    maxFindings := ← setting "max_findings" Knobs.number?
    parallel := ← setting "parallel" Json.bool?
    validatePaths := ← setting "validate_paths" Json.bool? }

end KnobPatch

end TaintFlow
