import TaintFlow.Text.Distance

namespace TaintFlow

inductive SettingsError where
  | range (field value min max hint : String)
  | missingVersion
  | unsupportedVersion (found : Nat) (supported : List Nat)
  | unknownPreset (name : String)
  | invalidPattern (name pattern reason : String)
  | duplicateRule (name : String)
  | unknownRule (name suggestion : String)
  | unreadableFile (reason : String)
  | malformedYaml (reason : String)
  | invalid (reason : String)
deriving DecidableEq, Repr

namespace SettingsError

def message : SettingsError → String
  | range field value min max hint =>
    s!"Invalid range for field '{field}': {value} not in {min}..={max}. {hint}"
  | missingVersion => "Missing 'version' field in configuration file. " ++
    "Add 'version: 1' to the top of your YAML file."
  | unsupportedVersion found supported =>
    s!"Unsupported configuration version {found}. Supported versions: " ++
      ", ".intercalate (supported.map toString)
  | unknownPreset name =>
    s!"Unknown preset '{name}'. Valid presets: fast, balanced, thorough, custom"
  | invalidPattern name pattern reason => s!"Invalid pattern for '{name}' ({pattern}): {reason}"
  | duplicateRule name =>
    s!"Duplicate rule name '{name}'. Rule names are isolation keys and must be unique"
  | unknownRule name suggestion => s!"Unknown rule '{name}'. {suggestion}"
  | unreadableFile reason => s!"IO error: {reason}"
  | malformedYaml reason => s!"YAML parsing error: {reason}"
  | invalid reason => s!"Validation error: {reason}"

/-- The error for a rule that is not registered. It suggests the registered name nearest to the
one given. -/
def unknownRuleAmong (name : String) (registered : List String) : SettingsError :=
  .unknownRule name <| match Text.nearest? name registered with
    | some closest => s!"Did you mean '{closest}'?"
    | none => "No rules are registered"

end SettingsError

inductive Interruption where
  | timeout (elapsedMs limitMs : Nat)
  | cancelled
  | stateLimit (limit : Nat)
deriving DecidableEq, Repr

inductive TaintError where
  | invalidGraph (detail : String)
  | configuration (rule message : String)
  | invariantViolation (detail : String)
  | interrupted (rule : String) (cause : Interruption)
  | settings (error : SettingsError)
  | unreadableFile (reason : String)
  | malformedJson (reason : String)
deriving DecidableEq, Repr

namespace TaintError

def message : TaintError → String
  | invalidGraph detail => s!"Invalid program graph: {detail}"
  | configuration rule message => s!"Configuration error in rule '{rule}': {message}"
  | invariantViolation detail => s!"Internal invariant violation: {detail}"
  | interrupted rule (.timeout elapsed limit) =>
    s!"Rule '{rule}' timed out after {elapsed}ms (limit: {limit}ms)"
  | interrupted rule .cancelled => s!"Rule '{rule}' was cancelled"
  | interrupted rule (.stateLimit limit) =>
    s!"Rule '{rule}' exceeded the propagation state limit ({limit})"
  | settings error => error.message
  | unreadableFile reason => s!"IO error: {reason}"
  | malformedJson reason => s!"JSON error: {reason}"

def isInterruption : TaintError → Bool
  | interrupted _ _ => true
  | _ => false

end TaintError

end TaintFlow
