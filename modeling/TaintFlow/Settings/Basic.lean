import TaintFlow.Settings.KnobPatch
import TaintFlow.Settings.NameOverrides

namespace TaintFlow

structure Settings where
  preset : Preset
  knobs : Knobs
  names : NameOverrides := {}
  rules : Option (List String) := none
deriving DecidableEq, Repr

namespace Settings

def ofPreset (p : Preset) : Settings where
  preset := p
  knobs := .ofPreset p

instance : Inhabited Settings := ⟨ofPreset .balanced⟩

variable (s : Settings)

def patch (p : KnobPatch) : Settings :=
  { s with knobs := p.apply s.knobs }

/-- Refuses knobs out of range, and then names that cannot be used. -/
def validate : Except SettingsError Unit := do
  s.knobs.validate
  s.names.validate

def build : Except SettingsError Settings := do
  s.validate
  return s

def describe : String :=
  let timeout := (s.knobs.timeoutMs.map toString).getD "unlimited"
  s!"preset={s.preset} attribution={s.knobs.attribution.describe} " ++
    s!"field_sensitive={s.knobs.fieldSensitive} " ++
    s!"context_sensitive={s.knobs.contextSensitive} max_states={s.knobs.maxStates} " ++
    s!"timeout_ms={timeout}"

end Settings

end TaintFlow
