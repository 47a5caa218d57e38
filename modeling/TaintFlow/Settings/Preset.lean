import TaintFlow.Error

namespace TaintFlow

inductive Preset where
  | fast
  | balanced
  | thorough
  | custom
deriving DecidableEq, Repr, Inhabited

namespace Preset

def name : Preset → String
  | fast => "fast"
  | balanced => "balanced"
  | thorough => "thorough"
  | custom => "custom"

instance : ToString Preset := ⟨name⟩

def all : List Preset := [fast, balanced, thorough, custom]

/-- The preset of a name in any case. Folding ASCII letters is enough: outside ASCII only the
Kelvin sign has a lower case letter inside, and no preset has that letter. -/
def ofName? (name : String) : Except SettingsError Preset :=
  match all.find? (·.name == name.map Char.toLower) with
  | some preset => .ok preset
  | none => .error (.unknownPreset name)

end Preset

end TaintFlow
