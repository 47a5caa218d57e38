import TaintFlow.Taint.Rule
import TaintFlow.Error
import TaintFlow.Text.Quoted

namespace TaintFlow

structure Registry where
  rules : List Rule := []

namespace Registry

variable (reg : Registry)

def find? (name : String) : Option Rule :=
  reg.rules.find? (·.name == name)

def names : List String :=
  reg.rules.map (·.name)

def register (r : Rule) : Except SettingsError Registry :=
  if (reg.find? r.name).isSome then .error (.duplicateRule r.name)
  else .ok ⟨reg.rules ++ [r]⟩

/-- The rules of the given names, in that order; the first unknown name is an error. -/
def select (names : List String) : Except SettingsError (List Rule) :=
  names.mapM fun name ↦
    match reg.find? name with
    | some r => .ok r
    | none => .error (.unknownRuleAmong name reg.names)

def describe : String :=
  Text.quotedList reg.names

end Registry

end TaintFlow
