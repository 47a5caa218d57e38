import TaintFlow.Yaml.Document
import TaintFlow.Yaml.Plain

namespace TaintFlow.Yaml

def coreTag (name : String) : String := "tag:yaml.org,2002:" ++ name

namespace NodeProps

/-- Whether a scalar of that style may stand for a value of the type `name`: a plain scalar, or a
literal one with the tag of the type. -/
def permits (p : NodeProps) (style : ScalarStyle) (name : String) : Bool :=
  style = .plain || (style = .literal && p.tag = some (coreTag name))

end NodeProps

namespace Document

variable {α : Type} (d : Document)

def string? (n : Node) : Option String := do
  match ← d.follow n with
  | .scalar _ _ text => return text
  | _ => none

def bool? (n : Node) : Option Bool := do
  match ← d.follow n with
  | .scalar p style text => if p.permits style "bool" then Plain.bool? text else none
  | _ => none

def below? (bound : Nat) (n : Node) : Option Nat := do
  match ← d.follow n with
  | .scalar p style text =>
    if p.permits style "int" then (Plain.natural? text).filter (· < bound) else none
  | _ => none

/-- A value or nothing, which is what an empty plain scalar and those that say null mean. With the
tag of null a scalar has to say it. -/
def nullable (decode : Node → Option α) (n : Node) : Option (Option α) := do
  match ← d.follow n with
  | .scalar p .plain text =>
    if p.tag.isNone then
      if text.isEmpty || Plain.isNull text then return none
    else if p.tag = some (coreTag "null") then
      if Plain.isNull text then return none else failure
  | _ => pure ()
  return some (← decode n)

def isBlank : Node → Bool
  | .scalar _ .plain "" => true
  | _ => false

def list? (decode : Node → Option α) (n : Node) : Option (List α) := do
  let n ← d.follow n
  match n with
  | .sequence _ items => items.mapM decode
  | _ => if isBlank n then some [] else none

def fields? (names : List String) (n : Node) : Option (List (String × Node)) := do
  let n ← d.follow n
  match n with
  | .mapping _ entries =>
    let fields ← entries.mapM fun (k, v) ↦ return (← d.string? k, v)
    guard (fields.all fun (name, _) ↦ names.contains name)
    guard ((fields.map (·.1)).eraseDups.length = fields.length)
    return fields
  | _ => if isBlank n then some [] else none

def optional (fields : List (String × Node)) (name : String) (absent : α)
    (decode : Node → Option α) : Option α :=
  match fields.lookup name with
  | none => some absent
  | some n => decode n

def isPlainNull (style : ScalarStyle) (text : String) : Bool :=
  style = .plain && (text.isEmpty || Plain.isNull text)

/-- The name of an alternative without a value: a scalar, or a tag of one exclamation mark and that
name on a scalar that says nothing. -/
def variant? (n : Node) : Option String := do
  let n ← d.follow n
  match n with
  | .scalar p style text =>
    match p.tag.map String.toList with
    | some ('!' :: name) =>
      if isPlainNull style text then return String.ofList name else none
    | _ => return text
  | _ => none

end Document

end TaintFlow.Yaml
