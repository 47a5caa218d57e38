import TaintFlow.Json.Basic

namespace TaintFlow.Json

/-- The fields that a record's text gives. `positional` is set when it is written as an array. -/
structure Fields where
  entries : List (String × Json)
  positional : Bool

/-- The fields of a record with fields `names`. A name given twice is refused, and so are a name
not in `names` if the record is closed, and an array with too many items. -/
def fields? (names : List String) (closed : Bool) : Json → Option Fields
  | .object members =>
    let known := members.filter fun (name, _) ↦ names.contains name
    if closed && known.length != members.length then none
    else if (known.map (·.1)).eraseDups.length != known.length then none
    else some ⟨known, false⟩
  | .array items => if items.length ≤ names.length then some ⟨names.zip items, true⟩ else none
  | _ => none

namespace Fields

variable {α : Type}

def get? (fields : Fields) (name : String) : Option Json :=
  (fields.entries.find? (·.1 == name)).map (·.2)

def required (fields : Fields) (name : String) (decode : Json → Option α) : Option α :=
  fields.get? name >>= decode

def optional (fields : Fields) (name : String) (absent : α) (decode : Json → Option α) :
    Option α :=
  match fields.get? name with
  | none => some absent
  | some value => decode value

end Fields

variable {α : Type}

def nullable (decode : Json → Option α) : Json → Option (Option α)
  | .null => some none
  | value => (decode value).map some

/-- A field that may be null, and may be left out of an object but not of an array. -/
def Fields.nullable (fields : Fields) (name : String) (decode : Json → Option α) :
    Option (Option α) :=
  match fields.get? name with
  | none => if fields.positional then none else some none
  | some value => Json.nullable decode value

def list? (decode : Json → Option α) : Json → Option (List α)
  | .array items => items.mapM decode
  | _ => none

def pair? {β : Type} (first : Json → Option α) (second : Json → Option β) :
    Json → Option (α × β)
  | .array [a, b] => return (← first a, ← second b)
  | _ => none

def string? : Json → Option String
  | .string s => some s
  | _ => none

def bool? : Json → Option Bool
  | .bool b => some b
  | _ => none

def below? (bound : Nat) : Json → Option Nat
  | .natural n => if n < bound then some n else none
  | _ => none

def uint32? (value : Json) : Option UInt32 :=
  (below? UInt32.size value).map UInt32.ofNat

def uint64? (value : Json) : Option UInt64 :=
  (below? UInt64.size value).map UInt64.ofNat

def variant? : Json → Option (String × Option Json)
  | .string tag => some (tag, none)
  | .object [(tag, value)] => some (tag, some value)
  | _ => none

def plain? (result : α) : Option Json → Option α
  | none => some result
  | some .null => some result
  | some _ => none

end TaintFlow.Json
