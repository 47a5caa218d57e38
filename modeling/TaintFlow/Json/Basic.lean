namespace TaintFlow

inductive Json where
  | null
  | bool (value : Bool)
  | natural (value : Nat)
  | decimal (text : String)
  | string (text : String)
  /-- A string whose escapes leave half of a surrogate pair alone, so that it denotes no text. -/
  | brokenString
  | array (items : List Json)
  | object (members : List (String × Json))
deriving Inhabited, Repr

namespace Json

def ofOption {α : Type} (encode : α → Json) : Option α → Json
  | none => .null
  | some a => encode a

def ofList {α : Type} (encode : α → Json) (as : List α) : Json :=
  .array (as.map encode)

def tagged (tag : String) (value : Json) : Json :=
  .object [(tag, value)]

end Json

end TaintFlow
