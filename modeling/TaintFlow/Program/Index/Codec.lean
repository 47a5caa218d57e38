import TaintFlow.Program.Codec
import TaintFlow.Program.Index

namespace TaintFlow

def UseRole.toJson : UseRole → Json
  | argument i => .array [.string "argument", .natural i]
  | receiver => .array [.string "receiver"]
  | assignedValue => .array [.string "assigned_value"]
  | storedValue f => .array [.string "stored_value", f.toJson]
  | storeBase => .array [.string "store_base"]
  | loadBase f => .array [.string "load_base", f.toJson]
  | hashValue f => .array [.string "hash_value", .ofOption FieldId.toJson f]
  | hashKey => .array [.string "hash_key"]
  | indexBase f => .array [.string "index_base", .ofOption FieldId.toJson f]
  | indexKey => .array [.string "index_key"]
  | operand => .array [.string "operand"]

def Use.toJson (u : Use) : Json :=
  .array [u.user.toJson, u.role.toJson]

def isOrdered {α : Type} [Ord α] (a b : α) : Bool :=
  (compare a b).isLE

def Grouping.toJson {κ ν : Type} [BEq κ] [Hashable κ] [Ord κ] (key : κ → Json) (value : ν → Json)
    (g : Grouping κ ν) : Json :=
  .ofList (fun k ↦ .array [key k, .ofList value (g.get k)]) (g.keys isOrdered)

namespace Index

def initializersToJson (i : Index) : Json :=
  .ofList (fun (e, v) ↦ .array [ExprId.toJson e, VarId.toJson v])
    (i.initializerOf.toList.mergeSort fun a b ↦ isOrdered a.1 b.1)

def toJson (i : Index) : Json :=
  .object [("callers", i.callers.toJson FunctionId.toJson ExprId.toJson),
    ("uses", i.uses.toJson ExprId.toJson Use.toJson),
    ("readers", i.readers.toJson Def.toJson ExprId.toJson),
    ("initializer_of", i.initializersToJson),
    ("returned_by", i.returnedBy.toJson ExprId.toJson FunctionId.toJson),
    ("post_updated", .ofList ExprId.toJson (i.postUpdated.toList.mergeSort isOrdered)),
    ("uninitialized", .ofList VarId.toJson (i.uninitialized.toList.mergeSort isOrdered)),
    ("written_fields", .ofList FieldId.toJson (i.writtenFields.toList.mergeSort isOrdered))]

end Index

end TaintFlow
