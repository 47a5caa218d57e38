import TaintFlow.Program.Codec

namespace TaintFlow

/-- A value at a point of the program. -/
inductive FlowNode where
  | expr (e : ExprId)
  | param (v : VarId)
  /-- The value of a variable read before it is given one. -/
  | uninitialized (v : VarId)
  /-- The value of an expression after a call or a store has changed it. -/
  | postUpdate (e : ExprId)
  | returned (f : FunctionId)
deriving DecidableEq, Hashable, Ord, Repr

namespace FlowNode

def expr? : FlowNode → Option ExprId
  | expr e => some e
  | _ => none

instance : ToString FlowNode where
  toString
    | expr e => toString e
    | param v => s!"param({v})"
    | uninitialized v => s!"uninit({v})"
    | postUpdate e => s!"post({e})"
    | returned f => s!"return({f})"

def toJson : FlowNode → Json
  | expr e => .tagged "expr" e.toJson
  | param v => .tagged "param" v.toJson
  | uninitialized v => .tagged "uninitialized" v.toJson
  | postUpdate e => .tagged "post_update" e.toJson
  | returned f => .tagged "return" f.toJson

def ofJson? (j : Json) : Option FlowNode := do
  match ← j.variant? with
  | ("expr", some payload) => return expr (← ExprId.ofJson? payload)
  | ("param", some payload) => return param (← VarId.ofJson? payload)
  | ("uninitialized", some payload) => return uninitialized (← VarId.ofJson? payload)
  | ("post_update", some payload) => return postUpdate (← ExprId.ofJson? payload)
  | ("return", some payload) => return returned (← FunctionId.ofJson? payload)
  | _ => none

end FlowNode

inductive EdgeKind where
  | localAssign
  | callToParameter (call : ExprId)
  | returnToCallResult (call : ExprId)
  | fieldStore (field : FieldId)
  /-- Out of an object or hash; the field is not always known. -/
  | fieldLoad (field : Option FieldId)
  | additionalStep
  | taintStep
deriving DecidableEq, Hashable, Repr

namespace EdgeKind

/-- Whether the edge leads from one function into another. -/
def isInterprocedural : EdgeKind → Bool
  | callToParameter _ | returnToCallResult _ => true
  | _ => false

def describe : EdgeKind → String
  | localAssign => "LocalAssign"
  | callToParameter call => "CallToParameter \x7b call: ExprId(" ++ toString call.val ++ ") \x7d"
  | returnToCallResult call =>
    "ReturnToCallResult \x7b call: ExprId(" ++ toString call.val ++ ") \x7d"
  | fieldStore f => s!"FieldStore(FieldId({f.val}))"
  | fieldLoad (some f) => s!"FieldLoad(Some(FieldId({f.val})))"
  | fieldLoad none => "FieldLoad(None)"
  | additionalStep => "AdditionalStep"
  | taintStep => "TaintStep"

def toJson : EdgeKind → Json
  | localAssign => .string "local_assign"
  | callToParameter call => .tagged "call_to_parameter" (.object [("call", call.toJson)])
  | returnToCallResult call => .tagged "return_to_call_result" (.object [("call", call.toJson)])
  | fieldStore f => .tagged "field_store" f.toJson
  | fieldLoad f => .tagged "field_load" (.ofOption FieldId.toJson f)
  | additionalStep => .string "additional_step"
  | taintStep => .string "taint_step"

def ofJson? (j : Json) : Option EdgeKind := do
  match ← j.variant? with
  | ("local_assign", payload) => Json.plain? localAssign payload
  | ("call_to_parameter", some payload) =>
    let fields ← payload.fields? ["call"] false
    return callToParameter (← fields.required "call" ExprId.ofJson?)
  | ("return_to_call_result", some payload) =>
    let fields ← payload.fields? ["call"] false
    return returnToCallResult (← fields.required "call" ExprId.ofJson?)
  | ("field_store", some payload) => return fieldStore (← FieldId.ofJson? payload)
  | ("field_load", some payload) => return fieldLoad (← Json.nullable FieldId.ofJson? payload)
  | ("additional_step", payload) => Json.plain? additionalStep payload
  | ("taint_step", payload) => Json.plain? taintStep payload
  | _ => none

end EdgeKind

structure FlowEdge where
  target : FlowNode
  kind : EdgeKind
deriving DecidableEq, Repr

def FlowEdge.toJson (e : FlowEdge) : Json :=
  .object [("target", e.target.toJson), ("kind", e.kind.toJson)]

end TaintFlow
