import TaintFlow.Flow.Graph
import TaintFlow.Settings.Knobs

namespace TaintFlow

/-- A tainted value: the node, the field that the taint is stored under, and the call through
which its function was entered. -/
structure TaintKey where
  node : FlowNode
  content : Option FieldId
  context : Option ExprId
deriving DecidableEq, Hashable, Repr

namespace TaintKey

def plain (n : FlowNode) : TaintKey := ⟨n, none, none⟩

def toJson (k : TaintKey) : Json :=
  .object [("node", k.node.toJson), ("content", .ofOption FieldId.toJson k.content),
    ("context", .ofOption ExprId.toJson k.context)]

def ofJson? (j : Json) : Option TaintKey := do
  let fields ← j.fields? ["node", "content", "context"] false
  return { node := ← fields.required "node" FlowNode.ofJson?
           content := ← fields.nullable "content" FieldId.ofJson?
           context := ← fields.nullable "context" ExprId.ofJson? }

end TaintKey

structure StateId where
  val : Nat
deriving DecidableEq, Hashable, Repr

structure PathState where
  key : TaintKey
  parent : Option StateId
  via : Option EdgeKind
  root : StateId
deriving DecidableEq, Repr

def PathState.toJson (s : PathState) : Json :=
  .object [("key", s.key.toJson), ("parent", .ofOption (fun id ↦ .natural id.val) s.parent),
    ("via", .ofOption EdgeKind.toJson s.via), ("root", .natural s.root.val)]

structure Arena where
  states : Array PathState := #[]

namespace Arena

variable (a : Arena)

def size : Nat := a.states.size

def get? (id : StateId) : Option PathState := a.states[id.val]?

/-- Numbers of states have 32 bits: so many states have numbers of their own. -/
def capacity : Nat := UInt32.size

/-- The number of the state to come, where the arena is below its capacity. No pass with knobs in
range gets there, unless it has as many sources. -/
def nextId : StateId := ⟨a.size⟩

def push (state : PathState) : Arena := ⟨a.states.push state⟩

def rootState (key : TaintKey) : PathState :=
  { key, parent := none, via := none, root := a.nextId }

def childState? (key : TaintKey) (parent : StateId) (via : EdgeKind) : Option PathState :=
  (a.get? parent).map fun p ↦ { key, parent := some parent, via := some via, root := p.root }

end Arena

namespace Knobs

/-- The field that taint is stored under after an edge of kind `kind`; no result if the edge does
not carry it on. Only the last field stored into is kept. -/
def content? (k : Knobs) (content : Option FieldId) : EdgeKind → Option (Option FieldId)
  | .localAssign | .callToParameter _ | .returnToCallResult _ => some content
  | .fieldStore f => some (some f)
  | .fieldLoad (some f) =>
    if k.fieldSensitive && content.any (· ≠ f) then none else some none
  | .fieldLoad none | .taintStep | .additionalStep => some none

/-- The call entered after an edge of kind `kind`; no result if the edge returns to another call.
Only the last call entered is kept. -/
def context? (k : Knobs) (context : Option ExprId) : EdgeKind → Option (Option ExprId)
  | .callToParameter call => some (some call)
  | .returnToCallResult call =>
    if k.contextSensitive && context.any (· ≠ call) then none else some none
  | _ => some context

/-- The key at `target` after taking an edge of kind `kind` from `source`, if taint survives it.
An edge that leaves the function other than by call or return forgets the call entered, and what
the knobs do not track is forgotten always. -/
def transfer (k : Knobs) (g : FlowGraph) (source : TaintKey) (target : FlowNode)
    (kind : EdgeKind) : Option TaintKey := do
  let content ← k.content? source.content kind
  let context ← k.context? source.context kind
  let leaves := !kind.isInterprocedural && g.functionOf source.node != g.functionOf target
  return {
    node := target
    content := if k.fieldSensitive then content else none
    context := if k.contextSensitive && !leaves then context else none }

end Knobs

end TaintFlow
