import TaintFlow.Flow.Query
import TaintFlow.Taint.Arena

namespace TaintFlow

structure PathStep where
  node : FlowNode
  edge : Option EdgeKind
deriving DecidableEq, Repr

namespace PathStep

def toJson (s : PathStep) : Json :=
  .object [("node", s.node.toJson), ("edge", .ofOption EdgeKind.toJson s.edge)]

def ofJson? (j : Json) : Option PathStep := do
  let fields ← j.fields? ["node", "edge"] false
  return { node := ← fields.required "node" FlowNode.ofJson?
           edge := ← fields.nullable "edge" EdgeKind.ofJson? }

end PathStep

inductive BrokenPath where
  | endless (start : StateId)
  | unknownState (id : StateId)
  | foreignNode (n : FlowNode)
  | missingEdge (kind : EdgeKind) (source target : FlowNode)
deriving DecidableEq, Repr

def BrokenPath.message : BrokenPath → String
  | endless start => s!"predecessor chain from StateId({start.val}) does not terminate"
  | unknownState id => s!"predecessor StateId({id.val}) is not a recorded state"
  | foreignNode n => s!"path node {n} is not in the flow graph"
  | missingEdge kind source target => s!"no {kind.describe} edge from {source} to {target}"

namespace FlowGraph

variable (g : FlowGraph)

/-- Whether a path may go from `source` to `target` by an edge of kind `kind`. A step added by a
rule is only known to lead to a candidate. -/
def hopQuery (source target : FlowNode) : EdgeKind → Query Bool
  | .additionalStep => return (g.stepCandidates source).contains target
  | kind => .hasEdge source target kind

def intoQuery (n : FlowNode) : List PathStep → Query (Option BrokenPath)
  | ⟨target, some kind⟩ :: _ => do
    if ← g.hopQuery n target kind then return none
    return some (.missingEdge kind n target)
  | _ => return none

def checkQuery (validate : Bool) (n : FlowNode) (path : List PathStep) :
    Query (Option BrokenPath) :=
  if validate then g.intoQuery n path else return none

/-- Puts the states from `id` back to a source in front of `path`, at most `fuel` of them. -/
def pathBackQuery (a : Arena) (validate : Bool) (start : StateId) :
    Nat → StateId → List PathStep → Query (Except BrokenPath (List PathStep))
  | 0, _, _ => return .error (.endless start)
  | fuel + 1, id, path =>
    match a.get? id with
    | none => return .error (.unknownState id)
    | some state =>
      let node := state.key.node
      if !g.contains node then return .error (.foreignNode node)
      else do
        match ← g.checkQuery validate node path with
        | some broken => return .error broken
        | none =>
          let path := ⟨node, state.via⟩ :: path
          match state.parent with
          | none => return .ok path
          | some parent => pathBackQuery a validate start fuel parent path

/-- The path to the state `id`, source first. A chain longer than the arena never ends. -/
def pathQuery (a : Arena) (validate : Bool) (id : StateId) :
    Query (Except BrokenPath (List PathStep)) :=
  g.pathBackQuery a validate id (a.size + 1) id []

def allowsHop (source target : FlowNode) (kind : EdgeKind) : Bool :=
  (g.hopQuery source target kind).onGraph g

def allowsInto (n : FlowNode) (path : List PathStep) : Option BrokenPath :=
  (g.intoQuery n path).onGraph g

def pathBack (a : Arena) (validate : Bool) (start : StateId) (fuel : Nat) (id : StateId)
    (path : List PathStep) : Except BrokenPath (List PathStep) :=
  (g.pathBackQuery a validate start fuel id path).onGraph g

def pathTo (a : Arena) (validate : Bool) (id : StateId) : Except BrokenPath (List PathStep) :=
  (g.pathQuery a validate id).onGraph g

end FlowGraph

end TaintFlow
