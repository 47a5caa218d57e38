import TaintFlow.Flow.Node
import TaintFlow.Program.Index

namespace TaintFlow

structure FlowGraph where
  program : Program
  index : Index := program.index
  index_eq : index = program.index := by rfl

namespace FlowGraph

def ofProgram (p : Program) : FlowGraph where
  program := p

variable (g : FlowGraph)

def callee? (call : ExprId) : Option Function :=
  ((g.program.call? call).bind (·.target)).bind g.program.function?

def useEdges (u : Use) : List FlowEdge :=
  let user := FlowNode.expr u.user
  match u.role with
  | .assignedValue => [⟨user, .localAssign⟩]
  | .storedValue f =>
    ⟨user, .localAssign⟩ :: match g.program.kind? u.user with
      | some (.fieldStore base _ _) => [⟨.postUpdate base, .fieldStore f⟩]
      | _ => []
  | .loadBase f => [⟨user, .fieldLoad (some f)⟩]
  | .indexBase f => [⟨user, .fieldLoad f⟩]
  | .hashValue (some f) => [⟨user, .fieldStore f⟩]
  | .hashValue none => [⟨user, .localAssign⟩]
  | .operand => [⟨user, .taintStep⟩]
  | .argument i =>
    match (g.callee? u.user).bind (·.params[i]?) with
    | some v => [⟨.param v, .callToParameter u.user⟩]
    | none => []
  | .receiver =>
    match (g.callee? u.user).bind (·.selfParam) with
    | some v => [⟨.param v, .callToParameter u.user⟩]
    | none => []
  | .storeBase | .hashKey | .indexKey => []

def readerEdges (d : Def) : List FlowEdge :=
  (g.index.readers.get d).map fun r ↦ ⟨.expr r, .localAssign⟩

def isAssign (e : ExprId) : Bool :=
  match g.program.kind? e with
  | some (.assign _ _) => true
  | _ => false

/-- The edges out of a node. Those of an expression go to its users, then to the reads it reaches
as initial value or assignment, to its value after an update, and to the functions returning it. -/
def successors : FlowNode → List FlowEdge
  | .expr e =>
    (g.index.uses.get e).flatMap g.useEdges ++
      ((g.index.initializerOf[e]?).map fun v ↦ g.readerEdges (.initializer v)).getD [] ++
      (if g.isAssign e then g.readerEdges (.assign e) else []) ++
      (if g.index.postUpdated.contains e then [⟨.postUpdate e, .localAssign⟩] else []) ++
      (g.index.returnedBy.get e).map fun f ↦ ⟨.returned f, .localAssign⟩
  | .param v => g.readerEdges (.param v)
  | .uninitialized v => g.readerEdges (.uninitialized v)
  | .postUpdate e => g.readerEdges (.mutation e)
  | .returned f =>
    (g.index.callers.get f).map fun call ↦ ⟨.expr call, .returnToCallResult call⟩

def hasEdge (source target : FlowNode) (kind : EdgeKind) : Bool :=
  (g.successors source).contains ⟨target, kind⟩

/-- Where a rule may add a step to: the calls taking the value, and the loads and look-ups from
it. -/
def stepCandidates : FlowNode → List FlowNode
  | .expr e => ((g.index.uses.get e).filter (·.role.isStep)).map fun u ↦ .expr u.user
  | _ => []

/-- Every node: expressions, parameters, uninitialized variables, updated expressions and returned
values, each sort by number. -/
def nodes : List FlowNode :=
  g.program.exprs.toList.map (.expr ·.id) ++
    (g.program.vars.toList.filter (·.kind.isParameter)).map (.param ·.id) ++
    (g.index.uninitialized.toList.mergeSort (·.val ≤ ·.val)).map .uninitialized ++
    (g.index.postUpdated.toList.mergeSort (·.val ≤ ·.val)).map .postUpdate ++
    g.program.functions.toList.map (.returned ·.id)

def contains : FlowNode → Bool
  | .expr e => (g.program.expr? e).isSome
  | .param v => (g.program.var? v).any (·.kind.isParameter)
  | .uninitialized v => g.index.uninitialized.contains v
  | .postUpdate e => g.index.postUpdated.contains e
  | .returned f => (g.program.function? f).isSome

/-- The edges into each node, each with the node it comes from as its target. -/
def reverse : Grouping FlowNode FlowEdge :=
  .ofList (g.nodes.flatMap fun n ↦ (g.successors n).map fun e ↦ (e.target, ⟨n, e.kind⟩))

def predecessors (n : FlowNode) : List FlowEdge :=
  g.reverse.get n

def functionOf : FlowNode → Option FunctionId
  | .expr e | .postUpdate e => (g.program.expr? e).map (·.function)
  | .param v | .uninitialized v => (g.program.var? v).bind (·.function)
  | .returned f => some f

def describe : FlowNode → String
  | .expr e => g.program.describe e
  | .param v =>
    if (g.program.var? v).any (·.kind = .selfParameter) then "self"
    else "parameter " ++ (g.program.variableName? v).getD (toString v)
  | .uninitialized v => (g.program.variableName? v).getD (toString v) ++ " (uninitialized)"
  | .postUpdate e => g.program.describe e ++ " (after update)"
  | .returned f =>
    "return value of " ++ ((g.program.function? f).map (·.name)).getD "<unknown>"

def location? : FlowNode → Option Location
  | .expr e | .postUpdate e => g.program.location? e
  | .param v | .uninitialized v => do
    let var ← g.program.var? v
    let function ← g.program.function? (← var.function)
    return var.span.location function.file
  | .returned f => do
    let function ← g.program.function? f
    return function.span.location function.file

end FlowGraph

end TaintFlow
