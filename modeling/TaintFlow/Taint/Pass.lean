import TaintFlow.Flow.Query
import TaintFlow.Taint.Arena
import TaintFlow.Taint.Budget
import TaintFlow.Taint.Rule

namespace TaintFlow

structure ReachedSink where
  state : StateId
  root : StateId
  source : FlowNode
  sink : FlowNode
  kind : SinkKind
deriving DecidableEq, Repr

/-- Why a pass stops before its states are all expanded. -/
inductive Halt where
  | interrupted (cause : Interruption)
  | foreignStep (source target : FlowNode)
  | fault (f : Fault)
deriving DecidableEq, Repr

namespace Pass

structure Setup where
  graph : FlowGraph
  rule : Rule
  knobs : Knobs
  budget : Budget

structure Progress where
  arena : Arena := {}
  visited : Std.HashSet TaintKey := ∅
  /-- How many states have been expanded; those still to expand are the rest of the arena. -/
  expanded : Nat := 0
  reached : Array ReachedSink := #[]
  sanitized : Nat := 0
  edges : Nat := 0
  additional : Nat := 0

/-- A stretch of a pass, which may halt it; the progress made until then is kept. -/
abbrev Stretch := ExceptT Halt (StateM Progress)

def checkInterval : Nat := 64

/-- What the pass finds when it takes up its next state: now and then it looks at its budget. -/
def Setup.check? (s : Setup) (expanded : Nat) : Option Interruption :=
  if expanded % checkInterval = 0 then s.budget.interruption? expanded else none

namespace Stretch

variable (s : Setup)

def ask : Option Fault → Stretch Unit
  | some f => throw (.fault f)
  | none => return

def check (expanded : Nat) : Stretch Unit :=
  match s.budget.interruption? expanded with
  | some cause => throw (.interrupted cause)
  | none => return

def isBlocked (n : FlowNode) : Stretch Bool := do
  ask (s.rule.fault? s.graph (.sanitizer n))
  return s.rule.isBlocked s.graph n

def countSanitized : Stretch Unit :=
  modify fun p ↦ { p with sanitized := p.sanitized + 1 }

def record (state : PathState) : Stretch Unit := do
  let id := (← get).arena.nextId
  modify fun p ↦ { p with arena := p.arena.push state, visited := p.visited.insert state.key }
  let sink := state.key.node
  ask (s.rule.fault? s.graph (.sink sink))
  if let some kind := s.rule.sinkKind? s.graph sink then
    let source := (((← get).arena.get? state.root).map (·.key.node)).getD sink
    let reached : ReachedSink := { state := id, root := state.root, source, sink, kind }
    modify fun p ↦ { p with reached := p.reached.push reached }

/-- Records a source, whatever the number of states so far. -/
def seed (n : FlowNode) : Stretch Unit := do
  if ← isBlocked s n then countSanitized
  else
    let p ← get
    let key := TaintKey.plain n
    unless p.visited.contains key do record s (p.arena.rootState key)

def start (sources : List FlowNode) : Stretch Unit := do
  sources.forM (seed s)
  check s 0

def take (id : StateId) (source : TaintKey) (edge : FlowEdge) : Stretch Unit := do
  modify fun p ↦ { p with
    edges := p.edges + 1
    additional := p.additional + if edge.kind = .additionalStep then 1 else 0 }
  if let some key := s.knobs.transfer s.graph source edge.target edge.kind then
    unless (← get).visited.contains key do
      if ← isBlocked s edge.target then countSanitized
      else
        let p ← get
        if s.knobs.maxStates ≤ p.arena.size then
          throw (.interrupted (.stateLimit s.knobs.maxStates))
        if let some state := p.arena.childState? key id edge.kind then record s state

def takeStep (id : StateId) (source : TaintKey) (target : FlowNode) : Stretch Unit := do
  unless s.graph.contains target do throw (.foreignStep source.node target)
  take s id source ⟨target, .additionalStep⟩

def expandAlong (id : StateId) (key : TaintKey) (edges : List FlowEdge) : Stretch Unit := do
  modify fun p ↦ { p with expanded := p.expanded + 1 }
  edges.forM (take s id key)
  ask (s.rule.stepsFault? s.graph key.node)
  (s.rule.additionalSteps s.graph key.node).forM (takeStep s id key)

end Stretch

structure Outcome where
  progress : Progress
  halt : Option Halt

namespace Outcome

variable (o : Outcome)

def interruption? : Option Interruption :=
  match o.halt with
  | some (.interrupted cause) => some cause
  | _ => none

/-- The nodes whose edges the pass has asked for. -/
def expandedNodes : List FlowNode :=
  ((o.progress.arena.states.extract 0 o.progress.expanded).map (·.key.node)).toList

end Outcome

def Stretch.outcome (x : Stretch Unit) (p : Progress) : Outcome :=
  match StateT.run (ExceptT.run x) p with
  | (.ok (), q) => ⟨q, none⟩
  | (.error halt, q) => ⟨q, some halt⟩

variable (s : Setup)

/-- Expands states in the order recorded until none is left or the pass halts, at most so many. -/
def expandAllQuery : Nat → Progress → Query Outcome
  | 0, p => return ⟨p, none⟩
  | fuel + 1, p =>
    match p.arena.get? ⟨p.expanded⟩ with
    | none => return ⟨p, none⟩
    | some state =>
      match s.check? (p.expanded + 1) with
      | some cause => return ⟨p, some (.interrupted cause)⟩
      | none => do
        let edges ← Query.successors state.key.node
        let o := (Stretch.expandAlong s ⟨p.expanded⟩ state.key edges).outcome p
        if o.halt.isSome then return o else expandAllQuery fuel o.progress

/-- Enough to expand every state: a pass records no more than its limit, apart from sources. -/
def fuel (sources : List FlowNode) : Nat :=
  max s.knobs.maxStates sources.length

def query (sources : List FlowNode) : Query Outcome :=
  let o := (Stretch.start s sources).outcome {}
  if o.halt.isSome then return o else expandAllQuery s (fuel s sources) o.progress

def run (sources : List FlowNode) : Outcome :=
  (query s sources).onGraph s.graph

end Pass

end TaintFlow
