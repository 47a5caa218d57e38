import TaintFlow.Flow.Query

namespace TaintFlow

structure SuccessorCache where
  graph : FlowGraph
  known : Std.HashMap FlowNode (List FlowEdge) := ∅
  reversed : Option (Grouping FlowNode FlowEdge) := none

namespace SuccessorCache

def ofGraph (g : FlowGraph) : SuccessorCache where
  graph := g

variable (c : SuccessorCache)

/-- The edges remembered for `n`, which are `edges` if there were none before. -/
def keep (n : FlowNode) (edges : List FlowEdge) : List FlowEdge × SuccessorCache :=
  match c.known[n]? with
  | some first => (first, c)
  | none => (edges, { c with known := c.known.insert n edges })

def successors (n : FlowNode) : List FlowEdge × SuccessorCache :=
  match c.known[n]? with
  | some edges => (edges, c)
  | none => c.keep n (c.graph.successors n)

def run {α : Type} : Query α → SuccessorCache → α × SuccessorCache
  | .answer a, c => (a, c)
  | .edges n next, c =>
    let (edges, c) := c.successors n
    run (next edges) c

def visit (nodes : List FlowNode) : SuccessorCache :=
  nodes.foldl (fun c n ↦ (c.successors n).2) c

/-- The edges into each node, which are collected once, and the memory after. -/
def reverseEdges : Grouping FlowNode FlowEdge × SuccessorCache :=
  match c.reversed with
  | some edges => (edges, c)
  | none =>
    let (edges, c) := c.run (.reversedEdges c.graph.nodes)
    let edges := .ofList edges
    (edges, { c with reversed := some edges })

def reverse : SuccessorCache :=
  c.reverseEdges.2

def predecessors (n : FlowNode) : List FlowEdge × SuccessorCache :=
  let (edges, c) := c.reverseEdges
  (edges.get n, c)

def hasEdge (source target : FlowNode) (kind : EdgeKind) : Bool × SuccessorCache :=
  c.run (.hasEdge source target kind)

def warm : SuccessorCache :=
  (c.visit c.graph.nodes).reverse

def size : Nat :=
  c.known.size

def describe : String :=
  "FlowGraph \x7b exprs: " ++ toString c.graph.program.exprs.size ++ ", cached_successors: " ++
    toString c.size ++ " \x7d"

end SuccessorCache

/-- A query on its way, beside others on the same memory. Looking for edges and keeping them are two
steps, and others may take theirs in between. -/
inductive Task (α : Type) where
  | running (q : Query α)
  | missed (n : FlowNode) (next : List FlowEdge → Query α)

namespace Task

variable {α : Type}

def step : Task α → SuccessorCache → Task α × SuccessorCache
  | running (.answer a), c => (running (.answer a), c)
  | running (.edges n next), c =>
    match c.known[n]? with
    | some edges => (running (next edges), c)
    | none => (missed n next, c)
  | missed n next, c =>
    let (edges, c) := c.keep n (c.graph.successors n)
    (running (next edges), c)

def finish : Task α → SuccessorCache → α × SuccessorCache
  | running q, c => c.run q
  | missed n next, c =>
    let (edges, c) := c.keep n (c.graph.successors n)
    c.run (next edges)

/-- Lets the task at a place in the list take a step. -/
def turn : Nat → List (Task α) → SuccessorCache → List (Task α) × SuccessorCache
  | _, [], c => ([], c)
  | 0, t :: tasks, c =>
    let (t, c) := t.step c
    (t :: tasks, c)
  | i + 1, t :: tasks, c =>
    let (tasks, c) := turn i tasks c
    (t :: tasks, c)

def finishAll : List (Task α) → SuccessorCache → List α × SuccessorCache
  | [], c => ([], c)
  | t :: tasks, c =>
    let (a, c) := t.finish c
    let (rest, c) := finishAll tasks c
    (a :: rest, c)

/-- Lets tasks take turns as long as any are listed, and then brings them to their ends. -/
def runAll : List Nat → List (Task α) → SuccessorCache → List α × SuccessorCache
  | [], tasks, c => finishAll tasks c
  | i :: turns, tasks, c =>
    let (tasks, c) := turn i tasks c
    runAll turns tasks c

end Task

end TaintFlow
