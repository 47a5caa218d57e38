import TaintFlow.Taint.Engine

namespace TaintFlow

inductive Request where
  | successors (n : FlowNode)
  | predecessors (n : FlowNode)
  | hasEdge (source target : FlowNode) (kind : EdgeKind)
  /-- Nodes are asked for side by side, and take the turns listed. -/
  | warm (turns : List Nat)
  | evaluate (t : Terms) (r : Rule)
  | evaluateAll (t : Terms) (rules : List Rule) (turns : List Nat)

inductive Reply where
  | edges (es : List FlowEdge)
  | found (b : Bool)
  | done
  | outcome (o : Except TaintError Evaluation)
  | outcomes (os : List (String × Except TaintError Evaluation))

namespace Request

def engine (g : FlowGraph) (t : Terms) : Engine :=
  { t with graph := g }

/-- The reply to a request, and the memory after. -/
def serve (c : SuccessorCache) : Request → Reply × SuccessorCache
  | successors n =>
    let (es, c) := c.successors n
    (.edges es, c)
  | predecessors n =>
    let (es, c) := c.predecessors n
    (.edges es, c)
  | hasEdge source target kind =>
    let (b, c) := c.hasEdge source target kind
    (.found b, c)
  | warm turns =>
    let tasks := c.graph.nodes.map fun n ↦ Task.running (.successors n)
    let (_, c) := Task.runAll turns tasks c
    (.done, c.reverse)
  | evaluate t r =>
    let (run, c) := c.run ((engine c.graph t).query r)
    (.outcome run.outcome, c)
  | evaluateAll t rules turns =>
    let (os, c) := (engine c.graph t).evaluateAllOn rules turns c
    (.outcomes os, c)

def serveAll (c : SuccessorCache) (requests : List Request) : SuccessorCache :=
  requests.foldl (fun c q ↦ (q.serve c).2) c

end Request

end TaintFlow
