import TaintFlow.Flow.Graph

namespace TaintFlow

/-- A computation that asks for the edges out of nodes, one node after another, and may go on as the
edges say. Where the edges come from is left open. -/
inductive Query (α : Type) where
  | answer (a : α)
  | edges (n : FlowNode) (next : List FlowEdge → Query α)

namespace Query

variable {α β : Type}

def bind : Query α → (α → Query β) → Query β
  | answer a, f => f a
  | edges n next, f => edges n fun es ↦ (next es).bind f

instance : Monad Query where
  pure := answer
  bind := bind

instance : LawfulMonad Query := by
  refine LawfulMonad.mk' Query ?_ ?_ ?_
  · intro α q
    induction q with
    | answer a => rfl
    | edges n next ih => exact congrArg (edges n) (funext ih)
  · intro α β a f
    rfl
  · intro α β γ q f h
    induction q with
    | answer a => rfl
    | edges n next ih => exact congrArg (edges n) (funext ih)

def successors (n : FlowNode) : Query (List FlowEdge) :=
  edges n answer

def hasEdge (source target : FlowNode) (kind : EdgeKind) : Query Bool :=
  return (← successors source).contains ⟨target, kind⟩

/-- The edges out of each node, each under its target and with its source as target. -/
def reversedEdges : List FlowNode → Query (List (FlowNode × FlowEdge))
  | [] => return []
  | n :: nodes => do
    let edges ← successors n
    return edges.map (fun e ↦ (e.target, ⟨n, e.kind⟩)) ++ (← reversedEdges nodes)

variable (g : FlowGraph)

def onGraph : Query α → α
  | answer a => a
  | edges n next => (next (g.successors n)).onGraph

/-- The nodes that a query asks for where the edges are those of a graph. -/
def asked : Query α → List FlowNode
  | answer _ => []
  | edges n next => n :: (next (g.successors n)).asked

variable {g}

@[simp] theorem onGraph_pure (a : α) : (pure a : Query α).onGraph g = a := rfl

@[simp] theorem onGraph_bind (q : Query α) (f : α → Query β) :
    (q >>= f).onGraph g = (f (q.onGraph g)).onGraph g := by
  induction q with
  | answer a => rfl
  | edges n next ih => exact ih (g.successors n)

@[simp] theorem onGraph_map (f : α → β) (q : Query α) :
    (f <$> q).onGraph g = f (q.onGraph g) := by
  rw [map_eq_pure_bind, onGraph_bind, onGraph_pure]

@[simp] theorem onGraph_successors (n : FlowNode) : (successors n).onGraph g = g.successors n := rfl

@[simp] theorem asked_pure (a : α) : (pure a : Query α).asked g = [] := rfl

@[simp] theorem asked_bind (q : Query α) (f : α → Query β) :
    (q >>= f).asked g = q.asked g ++ (f (q.onGraph g)).asked g := by
  induction q with
  | answer a => rfl
  | edges n next ih => exact congrArg (n :: ·) (ih (g.successors n))

@[simp] theorem asked_map (f : α → β) (q : Query α) : (f <$> q).asked g = q.asked g := by
  rw [map_eq_pure_bind, asked_bind, asked_pure, List.append_nil]

@[simp] theorem asked_successors (n : FlowNode) : (successors n).asked g = [n] := rfl

end Query

end TaintFlow
