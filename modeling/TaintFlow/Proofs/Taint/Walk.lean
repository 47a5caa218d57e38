import TaintFlow.Proofs.Flow.Edges
import TaintFlow.Taint.Arena
import TaintFlow.Taint.Rule

namespace TaintFlow

namespace Rule

variable (r : Rule) (g : FlowGraph) (k : Knobs)

/-- The edges and the additional steps out of a node, in the order in which a pass takes them. -/
def moves (n : FlowNode) : List FlowEdge :=
  g.successors n ++ (r.additionalSteps g n).map (⟨·, .additionalStep⟩)

/-- Taint passes from key `a` to key `b` by a move of the given kind. -/
structure Passes (via : EdgeKind) (a b : TaintKey) : Prop where
  move : ⟨b.node, via⟩ ∈ r.moves g a.node
  transfer : k.transfer g a b.node via = some b
  free : r.isBlocked g b.node = false

/-- Taint gets from one key to another in the given number of steps. -/
inductive Walk : Nat → TaintKey → TaintKey → Prop
  | nil (a : TaintKey) : Walk 0 a a
  | snoc {n : Nat} {a b c : TaintKey} {via : EdgeKind} :
      Walk n a b → r.Passes g k via b c → Walk (n + 1) a c

def Reaches (a b : TaintKey) : Prop := ∃ n, r.Walk g k n a b

def StaysIn : Prop := ∀ n, ∀ m ∈ r.additionalSteps g n, g.contains m = true

def WalkFrom (sources : List FlowNode) (n : Nat) (key : TaintKey) : Prop :=
  ∃ source ∈ sources, r.isBlocked g source = false ∧ r.Walk g k n (.plain source) key

/-- Taint from `source` gets to a sink of kind `kind` at `sink`, and to no sink that hides it. -/
structure Exposes (source sink : FlowNode) (kind : SinkKind) : Prop where
  free : r.isBlocked g source = false
  reached : ∃ key, r.Reaches g k (.plain source) key ∧ key.node = sink
  isSink : r.sinkKind? g sink = some kind
  shown : ∀ key other, r.Reaches g k (.plain source) key →
    r.sinkKind? g key.node = some other → r.suppresses other kind = false

end Rule

namespace Knobs

variable {k : Knobs} {g : FlowGraph} {a b : TaintKey} {target : FlowNode} {via : EdgeKind}

theorem node_of_transfer (h : k.transfer g a target via = some b) : b.node = target := by
  simp only [transfer, Option.bind_eq_bind, Option.bind_eq_some_iff] at h
  obtain ⟨content, -, context, -, hb⟩ := h
  cases hb
  rfl

end Knobs

namespace Rule

variable {r : Rule} {g : FlowGraph} {k : Knobs} {a b : TaintKey} {via : EdgeKind}

theorem mem_moves_iff {n : FlowNode} {edge : FlowEdge} : edge ∈ r.moves g n ↔
    edge ∈ g.successors n ∨
      edge.kind = .additionalStep ∧ edge.target ∈ r.additionalSteps g n := by
  obtain ⟨target, kind⟩ := edge
  simp only [moves, List.mem_append, List.mem_map, FlowEdge.mk.injEq]
  constructor
  · rintro (hedge | ⟨m, hm, rfl, rfl⟩)
    · exact .inl hedge
    · exact .inr ⟨rfl, hm⟩
  · rintro (hedge | ⟨rfl, hm⟩)
    · exact .inl hedge
    · exact .inr ⟨target, hm, rfl, rfl⟩

theorem mem_additionalSteps_of_mem_moves {n : FlowNode} {edge : FlowEdge} (h : edge ∈ r.moves g n)
    (hk : edge.kind = .additionalStep) : edge.target ∈ r.additionalSteps g n := by
  rcases mem_moves_iff.mp h with hedge | ⟨-, hm⟩
  · exact absurd hk (FlowGraph.kind_ne_additionalStep_of_mem_successors hedge)
  · exact hm

theorem Passes.of_transfer {edge : FlowEdge} (hm : edge ∈ r.moves g a.node)
    (ht : k.transfer g a edge.target edge.kind = some b)
    (hf : r.isBlocked g edge.target = false) : r.Passes g k edge.kind a b := by
  have hn := Knobs.node_of_transfer ht
  exact ⟨hn ▸ hm, hn ▸ ht, hn ▸ hf⟩

theorem Walk.of_transfer_eq {k' : Knobs} {n : Nat} (ht : k'.transfer = k.transfer)
    (h : r.Walk g k n a b) : r.Walk g k' n a b := by
  induction h with
  | nil a => exact .nil a
  | snoc _ hp ih => exact ih.snoc ⟨hp.move, ht ▸ hp.transfer, hp.free⟩

theorem reaches_of_transfer_eq {k' : Knobs} (ht : k'.transfer = k.transfer) :
    r.Reaches g k' a b ↔ r.Reaches g k a b :=
  ⟨fun ⟨n, h⟩ ↦ ⟨n, h.of_transfer_eq ht.symm⟩, fun ⟨n, h⟩ ↦ ⟨n, h.of_transfer_eq ht⟩⟩

end Rule

end TaintFlow
