import TaintFlow.Proofs.Flow.Edges
import Mathlib.Data.List.Nodup
import Mathlib.Data.List.Count

namespace TaintFlow

theorem nodup_map_of_index {α β : Type} {l : List α} {id : α → β} (index : β → Nat)
    (h : ∀ i x, l[i]? = some x → index (id x) = i) : (l.map id).Nodup := by
  have hrange : (l.map id).map index = List.range l.length := by
    apply List.ext_getElem?
    intro i
    cases hi : l[i]? with
    | none => simp [List.getElem?_eq_none_iff.mp hi]
    | some x =>
      obtain ⟨hlt, -⟩ := List.getElem?_eq_some_iff.mp hi
      rw [List.map_map, List.getElem?_map, hi, List.getElem?_range hlt, Option.map_some]
      exact congrArg some (h i x hi)
  apply List.Nodup.of_map index
  rw [hrange]
  exact List.nodup_range

theorem nodup_toList_hashSet {α : Type} [BEq α] [LawfulBEq α] [Hashable α]
    {s : Std.HashSet α} : s.toList.Nodup := by
  refine Std.HashSet.distinct_toList.imp ?_
  rintro a b hab rfl
  simp at hab

def FlowEdge.reversed (n : FlowNode) (e : FlowEdge) : FlowNode × FlowEdge :=
  (e.target, ⟨n, e.kind⟩)

namespace FlowGraph

variable {g : FlowGraph} {a b n : FlowNode} {kind : EdgeKind}

theorem count_reversed {edges : List FlowEdge} :
    (edges.map (FlowEdge.reversed n)).count (b, ⟨a, kind⟩) =
      if n = a then edges.count ⟨b, kind⟩ else 0 := by
  by_cases hn : n = a
  · subst hn
    rw [if_pos rfl]
    refine List.count_map_of_injective edges (FlowEdge.reversed n) ?_ ⟨b, kind⟩
    rintro ⟨target, via⟩ ⟨target', via'⟩ he
    cases he
    rfl
  · rw [if_neg hn, List.count_eq_zero, List.mem_map]
    rintro ⟨e, -, he⟩
    cases he
    exact hn rfl

theorem count_flatMap_reversed (nodes : List FlowNode) :
    (nodes.flatMap fun n ↦ (g.successors n).map (FlowEdge.reversed n)).count (b, ⟨a, kind⟩) =
      nodes.count a * (g.successors a).count ⟨b, kind⟩ := by
  induction nodes with
  | nil => simp
  | cons n rest ih =>
    rw [List.flatMap_cons, List.count_append, ih, count_reversed, List.count_cons,
      Nat.add_mul, Nat.add_comm]
    by_cases hn : n = a <;> simp [hn]

section

variable (h : g.program.validate = .ok ())
include h

theorem mem_nodes_of_contains (hn : g.contains n = true) : n ∈ g.nodes := by
  simp only [nodes, List.append_assoc, List.mem_append, List.mem_map, List.mem_filter,
    List.mem_mergeSort, Std.HashSet.mem_toList]
  cases n with
  | expr e =>
    obtain ⟨x, hx⟩ := Option.isSome_iff_exists.mp hn
    exact .inl ⟨x, Program.mem_of_expr? hx, by rw [Program.id_of_expr? h hx]⟩
  | param v =>
    obtain ⟨x, hx, hk⟩ := (Option.any_eq_true _ _).mp hn
    exact .inr (.inl ⟨x, ⟨Program.mem_of_var? hx, hk⟩, by rw [Program.id_of_var? h hx]⟩)
  | uninitialized v => exact .inr (.inr (.inl ⟨v, hn, rfl⟩))
  | postUpdate e => exact .inr (.inr (.inr (.inl ⟨e, hn, rfl⟩)))
  | returned f =>
    obtain ⟨x, hx⟩ := Option.isSome_iff_exists.mp hn
    exact .inr (.inr (.inr (.inr
      ⟨x, Program.mem_of_function? hx, by rw [Program.id_of_function? h hx]⟩)))

theorem nodup_nodes : g.nodes.Nodup := by
  have hexprs : (g.program.exprs.toList.map (FlowNode.expr ·.id)).Nodup :=
    nodup_map_of_index (·.ref.index) fun _ _ hi ↦ Program.index_of_getElem?_exprs h hi
  have hparams : (g.program.vars.toList.map (FlowNode.param ·.id)).Nodup :=
    nodup_map_of_index (·.ref.index) fun _ _ hi ↦ Program.index_of_getElem?_vars h hi
  have hreturned : (g.program.functions.toList.map (FlowNode.returned ·.id)).Nodup :=
    nodup_map_of_index (·.ref.index) fun _ _ hi ↦ Program.index_of_getElem?_functions h hi
  have huninitialized := (List.mergeSort_perm g.index.uninitialized.toList
    (·.val ≤ ·.val)).nodup_iff.mpr nodup_toList_hashSet
  have hupdated := (List.mergeSort_perm g.index.postUpdated.toList
    (·.val ≤ ·.val)).nodup_iff.mpr nodup_toList_hashSet
  unfold nodes
  refine List.nodup_append.mpr ⟨List.nodup_append.mpr ⟨List.nodup_append.mpr
    ⟨List.nodup_append.mpr ⟨hexprs, ?_, ?_⟩, ?_, ?_⟩, ?_, ?_⟩, hreturned, ?_⟩
  · exact hparams.sublist (List.filter_sublist.map _)
  · grind
  · exact huninitialized.map fun _ _ he ↦ by cases he; rfl
  · grind
  · exact hupdated.map fun _ _ he ↦ by cases he; rfl
  · grind
  · grind

theorem count_nodes (n : FlowNode) : g.nodes.count n = if g.contains n then 1 else 0 := by
  have hmem : n ∈ g.nodes ↔ g.contains n = true :=
    ⟨contains_of_mem_nodes h, mem_nodes_of_contains h⟩
  rw [(nodup_nodes h).count]
  simp only [hmem]

/-- The nodes of the graph are listed each once. An edge from one of them is found from its target
as often as from the node itself, and from a node outside of the graph no edge is found. -/
theorem count_predecessors :
    (∀ n, g.nodes.count n = if g.contains n then 1 else 0) ∧
      ∀ a b kind, (g.predecessors b).count ⟨a, kind⟩ =
        if g.contains a then (g.successors a).count ⟨b, kind⟩ else 0 := by
  refine ⟨count_nodes h, fun a b kind ↦ ?_⟩
  have hpairs : (g.nodes.flatMap fun n ↦ (g.successors n).map (FlowEdge.reversed n)).count
      (b, ⟨a, kind⟩) = g.nodes.count a * (g.successors a).count ⟨b, kind⟩ :=
    count_flatMap_reversed g.nodes
  rw [count_nodes h] at hpairs
  refine Grouping.count_get_ofList.trans (hpairs.trans ?_)
  split <;> simp

end

def doublingProgram : Program where
  functions := #[⟨⟨0⟩, "main", "doubling.rb", [], none, [], default⟩,
    ⟨⟨1⟩, "forward", "doubling.rb", [⟨0⟩], none, [⟨3⟩], default⟩]
  vars := #[⟨⟨0⟩, "x", some ⟨1⟩, none, .localVar, none, default⟩]
  exprs := #[⟨⟨0⟩, ⟨0⟩, default, "secret()", .call { name := "secret" }, []⟩,
    ⟨⟨1⟩, ⟨0⟩, default, "secret() + secret()", .operation "+" [⟨0⟩, ⟨0⟩], []⟩,
    ⟨⟨2⟩, ⟨0⟩, default, "forward(secret() + secret())",
      .call { name := "forward", args := [⟨1⟩], target := some ⟨1⟩ }, []⟩,
    ⟨⟨3⟩, ⟨1⟩, default, "x", .read ⟨0⟩ [.param ⟨0⟩], []⟩]

def doublingGraph : FlowGraph := .ofProgram doublingProgram

/-- Both operands of the sum are found from it. The variable gives its value to the read, but is no
node of the graph, and is not found from there. -/
theorem count_predecessors_doubling :
    doublingProgram.validate = .ok () ∧
      doublingGraph.nodes.count (.returned ⟨1⟩) = 1 ∧
      (doublingGraph.predecessors (.expr ⟨1⟩)).count ⟨.expr ⟨0⟩, .taintStep⟩ = 2 ∧
      ⟨.expr ⟨3⟩, .localAssign⟩ ∈ doublingGraph.successors (.param ⟨0⟩) ∧
      (doublingGraph.predecessors (.expr ⟨3⟩)).count ⟨.param ⟨0⟩, .localAssign⟩ = 0 := by
  have hv : doublingGraph.program.validate = .ok () := by cbv
  have hdoubled : doublingGraph.successors (.expr ⟨0⟩) =
      [⟨.expr ⟨1⟩, .taintStep⟩, ⟨.expr ⟨1⟩, .taintStep⟩] := by cbv
  have hread : doublingGraph.successors (.param ⟨0⟩) = [⟨.expr ⟨3⟩, .localAssign⟩] := by cbv
  obtain ⟨hnodes, hedges⟩ := count_predecessors hv
  refine ⟨hv, hnodes _, ?_, by simp [hread], hedges _ _ _⟩
  rw [hedges, hdoubled]
  rfl

end FlowGraph

end TaintFlow
