import TaintFlow.Proofs.Flow.Edges

namespace TaintFlow

namespace FlowGraph

/-- An edge along which a call passes a value to a variable that is no parameter. -/
inductive Strays (g : FlowGraph) : FlowNode → FlowEdge → Prop
  | call {e call : ExprId} {v : VarId} {x : Variable} (hp : g.Passes e call v)
      (hx : g.program.var? v = some x) (hk : x.kind.isParameter = false) :
      Strays g (.expr e) ⟨.param v, .callToParameter call⟩

variable {g : FlowGraph} {n : FlowNode} {edge : FlowEdge}

section

variable (h : g.program.validate = .ok ())
include h

theorem Strays.leaves (hs : g.Strays n edge) :
    edge ∈ g.successors n ∧ g.contains edge.target = false := by
  obtain ⟨hp, hx, hk⟩ := hs
  exact ⟨(mem_successors_param h).mpr ⟨_, _, rfl, rfl, hp⟩, by simp [contains, hx, hk]⟩

theorem strays_of_leaves (he : edge ∈ g.successors n) (hc : g.contains edge.target = false) :
    g.Strays n edge := by
  obtain ⟨target, kind⟩ := edge
  cases target with
  | param v =>
    obtain ⟨e, call, rfl, rfl, hp⟩ := (mem_successors_param h).mp he
    obtain ⟨f, -, -, x, hx⟩ := hp.exists_var? h
    exact .call hp hx (by simpa [contains, hx] using hc)
  | expr | uninitialized | postUpdate | returned =>
    have hin := contains_of_ne_param h he (fun v hv ↦ by cases hv)
    rw [hc] at hin
    cases hin

/-- Out of the graph lead exactly the edges along which a call passes a value to a variable that is
no parameter, and no step that a rule may add. -/
theorem leaves_iff_strays (n : FlowNode) :
    (∀ edge, edge ∈ g.successors n ∧ g.contains edge.target = false ↔ g.Strays n edge) ∧
      ∀ m ∈ g.stepCandidates n, g.contains m = true :=
  ⟨fun _ ↦ ⟨fun he ↦ strays_of_leaves h he.1 he.2, fun hs ↦ hs.leaves h⟩,
    fun _ hm ↦ contains_of_mem_stepCandidates h hm⟩

end

def strayingProgram : Program where
  functions := #[⟨⟨0⟩, "main", "straying.rb", [], none, [], default⟩,
    ⟨⟨1⟩, "forward", "straying.rb", [⟨0⟩], none, [], default⟩]
  vars := #[⟨⟨0⟩, "x", some ⟨1⟩, none, .localVar, none, default⟩]
  exprs := #[⟨⟨0⟩, ⟨0⟩, default, "secret()", .call { name := "secret" }, []⟩,
    ⟨⟨1⟩, ⟨0⟩, default, "forward(secret())",
      .call { name := "forward", args := [⟨0⟩], target := some ⟨1⟩ }, []⟩]

def strayingGraph : FlowGraph := .ofProgram strayingProgram

/-- The graph is not closed under its edges, though the program is well formed. -/
theorem not_forall_closed :
    ¬ ∀ g : FlowGraph, g.program.validate = .ok () → ∀ n, g.contains n = true →
      (∀ edge ∈ g.successors n, g.contains edge.target = true) ∧
        ∀ m ∈ g.stepCandidates n, g.contains m = true := by
  intro hclosed
  have hv : strayingGraph.program.validate = .ok () := by cbv
  have hedges : strayingGraph.successors (.expr ⟨0⟩) =
      [⟨.param ⟨0⟩, .callToParameter ⟨1⟩⟩] := by cbv
  have hin := (hclosed strayingGraph hv (.expr ⟨0⟩) rfl).1 _ (hedges ▸ List.mem_singleton_self _)
  cases hin

theorem leaves_iff_strays_straying :
    strayingProgram.validate = .ok () ∧
      ⟨.param ⟨0⟩, .callToParameter ⟨1⟩⟩ ∈ strayingGraph.successors (.expr ⟨0⟩) ∧
      strayingGraph.contains (.param ⟨0⟩) = false ∧
      strayingGraph.contains (.expr ⟨1⟩) = true := by
  have hv : strayingGraph.program.validate = .ok () := by cbv
  have hcandidates : strayingGraph.stepCandidates (.expr ⟨0⟩) = [.expr ⟨1⟩] := by cbv
  obtain ⟨hedges, hsteps⟩ := leaves_iff_strays hv (.expr ⟨0⟩)
  have hpasses : strayingGraph.Passes ⟨0⟩ ⟨1⟩ ⟨0⟩ := ⟨_, _, rfl, rfl, .inl ⟨0, rfl, rfl⟩⟩
  obtain ⟨hmem, hout⟩ := (hedges _).mpr (.call hpasses rfl rfl)
  exact ⟨hv, hmem, hout, hsteps _ (hcandidates ▸ List.mem_singleton_self _)⟩

end FlowGraph

end TaintFlow
