import TaintFlow.Proofs.Taint.Ways

namespace TaintFlow

/-- What an edge does to the calls that have been entered. -/
inductive Crossing where
  | enter (call : ExprId)
  | leave (call : ExprId)
  | jump
  | stay
deriving DecidableEq

namespace Crossing

/-- With every call kept, the last one first. A return is made to that one, or to any call if none
has been entered. -/
def nested : Crossing → List ExprId → Option (List ExprId)
  | enter call, stack => some (call :: stack)
  | leave _, [] => some []
  | leave call, top :: stack => if top = call then some stack else none
  | jump, stack | stay, stack => some stack

/-- With the last call kept, as long as taint stays in the function. -/
def slot : Crossing → Slot ExprId
  | enter call => .store call
  | leave call => .demand call
  | jump => .clear
  | stay => .keep

def nested? (stack : List ExprId) (crossings : List Crossing) : Option (List ExprId) :=
  crossings.foldlM (fun stack c ↦ c.nested stack) stack

def Matched (crossings : List Crossing) : Prop := ∃ stack, nested? [] crossings = some stack

/-- A call is entered, and a return made to another before the function is left otherwise. -/
def Mismatch (crossings : List Crossing) : Prop :=
  ∃ entered left before between after, left ≠ entered ∧ (∀ c ∈ between, c = stay) ∧
    crossings = before ++ enter entered :: (between ++ leave left :: after)

def Agrees (context : Option ExprId) (stack : List ExprId) : Prop :=
  context = none ∨ context = stack.head?

variable {context : Option ExprId} {stack stack' : List ExprId} {crossings : List Crossing}
  {c : Crossing} {call : ExprId}

theorem Agrees.run (h : Agrees context stack) (hc : c.nested stack = some stack') :
    ∃ context', c.slot.run context = some context' ∧ Agrees context' stack' := by
  cases c with
  | enter call =>
    cases hc
    exact ⟨some call, rfl, .inr rfl⟩
  | leave call =>
    refine ⟨none, ?_, .inl rfl⟩
    rcases h with rfl | rfl
    -- A call forgotten is no hindrance, and one kept is on top of the stack.
    · rfl
    · cases stack with
      | nil => rfl
      | cons top stack =>
        have htop : top = call := by
          by_contra hne
          simp [nested, hne] at hc
        simp [slot, Slot.run, htop]
  | jump => exact ⟨none, rfl, .inl rfl⟩
  | stay =>
    cases hc
    exact ⟨context, rfl, h⟩

theorem Agrees.run? (h : Agrees context stack) (hc : nested? stack crossings = some stack') :
    ∃ context', Slot.run? slot context crossings = some context' ∧ Agrees context' stack' := by
  induction crossings generalizing context stack with
  | nil =>
    cases hc
    exact ⟨context, rfl, h⟩
  | cons c rest ih =>
    rw [nested?, List.foldlM_cons] at hc
    obtain ⟨next, hnext, hrest⟩ := Option.bind_eq_some_iff.mp hc
    obtain ⟨kept, hkept, hagrees⟩ := h.run hnext
    rw [Slot.run?_cons, hkept]
    exact ih hagrees hrest

theorem slot_eq_store : c.slot = .store call ↔ c = enter call := by
  cases c <;> simp [slot]

theorem slot_eq_demand : c.slot = .demand call ↔ c = leave call := by
  cases c <;> simp [slot]

theorem slot_eq_keep : c.slot = .keep ↔ c = stay := by
  cases c <;> simp [slot]

theorem run?_eq_none_iff : Slot.run? slot none crossings = none ↔ Mismatch crossings := by
  simp only [Slot.run?_eq_none_iff, Slot.Clash, slot_eq_store, slot_eq_demand, slot_eq_keep]
  constructor
  · rintro ⟨entered, left, between, hne, hstay, before, _, _, after, rfl, rfl, rfl⟩
    exact ⟨entered, left, before, between, after, hne, hstay, rfl⟩
  · rintro ⟨entered, left, before, between, after, hne, hstay, rfl⟩
    exact ⟨entered, left, between, hne, hstay, before, _, _, after, rfl, rfl, rfl⟩

theorem Mismatch.append (h : Mismatch crossings) (rest : List Crossing) :
    Mismatch (crossings ++ rest) := by
  rw [← run?_eq_none_iff] at h ⊢
  rw [Slot.run?_append, h, Option.bind_none]

theorem Matched.not_mismatch (h : Matched crossings) : ¬ Mismatch crossings := by
  obtain ⟨stack, hs⟩ := h
  obtain ⟨kept, hkept, -⟩ := Agrees.run? (.inl rfl) hs
  rw [← run?_eq_none_iff, hkept]
  simp

end Crossing

namespace FlowGraph

def crossing (g : FlowGraph) (n : FlowNode) (edge : FlowEdge) : Crossing :=
  match edge.kind with
  | .callToParameter call => .enter call
  | .returnToCallResult call => .leave call
  | _ => if g.functionOf n = g.functionOf edge.target then .stay else .jump

def crossings (g : FlowGraph) (steps : List (FlowNode × FlowEdge)) : List Crossing :=
  steps.map fun step ↦ g.crossing step.1 step.2

theorem crossings_append {g : FlowGraph} {steps rest : List (FlowNode × FlowEdge)} :
    g.crossings (steps ++ rest) = g.crossings steps ++ g.crossings rest :=
  List.map_append ..

end FlowGraph

namespace Knobs

variable {k : Knobs} {g : FlowGraph} {key : TaintKey}

theorem run_crossing (hc : k.contextSensitive = true) (edge : FlowEdge) :
    (g.crossing key.node edge).slot.run key.context = (k.context? key.context edge.kind).map
      fun kept ↦ if !edge.kind.isInterprocedural &&
        g.functionOf key.node != g.functionOf edge.target then none else kept := by
  obtain ⟨target, kind⟩ := edge
  cases kind with
  | callToParameter call => rfl
  | returnToCallResult call =>
    by_cases h : key.context.any (· ≠ call) <;>
      simp [context?, FlowGraph.crossing, Crossing.slot, Slot.run, EdgeKind.isInterprocedural, hc]
  | _ =>
    by_cases h : g.functionOf key.node = g.functionOf target <;>
      simp [context?, FlowGraph.crossing, Crossing.slot, Slot.run, EdgeKind.isInterprocedural, h]

theorem transfer_eq_crossing (hc : k.contextSensitive = true) (edge : FlowEdge) :
    k.transfer g key edge.target edge.kind =
      (k.content? key.content edge.kind).bind fun content ↦
        ((g.crossing key.node edge).slot.run key.context).map
          (⟨edge.target, if k.fieldSensitive then content else none, ·⟩) := by
  rw [run_crossing hc]
  simp only [transfer, hc, Bool.true_and, Option.bind_eq_bind]
  cases k.content? key.content edge.kind with
  | none => rfl
  | some content =>
    cases k.context? key.context edge.kind with
    | none => rfl
    | some kept =>
      generalize (!edge.kind.isInterprocedural &&
        g.functionOf key.node != g.functionOf edge.target) = leaves
      cases leaves <;> rfl

theorem keeps_context (hc : k.contextSensitive = true) (hf : k.fieldSensitive = false) :
    k.Keeps g (⟨·, none, ·⟩) fun step ↦ (g.crossing step.1 step.2).slot where
  node _ _ := rfl
  plain _ := rfl
  transfer n edge context := by
    have hcontent : ∃ content, k.content? none edge.kind = some content := by
      cases edge.kind with
      | fieldLoad field => cases field <;> simp [content?, hf]
      | _ => exact ⟨_, rfl⟩
    obtain ⟨content, hcontent⟩ := hcontent
    rw [transfer_eq_crossing hc, hcontent, hf]
    rfl

end Knobs

namespace Pass

variable {s : Setup} {sources : List FlowNode}

theorem admits_iff_not_mismatch (hc : s.knobs.contextSensitive = true)
    (hf : s.knobs.fieldSensitive = false) (hn : (run s sources).halt = none) {n : FlowNode} :
    (run s sources).progress.Admits n ↔ ∃ source ∈ sources, ∃ steps,
      s.rule.Way s.graph source steps n ∧ ¬ Crossing.Mismatch (s.graph.crossings steps) := by
  simp only [admits_iff_way (Knobs.keeps_context hc hf) hn, ← Crossing.run?_eq_none_iff,
    FlowGraph.crossings, Slot.run?_map, ne_eq]

/-- Where calls are told apart and fields are not, a finished pass admits every node on a way on
which returns match calls with every call kept. It admits a node exactly if on some way there no
return is made to another call than the one entered last, before the function is left. -/
theorem admits_of_matched (hc : s.knobs.contextSensitive = true)
    (hf : s.knobs.fieldSensitive = false) (hn : (run s sources).halt = none) :
    (∀ source ∈ sources, ∀ steps n, s.rule.Way s.graph source steps n →
      Crossing.Matched (s.graph.crossings steps) →
        ∀ m ∈ Rule.nodesOf source steps, (run s sources).progress.Admits m) ∧
      ∀ n, (run s sources).progress.Admits n ↔ ∃ source ∈ sources, ∃ steps,
        s.rule.Way s.graph source steps n ∧ ¬ Crossing.Mismatch (s.graph.crossings steps) := by
  refine ⟨fun source hs steps n hway hmatched m hm ↦ ?_, fun n ↦ admits_iff_not_mismatch hc hf hn⟩
  obtain ⟨before, rest, hbefore, rfl⟩ := hway.exists_of_mem hm
  refine (admits_iff_not_mismatch hc hf hn).mpr ⟨source, hs, before, hbefore, fun hmis ↦ ?_⟩
  have hmis' := hmis.append (s.graph.crossings rest)
  rw [← FlowGraph.crossings_append] at hmis'
  exact hmatched.not_mismatch hmis'

def nestingProgram : Program where
  functions := #[⟨⟨0⟩, "main", "nesting.rb", [], none, [], default⟩,
    ⟨⟨1⟩, "outer", "nesting.rb", [⟨0⟩], none, [⟨3⟩], default⟩,
    ⟨⟨2⟩, "inner", "nesting.rb", [⟨1⟩], none, [⟨4⟩], default⟩]
  vars := #[⟨⟨0⟩, "x", some ⟨1⟩, none, .parameter 0, none, default⟩,
    ⟨⟨1⟩, "y", some ⟨2⟩, none, .parameter 0, none, default⟩]
  exprs := #[⟨⟨0⟩, ⟨0⟩, default, "secret()", .call { name := "secret" }, []⟩,
    ⟨⟨1⟩, ⟨0⟩, default, "outer(secret())",
      .call { name := "outer", args := [⟨0⟩], target := some ⟨1⟩ }, []⟩,
    ⟨⟨2⟩, ⟨1⟩, default, "x", .read ⟨0⟩ [.param ⟨0⟩], []⟩,
    ⟨⟨3⟩, ⟨1⟩, default, "inner(x)",
      .call { name := "inner", args := [⟨2⟩], target := some ⟨2⟩ }, []⟩,
    ⟨⟨4⟩, ⟨2⟩, default, "y", .read ⟨1⟩ [.param ⟨1⟩], []⟩,
    ⟨⟨5⟩, ⟨0⟩, default, "1", .literal (.number "1"), []⟩,
    ⟨⟨6⟩, ⟨0⟩, default, "inner(1)",
      .call { name := "inner", args := [⟨5⟩], target := some ⟨2⟩ }, []⟩]

def nestingSources : List FlowNode := [.expr ⟨0⟩]

def nestingSetup : Setup where
  graph := .ofProgram nestingProgram
  rule := {
    name := "nesting"
    isSource := fun _ n ↦ nestingSources.contains n
    sinkKind? := fun _ _ ↦ none }
  knobs := { Knobs.ofPreset .balanced with fieldSensitive := false, contextSensitive := true }
  budget := .unlimited

def nestingSteps : List (FlowNode × FlowEdge) :=
  [(.expr ⟨0⟩, ⟨.param ⟨0⟩, .callToParameter ⟨1⟩⟩), (.param ⟨0⟩, ⟨.expr ⟨2⟩, .localAssign⟩),
    (.expr ⟨2⟩, ⟨.param ⟨1⟩, .callToParameter ⟨3⟩⟩), (.param ⟨1⟩, ⟨.expr ⟨4⟩, .localAssign⟩),
    (.expr ⟨4⟩, ⟨.returned ⟨2⟩, .localAssign⟩),
    (.returned ⟨2⟩, ⟨.expr ⟨3⟩, .returnToCallResult ⟨3⟩⟩),
    (.expr ⟨3⟩, ⟨.returned ⟨1⟩, .localAssign⟩),
    (.returned ⟨1⟩, ⟨.expr ⟨1⟩, .returnToCallResult ⟨1⟩⟩)]

theorem way_nesting :
    nestingSetup.rule.Way nestingSetup.graph (.expr ⟨0⟩) nestingSteps (.expr ⟨1⟩) := by
  have hmoves : nestingSteps.all (fun (n, edge) ↦
      (nestingSetup.rule.moves nestingSetup.graph n).contains edge) = true := by cbv
  have hmove (n : FlowNode) (edge : FlowEdge) (h : (n, edge) ∈ nestingSteps) :
      edge ∈ nestingSetup.rule.moves nestingSetup.graph n :=
    List.contains_iff_mem.mp (List.all_eq_true.mp hmoves _ h)
  have hinner : nestingSetup.rule.Way nestingSetup.graph (.expr ⟨0⟩) (nestingSteps.take 4)
      (.expr ⟨4⟩) :=
    .move (.move (.move (.move (.source rfl) (hmove _ _ (by decide)) rfl)
      (hmove _ _ (by decide)) rfl) (hmove _ _ (by decide)) rfl) (hmove _ _ (by decide)) rfl
  exact .move (.move (.move (.move hinner (hmove _ _ (by decide)) rfl)
    (hmove _ _ (by decide)) rfl) (hmove _ _ (by decide)) rfl) (hmove _ _ (by decide)) rfl

theorem nodes_nesting :
    (run nestingSetup nestingSources).progress.arena.states.toList.map (·.key.node) =
      Rule.nodesOf (.expr ⟨0⟩) nestingSteps := by
  cbv

theorem halt_nesting : (run nestingSetup nestingSources).halt = none := by cbv

/-- The secret comes out of the outer call, and each way to the other call of the inner function
returns to it from the wrong one. -/
theorem admits_of_matched_nesting :
    nestingSetup.knobs.contextSensitive = true ∧ nestingSetup.knobs.fieldSensitive = false ∧
      (run nestingSetup nestingSources).halt = none ∧
      Crossing.Matched (nestingSetup.graph.crossings nestingSteps) ∧
      (run nestingSetup nestingSources).progress.Admits (.expr ⟨1⟩) ∧
      ∀ steps, nestingSetup.rule.Way nestingSetup.graph (.expr ⟨0⟩) steps (.expr ⟨6⟩) →
        Crossing.Mismatch (nestingSetup.graph.crossings steps) := by
  obtain ⟨hall, hiff⟩ := admits_of_matched (s := nestingSetup) rfl rfl halt_nesting
  have hmatched : Crossing.Matched (nestingSetup.graph.crossings nestingSteps) := ⟨[], by decide⟩
  refine ⟨rfl, rfl, halt_nesting, hmatched, ?_, fun steps hway ↦ ?_⟩
  · exact hall _ (List.mem_singleton_self _) _ _ way_nesting hmatched _ (by decide)
  · by_contra hm
    have hmem := ((hiff (.expr ⟨6⟩)).mpr ⟨_, List.mem_singleton_self _, _, hway, hm⟩).mem_nodes
    rw [nodes_nesting] at hmem
    revert hmem
    decide

end Pass

end TaintFlow
