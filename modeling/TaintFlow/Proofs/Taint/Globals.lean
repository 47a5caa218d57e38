import TaintFlow.Proofs.Taint.CallStrings

namespace TaintFlow

structure FlowGraph.GivesGlobal (g : FlowGraph) (n : FlowNode) (r : ExprId) : Prop where
  edge : ⟨.expr r, .localAssign⟩ ∈ g.successors n
  isGlobal : ∃ v defs x, g.program.kind? r = some (.read v defs) ∧
    g.program.var? v = some x ∧ x.kind = .global

def FlowGraph.keptCall (g : FlowGraph) (key : TaintKey) (target : FlowNode) : Option ExprId :=
  if g.functionOf key.node = g.functionOf target then key.context else none

namespace Knobs

variable {k : Knobs} {g : FlowGraph} {key next : TaintKey} {target : FlowNode} {call : ExprId}

theorem transfer_localAssign (hc : k.contextSensitive = true) :
    k.transfer g key target .localAssign =
      some ⟨target, if k.fieldSensitive then key.content else none, g.keptCall key target⟩ := by
  rw [k.transfer_eq_crossing hc ⟨target, .localAssign⟩]
  unfold FlowGraph.keptCall
  by_cases h : g.functionOf key.node = g.functionOf target <;>
    simp [content?, FlowGraph.crossing, Crossing.slot, Slot.run, h]

theorem transfer_return (hc : k.contextSensitive = true)
    (h : key.context = none ∨ key.context = some call) :
    k.transfer g key target (.returnToCallResult call) =
      some ⟨target, if k.fieldSensitive then key.content else none, none⟩ := by
  rw [k.transfer_eq_crossing hc ⟨target, .returnToCallResult call⟩]
  rcases h with h | h <;> simp [content?, FlowGraph.crossing, Crossing.slot, Slot.run, h]

theorem content_of_transfer {via : EdgeKind} (h : k.transfer g key target via = some next) :
    (if k.fieldSensitive then next.content else none) = next.content := by
  simp only [transfer, Option.bind_eq_bind, Option.bind_eq_some_iff] at h
  obtain ⟨content, -, context, -, hnext⟩ := h
  cases hnext
  cases k.fieldSensitive <;> rfl

end Knobs

/-- The value of an expression comes back to a call, as the value of the function called. -/
def Rule.ComesBack (r : Rule) (g : FlowGraph) (e call : ExprId) : Prop :=
  ∃ f, f ∈ g.index.returnedBy.get e ∧ call ∈ g.index.callers.get f ∧
    r.isBlocked g (.returned f) = false ∧ r.isBlocked g (.expr call) = false

namespace Arena.Complete

variable {r : Rule} {g : FlowGraph} {k : Knobs} {sources : List FlowNode} {a : Arena}
  {key next : TaintKey} {edge : FlowEdge} (h : Complete r g k sources a)
include h

theorem holds_of_move (hk : a.Holds key) (hm : edge ∈ g.successors key.node)
    (ht : k.transfer g key edge.target edge.kind = some next)
    (hf : r.isBlocked g edge.target = false) : a.Holds next := by
  obtain ⟨j, x, hx, rfl⟩ := hk
  exact h.expanded j x _ _ hx (.of_transfer (List.mem_append_left _ hm) ht hf)

theorem content_eq (hk : a.Holds key) :
    (if k.fieldSensitive then key.content else none) = key.content := by
  obtain ⟨d, source, -, -, hw⟩ := h.holds_iff.mp hk
  cases hw with
  | nil => simp [TaintKey.plain]
  | snoc _ hp => exact Knobs.content_of_transfer hp.transfer

theorem holds_of_localAssign {target : FlowNode} (hc : k.contextSensitive = true)
    (hk : a.Holds key) (hm : ⟨target, .localAssign⟩ ∈ g.successors key.node)
    (hf : r.isBlocked g target = false) :
    a.Holds ⟨target, key.content, g.keptCall key target⟩ := by
  have hnext := h.holds_of_move hk hm (Knobs.transfer_localAssign hc) hf
  rwa [h.content_eq hk] at hnext

theorem holds_of_comesBack {e call : ExprId} {content : Option FieldId} {context : Option ExprId}
    (hc : k.contextSensitive = true) (hk : a.Holds ⟨.expr e, content, context⟩)
    (hb : r.ComesBack g e call) (hcall : context = none ∨ context = some call) :
    a.Holds ⟨.expr call, content, none⟩ := by
  obtain ⟨f, hreturned, hcaller, hfree, hfree'⟩ := hb
  have hreturn :=
    h.holds_of_localAssign hc hk (FlowGraph.mem_successors_of_returned hreturned) hfree
  have hkept : g.keptCall ⟨.expr e, content, context⟩ (.returned f) = none ∨
      g.keptCall ⟨.expr e, content, context⟩ (.returned f) = some call := by
    unfold FlowGraph.keptCall
    split
    · exact hcall
    · exact .inl rfl
  have hedge : ⟨.expr call, .returnToCallResult call⟩ ∈ g.successors (.returned f) :=
    List.mem_map_of_mem hcaller
  have hresult := h.holds_of_move hreturn hedge (Knobs.transfer_return hc hkept) hfree'
  rwa [h.content_eq hreturn] at hresult

end Arena.Complete

namespace Pass

variable {s : Setup} {sources : List FlowNode} {key : TaintKey} {r : ExprId}

/-- Where calls are told apart, a finished pass carries taint from a node on to the read of a global
variable. If the read lies in another function, or no call was entered, no call is kept, and taint
can come back to any call; if it lies in the same function, the call is kept, and taint can come
back to that. -/
theorem holds_of_givesGlobal (hc : s.knobs.contextSensitive = true)
    (hn : (run s sources).halt = none) (hk : (run s sources).progress.arena.Holds key)
    (hg : s.graph.GivesGlobal key.node r) (hf : s.rule.isBlocked s.graph (.expr r) = false) :
    (s.graph.functionOf key.node ≠ s.graph.functionOf (.expr r) ∨ key.context = none →
      (run s sources).progress.arena.Holds ⟨.expr r, key.content, none⟩ ∧
        ∀ call, s.rule.ComesBack s.graph r call →
          (run s sources).progress.arena.Holds ⟨.expr call, key.content, none⟩) ∧
      (s.graph.functionOf key.node = s.graph.functionOf (.expr r) →
        (run s sources).progress.arena.Holds ⟨.expr r, key.content, key.context⟩ ∧
          ∀ call, s.rule.ComesBack s.graph r call → key.context = some call →
            (run s sources).progress.arena.Holds ⟨.expr call, key.content, none⟩) := by
  have hcomplete := complete_of_halt hn
  have hread := hcomplete.holds_of_localAssign hc hk hg.edge hf
  constructor
  · intro hleft
    have hnone : s.graph.keptCall key (.expr r) = none := by
      rcases hleft with hne | hnone
      · exact if_neg hne
      · simp [FlowGraph.keptCall, hnone]
    rw [hnone] at hread
    exact ⟨hread, fun call hb ↦ hcomplete.holds_of_comesBack hc hread hb (.inl rfl)⟩
  · intro hstay
    have hkept : s.graph.keptCall key (.expr r) = key.context := if_pos hstay
    rw [hkept] at hread
    exact ⟨hread, fun call hb hcall ↦ hcomplete.holds_of_comesBack hc hread hb (.inr hcall)⟩

def parkingProgram : Program where
  functions := #[⟨⟨0⟩, "main", "parking.rb", [], none, [], default⟩,
    ⟨⟨1⟩, "store", "parking.rb", [⟨0⟩], none, [⟨4⟩], default⟩,
    ⟨⟨2⟩, "fetch", "parking.rb", [], none, [⟨5⟩], default⟩]
  vars := #[⟨⟨0⟩, "x", some ⟨1⟩, none, .parameter 0, none, default⟩,
    ⟨⟨1⟩, "LAST", none, none, .global, none, default⟩]
  exprs := #[⟨⟨0⟩, ⟨0⟩, default, "secret()", .call { name := "secret" }, []⟩,
    ⟨⟨1⟩, ⟨0⟩, default, "store(secret())",
      .call { name := "store", args := [⟨0⟩], target := some ⟨1⟩ }, []⟩,
    ⟨⟨2⟩, ⟨1⟩, default, "x", .read ⟨0⟩ [.param ⟨0⟩], []⟩,
    ⟨⟨3⟩, ⟨1⟩, default, "LAST = x", .assign ⟨1⟩ ⟨2⟩, []⟩,
    ⟨⟨4⟩, ⟨1⟩, default, "LAST", .read ⟨1⟩ [.assign ⟨3⟩], []⟩,
    ⟨⟨5⟩, ⟨2⟩, default, "LAST", .read ⟨1⟩ [.assign ⟨3⟩], []⟩,
    ⟨⟨6⟩, ⟨0⟩, default, "fetch()", .call { name := "fetch", target := some ⟨2⟩ }, []⟩,
    ⟨⟨7⟩, ⟨0⟩, default, "1", .literal (.number "1"), []⟩,
    ⟨⟨8⟩, ⟨0⟩, default, "store(1)",
      .call { name := "store", args := [⟨7⟩], target := some ⟨1⟩ }, []⟩,
    ⟨⟨9⟩, ⟨0⟩, default, "sink(store(1))", .call { name := "sink", args := [⟨8⟩] }, []⟩]

def parkingSources : List FlowNode := [.expr ⟨0⟩]

def parkingSetup : Setup where
  graph := .ofProgram parkingProgram
  rule := {
    name := "parking"
    isSource := fun _ n ↦ parkingSources.contains n
    sinkKind? := fun _ _ ↦ none }
  knobs := { Knobs.ofPreset .balanced with contextSensitive := true }
  budget := .unlimited

def parkedKey : TaintKey := ⟨.expr ⟨3⟩, none, some ⟨1⟩⟩

theorem keys_parking : (run parkingSetup parkingSources).progress.arena.states.toList.map (·.key) =
    [.plain (.expr ⟨0⟩), ⟨.param ⟨0⟩, none, some ⟨1⟩⟩, ⟨.expr ⟨2⟩, none, some ⟨1⟩⟩, parkedKey,
      ⟨.expr ⟨4⟩, none, some ⟨1⟩⟩, .plain (.expr ⟨5⟩), ⟨.returned ⟨1⟩, none, some ⟨1⟩⟩,
      .plain (.returned ⟨2⟩), .plain (.expr ⟨1⟩), .plain (.expr ⟨6⟩)] := by
  cbv

theorem givesGlobal_parking {r : ExprId} (hr : r = ⟨4⟩ ∨ r = ⟨5⟩) :
    parkingSetup.graph.GivesGlobal parkedKey.node r := by
  rcases hr with rfl | rfl
  · exact ⟨List.contains_iff_mem.mp (by cbv), _, _, _, rfl, rfl, rfl⟩
  · exact ⟨List.contains_iff_mem.mp (by cbv), _, _, _, rfl, rfl, rfl⟩

theorem halt_parking : (run parkingSetup parkingSources).halt = none := by cbv

theorem holds_parkedKey : (run parkingSetup parkingSources).progress.arena.Holds parkedKey := by
  rw [Arena.holds_iff_mem, keys_parking]
  decide

/-- The call is not always forgotten: it is not where the function that writes the global variable
reads it. -/
theorem not_forall_givesGlobal_forgets : ¬ ∀ s sources, s.graph.program.validate = .ok () →
    s.knobs.contextSensitive = true → (run s sources).halt = none → ∀ key,
      (run s sources).progress.arena.Holds key → ∀ r, s.graph.GivesGlobal key.node r →
        s.rule.isBlocked s.graph (.expr r) = false →
          (run s sources).progress.arena.Holds ⟨.expr r, key.content, none⟩ := by
  intro h
  have hv : parkingProgram.validate = .ok () := by cbv
  have hread := h parkingSetup parkingSources hv rfl halt_parking _ holds_parkedKey ⟨4⟩
    (givesGlobal_parking (.inl rfl)) rfl
  rw [Arena.holds_iff_mem, keys_parking] at hread
  revert hread
  decide

/-- What one function reads from the global variable comes back to the call of it; what the other
one reads keeps its call. -/
theorem holds_of_givesGlobal_parking :
    parkingSetup.knobs.contextSensitive = true ∧
      (run parkingSetup parkingSources).halt = none ∧
      (run parkingSetup parkingSources).progress.arena.Holds parkedKey ∧
      parkingSetup.graph.GivesGlobal parkedKey.node ⟨5⟩ ∧
      parkingSetup.rule.isBlocked parkingSetup.graph (.expr ⟨5⟩) = false ∧
      (run parkingSetup parkingSources).progress.arena.Holds ⟨.expr ⟨6⟩, none, none⟩ ∧
      (run parkingSetup parkingSources).progress.arena.Holds ⟨.expr ⟨4⟩, none, some ⟨1⟩⟩ := by
  have hfetch := givesGlobal_parking (.inr rfl)
  have hother := (holds_of_givesGlobal rfl halt_parking holds_parkedKey hfetch rfl).1
    (.inl (by decide))
  have hsame := (holds_of_givesGlobal rfl halt_parking holds_parkedKey
    (givesGlobal_parking (.inl rfl)) rfl).2 (by decide)
  have hback : parkingSetup.rule.ComesBack parkingSetup.graph ⟨5⟩ ⟨6⟩ :=
    ⟨⟨2⟩, List.contains_iff_mem.mp (by cbv), List.contains_iff_mem.mp (by cbv), rfl, rfl⟩
  exact ⟨rfl, halt_parking, holds_parkedKey, hfetch, rfl, hother.2 _ hback, hsame.1⟩

end Pass

end TaintFlow
