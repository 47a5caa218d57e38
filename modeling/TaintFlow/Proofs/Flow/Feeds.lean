import TaintFlow.Proofs.Flow.Definitions
import Mathlib.Data.List.Basic

namespace TaintFlow

namespace Program

/-- In the program the value of one node is passed on to another, which is no read. -/
inductive Feeds (p : Program) : FlowNode → FlowNode → EdgeKind → Prop
  | assigned {e value : ExprId} {v : VarId} (h : p.kind? e = some (.assign v value)) :
      Feeds p (.expr value) (.expr e) .localAssign
  | stored {e base value : ExprId} {f : FieldId} (h : p.kind? e = some (.fieldStore base f value)) :
      Feeds p (.expr value) (.expr e) .localAssign
  | storedInto {e base value : ExprId} {f : FieldId}
      (h : p.kind? e = some (.fieldStore base f value)) :
      Feeds p (.expr value) (.postUpdate base) (.fieldStore f)
  | loaded {e base : ExprId} {f : FieldId} (h : p.kind? e = some (.fieldLoad base f)) :
      Feeds p (.expr base) (.expr e) (.fieldLoad (some f))
  | indexed {e base key : ExprId} {f : Option FieldId} (h : p.kind? e = some (.index base key f)) :
      Feeds p (.expr base) (.expr e) (.fieldLoad f)
  | entry {e : ExprId} {entries : List HashEntry} {entry : HashEntry} {f : FieldId}
      (h : p.kind? e = some (.hash entries)) (hm : entry ∈ entries) (hf : entry.field = some f) :
      Feeds p (.expr entry.value) (.expr e) (.fieldStore f)
  | unknownEntry {e : ExprId} {entries : List HashEntry} {entry : HashEntry}
      (h : p.kind? e = some (.hash entries)) (hm : entry ∈ entries) (hf : entry.field = none) :
      Feeds p (.expr entry.value) (.expr e) .localAssign
  | operand {e x : ExprId} {operator : String} {operands : List ExprId}
      (h : p.kind? e = some (.operation operator operands)) (hm : x ∈ operands) :
      Feeds p (.expr x) (.expr e) .taintStep
  | argument {call arg : ExprId} {site : CallSite} {t : FunctionId} {f : Function} {i : Nat}
      {v : VarId} (h : p.kind? call = some (.call site)) (ht : site.target = some t)
      (hf : p.function? t = some f) (ha : site.args[i]? = some arg) (hv : f.params[i]? = some v) :
      Feeds p (.expr arg) (.param v) (.callToParameter call)
  | receiver {call e : ExprId} {site : CallSite} {t : FunctionId} {f : Function} {v : VarId}
      (h : p.kind? call = some (.call site)) (ht : site.target = some t)
      (hf : p.function? t = some f) (hr : site.receiver = some e) (hv : f.selfParam = some v) :
      Feeds p (.expr e) (.param v) (.callToParameter call)
  | result {call : ExprId} {site : CallSite} {t : FunctionId}
      (h : p.kind? call = some (.call site)) (ht : site.target = some t) :
      Feeds p (.returned t) (.expr call) (.returnToCallResult call)
  | returned {e : ExprId} {t : FunctionId} {f : Function} (hf : p.function? t = some f)
      (hr : e ∈ f.returns) : Feeds p (.expr e) (.returned t) .localAssign
  | mutated {e r : ExprId} {v : VarId} {defs : List Def} (h : p.kind? r = some (.read v defs))
      (hd : .mutation e ∈ defs) : Feeds p (.expr e) (.postUpdate e) .localAssign
  | updated {e base value : ExprId} {f : FieldId}
      (h : p.kind? e = some (.fieldStore base f value)) :
      Feeds p (.expr base) (.postUpdate base) .localAssign

def IsRead (p : Program) (n : FlowNode) : Prop :=
  ∃ e v defs, n = .expr e ∧ p.kind? e = some (.read v defs)

end Program

namespace FlowGraph

variable {g : FlowGraph} {m n : FlowNode} {edge : FlowEdge} {e user : ExprId} {role : UseRole}
  {kind : ExprKind}

theorem callee?_eq_some {call : ExprId} {site : CallSite} {f : Function}
    (hk : g.program.kind? call = some (.call site)) :
    g.callee? call = some f ↔ ∃ t, site.target = some t ∧ g.program.function? t = some f := by
  simp [callee?, Program.call?, hk, ExprKind.call?, Option.bind_eq_some_iff]

theorem exists_of_mem_callEdge {call : ExprId} {site : CallSite} {param : Function → Option VarId}
    (hk : g.program.kind? call = some (.call site))
    (he : edge ∈ (match (g.callee? call).bind param with
      | some v => [⟨.param v, .callToParameter call⟩]
      | none => [] : List FlowEdge)) :
    ∃ t f v, site.target = some t ∧ g.program.function? t = some f ∧ param f = some v ∧
      edge = ⟨.param v, .callToParameter call⟩ := by
  split at he
  · next v hv =>
    obtain ⟨f, hf, hv⟩ := Option.bind_eq_some_iff.mp hv
    obtain ⟨t, ht, hf⟩ := (callee?_eq_some hk).mp hf
    exact ⟨t, f, v, ht, hf, hv, List.mem_singleton.mp he⟩
  · cases he

theorem feeds_of_mem_callEdge {site : CallSite}
    (hk : g.program.kind? user = some (.call site))
    (hr : (e, role) ∈ (ExprKind.call site).operandRoles) (he : edge ∈ g.useEdges ⟨user, role⟩) :
    g.program.Feeds (.expr e) edge.target edge.kind := by
  rcases List.mem_append.mp hr with hr | hr
  · obtain ⟨x, hx, hr⟩ := List.mem_map.mp hr
    cases hr
    obtain ⟨t, f, v, ht, hf, hv, rfl⟩ := exists_of_mem_callEdge hk he
    exact .receiver hk ht hf (Option.mem_toList.mp hx) hv
  · obtain ⟨⟨x, i⟩, hx, hr⟩ := List.mem_map.mp hr
    cases hr
    obtain ⟨t, f, v, ht, hf, hv, rfl⟩ := exists_of_mem_callEdge hk he
    exact .argument hk ht hf (List.mem_zipIdx_iff_getElem?.mp hx) hv

theorem feeds_of_mem_useEdges (hk : g.program.kind? user = some kind)
    (hr : (e, role) ∈ kind.operandRoles) (he : edge ∈ g.useEdges ⟨user, role⟩) :
    g.program.Feeds (.expr e) edge.target edge.kind := by
  cases kind with
  | literal | regex | read => cases hr
  | assign v value =>
    cases List.mem_singleton.mp hr
    cases List.mem_singleton.mp he
    exact .assigned hk
  | call site => exact feeds_of_mem_callEdge hk hr he
  | fieldLoad base f =>
    cases List.mem_singleton.mp hr
    cases List.mem_singleton.mp he
    exact .loaded hk
  | fieldStore base f value =>
    rcases List.mem_pair.mp hr with hr | hr
    · cases hr
      simp only [useEdges, hk] at he
      rcases List.mem_pair.mp he with rfl | rfl
      · exact .stored hk
      · exact .storedInto hk
    · cases hr
      cases he
  | hash entries =>
    obtain ⟨entry, hm, hr⟩ := List.mem_flatMap.mp hr
    rcases List.mem_pair.mp hr with hr | hr
    · cases hr
      cases he
    · cases hr
      cases hf : entry.field with
      | none =>
        rw [hf] at he
        cases List.mem_singleton.mp he
        exact .unknownEntry hk hm hf
      | some f =>
        rw [hf] at he
        cases List.mem_singleton.mp he
        exact .entry hk hm hf
  | index base key f =>
    rcases List.mem_pair.mp hr with hr | hr
    · cases hr
      cases List.mem_singleton.mp he
      exact .indexed hk
    · cases hr
      cases he
  | operation operator operands =>
    obtain ⟨x, hx, hr⟩ := List.mem_map.mp hr
    cases hr
    cases List.mem_singleton.mp he
    exact .operand hk hx

theorem mem_successors_postUpdate (hu : g.index.postUpdated.contains e = true) :
    ⟨.postUpdate e, .localAssign⟩ ∈ g.successors (.expr e) := by
  simp [successors, hu]

section

variable (h : g.program.validate = .ok ())
include h

theorem mem_successors_of_use (role : UseRole) (hk : g.program.kind? user = some kind)
    (hr : (e, role) ∈ kind.operandRoles) (he : edge ∈ g.useEdges ⟨user, role⟩) :
    edge ∈ g.successors (.expr e) := by
  have hu : ⟨user, role⟩ ∈ g.index.uses.get e := by
    rw [g.index_eq]
    exact (Program.mem_uses h).mpr ⟨kind, hk, hr⟩
  simp only [successors, List.append_assoc, List.mem_append]
  exact .inl (List.mem_flatMap.mpr ⟨_, hu, he⟩)

theorem mem_successors_of_feeds {via : EdgeKind} (hf : g.program.Feeds m n via) :
    ⟨n, via⟩ ∈ g.successors m := by
  cases hf with
  | assigned hk =>
    exact mem_successors_of_use h .assignedValue hk (by simp [ExprKind.operandRoles])
      (by simp [useEdges])
  | @stored _ _ _ f hk =>
    exact mem_successors_of_use h (.storedValue f) hk (by simp [ExprKind.operandRoles])
      (by simp [useEdges])
  | @storedInto _ _ _ f hk =>
    exact mem_successors_of_use h (.storedValue f) hk (by simp [ExprKind.operandRoles])
      (by simp [useEdges, hk])
  | @loaded _ _ f hk =>
    exact mem_successors_of_use h (.loadBase f) hk (by simp [ExprKind.operandRoles])
      (by simp [useEdges])
  | @indexed _ _ _ f hk =>
    exact mem_successors_of_use h (.indexBase f) hk (by simp [ExprKind.operandRoles])
      (by simp [useEdges])
  | @entry e _ entry f hk hm hf =>
    refine mem_successors_of_use h (.hashValue (some f)) hk ?_ (by simp [useEdges])
    exact List.mem_flatMap.mpr ⟨entry, hm, by simp [hf]⟩
  | @unknownEntry e _ entry hk hm hf =>
    refine mem_successors_of_use h (.hashValue none) hk ?_ (by simp [useEdges])
    exact List.mem_flatMap.mpr ⟨entry, hm, by simp [hf]⟩
  | operand hk hm =>
    exact mem_successors_of_use h .operand hk (List.mem_map_of_mem hm)
      (by simp [useEdges])
  | @argument call arg site t f i v hk ht hf ha hv =>
    refine (mem_successors_param h).mpr ⟨arg, call, rfl, rfl, site, f, ?_, ?_, .inl ⟨i, ha, hv⟩⟩
    · simp [Program.call?, hk, ExprKind.call?]
    · exact (callee?_eq_some hk).mpr ⟨t, ht, hf⟩
  | @receiver call e site t f v hk ht hf hr hv =>
    refine (mem_successors_param h).mpr ⟨e, call, rfl, rfl, site, f, ?_, ?_, .inr ⟨hr, hv⟩⟩
    · simp [Program.call?, hk, ExprKind.call?]
    · exact (callee?_eq_some hk).mpr ⟨t, ht, hf⟩
  | @result call site t hk ht =>
    have hc : call ∈ g.index.callers.get t := by
      rw [g.index_eq]
      exact (Program.mem_callers h).mpr ⟨site, by simp [Program.call?, hk, ExprKind.call?], ht⟩
    exact List.mem_map_of_mem hc
  | @returned e t f hf hr =>
    have hback : t ∈ g.index.returnedBy.get e := by
      rw [g.index_eq]
      exact Program.mem_returnedBy.mpr
        ⟨f, Program.mem_of_function? hf, hr, Program.id_of_function? h hf⟩
    exact mem_successors_of_returned hback
  | mutated hk hd =>
    apply mem_successors_postUpdate
    exact contains_postUpdated_of_kind? hk (by simpa [ExprKind.updates] using ⟨_, hd, rfl⟩)
  | updated hk =>
    apply mem_successors_postUpdate
    exact contains_postUpdated_of_kind? hk (by simp [ExprKind.updates])

theorem feeds_postUpdate (hu : g.index.postUpdated.contains e = true) :
    g.program.Feeds (.expr e) (.postUpdate e) .localAssign := by
  rw [g.index_eq] at hu
  obtain ⟨⟨user, _, _, _, kind, _⟩, hx, hu⟩ := Program.contains_postUpdated.mp hu
  have hk : g.program.kind? user = some kind := congrArg _ (Program.expr?_of_mem h hx)
  cases kind with
  | fieldStore base f value =>
    cases List.mem_singleton.mp hu
    exact .updated hk
  | read v defs =>
    obtain ⟨d, hd, hm⟩ := List.mem_filterMap.mp hu
    cases d with
    | mutation e' =>
      cases hm
      exact .mutated hk hd
    | initializer | assign | param | uninitialized => cases hm
  | literal | regex | assign | call | fieldLoad | hash | index | operation => cases hu

theorem feeds_or_isRead (he : edge ∈ g.successors m) :
    g.program.Feeds m edge.target edge.kind ∨
      edge.kind = .localAssign ∧ g.program.IsRead edge.target := by
  cases successor_of_mem he with
  | @use e u edge hu he =>
    rw [g.index_eq] at hu
    obtain ⟨kind, hk, hr⟩ := (Program.mem_uses h).mp hu
    exact .inl (feeds_of_mem_useEdges hk hr he)
  | @reader n d r hr =>
    rw [g.index_eq] at hr
    obtain ⟨kind, hk, hd⟩ := (Program.mem_readers h).mp hr
    cases kind with
    | read v defs => exact .inr ⟨rfl, r, v, defs, rfl, hk⟩
    | _ => cases hd
  | update hu => exact .inl (feeds_postUpdate h hu)
  | returned hback =>
    rw [g.index_eq] at hback
    obtain ⟨f, hf, hr, rfl⟩ := Program.mem_returnedBy.mp hback
    exact .inl (.returned (Program.function?_of_mem h hf) hr)
  | @result t call hc =>
    rw [g.index_eq] at hc
    obtain ⟨site, hsite, ht⟩ := (Program.mem_callers h).mp hc
    obtain ⟨kind, hk, hcall⟩ := Option.bind_eq_some_iff.mp hsite
    cases kind with
    | call site' =>
      cases hcall
      exact .inl (.result hk ht)
    | _ => cases hcall

/-- Into a node that is no read, the edges are those by which the program feeds it. -/
theorem mem_successors_iff_feeds {via : EdgeKind} (hn : ¬ g.program.IsRead n) :
    ⟨n, via⟩ ∈ g.successors m ↔ g.program.Feeds m n via := by
  constructor
  · intro he
    rcases feeds_or_isRead h he with hf | ⟨-, hread⟩
    · exact hf
    · exact absurd hread hn
  · exact mem_successors_of_feeds h

end

def packingProgram : Program where
  functions := #[⟨⟨0⟩, "main", "packing.rb", [], none, [⟨4⟩], default⟩,
    ⟨⟨1⟩, "pack", "packing.rb", [⟨1⟩], some ⟨0⟩, [⟨5⟩], default⟩]
  vars := #[⟨⟨0⟩, "self", some ⟨1⟩, none, .selfParameter, none, default⟩,
    ⟨⟨1⟩, "item", some ⟨1⟩, none, .parameter 0, none, default⟩]
  fields := #[⟨⟨0⟩, "item"⟩]
  exprs := #[⟨⟨0⟩, ⟨0⟩, default, "secret()", .call { name := "secret" }, []⟩,
    ⟨⟨1⟩, ⟨0⟩, default, ":item", .literal (.symbol "item"), []⟩,
    ⟨⟨2⟩, ⟨0⟩, default, "x", .hash [⟨⟨1⟩, ⟨0⟩, some ⟨0⟩⟩, ⟨⟨0⟩, ⟨0⟩, none⟩], []⟩,
    ⟨⟨3⟩, ⟨0⟩, default, "x.item = x", .fieldStore ⟨2⟩ ⟨0⟩ ⟨2⟩, []⟩,
    ⟨⟨4⟩, ⟨0⟩, default, "x.pack(x)",
      .call { name := "pack", receiver := some ⟨2⟩, args := [⟨2⟩], target := some ⟨1⟩ }, []⟩,
    ⟨⟨5⟩, ⟨1⟩, default, "item", .read ⟨1⟩ [.param ⟨1⟩], []⟩]

def packingGraph : FlowGraph := .ofProgram packingProgram

/-- The call gets no value from its receiver and its argument, only from the function. -/
theorem mem_successors_iff_feeds_packing :
    packingProgram.validate = .ok () ∧ ¬ packingProgram.IsRead (.postUpdate ⟨2⟩) ∧
      ⟨.postUpdate ⟨2⟩, .fieldStore ⟨0⟩⟩ ∈ packingGraph.successors (.expr ⟨2⟩) ∧
      ⟨.postUpdate ⟨2⟩, .localAssign⟩ ∈ packingGraph.successors (.expr ⟨2⟩) ∧
      ⟨.param ⟨0⟩, .callToParameter ⟨4⟩⟩ ∈ packingGraph.successors (.expr ⟨2⟩) ∧
      ⟨.param ⟨1⟩, .callToParameter ⟨4⟩⟩ ∈ packingGraph.successors (.expr ⟨2⟩) ∧
      (∀ kind, ⟨.expr ⟨4⟩, kind⟩ ∉ packingGraph.successors (.expr ⟨2⟩)) ∧
      ⟨.expr ⟨4⟩, .returnToCallResult ⟨4⟩⟩ ∈ packingGraph.successors (.returned ⟨1⟩) := by
  have hv : packingGraph.program.validate = .ok () := by cbv
  have hcall : packingGraph.program.kind? ⟨4⟩ = some (.call
    { name := "pack", receiver := some ⟨2⟩, args := [⟨2⟩], target := some ⟨1⟩ }) := rfl
  have hstore : packingGraph.program.kind? ⟨3⟩ = some (.fieldStore ⟨2⟩ ⟨0⟩ ⟨2⟩) := rfl
  have hresult : ¬ packingGraph.program.IsRead (.expr ⟨4⟩) := by
    rintro ⟨e, v, defs, he, hk⟩
    cases he
    cases hcall.symm.trans hk
  have hupdate (e : ExprId) : ¬ packingGraph.program.IsRead (.postUpdate e) := by
    rintro ⟨_, _, _, he, -⟩
    cases he
  have hparam (v : VarId) : ¬ packingGraph.program.IsRead (.param v) := by
    rintro ⟨_, _, _, he, -⟩
    cases he
  refine ⟨hv, hupdate _, ?_, ?_, ?_, ?_, ?_, ?_⟩
  · exact (mem_successors_iff_feeds hv (hupdate _)).mpr (.storedInto hstore)
  · exact (mem_successors_iff_feeds hv (hupdate _)).mpr (.updated hstore)
  · exact (mem_successors_iff_feeds hv (hparam _)).mpr (.receiver hcall rfl rfl rfl rfl)
  · exact (mem_successors_iff_feeds hv (hparam _)).mpr (.argument hcall rfl rfl rfl (i := 0) rfl)
  · intro kind hmem
    have hf := (mem_successors_iff_feeds hv hresult).mp hmem
    generalize hm : FlowNode.expr ⟨2⟩ = m at hf
    cases hf with
    | result => cases hm
    | assigned hk | stored hk | loaded hk | indexed hk | entry hk | unknownEntry hk | operand hk =>
      cases hcall.symm.trans hk
  · exact (mem_successors_iff_feeds hv hresult).mpr (.result hcall rfl)

end FlowGraph

end TaintFlow
