import TaintFlow.Flow.Graph
import TaintFlow.Proofs.Program.Tables

namespace TaintFlow

def FlowNode.ref : FlowNode → Ref
  | expr e | postUpdate e => .expr e
  | param v | uninitialized v => .var v
  | returned f => .function f

namespace FlowGraph

variable {g : FlowGraph} {n m : FlowNode} {edge : FlowEdge}

/-- An edge out of a node, by where it comes from. -/
inductive Successor (g : FlowGraph) : FlowNode → FlowEdge → Prop
  | use {e : ExprId} {u : Use} {edge : FlowEdge} (hu : u ∈ g.index.uses.get e)
      (h : edge ∈ g.useEdges u) : Successor g (.expr e) edge
  | reader {n : FlowNode} {d : Def} {r : ExprId} (hr : r ∈ g.index.readers.get d) :
      Successor g n ⟨.expr r, .localAssign⟩
  | update {e : ExprId} (he : g.index.postUpdated.contains e = true) :
      Successor g (.expr e) ⟨.postUpdate e, .localAssign⟩
  | returned {e : ExprId} {f : FunctionId} (hf : f ∈ g.index.returnedBy.get e) :
      Successor g (.expr e) ⟨.returned f, .localAssign⟩
  | result {f : FunctionId} {call : ExprId} (hc : call ∈ g.index.callers.get f) :
      Successor g (.returned f) ⟨.expr call, .returnToCallResult call⟩

theorem successor_of_mem_readerEdges {d : Def} (h : edge ∈ g.readerEdges d) :
    g.Successor n edge := by
  obtain ⟨r, hr, rfl⟩ := List.mem_map.mp h
  exact .reader hr

theorem successor_of_mem (h : edge ∈ g.successors n) : g.Successor n edge := by
  cases n with
  | expr e =>
    simp only [successors, List.append_assoc, List.mem_append] at h
    rcases h with h | h | h | h | h
    · obtain ⟨u, hu, he⟩ := List.mem_flatMap.mp h
      exact .use hu he
    · cases hv : g.index.initializerOf[e]? with
      | none => simp [hv] at h
      | some v => exact successor_of_mem_readerEdges (by simpa [hv] using h)
    · split at h
      · exact successor_of_mem_readerEdges h
      · cases h
    · split at h
      · next hc =>
        rw [List.mem_singleton.mp h]
        exact .update hc
      · cases h
    · obtain ⟨f, hf, rfl⟩ := List.mem_map.mp h
      exact .returned hf
  | param v => exact successor_of_mem_readerEdges h
  | uninitialized v => exact successor_of_mem_readerEdges h
  | postUpdate e => exact successor_of_mem_readerEdges h
  | returned f =>
    obtain ⟨call, hc, rfl⟩ := List.mem_map.mp h
    exact .result hc

inductive UseEdge (g : FlowGraph) (u : Use) : FlowEdge → Prop
  | user {kind : EdgeKind} (hk : kind ≠ .additionalStep) : UseEdge g u ⟨.expr u.user, kind⟩
  | stored {base value : ExprId} {f f' : FieldId}
      (h : g.program.kind? u.user = some (.fieldStore base f' value)) :
      UseEdge g u ⟨.postUpdate base, .fieldStore f⟩
  | parameter {f : Function} {v : VarId} (hf : g.callee? u.user = some f)
      (hv : v ∈ f.params ++ f.selfParam.toList) :
      UseEdge g u ⟨.param v, .callToParameter u.user⟩

theorem useEdge_of_mem {u : Use} (h : edge ∈ g.useEdges u) : g.UseEdge u edge := by
  unfold useEdges at h
  cases hrole : u.role <;> simp only [hrole] at h
  case storedValue f =>
    rcases List.mem_cons.mp h with rfl | h
    · exact .user (by simp)
    · split at h
      · next base f' value hk =>
        rw [List.mem_singleton.mp h]
        exact .stored hk
      · cases h
  case argument i =>
    split at h
    · next v hv =>
      rw [List.mem_singleton.mp h]
      obtain ⟨f, hf, hv⟩ := Option.bind_eq_some_iff.mp hv
      exact .parameter hf (List.mem_append_left _ (List.mem_of_getElem? hv))
    · cases h
  case receiver =>
    split at h
    · next v hv =>
      rw [List.mem_singleton.mp h]
      obtain ⟨f, hf, hv⟩ := Option.bind_eq_some_iff.mp hv
      exact .parameter hf (List.mem_append_right _ (by simp [hv]))
    · cases h
  case hashValue field =>
    cases field <;> (rw [List.mem_singleton.mp h]; exact .user (by simp))
  case storeBase | hashKey | indexKey => cases h
  all_goals
    rw [List.mem_singleton.mp h]
    exact .user (by simp)

/-- The call passes the value of an expression to a variable of the function it leads to: an
argument to the parameter at its position, or the receiver. -/
def Passes (g : FlowGraph) (e call : ExprId) (v : VarId) : Prop :=
  ∃ (site : CallSite) (f : Function), g.program.call? call = some site ∧ g.callee? call = some f ∧
    ((∃ i : Nat, site.args[i]? = some e ∧ f.params[i]? = some v) ∨
      site.receiver = some e ∧ f.selfParam = some v)

theorem mem_callEdge {o : Option VarId} {call : ExprId} {v : VarId} {kind : EdgeKind} :
    ⟨.param v, kind⟩ ∈ (match o with
      | some v => [⟨.param v, .callToParameter call⟩]
      | none => [] : List FlowEdge) ↔ kind = .callToParameter call ∧ o = some v := by
  cases o <;> simp [and_comm, eq_comm]

theorem mem_useEdges_param {u : Use} {v : VarId} {kind : EdgeKind} :
    ⟨.param v, kind⟩ ∈ g.useEdges u ↔ kind = .callToParameter u.user ∧
      ∃ f, g.callee? u.user = some f ∧
        ((∃ i : Nat, u.role = .argument i ∧ f.params[i]? = some v) ∨
          u.role = .receiver ∧ f.selfParam = some v) := by
  unfold useEdges
  cases hrole : u.role with
  | argument i => exact mem_callEdge.trans (by simp [Option.bind_eq_some_iff])
  | receiver => exact mem_callEdge.trans (by simp [Option.bind_eq_some_iff])
  | storedValue f =>
    dsimp only
    split <;> simp
  | hashValue f => cases f <;> simp
  | _ => simp

theorem mem_successors_of_returned {e : ExprId} {f : FunctionId}
    (hf : f ∈ g.index.returnedBy.get e) : ⟨.returned f, .localAssign⟩ ∈ g.successors (.expr e) :=
  List.mem_append_right _ (List.mem_map_of_mem hf)

theorem kind_ne_additionalStep_of_mem_successors (h : edge ∈ g.successors n) :
    edge.kind ≠ .additionalStep := by
  cases successor_of_mem h with
  | use hu he => cases useEdge_of_mem he <;> simp_all
  | reader hr => simp
  | update he => simp
  | returned hf => simp
  | result hc => simp

theorem contains_expr_of_kind? {e : ExprId} {kind : ExprKind}
    (he : g.program.kind? e = some kind) : g.contains (.expr e) = true := by
  obtain ⟨x, hx, -⟩ := Option.map_eq_some_iff.mp he
  simp [contains, hx]

theorem contains_postUpdated_of_kind? {e user : ExprId} {kind : ExprKind}
    (hk : g.program.kind? user = some kind) (hu : e ∈ kind.updates) :
    g.index.postUpdated.contains e = true := by
  obtain ⟨x, hx, rfl⟩ := Option.map_eq_some_iff.mp hk
  rw [g.index_eq]
  exact Program.contains_postUpdated.mpr ⟨x, Program.mem_of_expr? hx, hu⟩

theorem contains_useEdge {u : Use} (hu : g.contains (.expr u.user) = true) (he : g.UseEdge u edge)
    (hne : ∀ v, edge.target ≠ .param v) : g.contains edge.target = true := by
  cases he with
  | user => exact hu
  | @stored base value f f' hk =>
    exact contains_postUpdated_of_kind? hk (by simp [ExprKind.updates])
  | @parameter f v hf hv => exact absurd rfl (hne v)

section

variable (h : g.program.validate = .ok ())
include h

theorem contains_expr_of_mem {e : Expr} (he : e ∈ g.program.exprs.toList) :
    g.contains (.expr e.id) = true := by
  simp [contains, Program.expr?_of_mem h he]

theorem contains_user {e : ExprId} {u : Use} (hu : u ∈ g.index.uses.get e) :
    g.contains (.expr u.user) = true := by
  rw [g.index_eq] at hu
  obtain ⟨kind, hkind, -⟩ := (Program.mem_uses h).mp hu
  exact contains_expr_of_kind? hkind

theorem contains_of_ne_param (he : edge ∈ g.successors n) (hne : ∀ v, edge.target ≠ .param v) :
    g.contains edge.target = true := by
  cases successor_of_mem he with
  | use hu he => exact contains_useEdge (contains_user h hu) (useEdge_of_mem he) hne
  | reader hr =>
    rw [g.index_eq] at hr
    obtain ⟨kind, hkind, -⟩ := (Program.mem_readers h).mp hr
    exact contains_expr_of_kind? hkind
  | update hu => exact hu
  | returned hr =>
    rw [g.index_eq] at hr
    obtain ⟨f, hf, -, rfl⟩ := Program.mem_returnedBy.mp hr
    simp [contains, Program.function?_of_mem h hf]
  | result hc =>
    rw [g.index_eq] at hc
    obtain ⟨site, hsite, -⟩ := (Program.mem_callers h).mp hc
    obtain ⟨kind, hkind, -⟩ := Option.bind_eq_some_iff.mp hsite
    exact contains_expr_of_kind? hkind

theorem mem_successors_param {v : VarId} {kind : EdgeKind} :
    ⟨.param v, kind⟩ ∈ g.successors n ↔
      ∃ e call, n = .expr e ∧ kind = .callToParameter call ∧ g.Passes e call v := by
  constructor
  · intro he
    cases successor_of_mem he with
    | @use e u edge hu he =>
      obtain ⟨user, role⟩ := u
      obtain ⟨rfl, f, hf, hv⟩ := mem_useEdges_param.mp he
      rw [g.index_eq] at hu
      rcases hv with ⟨i, rfl, hv⟩ | ⟨rfl, hv⟩
      · obtain ⟨site, hsite, ha⟩ := (Program.mem_uses_argument h).mp hu
        exact ⟨e, user, rfl, rfl, site, f, hsite, hf, .inl ⟨i, ha, hv⟩⟩
      · obtain ⟨site, hsite, hr⟩ := (Program.mem_uses_receiver h).mp hu
        exact ⟨e, user, rfl, rfl, site, f, hsite, hf, .inr ⟨hr, hv⟩⟩
  · rintro ⟨e, call, rfl, rfl, site, f, hsite, hf, hv⟩
    simp only [successors, List.append_assoc, List.mem_append, List.mem_flatMap, g.index_eq]
    left
    rcases hv with ⟨i, ha, hv⟩ | ⟨hr, hv⟩
    · exact ⟨_, (Program.mem_uses_argument h).mpr ⟨site, hsite, ha⟩,
        mem_useEdges_param.mpr ⟨rfl, f, hf, .inl ⟨i, rfl, hv⟩⟩⟩
    · exact ⟨_, (Program.mem_uses_receiver h).mpr ⟨site, hsite, hr⟩,
        mem_useEdges_param.mpr ⟨rfl, f, hf, .inr ⟨rfl, hv⟩⟩⟩

theorem Passes.exists_var? {e call : ExprId} {v : VarId} (hp : g.Passes e call v) :
    ∃ f ∈ g.program.functions.toList, v ∈ f.params ++ f.selfParam.toList ∧
      ∃ x, g.program.var? v = some x := by
  obtain ⟨site, f, -, hf, hv⟩ := hp
  obtain ⟨id, -, hf⟩ := Option.bind_eq_some_iff.mp hf
  have hmem := Program.mem_of_function? hf
  have hlisted : v ∈ f.params ++ f.selfParam.toList := by
    rcases hv with ⟨i, -, hv⟩ | ⟨-, hv⟩
    · exact List.mem_append_left _ (List.mem_of_getElem? hv)
    · exact List.mem_append_right _ (by simp [hv])
  exact ⟨f, hmem, hlisted, Program.exists_var?_of_param h hmem hlisted⟩

theorem contains_of_mem_successors (hp : g.program.ListsParameters)
    (he : edge ∈ g.successors n) : g.contains edge.target = true := by
  obtain ⟨target, kind⟩ := edge
  by_cases ht : ∃ v, target = .param v
  · obtain ⟨v, rfl⟩ := ht
    obtain ⟨e, call, -, -, hpasses⟩ := (mem_successors_param h).mp he
    obtain ⟨f, hf, hv, x, hx⟩ := hpasses.exists_var? h
    simp [contains, hx, hp f hf v hv x hx]
  · exact contains_of_ne_param h he fun v hv ↦ ht ⟨v, hv⟩

theorem contains_of_mem_stepCandidates (hm : m ∈ g.stepCandidates n) : g.contains m = true := by
  cases n with
  | expr e =>
    obtain ⟨u, hu, rfl⟩ := List.mem_map.mp hm
    exact contains_user h (List.mem_filter.mp hu).1
  | param | uninitialized | postUpdate | returned => cases hm

theorem contains_of_mem_nodes (hn : n ∈ g.nodes) : g.contains n = true := by
  simp only [nodes, List.append_assoc, List.mem_append, List.mem_map, List.mem_filter,
    List.mem_mergeSort, Std.HashSet.mem_toList] at hn
  rcases hn with ⟨e, he, rfl⟩ | ⟨v, ⟨hv, hk⟩, rfl⟩ | ⟨v, hv, rfl⟩ | ⟨e, he, rfl⟩ | ⟨f, hf, rfl⟩
  · exact contains_expr_of_mem h he
  · simp [contains, Program.var?_of_mem h hv, hk]
  · exact hv
  · exact he
  · simp [contains, Program.function?_of_mem h hf]

end

theorem nodes_of_empty (hu : g.index.uninitialized = ∅) (hp : g.index.postUpdated = ∅) :
    g.nodes = g.program.exprs.toList.map (.expr ·.id) ++
      (g.program.vars.toList.filter (·.kind.isParameter)).map (.param ·.id) ++
      g.program.functions.toList.map (.returned ·.id) := by
  simp [nodes, hu, hp]

end FlowGraph

end TaintFlow
