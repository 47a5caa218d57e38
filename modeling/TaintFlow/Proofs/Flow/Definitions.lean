import TaintFlow.Proofs.Flow.Edges

namespace TaintFlow

namespace Program

def initializer? (p : Program) (v : VarId) : Option ExprId := (p.var? v).bind (·.initializer)

def origin? (p : Program) : Def → Option FlowNode
  | .initializer v => (p.initializer? v).map .expr
  | .assign e => some (.expr e)
  | .param v => some (.param v)
  | .mutation e => some (.postUpdate e)
  | .uninitialized v => some (.uninitialized v)

/-- Not by an initial value that another variable is declared with as well. -/
def Unshared (p : Program) (d : Def) : Prop :=
  ∀ v w, d = .initializer v → p.initializer? w = p.initializer? v → w = v

variable {p : Program} (h : p.validate = .ok ())
include h

theorem mem_initializerPairs {e : ExprId} {v : VarId} :
    (e, v) ∈ p.initializerPairs ↔ p.initializer? v = some e := by
  simp only [initializerPairs, List.mem_filterMap, Option.map_eq_some_iff, Prod.mk.injEq,
    initializer?, Option.bind_eq_some_iff]
  constructor
  · rintro ⟨x, hx, e, he, rfl, rfl⟩
    exact ⟨x, var?_of_mem h hx, he⟩
  · rintro ⟨x, hx, he⟩
    exact ⟨x, Array.mem_toList_iff.mpr (Array.mem_of_getElem? hx), e, he, rfl, id_of_var? h hx⟩

theorem initializer?_of_initializerOf {e : ExprId} {v : VarId}
    (hv : p.index.initializerOf[e]? = some v) : p.initializer? v = some e := by
  simp only [index, getElem?_foldl_insert, Std.HashMap.getElem?_empty, Option.or_none] at hv
  have hmem := List.mem_of_getLast? hv
  rw [← mem_initializerPairs h]
  simpa using hmem

theorem initializerOf_of_unshared {e : ExprId} {v : VarId} (hv : p.initializer? v = some e)
    (hu : p.Unshared (.initializer v)) : p.index.initializerOf[e]? = some v := by
  have hmem := (mem_initializerPairs h).mpr hv
  cases hlast : p.index.initializerOf[e]? with
  | none =>
    simp only [index, getElem?_foldl_insert, Std.HashMap.getElem?_empty, Option.or_none,
      List.getLast?_eq_none_iff, List.map_eq_nil_iff, List.filter_eq_nil_iff, beq_iff_eq] at hlast
    exact absurd rfl (hlast _ hmem)
  | some w => rw [hu v w rfl ((initializer?_of_initializerOf h hlast).trans hv.symm)]

end Program

namespace FlowGraph

/-- Where a definition says that it is an assignment, it is one. -/
def Assigns (g : FlowGraph) (d : Def) : Prop := ∀ e, d = .assign e → g.isAssign e = true

def definitions (g : FlowGraph) : FlowNode → List Def
  | .expr e => (g.index.initializerOf[e]?).toList.map .initializer ++
      if g.isAssign e then [.assign e] else []
  | .param v => [.param v]
  | .uninitialized v => [.uninitialized v]
  | .postUpdate e => [.mutation e]
  | .returned _ => []

variable {g : FlowGraph} {m : FlowNode} {r : ExprId} {d : Def} {kind : EdgeKind}

theorem mem_successors_of_definition (hd : d ∈ g.definitions m) (hr : r ∈ g.index.readers.get d) :
    ⟨.expr r, .localAssign⟩ ∈ g.successors m := by
  have hreader : ⟨.expr r, .localAssign⟩ ∈ g.readerEdges d := List.mem_map_of_mem hr
  cases m with
  | expr e =>
    simp only [successors, List.append_assoc, List.mem_append]
    rcases List.mem_append.mp hd with hd | hd
    · obtain ⟨v, hv, rfl⟩ := List.mem_map.mp hd
      rw [Option.mem_toList] at hv
      rw [hv]
      exact .inr (.inl hreader)
    · split at hd
      · next hassign =>
        rw [List.mem_singleton.mp hd] at hreader
        rw [if_pos hassign]
        exact .inr (.inr (.inl hreader))
      · cases hd
  | param v | uninitialized v | postUpdate e =>
    rw [List.mem_singleton.mp hd] at hreader
    exact hreader
  | returned f => cases hd

theorem definition_of_mem_readerEdges (hd : d ∈ g.definitions m)
    (he : ⟨.expr r, kind⟩ ∈ g.readerEdges d) :
    kind = .localAssign ∧ ∃ d ∈ g.definitions m, r ∈ g.index.readers.get d := by
  obtain ⟨r', hr, he⟩ := List.mem_map.mp he
  cases he
  exact ⟨rfl, d, hd, hr⟩

section

variable (h : g.program.validate = .ok ())
include h

theorem definition_of_mem_successors {v : VarId} {defs : List Def}
    (hr : g.program.kind? r = some (.read v defs)) (he : ⟨.expr r, kind⟩ ∈ g.successors m) :
    kind = .localAssign ∧ ∃ d ∈ g.definitions m, r ∈ g.index.readers.get d := by
  cases m with
  | expr e =>
    simp only [successors, List.append_assoc, List.mem_append] at he
    rcases he with he | he | he | he | he
    · obtain ⟨u, hu, he⟩ := List.mem_flatMap.mp he
      rw [g.index_eq] at hu
      obtain ⟨kind', hkind, hrole⟩ := (Program.mem_uses h).mp hu
      cases useEdge_of_mem he with
      | user =>
        -- A read has no operands, so it is nothing's user.
        rw [hr] at hkind
        cases hkind
        cases hrole
    · cases hv : g.index.initializerOf[e]? with
      | none => simp [hv] at he
      | some v =>
        rw [hv] at he
        exact definition_of_mem_readerEdges (List.mem_append_left _ (by simp [hv])) he
    · split at he
      · next hassign =>
        exact definition_of_mem_readerEdges (List.mem_append_right _ (by simp [hassign])) he
      · cases he
    · split at he
      · cases List.mem_singleton.mp he
      · cases he
    · obtain ⟨f, -, he⟩ := List.mem_map.mp he
      cases he
  | param v | uninitialized v | postUpdate e =>
    exact definition_of_mem_readerEdges (List.mem_singleton_self _) he
  | returned f =>
    obtain ⟨call, hc, he⟩ := List.mem_map.mp he
    cases he
    rw [g.index_eq] at hc
    obtain ⟨site, hsite, -⟩ := (Program.mem_callers h).mp hc
    rw [Program.call?, hr] at hsite
    cases hsite

theorem origin?_of_mem_definitions (hd : d ∈ g.definitions m) :
    g.program.origin? d = some m ∧ g.Assigns d := by
  cases m with
  | expr e =>
    rcases List.mem_append.mp hd with hd | hd
    · obtain ⟨v, hv, rfl⟩ := List.mem_map.mp hd
      rw [Option.mem_toList, g.index_eq] at hv
      refine ⟨?_, fun e he ↦ by cases he⟩
      rw [Program.origin?, Program.initializer?_of_initializerOf h hv, Option.map_some]
    · split at hd
      · next hassign =>
        rw [List.mem_singleton.mp hd]
        exact ⟨rfl, fun e he ↦ by cases he; exact hassign⟩
      · cases hd
  | param v | uninitialized v | postUpdate e =>
    rw [List.mem_singleton.mp hd]
    exact ⟨rfl, fun e he ↦ by cases he⟩
  | returned f => cases hd

theorem mem_definitions (ho : g.program.origin? d = some m) (ha : g.Assigns d)
    (hu : g.program.Unshared d) : d ∈ g.definitions m := by
  cases d with
  | initializer v =>
    obtain ⟨e, he, rfl⟩ := Option.map_eq_some_iff.mp ho
    have hv := Program.initializerOf_of_unshared h he hu
    rw [← g.index_eq] at hv
    exact List.mem_append_left _ (by simp [hv])
  | assign e =>
    cases ho
    exact List.mem_append_right _ (by simp [ha e rfl])
  | param v | uninitialized v | mutation e =>
    cases ho
    exact List.mem_singleton_self _

/-- The edges into a read are assignments, each from the origin of a definition that reaches it. A
definition that says it is an assignment, but names an expression that is none, gives no edge. Every
other one does, unless it is by an initial value that two variables are declared with. -/
theorem mem_successors_read {r : ExprId} {v : VarId} {defs : List Def}
    (hr : g.program.kind? r = some (.read v defs)) (m : FlowNode) :
    (∀ kind, ⟨.expr r, kind⟩ ∈ g.successors m → kind = .localAssign ∧
      ∃ d ∈ defs, g.program.origin? d = some m ∧ g.Assigns d) ∧
      ∀ d ∈ defs, g.program.origin? d = some m → g.Assigns d → g.program.Unshared d →
        ⟨.expr r, .localAssign⟩ ∈ g.successors m := by
  have hreaders (d : Def) : r ∈ g.index.readers.get d ↔ d ∈ defs := by
    rw [g.index_eq, Program.mem_readers h, hr]
    simp [ExprKind.defs]
  constructor
  · intro kind he
    obtain ⟨hkind, d, hd, hreader⟩ := definition_of_mem_successors h hr he
    exact ⟨hkind, d, (hreaders d).mp hreader, origin?_of_mem_definitions h hd⟩
  · intro d hd ho ha hu
    exact mem_successors_of_definition (mem_definitions h ho ha hu) ((hreaders d).mpr hd)

end

def sharingProgram : Program where
  functions := #[⟨⟨0⟩, "main", "sharing.rb", [], none, [], default⟩]
  vars := #[⟨⟨0⟩, "x", some ⟨0⟩, none, .localVar, none, default⟩,
    ⟨⟨1⟩, "a", some ⟨0⟩, none, .localVar, some ⟨0⟩, default⟩,
    ⟨⟨2⟩, "b", some ⟨0⟩, none, .localVar, some ⟨0⟩, default⟩]
  exprs := #[⟨⟨0⟩, ⟨0⟩, default, "secret()", .call { name := "secret" }, []⟩,
    ⟨⟨1⟩, ⟨0⟩, default, "x", .read ⟨0⟩ [.assign ⟨0⟩], []⟩,
    ⟨⟨2⟩, ⟨0⟩, default, "a", .read ⟨1⟩ [.initializer ⟨1⟩], []⟩,
    ⟨⟨3⟩, ⟨0⟩, default, "x = secret()", .assign ⟨0⟩ ⟨0⟩, []⟩,
    ⟨⟨4⟩, ⟨0⟩, default, "x", .read ⟨0⟩ [.assign ⟨3⟩, .uninitialized ⟨0⟩], []⟩]

def sharingGraph : FlowGraph := .ofProgram sharingProgram

/-- Not every definition gives an edge from its origin: the call, which is no assignment, gives
none, nor does the initial value of the first of the two variables. -/
theorem not_mem_successors_of_origin :
    sharingProgram.validate = .ok () ∧
      (sharingProgram.kind? ⟨1⟩ = some (.read ⟨0⟩ [.assign ⟨0⟩]) ∧
        ¬ (⟨.expr ⟨1⟩, .localAssign⟩ ∈ sharingGraph.successors (.expr ⟨0⟩) ↔
          ∃ d ∈ [Def.assign ⟨0⟩], sharingProgram.origin? d = some (.expr ⟨0⟩))) ∧
      sharingProgram.kind? ⟨2⟩ = some (.read ⟨1⟩ [.initializer ⟨1⟩]) ∧
        ¬ (⟨.expr ⟨2⟩, .localAssign⟩ ∈ sharingGraph.successors (.expr ⟨0⟩) ↔
          ∃ d ∈ [Def.initializer ⟨1⟩], sharingProgram.origin? d = some (.expr ⟨0⟩)) := by
  have hv : sharingProgram.validate = .ok () := by cbv
  have hedges : sharingGraph.successors (.expr ⟨0⟩) = [⟨.expr ⟨3⟩, .localAssign⟩] := by cbv
  refine ⟨hv, ⟨rfl, fun hiff ↦ ?_⟩, rfl, fun hiff ↦ ?_⟩
  · have hmem := hiff.mpr ⟨_, List.mem_singleton_self _, rfl⟩
    rw [hedges] at hmem
    simp at hmem
  · have hmem := hiff.mpr ⟨_, List.mem_singleton_self _, rfl⟩
    rw [hedges] at hmem
    simp at hmem

theorem mem_successors_read_sharing :
    sharingProgram.validate = .ok () ∧
      sharingProgram.kind? ⟨4⟩ = some (.read ⟨0⟩ [.assign ⟨3⟩, .uninitialized ⟨0⟩]) ∧
      ⟨.expr ⟨4⟩, .localAssign⟩ ∈ sharingGraph.successors (.expr ⟨3⟩) ∧
      ⟨.expr ⟨4⟩, .localAssign⟩ ∈ sharingGraph.successors (.uninitialized ⟨0⟩) ∧
      ⟨.expr ⟨1⟩, .localAssign⟩ ∉ sharingGraph.successors (.expr ⟨0⟩) := by
  have hv : sharingProgram.validate = .ok () := by cbv
  have hk : sharingGraph.program.kind? ⟨4⟩ =
      some (.read ⟨0⟩ [.assign ⟨3⟩, .uninitialized ⟨0⟩]) := rfl
  have hk' : sharingGraph.program.kind? ⟨1⟩ = some (.read ⟨0⟩ [.assign ⟨0⟩]) := rfl
  refine ⟨hv, hk, ?_, ?_, fun hmem ↦ ?_⟩
  · refine (mem_successors_read hv hk _).2 (.assign ⟨3⟩) (by simp) rfl (fun e he ↦ ?_)
      (fun v w he ↦ by cases he)
    cases he
    rfl
  · exact (mem_successors_read hv hk _).2 (.uninitialized ⟨0⟩) (by simp) rfl
      (fun e he ↦ by cases he) (fun v w he ↦ by cases he)
  · obtain ⟨-, d, hd, -, hassigns⟩ := (mem_successors_read hv hk' _).1 _ hmem
    cases List.mem_singleton.mp hd
    exact absurd (hassigns ⟨0⟩ rfl) (by decide)

end FlowGraph

end TaintFlow
