import TaintFlow.Proofs.Flow.Feeds
import TaintFlow.Proofs.Taint.Walk
import Mathlib.Data.List.ProdSigma

namespace TaintFlow

namespace Program

variable (p : Program)

def places : List FlowNode :=
  p.exprs.toList.map (.expr ·.id) ++ p.exprs.toList.map (.postUpdate ·.id) ++
    p.vars.toList.map (.param ·.id) ++ p.vars.toList.map (.uninitialized ·.id) ++
    p.functions.toList.map (.returned ·.id)

def contents : List (Option FieldId) := none :: p.fields.toList.map (some ·.id)

def calls : List Expr := p.exprs.toList.filter (·.kind.call?.isSome)

def contexts : List (Option ExprId) := none :: p.calls.map (some ·.id)

def keys : List TaintKey :=
  (p.places ×ˢ p.contents ×ˢ p.contexts).map fun (n, content, context) ↦ ⟨n, content, context⟩

def keyCount : Nat :=
  (2 * p.exprs.size + 2 * p.vars.size + p.functions.size) * (p.fields.size + 1) *
    (p.calls.length + 1)

variable {p}

theorem length_keys : p.keys.length = p.keyCount := by
  have hplaces : p.places.length = 2 * p.exprs.size + 2 * p.vars.size + p.functions.size := by
    simp [places]
    omega
  have hcontents : p.contents.length = p.fields.size + 1 := by simp [contents]
  have hcontexts : p.contexts.length = p.calls.length + 1 := by simp [contexts]
  rw [keys, keyCount, List.length_map, List.length_product, List.length_product, hplaces, hcontents,
    hcontexts, Nat.mul_assoc]

theorem mem_keys {key : TaintKey} : key ∈ p.keys ↔
    key.node ∈ p.places ∧ key.content ∈ p.contents ∧ key.context ∈ p.contexts := by
  simp only [keys, List.mem_map, Prod.exists, List.mem_product]
  constructor
  · rintro ⟨n, content, context, hmem, rfl⟩
    exact hmem
  · intro hmem
    exact ⟨_, _, _, hmem, rfl⟩

section

variable (h : p.validate = .ok ())
include h

theorem mem_places {n : FlowNode} (hn : n.ref.index < p.size n.ref) : n ∈ p.places := by
  simp only [places, List.append_assoc, List.mem_append, List.mem_map]
  cases n with
  | expr e =>
    have hx : p.expr? e = some p.exprs[e.index] := Array.getElem?_eq_getElem hn
    exact .inl ⟨_, mem_of_expr? hx, by rw [id_of_expr? h hx]⟩
  | postUpdate e =>
    have hx : p.expr? e = some p.exprs[e.index] := Array.getElem?_eq_getElem hn
    exact .inr (.inl ⟨_, mem_of_expr? hx, by rw [id_of_expr? h hx]⟩)
  | param v =>
    have hx : p.var? v = some p.vars[v.index] := Array.getElem?_eq_getElem hn
    exact .inr (.inr (.inl ⟨_, mem_of_var? hx, by rw [id_of_var? h hx]⟩))
  | uninitialized v =>
    have hx : p.var? v = some p.vars[v.index] := Array.getElem?_eq_getElem hn
    exact .inr (.inr (.inr (.inl ⟨_, mem_of_var? hx, by rw [id_of_var? h hx]⟩)))
  | returned f =>
    have hx : p.function? f = some p.functions[f.index] := Array.getElem?_eq_getElem hn
    exact .inr (.inr (.inr (.inr ⟨_, mem_of_function? hx, by rw [id_of_function? h hx]⟩)))

theorem mem_contents {f : FieldId} (hf : f.index < p.fields.size) : some f ∈ p.contents := by
  have hx : p.field? f = some p.fields[f.index] := Array.getElem?_eq_getElem hf
  refine List.mem_cons_of_mem _ (List.mem_map.mpr ⟨_, mem_of_field? hx, ?_⟩)
  rw [id_of_field? h hx]

theorem mem_contexts {call : ExprId} {site : CallSite} (hk : p.kind? call = some (.call site)) :
    some call ∈ p.contexts := by
  obtain ⟨x, hx, hkind⟩ := Option.map_eq_some_iff.mp hk
  refine List.mem_cons_of_mem _ (List.mem_map.mpr ⟨x, List.mem_filter.mpr
    ⟨mem_of_expr? hx, ?_⟩, by rw [id_of_expr? h hx]⟩)
  rw [hkind]
  rfl

end

end Program

namespace FlowGraph

variable {g : FlowGraph} {n : FlowNode} {edge : FlowEdge} (h : g.program.validate = .ok ())
include h

theorem mem_places_of_contains (hn : g.contains n = true) : n ∈ g.program.places := by
  apply Program.mem_places h
  cases n with
  | expr e =>
    obtain ⟨x, hx⟩ := Option.isSome_iff_exists.mp hn
    exact (Array.getElem?_eq_some_iff.mp hx).1
  | param v =>
    obtain ⟨x, hx, -⟩ := (Option.any_eq_true _ _).mp hn
    exact (Array.getElem?_eq_some_iff.mp hx).1
  | returned f =>
    obtain ⟨x, hx⟩ := Option.isSome_iff_exists.mp hn
    exact (Array.getElem?_eq_some_iff.mp hx).1
  | uninitialized v =>
    rw [contains, g.index_eq] at hn
    obtain ⟨x, hx, hv⟩ := Program.contains_uninitialized.mp hn
    exact Program.index_lt_of_mem_refs h hx (Expr.mem_refs_of_mem_uninitializedReads hv)
  | postUpdate e =>
    rw [contains, g.index_eq] at hn
    obtain ⟨x, hx, he⟩ := Program.contains_postUpdated.mp hn
    exact Program.index_lt_of_mem_refs h hx (Expr.mem_refs_of_mem_updates he)

theorem mem_places_of_mem_successors (he : edge ∈ g.successors n) :
    edge.target ∈ g.program.places := by
  obtain ⟨target, kind⟩ := edge
  by_cases ht : ∃ v, target = .param v
  · obtain ⟨v, rfl⟩ := ht
    obtain ⟨e, call, -, -, hpasses⟩ := (mem_successors_param h).mp he
    obtain ⟨f, -, -, x, hx⟩ := hpasses.exists_var? h
    exact Program.mem_places h (Array.getElem?_eq_some_iff.mp hx).1
  · exact mem_places_of_contains h (contains_of_ne_param h he fun v hv ↦ ht ⟨v, hv⟩)

theorem mem_contents_of_mem_successors {m : FlowNode} {f : FieldId}
    (he : ⟨m, .fieldStore f⟩ ∈ g.successors n) : some f ∈ g.program.contents := by
  have hfed : g.program.Feeds n m (.fieldStore f) := by
    rcases feeds_or_isRead h he with hfed | ⟨hkind, -⟩
    · exact hfed
    · cases hkind
  have hlt : (Ref.field f).index < g.program.size (.field f) := by
    cases hfed with
    | storedInto hk => exact Program.index_lt_of_kind? h hk (List.mem_singleton_self _)
    | entry hk hm hf =>
      refine Program.index_lt_of_kind? h hk (List.mem_filterMap.mpr ⟨_, hm, ?_⟩)
      rw [hf, Option.map_some]
  exact Program.mem_contents h hlt

theorem mem_contexts_of_mem_successors {m : FlowNode} {call : ExprId}
    (he : ⟨m, .callToParameter call⟩ ∈ g.successors n) : some call ∈ g.program.contexts := by
  have hfed : g.program.Feeds n m (.callToParameter call) := by
    rcases feeds_or_isRead h he with hfed | ⟨hkind, -⟩
    · exact hfed
    · cases hkind
  cases hfed with
  | argument hk => exact Program.mem_contexts h hk
  | receiver hk => exact Program.mem_contexts h hk

end FlowGraph

namespace Knobs

variable {k : Knobs} {via : EdgeKind}

theorem content?_cases {content content' : Option FieldId}
    (h : k.content? content via = some content') :
    content' = content ∨ content' = none ∨ ∃ f, via = .fieldStore f ∧ content' = some f := by
  unfold content? at h
  split at h
  · cases h
    exact .inl rfl
  · cases h
    exact .inl rfl
  · cases h
    exact .inl rfl
  · cases h
    exact .inr (.inr ⟨_, rfl, rfl⟩)
  · split at h <;> cases h
    exact .inr (.inl rfl)
  all_goals
    cases h
    exact .inr (.inl rfl)

theorem context?_cases {context context' : Option ExprId}
    (h : k.context? context via = some context') :
    context' = context ∨ context' = none ∨
      ∃ call, via = .callToParameter call ∧ context' = some call := by
  unfold context? at h
  split at h
  · cases h
    exact .inr (.inr ⟨_, rfl, rfl⟩)
  · split at h <;> cases h
    exact .inr (.inl rfl)
  · cases h
    exact .inl rfl

theorem transfer_cases {g : FlowGraph} {key next : TaintKey} {target : FlowNode}
    (h : k.transfer g key target via = some next) :
    (next.content = key.content ∨ next.content = none ∨
        ∃ f, via = .fieldStore f ∧ next.content = some f) ∧
      (next.context = key.context ∨ next.context = none ∨
        ∃ call, via = .callToParameter call ∧ next.context = some call) := by
  simp only [transfer, Option.bind_eq_bind, Option.bind_eq_some_iff] at h
  obtain ⟨content, hcontent, context, hcontext, hnext⟩ := h
  cases hnext
  constructor
  · dsimp only
    split
    · exact content?_cases hcontent
    · exact .inr (.inl rfl)
  · dsimp only
    split
    · exact context?_cases hcontext
    · exact .inr (.inl rfl)

end Knobs

namespace Rule

variable {r : Rule} {g : FlowGraph} {k : Knobs} {via : EdgeKind} {key next : TaintKey}

theorem Passes.mem_successors (hp : r.Passes g k via key next) (hv : via ≠ .additionalStep) :
    ⟨next.node, via⟩ ∈ g.successors key.node := by
  rcases mem_moves_iff.mp hp.move with hedge | ⟨hvia, -⟩
  · exact hedge
  · exact absurd hvia hv

/-- Taint passes from a key of the program to no other than these. -/
theorem Passes.mem_keys (hp : r.Passes g k via key next) (h : g.program.validate = .ok ())
    (hs : r.StaysIn g) (hk : key ∈ g.program.keys) : next ∈ g.program.keys := by
  obtain ⟨-, hcontent, hcontext⟩ := Program.mem_keys.mp hk
  obtain ⟨hcontents, hcontexts⟩ := Knobs.transfer_cases hp.transfer
  refine Program.mem_keys.mpr ⟨?_, ?_, ?_⟩
  · rcases mem_moves_iff.mp hp.move with hedge | ⟨-, hm⟩
    · exact FlowGraph.mem_places_of_mem_successors h hedge
    · exact FlowGraph.mem_places_of_contains h (hs _ _ hm)
  · rcases hcontents with he | he | ⟨f, rfl, he⟩
    · rwa [he]
    · rw [he]
      exact List.mem_cons_self
    · rw [he]
      exact FlowGraph.mem_contents_of_mem_successors h (hp.mem_successors (by simp))
  · rcases hcontexts with he | he | ⟨call, rfl, he⟩
    · rwa [he]
    · rw [he]
      exact List.mem_cons_self
    · rw [he]
      exact FlowGraph.mem_contexts_of_mem_successors h (hp.mem_successors (by simp))

theorem mem_keys_of_walkFrom {sources : List FlowNode} {n : Nat}
    (h : g.program.validate = .ok ()) (hs : r.StaysIn g)
    (hn : ∀ source ∈ sources, g.contains source = true) (hw : r.WalkFrom g k sources n key) :
    key ∈ g.program.keys := by
  obtain ⟨source, hsource, -, hwalk⟩ := hw
  generalize hstart : TaintKey.plain source = start at hwalk
  induction hwalk with
  | nil start =>
    subst hstart
    exact Program.mem_keys.mpr ⟨FlowGraph.mem_places_of_contains h (hn source hsource),
      List.mem_cons_self, List.mem_cons_self⟩
  | snoc _ hp ih => exact hp.mem_keys h hs (ih hstart)

end Rule

end TaintFlow
