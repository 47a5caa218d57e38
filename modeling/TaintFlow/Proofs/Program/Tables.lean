import TaintFlow.Program.Index
import TaintFlow.Proofs.Program.WellFormed

namespace TaintFlow

theorem getElem?_foldl_insert {κ ν : Type} [BEq κ] [LawfulBEq κ] [Hashable κ]
    {pairs : List (κ × ν)} {table : Std.HashMap κ ν} {k : κ} :
    (pairs.foldl (fun table (k, v) ↦ table.insert k v) table)[k]? =
      ((pairs.filter (·.1 == k)).map (·.2)).getLast?.or table[k]? := by
  induction pairs generalizing table with
  | nil => rfl
  | cons pair rest ih =>
    rw [List.foldl_cons, ih, Std.HashMap.getElem?_insert]
    by_cases hk : pair.1 = k
    · simp [hk, List.getLast?_cons]
    · simp [hk]

theorem ExprId.eq_of_index_eq {a b : ExprId} (h : a.index = b.index) : a = b := by
  cases a
  cases b
  exact congrArg _ (UInt32.toNat_inj.mp h)

theorem VarId.eq_of_index_eq {a b : VarId} (h : a.index = b.index) : a = b := by
  cases a
  cases b
  exact congrArg _ (UInt32.toNat_inj.mp h)

theorem FunctionId.eq_of_index_eq {a b : FunctionId} (h : a.index = b.index) : a = b := by
  cases a
  cases b
  exact congrArg _ (UInt32.toNat_inj.mp h)

theorem FieldId.eq_of_index_eq {a b : FieldId} (h : a.index = b.index) : a = b := by
  cases a
  cases b
  exact congrArg _ (UInt32.toNat_inj.mp h)

namespace ExprKind

variable {kind : ExprKind} {e : ExprId}

theorem mem_operandRoles_argument {i : Nat} :
    (e, .argument i) ∈ kind.operandRoles ↔
      ∃ site, kind.call? = some site ∧ site.args[i]? = some e := by
  cases kind <;> simp [operandRoles, call?, List.mem_zipIdx_iff_getElem?]

theorem mem_operandRoles_receiver :
    (e, .receiver) ∈ kind.operandRoles ↔
      ∃ site, kind.call? = some site ∧ site.receiver = some e := by
  cases kind <;> simp [operandRoles, call?]

theorem mem_operandRoles_assignedValue :
    (e, .assignedValue) ∈ kind.operandRoles ↔ ∃ v, kind = .assign v e := by
  cases kind <;> simp [operandRoles, eq_comm]

theorem mem_operandRoles_storedValue {f : FieldId} :
    (e, .storedValue f) ∈ kind.operandRoles ↔ ∃ base, kind = .fieldStore base f e := by
  cases kind <;> simp [operandRoles, eq_comm, and_comm]

theorem mem_operandRoles_hashValue {f : Option FieldId} :
    (e, .hashValue f) ∈ kind.operandRoles ↔ ∃ entries entry, kind = .hash entries ∧
      entry ∈ entries ∧ entry.field = f ∧ entry.value = e := by
  cases kind <;> simp [operandRoles, eq_comm, and_comm]

end ExprKind

namespace Expr

variable {x : Expr}

theorem mem_refs_of_mem_children {e : ExprId} (he : e ∈ x.kind.children) : .expr e ∈ x.refs :=
  List.mem_append_left _ (List.mem_append_left _ (List.mem_cons_of_mem _ (List.mem_map_of_mem he)))

theorem mem_refs_of_mem_otherRefs {ref : Ref} (hr : ref ∈ x.kind.otherRefs) : ref ∈ x.refs :=
  List.mem_append_right _ hr

theorem mem_refs_of_mem_defs {d : Def} (hd : d ∈ x.kind.defs) : d.ref ∈ x.refs := by
  apply mem_refs_of_mem_otherRefs
  cases hk : x.kind with
  | read v defs =>
    rw [hk] at hd
    exact List.mem_cons_of_mem _ (List.mem_map_of_mem hd)
  | _ =>
    rw [hk] at hd
    cases hd

theorem mem_refs_of_mem_updates {e : ExprId} (he : e ∈ x.kind.updates) : .expr e ∈ x.refs := by
  cases hk : x.kind with
  | fieldStore base f value =>
    apply mem_refs_of_mem_children
    simp_all [ExprKind.updates, ExprKind.children]
  | read v defs =>
    rw [hk] at he
    obtain ⟨d, hd, hm⟩ := List.mem_filterMap.mp he
    cases d with
    | mutation e' =>
      cases hm
      exact mem_refs_of_mem_defs (d := .mutation e) (by rwa [hk])
    | _ => cases hm
  | _ =>
    rw [hk] at he
    cases he

theorem mem_refs_of_mem_uninitializedReads {v : VarId} (hv : v ∈ x.kind.uninitializedReads) :
    .var v ∈ x.refs := by
  cases hk : x.kind with
  | read w defs =>
    rw [hk] at hv
    obtain ⟨d, hd, hm⟩ := List.mem_filterMap.mp hv
    cases d with
    | uninitialized v' =>
      cases hm
      exact mem_refs_of_mem_defs (d := .uninitialized v) (by rwa [hk])
    | _ => cases hm
  | _ =>
    rw [hk] at hv
    cases hv

end Expr

namespace Program

variable {p : Program}

/-- The parameters that a function lists are variables of a parameter kind. -/
def ListsParameters (p : Program) : Prop :=
  ∀ f ∈ p.functions.toList, ∀ v ∈ f.params ++ f.selfParam.toList,
    ∀ x, p.var? v = some x → x.kind.isParameter = true

section

variable (h : p.validate = .ok ())
include h

theorem index_of_getElem?_exprs {e : Expr} {i : Nat} (hi : p.exprs.toList[i]? = some e) :
    e.id.index = i :=
  (wellFormed_of_validate h).placed _ i (.expr hi)

theorem expr?_of_mem {e : Expr} (he : e ∈ p.exprs.toList) : p.expr? e.id = some e := by
  obtain ⟨i, hi⟩ := List.mem_iff_getElem?.mp he
  rw [expr?, index_of_getElem?_exprs h hi, ← Array.getElem?_toList, hi]

theorem id_of_expr? {id : ExprId} {e : Expr} (he : p.expr? id = some e) : e.id = id := by
  have hi : p.exprs.toList[id.index]? = some e := by rwa [Array.getElem?_toList]
  exact ExprId.eq_of_index_eq (index_of_getElem?_exprs h hi)

theorem index_of_getElem?_vars {v : Variable} {i : Nat} (hi : p.vars.toList[i]? = some v) :
    v.id.index = i :=
  (wellFormed_of_validate h).placed _ i (.var hi)

theorem var?_of_mem {v : Variable} (hv : v ∈ p.vars.toList) : p.var? v.id = some v := by
  obtain ⟨i, hi⟩ := List.mem_iff_getElem?.mp hv
  rw [var?, index_of_getElem?_vars h hi, ← Array.getElem?_toList, hi]

theorem id_of_var? {id : VarId} {v : Variable} (hv : p.var? id = some v) : v.id = id := by
  have hi : p.vars.toList[id.index]? = some v := by rwa [Array.getElem?_toList]
  exact VarId.eq_of_index_eq (index_of_getElem?_vars h hi)

theorem index_of_getElem?_functions {f : Function} {i : Nat}
    (hi : p.functions.toList[i]? = some f) : f.id.index = i :=
  (wellFormed_of_validate h).placed _ i (.function hi)

theorem function?_of_mem {f : Function} (hf : f ∈ p.functions.toList) :
    p.function? f.id = some f := by
  obtain ⟨i, hi⟩ := List.mem_iff_getElem?.mp hf
  rw [function?, index_of_getElem?_functions h hi, ← Array.getElem?_toList, hi]

theorem id_of_function? {id : FunctionId} {f : Function} (hf : p.function? id = some f) :
    f.id = id := by
  have hi : p.functions.toList[id.index]? = some f := by rwa [Array.getElem?_toList]
  exact FunctionId.eq_of_index_eq (index_of_getElem?_functions h hi)

theorem id_of_field? {id : FieldId} {f : Field} (hf : p.field? id = some f) : f.id = id := by
  have hi : p.fields.toList[id.index]? = some f := by rwa [Array.getElem?_toList]
  exact FieldId.eq_of_index_eq ((wellFormed_of_validate h).placed _ _ (.field hi))

theorem index_lt_of_mem_refs {x : Expr} {ref : Ref} (hx : x ∈ p.exprs.toList)
    (hr : ref ∈ x.refs) : ref.index < p.size ref :=
  (wellFormed_of_validate h).defined ref (mentions_of_mem_refs hx hr)

theorem exists_var?_of_param {f : Function} {v : VarId} (hf : f ∈ p.functions.toList)
    (hv : v ∈ f.params ++ f.selfParam.toList) : ∃ x, p.var? v = some x := by
  have hm : p.Mentions (.var v) := by
    rcases List.mem_append.mp hv with hv | hv
    · exact .parameter hf hv
    · exact .selfParameter hf (Option.mem_toList.mp hv)
  exact ⟨_, Array.getElem?_eq_getElem ((wellFormed_of_validate h).defined _ hm)⟩

end

theorem contains_foldl_insert {α : Type} [BEq α] [LawfulBEq α] [Hashable α] {l : List α}
    {m : Std.HashSet α} {a : α} :
    (l.foldl .insert m).contains a = true ↔ m.contains a = true ∨ a ∈ l := by
  induction l generalizing m with
  | nil => simp
  | cons b rest ih =>
    simp only [List.foldl_cons, ih, Std.HashSet.contains_insert, Bool.or_eq_true, beq_iff_eq,
      List.mem_cons, eq_comm (a := b), or_assoc, or_left_comm]

theorem contains_foldl_insert_empty {α : Type} [BEq α] [LawfulBEq α] [Hashable α] {l : List α}
    {a : α} : (l.foldl .insert (∅ : Std.HashSet α)).contains a = true ↔ a ∈ l := by
  rw [contains_foldl_insert, Std.HashSet.contains_empty]
  exact or_iff_right Bool.false_ne_true

theorem contains_postUpdated {e : ExprId} :
    p.index.postUpdated.contains e = true ↔ ∃ x ∈ p.exprs.toList, e ∈ x.kind.updates :=
  contains_foldl_insert_empty.trans List.mem_flatMap

theorem contains_uninitialized {v : VarId} :
    p.index.uninitialized.contains v = true ↔
      ∃ x ∈ p.exprs.toList, v ∈ x.kind.uninitializedReads :=
  contains_foldl_insert_empty.trans List.mem_flatMap

theorem contains_writtenFields {f : FieldId} :
    p.index.writtenFields.contains f = true ↔ ∃ x ∈ p.exprs.toList, f ∈ x.kind.fieldsWritten :=
  contains_foldl_insert_empty.trans List.mem_flatMap

theorem mem_of_function? {id : FunctionId} {f : Function} (h : p.function? id = some f) :
    f ∈ p.functions.toList :=
  Array.mem_toList_iff.mpr (Array.mem_of_getElem? h)

theorem mem_of_expr? {id : ExprId} {e : Expr} (h : p.expr? id = some e) : e ∈ p.exprs.toList :=
  Array.mem_toList_iff.mpr (Array.mem_of_getElem? h)

theorem mem_of_field? {id : FieldId} {f : Field} (h : p.field? id = some f) :
    f ∈ p.fields.toList :=
  Array.mem_toList_iff.mpr (Array.mem_of_getElem? h)

theorem mem_of_var? {id : VarId} {v : Variable} (h : p.var? id = some v) : v ∈ p.vars.toList :=
  Array.mem_toList_iff.mpr (Array.mem_of_getElem? h)

section

variable (h : p.validate = .ok ())
include h

theorem index_lt_of_kind? {e : ExprId} {kind : ExprKind} {ref : Ref}
    (hk : p.kind? e = some kind) (hr : ref ∈ kind.otherRefs) : ref.index < p.size ref := by
  obtain ⟨x, hx, rfl⟩ := Option.map_eq_some_iff.mp hk
  exact index_lt_of_mem_refs h (mem_of_expr? hx) (Expr.mem_refs_of_mem_otherRefs hr)

theorem mem_readers {d : Def} {r : ExprId} :
    r ∈ p.index.readers.get d ↔ ∃ kind, p.kind? r = some kind ∧ d ∈ kind.defs := by
  simp only [index, Grouping.mem_get_ofList, readerPairs, List.mem_flatMap, List.mem_map,
    Prod.mk.injEq, kind?, Option.map_eq_some_iff]
  constructor
  · rintro ⟨x, hx, d, hd, rfl, rfl⟩
    exact ⟨x.kind, ⟨x, expr?_of_mem h hx, rfl⟩, hd⟩
  · rintro ⟨kind, ⟨x, hx, rfl⟩, hd⟩
    exact ⟨x, mem_of_expr? hx, d, hd, rfl, id_of_expr? h hx⟩

theorem mem_uses {e : ExprId} {u : Use} :
    u ∈ p.index.uses.get e ↔
      ∃ kind, p.kind? u.user = some kind ∧ (e, u.role) ∈ kind.operandRoles := by
  simp only [index, Grouping.mem_get_ofList, usePairs, List.mem_flatMap, List.mem_map,
    Prod.mk.injEq, kind?, Option.map_eq_some_iff]
  constructor
  · rintro ⟨x, hx, ⟨_, role⟩, hrole, rfl, rfl⟩
    exact ⟨x.kind, ⟨x, expr?_of_mem h hx, rfl⟩, hrole⟩
  · rintro ⟨kind, ⟨x, hx, rfl⟩, hrole⟩
    exact ⟨x, mem_of_expr? hx, _, hrole, rfl, by rw [id_of_expr? h hx]⟩

theorem mem_uses_call {e call : ExprId} {role : UseRole} {P : CallSite → Prop}
    (hrole : ∀ {kind : ExprKind}, (e, role) ∈ kind.operandRoles ↔
      ∃ site, kind.call? = some site ∧ P site) :
    ⟨call, role⟩ ∈ p.index.uses.get e ↔ ∃ site, p.call? call = some site ∧ P site := by
  simp only [mem_uses h, hrole, call?, Option.bind_eq_some_iff]
  constructor
  · rintro ⟨kind, hkind, site, hsite, hP⟩
    exact ⟨site, ⟨kind, hkind, hsite⟩, hP⟩
  · rintro ⟨site, ⟨kind, hkind, hsite⟩, hP⟩
    exact ⟨kind, hkind, site, hsite, hP⟩

theorem mem_uses_argument {e call : ExprId} {i : Nat} :
    ⟨call, .argument i⟩ ∈ p.index.uses.get e ↔
      ∃ site, p.call? call = some site ∧ site.args[i]? = some e :=
  mem_uses_call h ExprKind.mem_operandRoles_argument

theorem mem_uses_receiver {e call : ExprId} :
    ⟨call, .receiver⟩ ∈ p.index.uses.get e ↔
      ∃ site, p.call? call = some site ∧ site.receiver = some e :=
  mem_uses_call h ExprKind.mem_operandRoles_receiver

theorem mem_callers {f : FunctionId} {call : ExprId} :
    call ∈ p.index.callers.get f ↔ ∃ site, p.call? call = some site ∧ site.target = some f := by
  simp only [index, Grouping.mem_get_ofList, callerPairs, List.mem_filterMap,
    Option.map_eq_some_iff, Option.bind_eq_some_iff, Prod.mk.injEq, call?, kind?]
  constructor
  · rintro ⟨x, hx, _, ⟨site, hsite, ht⟩, rfl, rfl⟩
    exact ⟨site, ⟨x.kind, ⟨x, expr?_of_mem h hx, rfl⟩, hsite⟩, ht⟩
  · rintro ⟨site, ⟨kind, ⟨x, hx, rfl⟩, hsite⟩, ht⟩
    exact ⟨x, mem_of_expr? hx, f, ⟨site, hsite, ht⟩, rfl, id_of_expr? h hx⟩

end

theorem mem_returnedBy {e : ExprId} {f : FunctionId} :
    f ∈ p.index.returnedBy.get e ↔ ∃ x ∈ p.functions.toList, e ∈ x.returns ∧ x.id = f := by
  simp only [index, Grouping.mem_get_ofList, returnPairs, List.mem_flatMap, List.mem_map,
    Prod.mk.injEq]
  constructor
  · rintro ⟨x, hx, _, he, rfl, rfl⟩
    exact ⟨x, hx, he, rfl⟩
  · rintro ⟨x, hx, he, rfl⟩
    exact ⟨x, hx, e, he, rfl, rfl⟩

end Program

end TaintFlow
