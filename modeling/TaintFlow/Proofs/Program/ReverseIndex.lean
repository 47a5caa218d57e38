import TaintFlow.Proofs.Program.Tables
import TaintFlow.Program.Constant
import Mathlib.Data.List.Count

namespace TaintFlow

namespace ExprKind

def roles : ExprKind → List UseRole
  | literal _ | regex _ _ | read _ _ => []
  | assign _ _ => [.assignedValue]
  | call site =>
    site.receiver.toList.map (fun _ ↦ .receiver) ++ site.args.zipIdx.map fun (_, i) ↦ .argument i
  | fieldLoad _ f => [.loadBase f]
  | fieldStore _ f _ => [.storeBase, .storedValue f]
  | hash entries => entries.flatMap fun e ↦ [.hashKey, .hashValue e.field]
  | index _ _ field => [.indexBase field, .indexKey]
  | operation _ operands => operands.map fun _ ↦ .operand

theorem length_roles (kind : ExprKind) : kind.roles.length = kind.children.length := by
  cases kind <;> simp [roles, children, CallSite.operands, List.length_flatMap]

theorem zip_map_zipIdx {α β : Type} (f : Nat → β) (l : List α) (n : Nat) :
    l.zip ((l.zipIdx n).map fun (_, i) ↦ f i) = (l.zipIdx n).map fun (a, i) ↦ (a, f i) := by
  induction l generalizing n with
  | nil => rfl
  | cons a rest ih => simp [ih]

/-- Every operand is listed with the part of the child that it is; only a store lists its children
in another order. -/
theorem operandRoles_perm (kind : ExprKind) :
    kind.operandRoles.Perm (kind.children.zip kind.roles) := by
  cases kind with
  | literal _ | regex _ _ | read _ _ | assign _ _ | fieldLoad _ _ | index _ _ _ => exact .refl _
  | fieldStore base f value => exact .swap _ _ _
  | call site =>
    rw [operandRoles, children, roles, CallSite.operands,
      List.zip_append (by rw [List.length_map]), zip_map_zipIdx]
    cases site.receiver <;> exact .refl _
  | hash entries =>
    rw [operandRoles, children, roles]
    induction entries with
    | nil => exact .refl _
    | cons entry rest ih => exact (ih.cons _).cons _
  | operation operator operands =>
    rw [operandRoles, children, roles]
    induction operands with
    | nil => exact .refl _
    | cons operand rest ih => exact ih.cons _

theorem mem_updates {kind : ExprKind} {e : ExprId} : e ∈ kind.updates ↔
    (∃ v defs, kind = .read v defs ∧ .mutation e ∈ defs) ∨
      ∃ f value, kind = .fieldStore e f value := by
  cases kind with
  | read v defs =>
    simp only [updates, List.mem_filterMap, read.injEq, reduceCtorEq, exists_false, or_false]
    constructor
    · rintro ⟨d, hd, hm⟩
      cases d <;> cases hm
      exact ⟨v, defs, ⟨rfl, rfl⟩, hd⟩
    · rintro ⟨_, _, ⟨rfl, rfl⟩, hd⟩
      exact ⟨_, hd, rfl⟩
  | _ => simp [updates, eq_comm]

theorem mem_uninitializedReads {kind : ExprKind} {v : VarId} : v ∈ kind.uninitializedReads ↔
    ∃ w defs, kind = .read w defs ∧ .uninitialized v ∈ defs := by
  cases kind with
  | read w defs =>
    simp only [uninitializedReads, List.mem_filterMap, read.injEq]
    constructor
    · rintro ⟨d, hd, hm⟩
      cases d <;> cases hm
      exact ⟨w, defs, ⟨rfl, rfl⟩, hd⟩
    · rintro ⟨_, _, ⟨rfl, rfl⟩, hd⟩
      exact ⟨_, hd, rfl⟩
  | _ => simp [uninitializedReads]

theorem mem_fieldsWritten {kind : ExprKind} {f : FieldId} : f ∈ kind.fieldsWritten ↔
    (∃ base value, kind = .fieldStore base f value) ∨
      ∃ entries entry, kind = .hash entries ∧ entry ∈ entries ∧ entry.field = some f := by
  cases kind <;> simp [fieldsWritten, eq_comm]

theorem call?_eq_some_iff {kind : ExprKind} {site : CallSite} :
    kind.call? = some site ↔ kind = .call site := by
  cases kind <;> simp [call?]

end ExprKind

theorem count_flatMap_of_mem {α β γ : Type} [BEq β] [LawfulBEq β] {l : List α} (id : α → γ)
    {f : α → List β} {x : α} {b : β} (hl : l.Pairwise fun y z ↦ id y ≠ id z)
    (hb : ∀ y ∈ l, b ∈ f y → id y = id x) (hx : x ∈ l) :
    (l.flatMap f).count b = (f x).count b := by
  obtain ⟨before, after, rfl⟩ := List.append_of_mem hx
  obtain ⟨-, hafter, hbefore⟩ := List.pairwise_append.mp hl
  have hnone {l' : List α} (hl' : ∀ y ∈ l', y ∈ before ++ x :: after ∧ id y ≠ id x) :
      (l'.flatMap f).count b = 0 := by
    rw [List.count_eq_zero, List.mem_flatMap]
    rintro ⟨y, hy, hby⟩
    exact (hl' y hy).2 (hb y (hl' y hy).1 hby)
  rw [List.flatMap_append, List.flatMap_cons, List.count_append, List.count_append,
    hnone fun y hy ↦ ⟨List.mem_append_left _ hy, hbefore y hy x List.mem_cons_self⟩,
    hnone fun y hy ↦ ⟨List.mem_append_right _ (List.mem_cons_of_mem _ hy),
      ((List.pairwise_cons.mp hafter).1 y hy).symm⟩, Nat.zero_add, Nat.add_zero]

theorem count_map_pair {α β : Type} [BEq α] [LawfulBEq α] [BEq β] [LawfulBEq β] {l : List α}
    {a : α} (b : β) : (l.map (·, b)).count (a, b) = l.count a :=
  List.count_map_of_injective l (·, b) (fun _ _ heq ↦ congrArg Prod.fst heq) a

theorem pairwise_of_index {α : Type} {l : List α} (index : α → Nat)
    (h : ∀ i x, l[i]? = some x → index x = i) : l.Pairwise fun x y ↦ index x < index y := by
  rw [List.pairwise_iff_getElem]
  intro i j hi hj hij
  rw [h i _ (List.getElem?_eq_getElem hi), h j _ (List.getElem?_eq_getElem hj)]
  exact hij

namespace Program

variable (p : Program)

def operands (u : ExprId) : List (ExprId × UseRole) :=
  ((p.kind? u).map fun kind ↦ kind.children.zip kind.roles).getD []

/-- The tables of an index tell what the program says, read backwards. -/
structure Inverted (i : Index) : Prop where
  users : ∀ e u, ((i.uses.get e).map (·.user)).count u = (p.children u).count e
  roles : ∀ e u role, (i.uses.get e).count ⟨u, role⟩ = (p.operands u).count (e, role)
  uses_order : ∀ e, (i.uses.get e).Pairwise fun a b ↦ a.user.index ≤ b.user.index
  readers : ∀ d r v defs, p.kind? r = some (.read v defs) →
    (i.readers.get d).count r = defs.count d
  isRead : ∀ d, ∀ r ∈ i.readers.get d, ∃ v defs, p.kind? r = some (.read v defs)
  callers : ∀ f call, call ∈ i.callers.get f ↔
    ∃ site, p.kind? call = some (.call site) ∧ site.target = some f
  callers_order : ∀ f, (i.callers.get f).Pairwise fun a b ↦ a.index < b.index
  returnedBy : ∀ e f x, p.function? f = some x → (i.returnedBy.get e).count f = x.returns.count e
  isFunction : ∀ e, ∀ f ∈ i.returnedBy.get e, ∃ x, p.function? f = some x
  postUpdated : ∀ e, i.postUpdated.contains e = true ↔
    (∃ r v defs, p.kind? r = some (.read v defs) ∧ .mutation e ∈ defs) ∨
      ∃ s f value, p.kind? s = some (.fieldStore e f value)
  uninitialized : ∀ v, i.uninitialized.contains v = true ↔
    ∃ r w defs, p.kind? r = some (.read w defs) ∧ .uninitialized v ∈ defs
  writtenFields : ∀ f, i.writtenFields.contains f = true ↔
    (∃ s base value, p.kind? s = some (.fieldStore base f value)) ∨
      ∃ e entries entry, p.kind? e = some (.hash entries) ∧ entry ∈ entries ∧
        entry.field = some f

variable {p} {e u r : ExprId} {d : Def} {f : FunctionId}

section

variable (h : p.validate = .ok ())
include h

theorem pairwise_exprs : p.exprs.toList.Pairwise fun x y ↦ x.id.index < y.id.index :=
  pairwise_of_index (·.id.index) fun _ _ hi ↦ index_of_getElem?_exprs h hi

theorem pairwise_functions : p.functions.toList.Pairwise fun x y ↦ x.id.index < y.id.index :=
  pairwise_of_index (·.id.index) fun _ _ hi ↦ index_of_getElem?_functions h hi

theorem count_flatMap_exprs {β : Type} [BEq β] [LawfulBEq β] {f : Expr → List β} {b : β}
    (hb : ∀ x ∈ p.exprs.toList, b ∈ f x → x.id = u) :
    (p.exprs.toList.flatMap f).count b = ((p.expr? u).map fun x ↦ (f x).count b).getD 0 := by
  cases hx : p.expr? u with
  | none =>
    rw [Option.map_none, Option.getD_none, List.count_eq_zero, List.mem_flatMap]
    rintro ⟨x, hm, hbx⟩
    rw [← hb x hm hbx, expr?_of_mem h hm] at hx
    cases hx
  | some x =>
    have hid := id_of_expr? h hx
    refine count_flatMap_of_mem (·.id) ?_ (fun y hy hby ↦ (hb y hy hby).trans hid.symm)
      (mem_of_expr? hx)
    exact (pairwise_exprs h).imp fun hlt heq ↦ Nat.ne_of_lt hlt (congrArg _ heq)

theorem count_flatMap_functions {β : Type} [BEq β] [LawfulBEq β] {g : Function → List β} {b : β}
    {x : Function} (hb : ∀ y ∈ p.functions.toList, b ∈ g y → y.id = x.id)
    (hx : p.function? f = some x) : (p.functions.toList.flatMap g).count b = (g x).count b := by
  refine count_flatMap_of_mem (·.id) ?_ hb (mem_of_function? hx)
  exact (pairwise_functions h).imp fun hlt heq ↦ Nat.ne_of_lt hlt (congrArg _ heq)

theorem count_uses (e u : ExprId) (role : UseRole) :
    (p.index.uses.get e).count ⟨u, role⟩ = (p.operands u).count (e, role) := by
  refine Grouping.count_get_ofList.trans ?_
  rw [usePairs, count_flatMap_exprs h (u := u)]
  · cases hx : p.expr? u with
    | none => simp [operands, kind?, hx]
    | some x =>
      have hinj : (fun (pair : ExprId × UseRole) ↦ (pair.1, Use.mk x.id pair.2)).Injective := by
        rintro ⟨_, _⟩ ⟨_, _⟩ heq
        cases heq
        rfl
      have hcount := List.count_map_of_injective x.kind.operandRoles _ hinj (e, role)
      rw [id_of_expr? h hx] at hcount
      simp only [operands, kind?, hx, Option.map_some, Option.getD_some, id_of_expr? h hx]
      rw [← x.kind.operandRoles_perm.count_eq]
      exact hcount
  · rintro x - hm
    obtain ⟨_, -, heq⟩ := List.mem_map.mp hm
    cases heq
    rfl

theorem count_users (e u : ExprId) :
    ((p.index.uses.get e).map (·.user)).count u = (p.children u).count e := by
  have hpairs : p.usePairs.map (Prod.map id (·.user)) =
      p.exprs.toList.flatMap fun x ↦ x.kind.operandRoles.map fun pair ↦ (pair.1, x.id) := by
    simp [usePairs, List.map_flatMap, Function.comp_def]
  have hget : (p.index.uses.get e).map (·.user) =
      (Grouping.ofList (p.usePairs.map (Prod.map id (·.user)))).get e := by
    simp only [index, Grouping.get_ofList, List.filter_map, List.map_map, Function.comp_def,
      Prod.map, id]
  rw [hget, hpairs]
  refine Grouping.count_get_ofList.trans ?_
  rw [count_flatMap_exprs h (u := u)]
  · cases hx : p.expr? u with
    | none => simp [children, kind?, hx]
    | some x =>
      have hfst : (x.kind.children.zip x.kind.roles).map (·.1) = x.kind.children :=
        List.map_fst_zip (Nat.le_of_eq x.kind.length_roles.symm)
      have hcount := (x.kind.operandRoles_perm.map (·.1)).count_eq e
      rw [hfst, ← count_map_pair u, List.map_map] at hcount
      simp only [children, kind?, hx, Option.map_some, Option.getD_some, id_of_expr? h hx]
      exact hcount
  · rintro x - hm
    obtain ⟨_, -, heq⟩ := List.mem_map.mp hm
    cases heq
    rfl

theorem pairwise_uses (e : ExprId) :
    (p.index.uses.get e).Pairwise fun a b ↦ a.user.index ≤ b.user.index := by
  have hpairs : p.usePairs.Pairwise fun a b ↦ a.2.user.index ≤ b.2.user.index := by
    refine List.pairwise_flatMap.mpr ⟨fun x _ ↦ ?_, (pairwise_exprs h).imp fun hlt a ha b hb ↦ ?_⟩
    · exact List.pairwise_map.mpr (List.pairwise_of_forall fun _ _ ↦ Nat.le_refl _)
    · obtain ⟨_, -, rfl⟩ := List.mem_map.mp ha
      obtain ⟨_, -, rfl⟩ := List.mem_map.mp hb
      exact Nat.le_of_lt hlt
  simp only [index, Grouping.get_ofList]
  exact List.pairwise_map.mpr (hpairs.filter _)

theorem count_readers {v : VarId} {defs : List Def} (d : Def)
    (hk : p.kind? r = some (.read v defs)) : (p.index.readers.get d).count r = defs.count d := by
  obtain ⟨x, hx, hkind⟩ := Option.map_eq_some_iff.mp hk
  refine Grouping.count_get_ofList.trans ?_
  rw [readerPairs, count_flatMap_exprs h (u := r)]
  · simp only [hx, hkind, ExprKind.defs, Option.map_some, Option.getD_some, id_of_expr? h hx]
    exact count_map_pair r
  · rintro x - hm
    obtain ⟨_, -, heq⟩ := List.mem_map.mp hm
    cases heq
    rfl

theorem exists_read_of_mem_readers (hr : r ∈ p.index.readers.get d) :
    ∃ v defs, p.kind? r = some (.read v defs) := by
  obtain ⟨kind, hk, hd⟩ := (mem_readers h).mp hr
  cases kind with
  | read v defs => exact ⟨v, defs, hk⟩
  | _ => cases hd

theorem pairwise_callers (f : FunctionId) :
    (p.index.callers.get f).Pairwise fun a b ↦ a.index < b.index := by
  have hpairs : p.callerPairs.Pairwise fun a b ↦ a.2.index < b.2.index := by
    refine List.pairwise_filterMap.mpr ((pairwise_exprs h).imp fun hlt a ha b hb ↦ ?_)
    obtain ⟨_, -, rfl⟩ := Option.map_eq_some_iff.mp ha
    obtain ⟨_, -, rfl⟩ := Option.map_eq_some_iff.mp hb
    exact hlt
  simp only [index, Grouping.get_ofList]
  exact List.pairwise_map.mpr (hpairs.filter _)

theorem count_returnedBy {x : Function} (e : ExprId) (hx : p.function? f = some x) :
    (p.index.returnedBy.get e).count f = x.returns.count e := by
  obtain rfl := id_of_function? h hx
  refine Grouping.count_get_ofList.trans ?_
  rw [returnPairs, count_flatMap_functions h ?_ hx]
  · exact count_map_pair x.id
  · rintro y - hm
    obtain ⟨_, -, heq⟩ := List.mem_map.mp hm
    exact congrArg Prod.snd heq

theorem exists_mem_exprs_iff {P : ExprKind → Prop} :
    (∃ x ∈ p.exprs.toList, P x.kind) ↔ ∃ e kind, p.kind? e = some kind ∧ P kind := by
  constructor
  · rintro ⟨x, hx, hP⟩
    exact ⟨x.id, x.kind, by rw [kind?, expr?_of_mem h hx, Option.map_some], hP⟩
  · rintro ⟨e, kind, hk, hP⟩
    obtain ⟨x, hx, rfl⟩ := Option.map_eq_some_iff.mp hk
    exact ⟨x, mem_of_expr? hx, hP⟩

theorem contains_postUpdated_iff : p.index.postUpdated.contains e = true ↔
    (∃ r v defs, p.kind? r = some (.read v defs) ∧ .mutation e ∈ defs) ∨
      ∃ s f value, p.kind? s = some (.fieldStore e f value) := by
  rw [contains_postUpdated, exists_mem_exprs_iff h (P := (e ∈ ·.updates))]
  simp only [ExprKind.mem_updates]
  constructor
  · rintro ⟨r, kind, hk, ⟨v, defs, rfl, hd⟩ | ⟨f, value, rfl⟩⟩
    · exact .inl ⟨r, v, defs, hk, hd⟩
    · exact .inr ⟨r, f, value, hk⟩
  · rintro (⟨r, v, defs, hk, hd⟩ | ⟨s, f, value, hk⟩)
    · exact ⟨r, _, hk, .inl ⟨v, defs, rfl, hd⟩⟩
    · exact ⟨s, _, hk, .inr ⟨f, value, rfl⟩⟩

theorem contains_uninitialized_iff {v : VarId} : p.index.uninitialized.contains v = true ↔
    ∃ r w defs, p.kind? r = some (.read w defs) ∧ .uninitialized v ∈ defs := by
  rw [contains_uninitialized, exists_mem_exprs_iff h (P := (v ∈ ·.uninitializedReads))]
  simp only [ExprKind.mem_uninitializedReads]
  constructor
  · rintro ⟨r, kind, hk, w, defs, rfl, hd⟩
    exact ⟨r, w, defs, hk, hd⟩
  · rintro ⟨r, w, defs, hk, hd⟩
    exact ⟨r, _, hk, w, defs, rfl, hd⟩

theorem contains_writtenFields_iff {f : FieldId} : p.index.writtenFields.contains f = true ↔
    (∃ s base value, p.kind? s = some (.fieldStore base f value)) ∨
      ∃ x entries entry, p.kind? x = some (.hash entries) ∧ entry ∈ entries ∧
        entry.field = some f := by
  rw [contains_writtenFields, exists_mem_exprs_iff h (P := (f ∈ ·.fieldsWritten))]
  simp only [ExprKind.mem_fieldsWritten]
  constructor
  · rintro ⟨s, kind, hk, ⟨base, value, rfl⟩ | ⟨entries, entry, rfl, hm, hf⟩⟩
    · exact .inl ⟨s, base, value, hk⟩
    · exact .inr ⟨s, entries, entry, hk, hm, hf⟩
  · rintro (⟨s, base, value, hk⟩ | ⟨x, entries, entry, hk, hm, hf⟩)
    · exact ⟨s, _, hk, .inl ⟨base, value, rfl⟩⟩
    · exact ⟨x, _, hk, .inr ⟨entries, entry, rfl, hm, hf⟩⟩

/-- The index of a program that passes the check is the program read backwards. -/
theorem index_inverted : p.Inverted p.index where
  users := count_users h
  roles := count_uses h
  uses_order := pairwise_uses h
  readers d _ _ _ hk := count_readers h d hk
  isRead _ _ hr := exists_read_of_mem_readers h hr
  callers f call := by
    rw [mem_callers h]
    simp only [call?, Option.bind_eq_some_iff, ExprKind.call?_eq_some_iff, exists_eq_right]
  callers_order := pairwise_callers h
  returnedBy e _ _ hx := count_returnedBy h e hx
  isFunction e f hf := by
    obtain ⟨x, hx, -, rfl⟩ := mem_returnedBy.mp hf
    exact ⟨x, function?_of_mem h hx⟩
  postUpdated _ := contains_postUpdated_iff h
  uninitialized _ := contains_uninitialized_iff h
  writtenFields _ := contains_writtenFields_iff h

end

def echoingProgram : Program where
  functions := #[⟨⟨0⟩, "echo", "echoing.rb", [], none, [⟨1⟩, ⟨4⟩, ⟨1⟩], default⟩]
  vars := #[⟨⟨0⟩, "h", some ⟨0⟩, none, .localVar, some ⟨2⟩, default⟩]
  fields := #[⟨⟨0⟩, "x"⟩]
  exprs := #[⟨⟨0⟩, ⟨0⟩, default, "\"x\"", .literal (.string "x"), []⟩,
    ⟨⟨1⟩, ⟨0⟩, default, "echo", .call
      { name := "echo", receiver := some ⟨0⟩, args := [⟨0⟩, ⟨0⟩], target := some ⟨0⟩ }, []⟩,
    ⟨⟨2⟩, ⟨0⟩, default, "h", .hash [⟨⟨0⟩, ⟨0⟩, some ⟨0⟩⟩], []⟩,
    ⟨⟨3⟩, ⟨0⟩, default, "h.x = ", .fieldStore ⟨2⟩ ⟨0⟩ ⟨0⟩, []⟩,
    ⟨⟨4⟩, ⟨0⟩, default, "h", .read ⟨0⟩ [.mutation ⟨2⟩, .uninitialized ⟨0⟩, .mutation ⟨2⟩], []⟩]

theorem index_inverted_echoing :
    echoingProgram.validate = .ok () ∧ echoingProgram.Inverted echoingProgram.index ∧
      ((echoingProgram.index.uses.get ⟨0⟩).map (·.user)).count ⟨1⟩ = 3 ∧
      (echoingProgram.index.uses.get ⟨0⟩).count ⟨⟨1⟩, .argument 1⟩ = 1 ∧
      (echoingProgram.index.uses.get ⟨0⟩).count ⟨⟨2⟩, .hashValue (some ⟨0⟩)⟩ = 1 ∧
      (echoingProgram.index.readers.get (.mutation ⟨2⟩)).count ⟨4⟩ = 2 ∧
      (echoingProgram.index.returnedBy.get ⟨1⟩).count ⟨0⟩ = 2 := by
  have hv : echoingProgram.validate = .ok () := by cbv
  have hi := index_inverted hv
  refine ⟨hv, hi, hi.users _ _, hi.roles _ _ _, hi.roles _ _ _, ?_, ?_⟩
  · exact (hi.readers (.mutation ⟨2⟩) ⟨4⟩ _ _ rfl).trans rfl
  · exact (hi.returnedBy ⟨1⟩ ⟨0⟩ _ rfl).trans rfl

end Program

end TaintFlow
