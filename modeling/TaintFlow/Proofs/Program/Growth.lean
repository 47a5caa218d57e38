import Mathlib.Data.List.Forall2
import TaintFlow.Proofs.Program.Steps
import TaintFlow.Proofs.Program.Tables

namespace TaintFlow

theorem FunctionId.index_ofIndex (i : Nat) : (ofIndex i).index = i % UInt32.size :=
  UInt32.toNat_ofNat'

theorem VarId.index_ofIndex (i : Nat) : (ofIndex i).index = i % UInt32.size :=
  UInt32.toNat_ofNat'

theorem ExprId.index_ofIndex (i : Nat) : (ofIndex i).index = i % UInt32.size :=
  UInt32.toNat_ofNat'

theorem FieldId.index_ofIndex (i : Nat) : (ofIndex i).index = i % UInt32.size :=
  UInt32.toNat_ofNat'

structure Grown {α β : Type} (view : α → β) (number : β → Nat) (a a' : Array α) : Prop where
  kept : ∀ (i : Nat) (x : α), a[i]? = some x → ∃ x', a'[i]? = some x' ∧ view x' = view x
  fresh : ∀ (i : Nat) (x : α), a.size ≤ i → a'[i]? = some x → number (view x) = i % UInt32.size

namespace Grown

variable {α β : Type} {view : α → β} {number : β → Nat} {a a' a'' : Array α}

theorem refl : Grown view number a a where
  kept _ x h := ⟨x, h, rfl⟩
  fresh _ _ hi h := absurd (Array.getElem?_eq_some_iff.mp h).1 (Nat.not_lt.mpr hi)

theorem size_le (h : Grown view number a a') : a.size ≤ a'.size := by
  refine Nat.le_of_not_lt fun hlt ↦ ?_
  obtain ⟨x, hx, -⟩ := h.kept a'.size a[a'.size] (Array.getElem?_eq_getElem hlt)
  exact Nat.lt_irrefl _ (Array.getElem?_eq_some_iff.mp hx).1

theorem trans (h : Grown view number a a') (h' : Grown view number a' a'') :
    Grown view number a a'' where
  kept i x hx := by
    obtain ⟨x', hx', hv⟩ := h.kept i x hx
    obtain ⟨x'', hx'', hv'⟩ := h'.kept i x' hx'
    exact ⟨x'', hx'', hv'.trans hv⟩
  fresh i x hi hx := by
    rcases Nat.lt_or_ge i a'.size with hlt | hge
    · obtain ⟨x', hx', hv⟩ := h'.kept i a'[i] (Array.getElem?_eq_getElem hlt)
      cases hx.symm.trans hx'
      rw [hv]
      exact h.fresh i _ hi (Array.getElem?_eq_getElem hlt)
    · exact h'.fresh i x hge hx

theorem push {x : α} (h : number (view x) = a.size % UInt32.size) :
    Grown view number a (a.push x) where
  kept i y hy := by
    have hi := (Array.getElem?_eq_some_iff.mp hy).1
    refine ⟨y, ?_, rfl⟩
    rw [Array.getElem?_push, if_neg (Nat.ne_of_lt hi), hy]
  fresh i y hi hy := by
    have hlt := (Array.getElem?_eq_some_iff.mp hy).1
    rw [Array.size_push] at hlt
    have hi : i = a.size := by omega
    rw [Array.getElem?_push, if_pos hi] at hy
    cases hy
    rw [h, hi]

theorem modify {i : Nat} {change : α → α} (h : ∀ x, view (change x) = view x) :
    Grown view number a (a.modify i change) where
  kept j x hx := by
    rw [Array.getElem?_modify, hx]
    split
    · exact ⟨_, rfl, h x⟩
    · exact ⟨x, rfl, rfl⟩
  fresh j x hj hx := by
    have hlt := (Array.getElem?_eq_some_iff.mp hx).1
    rw [Array.size_modify] at hlt
    exact absurd hlt (Nat.not_lt.mpr hj)

theorem placed (h : Grown view number a a') (hs : a'.size < UInt32.size)
    (hp : ∀ (i : Nat) (x : α), a[i]? = some x → number (view x) = i) {i : Nat} {x : α}
    (hx : a'[i]? = some x) : number (view x) = i := by
  have hi := (Array.getElem?_eq_some_iff.mp hx).1
  rcases Nat.lt_or_ge i a.size with hlt | hge
  · obtain ⟨x', hx', hv⟩ := h.kept i a[i] (Array.getElem?_eq_getElem hlt)
    cases hx.symm.trans hx'
    rw [hv]
    exact hp i _ (Array.getElem?_eq_getElem hlt)
  · rw [h.fresh i x hge hx, Nat.mod_eq_of_lt (by omega)]

end Grown

theorem forall_mem_modify {α : Type} {a : Array α} {i : Nat} {change : α → α} {P : α → Prop}
    (h : ∀ x ∈ a, P x) (hc : ∀ x, a[i]? = some x → P (change x)) :
    ∀ y ∈ a.modify i change, P y := by
  intro y hy
  obtain ⟨j, hj⟩ := Array.mem_iff_getElem?.mp hy
  rw [Array.getElem?_modify] at hj
  split at hj
  · next hij =>
    obtain ⟨x, hx, rfl⟩ := Option.map_eq_some_iff.mp hj
    exact hc x (hij ▸ hx)
  · exact h y (Array.mem_of_getElem? hj)

theorem forall_mem_push {α : Type} {a : Array α} {x : α} {P : α → Prop} (h : ∀ y ∈ a, P y)
    (hx : P x) : ∀ y ∈ a.push x, P y := by
  intro y hy
  rcases Array.mem_push.mp hy with hy | rfl
  · exact h y hy
  · exact hx

def Function.refs (x : Function) : List Ref :=
  (x.params ++ x.selfParam.toList).map .var ++ x.returns.map .expr

def Variable.refs (x : Variable) : List Ref :=
  x.function.toList.map .function ++ x.initializer.toList.map .expr

namespace Program

variable {p p' p'' : Program} {ref : Ref}

def Small (p : Program) : Prop :=
  ∀ ref, p.size ref < UInt32.size

/-- A later state of a program under construction: the variables are of the same kind and have the
same owner, and the expressions have the same fields. -/
structure Extends (p p' : Program) : Prop where
  functions : Grown (·.id) (·.index) p.functions p'.functions
  vars : Grown (fun x ↦ (x.id, x.kind, x.function)) (·.1.index) p.vars p'.vars
  exprs : Grown (fun x ↦ (x.id, x.kind.fieldSlots)) (·.1.index) p.exprs p'.exprs
  fields : Grown (fun x ↦ x) (·.id.index) p.fields p'.fields

namespace Extends

theorem refl : p.Extends p := ⟨.refl, .refl, .refl, .refl⟩

theorem trans (h : p.Extends p') (h' : p'.Extends p'') : p.Extends p'' :=
  ⟨h.functions.trans h'.functions, h.vars.trans h'.vars, h.exprs.trans h'.exprs,
    h.fields.trans h'.fields⟩

theorem size_le (h : p.Extends p') (ref : Ref) : p.size ref ≤ p'.size ref := by
  cases ref with
  | function _ => exact h.functions.size_le
  | var _ => exact h.vars.size_le
  | field _ => exact h.fields.size_le
  | expr _ => exact h.exprs.size_le

theorem small (h : p.Extends p') (hs : p'.Small) : p.Small :=
  fun ref ↦ Nat.lt_of_le_of_lt (h.size_le ref) (hs ref)

theorem placed (h : p.Extends p') (hs : p'.Small) (hp : ∀ ref i, p.Stands ref i → ref.index = i)
    {i : Nat} (hi : p'.Stands ref i) : ref.index = i := by
  cases hi with
  | function hx =>
    refine h.functions.placed (hs (.function ⟨0⟩)) (fun j y hy ↦ ?_) (Array.getElem?_toList ▸ hx)
    exact hp _ j (.function (Array.getElem?_toList ▸ hy))
  | var hx =>
    refine h.vars.placed (hs (.var ⟨0⟩)) (fun j y hy ↦ ?_) (Array.getElem?_toList ▸ hx)
    exact hp _ j (.var (Array.getElem?_toList ▸ hy))
  | field hx =>
    refine h.fields.placed (hs (.field ⟨0⟩)) (fun j y hy ↦ ?_) (Array.getElem?_toList ▸ hx)
    exact hp _ j (.field (Array.getElem?_toList ▸ hy))
  | expr hx =>
    refine h.exprs.placed (hs (.expr ⟨0⟩)) (fun j y hy ↦ ?_) (Array.getElem?_toList ▸ hx)
    exact hp _ j (.expr (Array.getElem?_toList ▸ hy))

end Extends

/-- Every number that is used in the program is one that `P` holds of. -/
structure UsesOnly (p : Program) (P : Ref → Prop) : Prop where
  functions : ∀ x ∈ p.functions, ∀ ref ∈ x.refs, P ref
  vars : ∀ x ∈ p.vars, ∀ ref ∈ x.refs, P ref
  exprs : ∀ x ∈ p.exprs, ∀ ref ∈ x.refs, P ref

theorem UsesOnly.of_mentions {P : Ref → Prop} (h : p.UsesOnly P) (hm : p.Mentions ref) : P ref := by
  cases hm with
  | parameter hf hv =>
    refine h.functions _ (Array.mem_toList_iff.mp hf) _ (List.mem_append_left _ ?_)
    exact List.mem_map_of_mem (List.mem_append_left _ hv)
  | selfParameter hf hv =>
    refine h.functions _ (Array.mem_toList_iff.mp hf) _ (List.mem_append_left _ ?_)
    exact List.mem_map_of_mem (List.mem_append_right _ (Option.mem_toList.mpr hv))
  | returned hf he =>
    exact h.functions _ (Array.mem_toList_iff.mp hf) _
      (List.mem_append_right _ (List.mem_map_of_mem he))
  | owner hv hf =>
    refine h.vars _ (Array.mem_toList_iff.mp hv) _ (List.mem_append_left _ ?_)
    exact List.mem_map_of_mem (Option.mem_toList.mpr hf)
  | initializer hv he =>
    refine h.vars _ (Array.mem_toList_iff.mp hv) _ (List.mem_append_right _ ?_)
    exact List.mem_map_of_mem (Option.mem_toList.mpr he)
  | function he => exact h.exprs _ (Array.mem_toList_iff.mp he) _ List.mem_cons_self
  | condition he hg =>
    refine h.exprs _ (Array.mem_toList_iff.mp he) _ (List.mem_append_left _ ?_)
    exact List.mem_append_right _ (List.mem_map_of_mem hg)
  | kind he hk =>
    refine h.exprs _ (Array.mem_toList_iff.mp he) _ ?_
    rcases List.mem_append.mp hk.mem with hc | ho
    · exact List.mem_append_left _ (List.mem_append_left _ (List.mem_cons_of_mem _ hc))
    · exact List.mem_append_right _ ho

end Program

namespace Draft

open Program

variable {d d' : Draft} {names : List (Option String)} {fields : List (Option FieldId)}

theorem extends_pushVariable (function : Option FunctionId) (name : String)
    (typeName : Option String) (kind : VariableKind) :
    d.program.Extends (d.pushVariable function name typeName kind).program :=
  ⟨.refl, .push (VarId.index_ofIndex _), .refl, .refl⟩

theorem extends_editFunction (f : FunctionId) {change : Function → Function}
    (h : ∀ x, (change x).id = x.id) : d.program.Extends (d.editFunction f change).program :=
  ⟨.modify h, .refl, .refl, .refl⟩

theorem extends_editVariable (v : VarId) {change : Variable → Variable}
    (h : ∀ x, (change x).id = x.id ∧ (change x).kind = x.kind ∧ (change x).function = x.function) :
    d.program.Extends (d.editVariable v change).program :=
  ⟨.refl, .modify fun x ↦ Prod.ext (h x).1 (Prod.ext (h x).2.1 (h x).2.2), .refl, .refl⟩

theorem extends_pushExpr (function : FunctionId) (kind : ExprKind) (text : String) :
    d.program.Extends (d.pushExpr function kind text).program :=
  ⟨.refl, .refl, .push (ExprId.index_ofIndex _), .refl⟩

theorem extends_intern (name : String) : d.program.Extends (d.intern name).2.program := by
  unfold intern
  split
  · exact .refl
  · exact ⟨.refl, .refl, .refl, .push (FieldId.index_ofIndex _)⟩

theorem Interns.extends (h : d.Interns names fields d') : d.program.Extends d'.program := by
  induction h with
  | nil => exact .refl
  | skip h ih => exact ih
  | look h ih => exact (extends_intern _).trans ih

theorem Effect.extends {step : Step} {result : Except Ref (Option Ref)}
    (h : d.Effect step (result, d')) : d.program.Extends d'.program := by
  cases h with
  | inFile _ | missing _ _ => exact .refl
  | function name => exact ⟨.push (FunctionId.index_ofIndex _), .refl, .refl, .refl⟩
  | param hx name typeName =>
    exact (extends_pushVariable _ _ _ _).trans (extends_editFunction _ fun _ ↦ rfl)
  | selfParam hf => exact (extends_pushVariable _ _ _ _).trans (extends_editFunction _ fun _ ↦ rfl)
  | orphan _ | localVar _ _ _ | global _ => exact extends_pushVariable _ _ _ _
  | field hi => exact hi.extends
  | setInitial v value => exact extends_editVariable v fun _ ↦ ⟨rfl, rfl, rfl⟩
  | returns f value => exact extends_editFunction f fun _ ↦ rfl
  | revise hn hid hk hr =>
    exact ⟨.refl, .refl, .modify fun x ↦ Prod.ext (hid x) (hk x), .refl⟩
  | expr hf hi hr => exact hi.extends.trans (extends_pushExpr _ _ _)

def Enters (d : Draft) (names : List (Option String)) (fields : List (Option FieldId)) : Prop :=
  List.Forall₂ (Option.Rel fun name f ↦ d.fieldIds[name]? = some f) names fields

theorem fieldIds_intern (name : String) :
    (d.intern name).2.fieldIds[name]? = some (d.intern name).1 := by
  unfold intern
  split
  · assumption
  · exact Std.HashMap.getElem?_insert_self

theorem fieldIds_intern_of_some (name : String) {other : String} {f : FieldId}
    (h : d.fieldIds[other]? = some f) : (d.intern name).2.fieldIds[other]? = some f := by
  unfold intern
  split
  · exact h
  · next hnone =>
    have hne : name ≠ other := by
      rintro rfl
      rw [hnone] at h
      cases h
    simp only [pushField, Std.HashMap.getElem?_insert, beq_iff_eq, hne, if_false, h]

theorem Interns.fieldIds_of_some (h : d.Interns names fields d') {name : String} {f : FieldId}
    (hf : d.fieldIds[name]? = some f) : d'.fieldIds[name]? = some f := by
  induction h with
  | nil => exact hf
  | skip h ih => exact ih hf
  | look h ih => exact ih (fieldIds_intern_of_some _ hf)

theorem Interns.enters (h : d.Interns names fields d') : d'.Enters names fields := by
  induction h with
  | nil => exact .nil
  | skip h ih => exact .cons .none ih
  | look h ih => exact .cons (.some (h.fieldIds_of_some (fieldIds_intern _))) ih

theorem Enters.exists_name (h : d.Enters names fields) {f : FieldId} (hf : some f ∈ fields) :
    ∃ name : String, d.fieldIds[name]? = some f := by
  induction h with
  | nil => cases hf
  | cons hr h ih =>
    rcases List.mem_cons.mp hf with rfl | hf
    · cases hr with
      | some hname => exact ⟨_, hname⟩
    · exact ih hf

section

variable {P : Ref → Prop}

theorem usesOnly_pushVariable (h : d.program.UsesOnly P) {function : Option FunctionId}
    (name : String) (typeName : Option String) (kind : VariableKind)
    (hf : ∀ f, function = some f → P (.function f)) :
    (d.pushVariable function name typeName kind).program.UsesOnly P := by
  refine ⟨h.functions, forall_mem_push h.vars fun ref hm ↦ ?_, h.exprs⟩
  simp only [Variable.refs, Option.toList_none, List.map_nil, List.append_nil, List.mem_map,
    Option.mem_toList] at hm
  obtain ⟨f, hf', rfl⟩ := hm
  exact hf f hf'

theorem usesOnly_editFunction (h : d.program.UsesOnly P) (f : FunctionId)
    {change : Function → Function}
    (hc : ∀ x, ∀ ref ∈ (change x).refs, ref ∈ x.refs ∨ P ref) :
    (d.editFunction f change).program.UsesOnly P := by
  refine ⟨forall_mem_modify h.functions fun x hx ref hm ↦ ?_, h.vars, h.exprs⟩
  rcases hc x ref hm with hm | hp
  · exact h.functions x (Array.mem_of_getElem? hx) ref hm
  · exact hp

theorem usesOnly_pushExpr (h : d.program.UsesOnly P) {function : FunctionId} {kind : ExprKind}
    (text : String) (hf : P (.function function))
    (hk : ∀ ref ∈ kind.children.map .expr ++ kind.otherRefs, P ref) :
    (d.pushExpr function kind text).program.UsesOnly P := by
  refine ⟨h.functions, h.vars, forall_mem_push h.exprs fun ref hm ↦ ?_⟩
  simp only [Expr.refs, List.map_nil, List.append_nil, List.cons_append, List.mem_cons] at hm
  rcases hm with rfl | hm
  · exact hf
  · exact hk ref hm

theorem usesOnly_editVariable (h : d.program.UsesOnly P) (v : VarId)
    {change : Variable → Variable}
    (hc : ∀ x, ∀ ref ∈ (change x).refs, ref ∈ x.refs ∨ P ref) :
    (d.editVariable v change).program.UsesOnly P := by
  refine ⟨h.functions, forall_mem_modify h.vars fun x hx ref hm ↦ ?_, h.exprs⟩
  rcases hc x ref hm with hm | hp
  · exact h.vars x (Array.mem_of_getElem? hx) ref hm
  · exact hp

theorem index_ofIndex_size_lt (d : Draft) (function : Option FunctionId) (name : String)
    (typeName : Option String) (kind : VariableKind) : (VarId.ofIndex d.program.vars.size).index <
      (d.pushVariable function name typeName kind).program.vars.size := by
  rw [VarId.index_ofIndex]
  exact Nat.lt_of_le_of_lt (Nat.mod_le _ _) (Nat.lt_of_lt_of_eq (Nat.lt_succ_self _)
    (Array.size_push _).symm)

theorem Interns.usesOnly (h : d.Interns names fields d') (hu : d.program.UsesOnly P) :
    d'.program.UsesOnly P := by
  rw [h.eq_withFields]
  exact ⟨hu.functions, hu.vars, hu.exprs⟩

theorem Effect.usesOnly {step : Step} {made : Option Ref} (h : d.Effect step (.ok made, d'))
    (hu : d.program.UsesOnly P) (hp : ∀ ref ∈ step.refs, P ref)
    (hs : ∀ ref, ref.index < d'.program.size ref → P ref)
    (hf : ∀ (name : String) (f : FieldId), d'.fieldIds[name]? = some f →
      f.index < d'.program.fields.size) :
    d'.program.UsesOnly P := by
  cases h with
  | inFile _ => exact hu
  | function name => exact ⟨forall_mem_push hu.functions nofun, hu.vars, hu.exprs⟩
  | @param f x hx name typeName =>
    have hv := usesOnly_pushVariable hu name typeName (.parameter (.ofNat x.params.length))
      fun g hg ↦ Option.some_inj.mp hg ▸ hp (.function f) List.mem_cons_self
    -- The new number may wrap around, but it names a variable all the same.
    have hnew := hs (.var (.ofIndex d.program.vars.size)) (index_ofIndex_size_lt d _ _ _ _)
    refine usesOnly_editFunction hv f fun y ref hm ↦ ?_
    simp only [Function.refs, List.map_append, List.map_cons, List.map_nil, List.mem_append,
      List.mem_singleton] at hm ⊢
    rcases hm with ((hm | rfl) | hm) | hm
    · exact .inl (.inl (.inl hm))
    · exact .inr hnew
    · exact .inl (.inl (.inr hm))
    · exact .inl (.inr hm)
  | @selfParam f hf =>
    have hv := usesOnly_pushVariable hu "self" none .selfParameter
      fun g hg ↦ Option.some_inj.mp hg ▸ hp (.function f) List.mem_cons_self
    have hnew := hs (.var (.ofIndex d.program.vars.size)) (index_ofIndex_size_lt d _ _ _ _)
    refine usesOnly_editFunction hv f fun y ref hm ↦ ?_
    simp only [Function.refs, List.map_append, Option.toList_some, List.map_cons, List.map_nil,
      List.mem_append, List.mem_singleton] at hm ⊢
    rcases hm with (hm | rfl) | hm
    · exact .inl (.inl (.inl hm))
    · exact .inr hnew
    · exact .inl (.inr hm)
  | localVar f name typeName =>
    exact usesOnly_pushVariable hu name typeName .localVar
      fun g hg ↦ Option.some_inj.mp hg ▸ hp (.function f) List.mem_cons_self
  | global name => exact usesOnly_pushVariable hu name none .global nofun
  | field hi => exact hi.usesOnly hu
  | setInitial v value =>
    refine usesOnly_editVariable hu v fun x ref hm ↦ ?_
    simp only [Variable.refs, Option.toList_some, List.map_cons, List.map_nil, List.mem_append,
      List.mem_singleton] at hm ⊢
    rcases hm with hm | rfl
    · exact .inl (.inl hm)
    · exact .inr (hp _ (by simp [Step.refs]))
  | returns f value =>
    refine usesOnly_editFunction hu f fun y ref hm ↦ ?_
    simp only [Function.refs, List.map_append, List.map_cons, List.map_nil, List.mem_append,
      List.mem_singleton] at hm ⊢
    rcases hm with hm | hm | rfl
    · exact .inl (.inl hm)
    · exact .inl (.inr hm)
    · exact .inr (hp _ (by simp [Step.refs]))
  | revise hn hid hk hr =>
    refine ⟨hu.functions, hu.vars, forall_mem_modify hu.exprs fun x hx ref hm ↦ ?_⟩
    rcases hr x ref hm with hm | hm
    · exact hu.exprs x (Array.mem_of_getElem? hx) ref hm
    · exact hp ref hm
  | expr hfun hi hr =>
    refine usesOnly_pushExpr (hi.usesOnly hu) _ (hp _ hfun) fun ref hm ↦ ?_
    rcases hr ref hm with hpassed | ⟨f, rfl, hslot⟩
    · exact hp ref hpassed
    · obtain ⟨name, hname⟩ := hi.enters.exists_name hslot
      exact hs _ (hf name f hname)

end

end Draft

end TaintFlow
