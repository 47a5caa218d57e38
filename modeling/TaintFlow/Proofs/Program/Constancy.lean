import TaintFlow.Program.Constant
import TaintFlow.Program.Index

namespace TaintFlow.Program

variable (p : Program)

def valueOf? : Def → Option ExprId
  | .initializer v => (p.var? v).bind (·.initializer)
  | .assign e => some e
  | .param _ | .mutation _ | .uninitialized _ => none

/-- That an expression is constant has a derivation with at most so many levels. -/
inductive Constant : Nat → ExprId → Prop
  | literal {n : Nat} {e : ExprId} {l : Literal} (h : p.kind? e = some (.literal l)) :
      Constant (n + 1) e
  | regex {n : Nat} {e : ExprId} {pattern flags : String}
      (h : p.kind? e = some (.regex pattern flags)) : Constant (n + 1) e
  | global {n : Nat} {e : ExprId} {v : VarId} {x : Variable} (h : p.kind? e = some (.read v []))
      (hv : p.var? v = some x) (hg : x.kind = .global) : Constant (n + 1) e
  | read {n : Nat} {e : ExprId} {v : VarId} {defs : List Def}
      (h : p.kind? e = some (.read v defs)) (hne : defs ≠ [])
      (hv : ∀ d ∈ defs, ∃ x, p.valueOf? d = some x)
      (hc : ∀ d ∈ defs, ∀ x, p.valueOf? d = some x → Constant n x) : Constant (n + 1) e
  | assign {n : Nat} {e value : ExprId} {v : VarId} (h : p.kind? e = some (.assign v value))
      (hc : Constant n value) : Constant (n + 1) e
  | call {n : Nat} {e : ExprId} {site : CallSite} (h : p.kind? e = some (.call site))
      (hc : ∀ x ∈ site.operands, Constant n x) : Constant (n + 1) e
  | operation {n : Nat} {e : ExprId} {operator : String} {operands : List ExprId}
      (h : p.kind? e = some (.operation operator operands)) (hc : ∀ x ∈ operands, Constant n x) :
      Constant (n + 1) e
  | hash {n : Nat} {e : ExprId} {entries : List HashEntry} (h : p.kind? e = some (.hash entries))
      (hk : ∀ entry ∈ entries, Constant n entry.key)
      (hv : ∀ entry ∈ entries, Constant n entry.value) : Constant (n + 1) e

def parts (e : ExprId) : List ExprId :=
  p.children e ++ (((p.kind? e).map (·.defs)).getD []).filterMap p.valueOf?

def RestsOnParts (e : ExprId) : Prop :=
  match p.kind? e with
  | some (.literal _) | some (.regex _ _) | some (.assign _ _) | some (.call _)
  | some (.operation _ _) | some (.hash _) => True
  | some (.read v []) => ∃ x, p.var? v = some x ∧ x.kind = .global
  | some (.read _ defs) => ∀ d ∈ defs, ∃ x, p.valueOf? d = some x
  | some (.fieldLoad _ _) | some (.fieldStore _ _ _) | some (.index _ _ _) | none => False

variable {p} {n m : Nat} {e : ExprId} {kind : ExprKind}

theorem parts_of_kind? (h : p.kind? e = some kind) :
    p.parts e = kind.children ++ kind.defs.filterMap p.valueOf? := by
  simp [parts, children, h]

theorem constant_succ_iff :
    p.Constant (n + 1) e ↔ p.RestsOnParts e ∧ ∀ x ∈ p.parts e, p.Constant n x := by
  constructor
  · intro h
    cases h with
    | literal h | regex h =>
      simp [RestsOnParts, parts_of_kind? h, h, ExprKind.children, ExprKind.defs]
    | global h hv hg =>
      simp [RestsOnParts, parts_of_kind? h, h, ExprKind.children, ExprKind.defs, hv, hg]
    | @read _ _ v defs h hne hv hc =>
      rw [RestsOnParts, parts_of_kind? h, h]
      refine ⟨?_, fun x hx ↦ ?_⟩
      · cases defs with
        | nil => exact absurd rfl hne
        | cons d rest => exact hv
      · obtain ⟨d, hd, hx⟩ := List.mem_filterMap.mp hx
        exact hc d hd x hx
    | assign h hc =>
      simpa [RestsOnParts, parts_of_kind? h, h, ExprKind.children, ExprKind.defs] using hc
    | call h hc =>
      simpa [RestsOnParts, parts_of_kind? h, h, ExprKind.children, ExprKind.defs] using hc
    | operation h hc =>
      simpa [RestsOnParts, parts_of_kind? h, h, ExprKind.children, ExprKind.defs] using hc
    | hash h hk hv =>
      rw [RestsOnParts, parts_of_kind? h, h]
      refine ⟨trivial, fun x hx ↦ ?_⟩
      simp only [ExprKind.children, ExprKind.defs, List.filterMap_nil, List.append_nil,
        List.mem_flatMap, List.mem_cons, List.not_mem_nil, or_false] at hx
      obtain ⟨entry, hm, rfl | rfl⟩ := hx
      · exact hk entry hm
      · exact hv entry hm
  · rintro ⟨hr, hp⟩
    rw [RestsOnParts] at hr
    cases h : p.kind? e with
    | none => simp [h] at hr
    | some kind =>
      rw [h] at hr
      rw [parts_of_kind? h] at hp
      have hchild : ∀ x ∈ kind.children, p.Constant n x :=
        fun x hx ↦ hp x (List.mem_append_left _ hx)
      cases kind with
      | literal _ => exact .literal h
      | regex _ _ => exact .regex h
      | read v defs =>
        cases defs with
        | nil =>
          obtain ⟨x, hv, hg⟩ := hr
          exact .global h hv hg
        | cons d rest =>
          refine .read h (List.cons_ne_nil _ _) hr fun d hd x hx ↦ ?_
          exact hp x (List.mem_append_right _ (List.mem_filterMap.mpr ⟨d, hd, hx⟩))
      | assign v value => exact .assign h (hchild value List.mem_cons_self)
      | call site => exact .call h hchild
      | operation _ operands => exact .operation h hchild
      | hash entries =>
        refine .hash h (fun entry hm ↦ hchild _ ?_) fun entry hm ↦ hchild _ ?_
        · exact List.mem_flatMap.mpr ⟨entry, hm, List.mem_cons_self⟩
        · exact List.mem_flatMap.mpr ⟨entry, hm, List.mem_cons_of_mem _ List.mem_cons_self⟩
      | fieldLoad _ _ | fieldStore _ _ _ | index _ _ _ => cases hr

theorem Constant.succ (h : p.Constant n e) : p.Constant (n + 1) e := by
  induction n generalizing e with
  | zero => cases h
  | succ n ih =>
    obtain ⟨hr, hp⟩ := constant_succ_iff.mp h
    exact constant_succ_iff.mpr ⟨hr, fun x hx ↦ ih (hp x hx)⟩

theorem Constant.exists_level (h : p.Constant n e) :
    ∃ m, p.Constant (m + 1) e ∧ ¬ p.Constant m e := by
  induction n with
  | zero => cases h
  | succ n ih =>
    by_cases hn : p.Constant n e
    · exact ih hn
    · exact ⟨n, h, hn⟩

section

variable {α : Type} {f : α → Visit Bool} {P : α → Prop} {x : α} {xs : List α}
  {stack stack' : List ExprId}

theorem run_allM_cons : ((x :: xs).allM f).run stack =
    if ((f x).run stack).1 then (xs.allM f).run ((f x).run stack).2
    else (false, ((f x).run stack).2) := by
  rw [List.allM, StateT.run_bind]
  cases h : (f x).run stack with
  | mk answer stack' => cases answer <;> rfl

theorem run_allM (h : ∀ x ∈ xs, (f x).run stack = (true, stack)) :
    (xs.allM f).run stack = (true, stack) := by
  induction xs with
  | nil => rfl
  | cons x rest ih =>
    rw [run_allM_cons, h x List.mem_cons_self]
    exact ih fun y hy ↦ h y (List.mem_cons_of_mem _ hy)

theorem of_run_allM
    (hf : ∀ x ∈ xs, ∀ stack stack', (f x).run stack = (true, stack') → stack' = stack ∧ P x)
    (h : (xs.allM f).run stack = (true, stack')) : stack' = stack ∧ ∀ x ∈ xs, P x := by
  induction xs generalizing stack with
  | nil =>
    cases h
    simp
  | cons x rest ih =>
    rw [run_allM_cons] at h
    cases hx : (f x).run stack with
    | mk answer after =>
      rw [hx] at h
      cases answer with
      | false => cases h
      | true =>
        obtain ⟨rfl, hp⟩ := hf x List.mem_cons_self _ _ hx
        obtain ⟨rfl, hrest⟩ := ih (fun y hy ↦ hf y (List.mem_cons_of_mem _ hy)) h
        exact ⟨rfl, List.forall_mem_cons.mpr ⟨hp, hrest⟩⟩

end

section

variable {visit : ExprId → Visit Bool} {stack stack' : List ExprId}

theorem isConstantDef_eq (d : Def) : p.isConstantDef visit d =
    match p.valueOf? d with
    | some x => visit x
    | none => return false := by
  cases d <;> rfl

theorem run_isConstantKind (h : p.kind? e = some kind) (hr : p.RestsOnParts e)
    (hp : ∀ x ∈ p.parts e, (visit x).run stack = (true, stack)) :
    (p.isConstantKind visit kind).run stack = (true, stack) := by
  rw [parts_of_kind? h] at hp
  rw [RestsOnParts, h] at hr
  cases kind with
  | literal _ | regex _ _ => rfl
  | read v defs =>
    cases defs with
    | nil =>
      obtain ⟨x, hv, hg⟩ := hr
      have hany : (p.var? v).any (·.kind = .global) = true := by simp [hv, hg]
      rw [isConstantKind, hany]
      rfl
    | cons d rest =>
      refine run_allM fun d hd ↦ ?_
      obtain ⟨x, hx⟩ := hr d hd
      rw [isConstantDef_eq, hx]
      exact hp x (List.mem_append_right _ (List.mem_filterMap.mpr ⟨d, hd, hx⟩))
  | assign v value => exact hp value (by simp [ExprKind.children])
  | call site => exact run_allM fun x hx ↦ hp x (List.mem_append_left _ hx)
  | operation _ operands => exact run_allM fun x hx ↦ hp x (List.mem_append_left _ hx)
  | hash entries => exact run_allM fun x hx ↦ hp x (List.mem_append_left _ hx)
  | fieldLoad _ _ | fieldStore _ _ _ | index _ _ _ => cases hr

theorem of_run_isConstantKind {P : ExprId → Prop} (h : p.kind? e = some kind)
    (hv : ∀ x stack stack', (visit x).run stack = (true, stack') → stack' = stack ∧ P x)
    (ht : (p.isConstantKind visit kind).run stack = (true, stack')) :
    stack' = stack ∧ p.RestsOnParts e ∧ ∀ x ∈ p.parts e, P x := by
  rw [parts_of_kind? h, RestsOnParts, h]
  cases kind with
  | literal _ | regex _ _ =>
    cases ht
    exact ⟨rfl, trivial, by simp [ExprKind.children, ExprKind.defs]⟩
  | read v defs =>
    cases defs with
    | nil =>
      obtain ⟨hany, rfl⟩ := Prod.mk.inj ht
      obtain ⟨x, hx, hg⟩ := (Option.any_eq_true _ _).mp hany
      exact ⟨rfl, ⟨x, hx, of_decide_eq_true hg⟩, by simp [ExprKind.children, ExprKind.defs]⟩
    | cons first rest =>
      have hdef : ∀ d ∈ first :: rest, ∀ stack stack',
          (p.isConstantDef visit d).run stack = (true, stack') →
            stack' = stack ∧ ∃ x, p.valueOf? d = some x ∧ P x := by
        intro d _ stack stack' ht
        rw [isConstantDef_eq] at ht
        cases hx : p.valueOf? d with
        | none =>
          rw [hx] at ht
          cases ht
        | some x =>
          rw [hx] at ht
          obtain ⟨rfl, hpx⟩ := hv x _ _ ht
          exact ⟨rfl, x, rfl, hpx⟩
      obtain ⟨rfl, hall⟩ := of_run_allM hdef ht
      refine ⟨rfl, fun d hd ↦ (hall d hd).imp fun x hx ↦ hx.1, fun x hx ↦ ?_⟩
      obtain ⟨d, hd, hx⟩ := List.mem_filterMap.mp hx
      obtain ⟨y, hy, hpy⟩ := hall d hd
      cases hx.symm.trans hy
      exact hpy
  | assign v value =>
    obtain ⟨rfl, hp⟩ := hv _ _ _ ht
    exact ⟨rfl, trivial, by simpa [ExprKind.children, ExprKind.defs] using hp⟩
  | call site =>
    obtain ⟨rfl, hp⟩ := of_run_allM (fun x _ ↦ hv x) ht
    exact ⟨rfl, trivial, by simpa [ExprKind.children, ExprKind.defs] using hp⟩
  | operation _ operands =>
    obtain ⟨rfl, hp⟩ := of_run_allM (fun x _ ↦ hv x) ht
    exact ⟨rfl, trivial, by simpa [ExprKind.children, ExprKind.defs] using hp⟩
  | hash entries =>
    obtain ⟨rfl, hp⟩ := of_run_allM (fun x _ ↦ hv x) ht
    exact ⟨rfl, trivial, by simpa [ExprKind.defs] using hp⟩
  | fieldLoad _ _ | fieldStore _ _ _ | index _ _ _ => cases ht

end

theorem run_visitConstant_succ {stack : List ExprId} : (p.visitConstant (n + 1) e).run stack =
    if stack.contains e then (false, stack)
    else match p.kind? e with
      | none => (false, e :: stack)
      | some kind =>
        (((p.isConstantKind (p.visitConstant n) kind).run (e :: stack)).1,
          ((p.isConstantKind (p.visitConstant n) kind).run (e :: stack)).2.erase e) := by
  simp only [visitConstant, StateT.run_bind, StateT.run_get, pure_bind]
  split
  · rfl
  · cases p.kind? e <;> rfl

theorem run_visitConstant {stack : List ExprId} (h : p.Constant n e)
    (hs : ∀ a ∈ stack, ∃ m, p.Constant m e ∧ ¬ p.Constant m a) :
    (p.visitConstant n e).run stack = (true, stack) := by
  induction n generalizing e stack with
  | zero => cases h
  | succ n ih =>
    have hfresh : stack.contains e = false := by
      refine Bool.eq_false_iff.mpr fun hc ↦ ?_
      obtain ⟨m, he, hne⟩ := hs e (List.contains_iff_mem.mp hc)
      exact hne he
    obtain ⟨hr, hp⟩ := constant_succ_iff.mp h
    -- With the levels that do for `e`, but not for what is being looked at, the parts get by too.
    have hparts : ∀ x ∈ p.parts e, ∀ a ∈ e :: stack, ∃ m, p.Constant m x ∧ ¬ p.Constant m a := by
      intro x hx a ha
      rcases List.mem_cons.mp ha with rfl | ha
      · obtain ⟨m, he, hne⟩ := h.exists_level
        exact ⟨m, (constant_succ_iff.mp he).2 x hx, hne⟩
      · obtain ⟨m, he, hne⟩ := hs a ha
        cases m with
        | zero => cases he
        | succ m => exact ⟨m + 1, ((constant_succ_iff.mp he).2 x hx).succ, hne⟩
    cases hk : p.kind? e with
    | none => simp [RestsOnParts, hk] at hr
    | some kind =>
      have hkind := run_isConstantKind hk hr fun x hx ↦ ih (hp x hx) (hparts x hx)
      simp only [run_visitConstant_succ, hfresh, hk, hkind, Bool.false_eq_true, if_false,
        List.erase_cons_head]

theorem of_run_visitConstant {stack stack' : List ExprId}
    (h : (p.visitConstant n e).run stack = (true, stack')) : stack' = stack ∧ p.Constant n e := by
  induction n generalizing e stack stack' with
  | zero => cases h
  | succ n ih =>
    rw [run_visitConstant_succ] at h
    split at h
    · cases h
    · cases hk : p.kind? e with
      | none =>
        rw [hk] at h
        cases h
      | some kind =>
        rw [hk] at h
        obtain ⟨hanswer, rfl⟩ := Prod.mk.inj h
        obtain ⟨hafter, hr, hp⟩ :=
          of_run_isConstantKind hk (fun x _ _ ↦ ih) (Prod.ext hanswer rfl)
        have hstack := (congrArg (·.erase e) hafter).trans (List.erase_cons_head _ _)
        exact ⟨hstack, constant_succ_iff.mpr ⟨hr, hp⟩⟩

/-- The expressions of `p` have copies in `q`, each with the copies of its parts, in whatever order
and number. -/
structure Copies (p q : Program) (copy : ExprId → ExprId) : Prop where
  rests : ∀ e, q.RestsOnParts (copy e) ↔ p.RestsOnParts e
  parts : ∀ e y, y ∈ q.parts (copy e) ↔ ∃ x ∈ p.parts e, copy x = y

theorem Copies.constant_iff {q : Program} {copy : ExprId → ExprId} (h : p.Copies q copy) :
    q.Constant n (copy e) ↔ p.Constant n e := by
  induction n generalizing e with
  | zero =>
    constructor
    · intro hc
      cases hc
    · intro hc
      cases hc
  | succ n ih =>
    rw [constant_succ_iff, constant_succ_iff, h.rests]
    refine and_congr_right fun _ ↦ ⟨fun hp x hx ↦ ?_, fun hp y hy ↦ ?_⟩
    · exact ih.mp (hp _ ((h.parts e _).mpr ⟨x, hx, rfl⟩))
    · obtain ⟨x, hx, rfl⟩ := (h.parts e y).mp hy
      exact ih.mpr (hp x hx)

/-- An expression is constant exactly if that has a derivation with at most 65 levels. So neither
the order in which its parts are looked at makes a difference, nor whether they are shared. -/
theorem isConstant_iff_constant : (p.isConstant e = true ↔ p.Constant 65 e) ∧
    ∀ q copy, p.Copies q copy → q.isConstant (copy e) = p.isConstant e := by
  have hiff {p : Program} {e : ExprId} : p.isConstant e = true ↔ p.Constant 65 e := by
    rw [isConstant, constantLevels]
    constructor
    · intro h
      exact (of_run_visitConstant (Prod.ext h rfl)).2
    · intro h
      rw [run_visitConstant h fun _ ha ↦ by cases ha]
  refine ⟨hiff, fun q copy h ↦ ?_⟩
  rw [Bool.eq_iff_iff, hiff, hiff, h.constant_iff]

end TaintFlow.Program
