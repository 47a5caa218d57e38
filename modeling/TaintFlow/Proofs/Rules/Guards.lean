import TaintFlow.Taint.Rule
import TaintFlow.Proofs.Program.Tables
import Mathlib.Logic.Relation
import Mathlib.Algebra.BigOperators.Fin

namespace TaintFlow

namespace Program

variable (p : Program)

/-- A read of `v` is reached from `top` along children. -/
def ReachesRead (top : ExprId) (v : VarId) : Prop :=
  ∃ e defs, Relation.ReflTransGen (fun a b ↦ b ∈ p.children a) top e ∧
    p.kind? e = some (.read v defs)

/-- A search for a read of `v`, from the expressions waiting and those seen, comes to an end with
an answer. `order` arranges the children of an expression before they are put in front. -/
inductive Search (order : List ExprId → List ExprId) (v : VarId) :
    List ExprId → List ExprId → Bool → Prop
  | exhausted {seen : List ExprId} : Search order v [] seen false
  | pass {e : ExprId} {waiting seen : List ExprId} {answer : Bool} (hs : e ∈ seen)
      (h : Search order v waiting seen answer) : Search order v (e :: waiting) seen answer
  | found {e : ExprId} {waiting seen : List ExprId} (hs : e ∉ seen) (hr : p.reads v e = true) :
      Search order v (e :: waiting) seen true
  | descend {e : ExprId} {waiting seen : List ExprId} {answer : Bool} (hs : e ∉ seen)
      (hr : p.reads v e = false)
      (h : Search order v (order (p.children e) ++ waiting) (e :: seen) answer) :
      Search order v (e :: waiting) seen answer

def width (i : Nat) : Nat :=
  (p.exprs[i]?.map (·.kind.children.length)).getD 0

def unseenWidth (seen : List ExprId) : Nat :=
  ∑ i ∈ Finset.range p.exprs.size \ (seen.map (·.index)).toFinset, p.width i

variable {p} {v : VarId} {e : ExprId} {waiting seen : List ExprId} {answer : Bool}
  {order : List ExprId → List ExprId}

theorem reads_eq_true_iff : p.reads v e = true ↔ ∃ defs, p.kind? e = some (.read v defs) := by
  unfold reads
  split
  · next w defs h => simp [h, eq_comm]
  · next hne => exact ⟨nofun, fun ⟨defs, h⟩ ↦ (hne _ _ h).elim⟩

theorem reachesRead_iff : p.ReachesRead e v ↔
    p.reads v e = true ∨ ∃ c ∈ p.children e, p.ReachesRead c v := by
  constructor
  · rintro ⟨x, defs, hx, hk⟩
    rcases hx.cases_head with rfl | ⟨c, hc, hx⟩
    · exact .inl (reads_eq_true_iff.mpr ⟨defs, hk⟩)
    · exact .inr ⟨c, hc, x, defs, hx, hk⟩
  · rintro (hr | ⟨c, hc, x, defs, hx, hk⟩)
    · obtain ⟨defs, hk⟩ := reads_eq_true_iff.mp hr
      exact ⟨e, defs, .refl, hk⟩
    · exact ⟨x, defs, hx.head hc, hk⟩

/-- Nothing seen is a read of `v`, and what is seen leads on only to what is seen or waits. -/
structure Explored (p : Program) (v : VarId) (waiting seen : List ExprId) : Prop where
  reads : ∀ a ∈ seen, p.reads v a = false
  children : ∀ a ∈ seen, ∀ c ∈ p.children a, c ∈ seen ∨ c ∈ waiting

theorem Explored.exists_waiting (h : p.Explored v waiting seen) (he : e ∈ seen)
    (hr : p.ReachesRead e v) : ∃ w ∈ waiting, p.ReachesRead w v := by
  obtain ⟨x, defs, hx, hk⟩ := hr
  induction hx using Relation.ReflTransGen.head_induction_on with
  | refl =>
    have hx := reads_eq_true_iff.mpr ⟨defs, hk⟩
    rw [h.reads x he] at hx
    cases hx
  | head hc hx ih =>
    rcases h.children _ he _ hc with hs | hw
    · exact ih hs
    · exact ⟨_, hw, x, defs, hx, hk⟩

theorem Explored.pass (h : p.Explored v (e :: waiting) seen) (he : e ∈ seen) :
    p.Explored v waiting seen where
  reads := h.reads
  children a ha c hc := by
    rcases h.children a ha c hc with hs | hw
    · exact .inl hs
    · rcases List.mem_cons.mp hw with rfl | hw
      · exact .inl he
      · exact .inr hw

theorem Explored.descend (ho : ∀ l, (order l).Perm l) (h : p.Explored v (e :: waiting) seen)
    (hr : p.reads v e = false) :
    p.Explored v (order (p.children e) ++ waiting) (e :: seen) where
  reads := List.forall_mem_cons.mpr ⟨hr, h.reads⟩
  children := by
    refine List.forall_mem_cons.mpr ⟨fun c hc ↦ ?_, fun a ha c hc ↦ ?_⟩
    · exact .inr (List.mem_append_left _ ((ho _).mem_iff.mpr hc))
    · rcases h.children a ha c hc with hs | hw
      · exact .inl (List.mem_cons_of_mem _ hs)
      · rcases List.mem_cons.mp hw with rfl | hw
        · exact .inl List.mem_cons_self
        · exact .inr (List.mem_append_right _ hw)

theorem Search.answer_iff (ho : ∀ l, (order l).Perm l)
    (h : p.Search order v waiting seen answer) (hx : p.Explored v waiting seen) :
    answer = true ↔ ∃ w ∈ waiting, p.ReachesRead w v := by
  induction h with
  | exhausted => simp
  | @pass e waiting seen answer hs h ih =>
    rw [ih (hx.pass hs), List.exists_mem_cons_iff]
    exact ⟨.inr, fun hw ↦ hw.elim ((hx.pass hs).exists_waiting hs) id⟩
  | found hs hr => simp [reachesRead_iff.mpr (.inl hr)]
  | @descend e waiting seen answer hs hr h ih =>
    rw [ih (hx.descend ho hr), List.exists_mem_cons_iff, reachesRead_iff]
    simp only [List.mem_append, (ho _).mem_iff, or_and_right, exists_or, hr, Bool.false_eq_true,
      false_or]

theorem width_index : p.width e.index = (p.children e).length := by
  unfold width children kind? expr?
  cases p.exprs[e.index]? <;> rfl

theorem length_children_add_unseenWidth (hs : e ∉ seen) :
    (p.children e).length + p.unseenWidth (e :: seen) = p.unseenWidth seen := by
  have hfresh : e.index ∉ (seen.map (·.index)).toFinset := by
    rw [List.mem_toFinset, List.mem_map]
    rintro ⟨a, ha, hi⟩
    exact hs (ExprId.eq_of_index_eq hi ▸ ha)
  rw [unseenWidth, List.map_cons, List.toFinset_cons, Finset.sdiff_insert, ← width_index]
  by_cases hi : e.index < p.exprs.size
  · exact Finset.add_sum_erase _ _ (Finset.mem_sdiff.mpr ⟨Finset.mem_range.mpr hi, hfresh⟩)
  · have hw : p.width e.index = 0 := by simp [width, Array.getElem?_eq_none (Nat.le_of_not_lt hi)]
    rw [hw, Nat.zero_add, Finset.erase_eq_of_notMem fun hm ↦ ?_, unseenWidth]
    exact hi (Finset.mem_range.mp (Finset.mem_sdiff.mp hm).1)

theorem exists_search (ho : ∀ l, (order l).Perm l) (v : VarId) (waiting seen : List ExprId) :
    ∃ answer, p.Search order v waiting seen answer := by
  -- What waits and what the expressions not seen may add to it get fewer by one.
  induction hn : waiting.length + p.unseenWidth seen generalizing waiting seen with
  | zero =>
    obtain rfl : waiting = [] := List.eq_nil_of_length_eq_zero (by omega)
    exact ⟨_, .exhausted⟩
  | succ n ih =>
    cases waiting with
    | nil => exact ⟨_, .exhausted⟩
    | cons e waiting =>
      rw [List.length_cons] at hn
      by_cases hs : e ∈ seen
      · obtain ⟨answer, h⟩ := ih waiting seen (by omega)
        exact ⟨answer, .pass hs h⟩
      · cases hr : p.reads v e with
        | true => exact ⟨true, .found hs hr⟩
        | false =>
          have hwidth := p.length_children_add_unseenWidth hs
          have hlength := (ho (p.children e)).length_eq
          obtain ⟨answer, h⟩ := ih (order (p.children e) ++ waiting) (e :: seen) (by
            rw [List.length_append]
            omega)
          exact ⟨answer, .descend hs hr h⟩

/-- With a step for all that waits, one for each child not brought in yet and one to end, the
search is not cut off. -/
theorem Search.searchRead_eq (h : p.Search id v waiting seen answer) {fuel : Nat}
    (hf : waiting.length + p.unseenWidth seen < fuel) :
    p.searchRead v fuel waiting seen = answer := by
  induction h generalizing fuel with
  | exhausted =>
    cases fuel with
    | zero => omega
    | succ fuel => rfl
  | pass hs h ih =>
    cases fuel with
    | zero => omega
    | succ fuel =>
      rw [List.length_cons] at hf
      simp only [searchRead, List.contains_iff_mem.mpr hs, if_true]
      exact ih (by omega)
  | found hs hr =>
    cases fuel with
    | zero => omega
    | succ fuel => simp [searchRead, hs, hr]
  | descend hs hr h ih =>
    cases fuel with
    | zero => omega
    | succ fuel =>
      have hwidth := p.length_children_add_unseenWidth hs
      rw [List.length_cons] at hf
      simp only [searchRead, List.contains_iff_mem, hs, hr, if_false, Bool.false_or]
      exact ih (by
        rw [id, List.length_append]
        omega)

theorem searchBound_eq : p.searchBound = p.unseenWidth [] + 2 := by
  have hsum : (p.exprs.toList.map fun x ↦ x.kind.children.length).sum = p.unseenWidth [] := by
    rw [unseenWidth, List.map_nil, List.toFinset_nil, Finset.sdiff_empty, Finset.sum_range,
      ← Fin.sum_univ_fun_getElem]
    refine Finset.sum_congr rfl fun i _ ↦ ?_
    simp [width]
  rw [searchBound, List.length_flatMap, ← hsum]

theorem explored_nil : p.Explored v waiting [] where
  reads := nofun
  children := nofun

theorem search_id_guardChecks (top : ExprId) (v : VarId) :
    p.Search id v [top] [] (p.guardChecks top v) := by
  obtain ⟨answer, h⟩ := exists_search (p := p) (fun l ↦ .refl (id l)) v [top] []
  have hbound : [top].length + p.unseenWidth [] < p.searchBound := by
    rw [searchBound_eq, List.length_singleton]
    omega
  rw [guardChecks, h.searchRead_eq hbound]
  exact h

theorem guardChecks_eq_true_iff {top : ExprId} :
    p.guardChecks top v = true ↔ p.ReachesRead top v := by
  rw [(search_id_guardChecks top v).answer_iff (fun l ↦ .refl (id l)) explored_nil]
  simp

theorem search_guardChecks (ho : ∀ l, (order l).Perm l) (top : ExprId) (v : VarId) :
    p.Search order v [top] [] (p.guardChecks top v) := by
  obtain ⟨answer, h⟩ := exists_search (p := p) ho v [top] []
  have heq : answer = p.guardChecks top v := by
    rw [Bool.eq_iff_iff, h.answer_iff ho explored_nil, guardChecks_eq_true_iff]
    simp
  exact heq ▸ h

end Program

namespace Rule

/-- The search below a condition ends, in whatever order it takes the children of an expression,
and finds a read of the variable exactly if the condition leads to one. So the nodes under a guard
are the reads with a guard that the rule accepts and whose condition leads to a read of the same
variable. -/
theorem isGuarded_iff_reachesRead :
    (∀ (p : Program) (top : ExprId) (v : VarId),
      (∀ order, (∀ l : List ExprId, (order l).Perm l) →
        p.Search order v [top] [] (p.guardChecks top v)) ∧
      (p.guardChecks top v = true ↔ p.ReachesRead top v)) ∧
    ∀ (r : Rule) (g : FlowGraph) (n : FlowNode), r.isGuarded g n = true ↔
      ∃ e x v defs guard, n = .expr e ∧ g.program.expr? e = some x ∧ x.kind = .read v defs ∧
        guard ∈ x.guards ∧ r.isSanitizingGuard g guard = true ∧
        g.program.ReachesRead guard.condition v := by
  refine ⟨fun p top v ↦ ⟨fun order ho ↦ Program.search_guardChecks ho top v,
    Program.guardChecks_eq_true_iff⟩, fun r g n ↦ ?_⟩
  unfold isGuarded
  constructor
  · intro h
    split at h
    · next id function span text v defs guards hx =>
      obtain ⟨e, hn, hx⟩ := Option.bind_eq_some_iff.mp hx
      obtain ⟨guard, hm, hg⟩ := List.any_eq_true.mp h
      obtain ⟨hr, hc⟩ := Bool.and_eq_true_iff.mp hg
      cases n with
      | expr e' =>
        cases hn
        exact ⟨e, _, v, defs, guard, rfl, hx, rfl, hm, hr, Program.guardChecks_eq_true_iff.mp hc⟩
      | _ => cases hn
    · cases h
  · rintro ⟨e, ⟨id, function, span, text, kind, guards⟩, v, defs, guard, rfl, hx, rfl, hm, hr, hc⟩
    rw [FlowNode.expr?, Option.bind_some, hx]
    refine List.any_eq_true.mpr ⟨guard, hm, ?_⟩
    rw [hr, Program.guardChecks_eq_true_iff.mpr hc, Bool.and_self]

def loopingProgram : Program where
  functions := #[⟨⟨0⟩, "main", "looping.rb", [⟨0⟩], none, [], default⟩]
  vars := #[⟨⟨0⟩, "token", some ⟨0⟩, none, .parameter 0, none, default⟩]
  exprs := #[⟨⟨0⟩, ⟨0⟩, default, "token", .read ⟨0⟩ [.param ⟨0⟩], []⟩,
    ⟨⟨1⟩, ⟨0⟩, default, "valid?", .call { name := "valid?", args := [⟨2⟩, ⟨9⟩, ⟨0⟩] }, []⟩,
    ⟨⟨2⟩, ⟨0⟩, default, "!valid?", .operation "!" [⟨1⟩], []⟩,
    ⟨⟨3⟩, ⟨0⟩, default, "token", .read ⟨0⟩ [.param ⟨0⟩], [⟨⟨2⟩, true⟩]⟩]

def trusting : Rule where
  name := "trusting"
  isSource _ _ := false
  sinkKind? _ _ := none
  isSanitizingGuard _ guard := guard.branch

theorem isGuarded_iff_reachesRead_looping :
    (∀ l : List ExprId, l.reverse.Perm l) ∧
      loopingProgram.Search List.reverse ⟨0⟩ [⟨2⟩] [] true ∧
      loopingProgram.ReachesRead ⟨2⟩ ⟨0⟩ ∧
      trusting.isGuarded (.ofProgram loopingProgram) (.expr ⟨3⟩) = true ∧
      trusting.isGuarded (.ofProgram loopingProgram) (.expr ⟨0⟩) = false := by
  obtain ⟨hsearch, hguarded⟩ := isGuarded_iff_reachesRead
  have hchecks : loopingProgram.guardChecks ⟨2⟩ ⟨0⟩ = true := by cbv
  have hreaches := (hsearch loopingProgram ⟨2⟩ ⟨0⟩).2.mp hchecks
  refine ⟨fun l ↦ List.reverse_perm l, ?_, hreaches, ?_, ?_⟩
  · exact hchecks ▸ (hsearch loopingProgram ⟨2⟩ ⟨0⟩).1 List.reverse fun l ↦ List.reverse_perm l
  · exact (hguarded _ _ _).mpr
      ⟨⟨3⟩, _, ⟨0⟩, _, ⟨⟨2⟩, true⟩, rfl, rfl, rfl, List.mem_singleton_self _, rfl, hreaches⟩
  · refine Bool.eq_false_iff.mpr fun h ↦ ?_
    obtain ⟨e, x, v, defs, guard, he, hx, -, hm, -⟩ := (hguarded _ _ _).mp h
    cases he
    cases hx
    cases hm

end Rule

end TaintFlow
