import TaintFlow.Proofs.Taint.Validation

namespace TaintFlow

namespace Arena

/-- The states from `id` back over the parents to one that has none, in this order. -/
inductive Lineage (a : Arena) : StateId → List PathState → Prop
  | origin {id : StateId} {x : PathState} :
      a.get? id = some x → x.parent = none → Lineage a id [x]
  | child {id parent : StateId} {x : PathState} {chain : List PathState} :
      a.get? id = some x → x.parent = some parent → Lineage a parent chain →
      Lineage a id (x :: chain)

def ancestor? (a : Arena) : Nat → StateId → Option StateId
  | 0, id => some id
  | n + 1, id => (a.get? id).bind fun x ↦ x.parent.bind (ancestor? a n)

variable {a : Arena} {id i : StateId} {x : PathState} {chain : List PathState} {n : Nat}

theorem ancestor?_add (m n : Nat) (id : StateId) :
    a.ancestor? (m + n) id = (a.ancestor? m id).bind (a.ancestor? n) := by
  induction m generalizing id with
  | zero =>
    rw [Nat.zero_add]
    rfl
  | succ m ih =>
    have hstep : ∀ parent, a.ancestor? (m + n) parent =
        (a.ancestor? m parent).bind (a.ancestor? n) := ih
    rw [Nat.add_right_comm, ancestor?, ancestor?, Option.bind_assoc, funext hstep]
    simp only [Option.bind_assoc]

theorem exists_ancestor_eq (h : ∀ n ≤ a.size, ∃ i, a.ancestor? n id = some i ∧ i.val < a.size) :
    ∃ j k, j < k ∧ k ≤ a.size ∧ a.ancestor? j id = a.ancestor? k id := by
  let number (n : Nat) : Nat := (a.ancestor? n id).elim 0 (·.val)
  have hmaps : ∀ n ∈ Finset.range (a.size + 1), number n ∈ Finset.range a.size := by
    intro n hn
    obtain ⟨i, hi, hlt⟩ := h n (Nat.lt_succ_iff.mp (Finset.mem_range.mp hn))
    simpa [number, hi] using hlt
  have hcard : (Finset.range a.size).card < (Finset.range (a.size + 1)).card := by simp
  obtain ⟨j, hj, k, hk, hne, heq⟩ := Finset.exists_ne_map_eq_of_card_lt_of_maps_to hcard hmaps
  rw [Finset.mem_range, Nat.lt_succ_iff] at hj hk
  have hsame : a.ancestor? j id = a.ancestor? k id := by
    obtain ⟨i, hi, -⟩ := h j hj
    obtain ⟨i', hi', -⟩ := h k hk
    have hval : i.val = i'.val := by simpa [number, hi, hi'] using heq
    rw [hi, hi', show i = i' from congrArg StateId.mk hval]
  rcases Nat.lt_or_gt_of_ne hne with hlt | hlt
  · exact ⟨j, k, hlt, hk, hsame⟩
  · exact ⟨k, j, hlt, hj, hsame.symm⟩

theorem exists_ancestor_le (h : ∀ n ≤ a.size, ∃ i, a.ancestor? n id = some i ∧ i.val < a.size)
    (n : Nat) : ∃ m ≤ a.size, a.ancestor? n id = a.ancestor? m id := by
  obtain ⟨j, k, hlt, hk, hsame⟩ := exists_ancestor_eq h
  induction n using Nat.strongRecOn with
  | ind n ih =>
    by_cases hn : n ≤ a.size
    · exact ⟨n, hn, rfl⟩
    · obtain ⟨t, rfl⟩ := Nat.exists_eq_add_of_le (show k ≤ n by omega)
      obtain ⟨m, hm, heq⟩ := ih (j + t) (by omega)
      refine ⟨m, hm, ?_⟩
      rw [← heq, ancestor?_add, ancestor?_add, hsame]

namespace Lineage

theorem ancestor?_length (h : a.Lineage id chain) : a.ancestor? chain.length id = none := by
  induction h with
  | origin hx hp => simp [ancestor?, hx, hp]
  | child hx hp _ ih => simpa [ancestor?, hx, hp] using ih

theorem exists_ancestor (h : a.Lineage id chain) (hn : n < chain.length) :
    ∃ i, a.ancestor? n id = some i ∧ i.val < a.size := by
  induction h generalizing n with
  | @origin id x hx hp =>
    cases n with
    | zero => exact ⟨id, rfl, lt_size_of_get? hx⟩
    | succ n => exact absurd hn (by simp)
  | @child id parent x chain hx hp _ ih =>
    cases n with
    | zero => exact ⟨id, rfl, lt_size_of_get? hx⟩
    | succ n =>
      obtain ⟨i, hi, hlt⟩ := ih (Nat.lt_of_succ_lt_succ hn)
      exact ⟨i, by simpa [ancestor?, hx, hp] using hi, hlt⟩

theorem length_le (h : a.Lineage id chain) : chain.length ≤ a.size := by
  by_contra hlong
  have hall : ∀ n ≤ a.size, ∃ i, a.ancestor? n id = some i ∧ i.val < a.size := by
    intro n hn
    exact h.exists_ancestor (by omega)
  obtain ⟨m, hm, heq⟩ := exists_ancestor_le hall chain.length
  obtain ⟨i, hi, -⟩ := hall m hm
  rw [h.ancestor?_length, hi] at heq
  cases heq

end Lineage

end Arena

namespace FlowGraph

variable {g : FlowGraph} {a : Arena} {start id : StateId} {validate : Bool} {fuel : Nat}
  {path steps : List PathStep} {chain : List PathState}

def stepOf (x : PathState) : PathStep := ⟨x.key.node, x.via⟩

theorem pathBack_eq_ok_iff_lineage : g.pathBack a false start fuel id path = .ok steps ↔
    ∃ chain, a.Lineage id chain ∧ chain.length ≤ fuel ∧
      (∀ x ∈ chain, g.contains x.key.node = true) ∧ steps = (chain.map stepOf).reverse ++ path := by
  induction fuel generalizing id path with
  | zero =>
    constructor
    · intro h
      cases h
    · rintro ⟨chain, hc, hlength, -⟩
      cases hc <;> simp at hlength
  | succ fuel ih =>
    rw [pathBack_eq_ok_iff]
    constructor
    · rintro ⟨x, hx, hcontains, -, ⟨hp, rfl⟩ | ⟨parent, hp, hback⟩⟩
      · exact ⟨[x], .origin hx hp, by simp, by simpa using hcontains, rfl⟩
      · obtain ⟨chain, hc, hlength, hall, rfl⟩ := ih.mp hback
        refine ⟨x :: chain, .child hx hp hc, Nat.succ_le_succ hlength, ?_, by simp [stepOf]⟩
        exact List.forall_mem_cons.mpr ⟨hcontains, hall⟩
    · rintro ⟨chain, hc, hlength, hall, rfl⟩
      cases hc with
      | origin hx hp => exact ⟨_, hx, hall _ List.mem_cons_self, by simp, .inl ⟨hp, rfl⟩⟩
      | @child _ parent x chain hx hp hc =>
        obtain ⟨hcontains, hall⟩ := List.forall_mem_cons.mp hall
        refine ⟨x, hx, hcontains, by simp, .inr ⟨parent, hp, ?_⟩⟩
        exact ih.mpr ⟨chain, hc, Nat.le_of_succ_le_succ hlength, hall, by simp [stepOf]⟩

theorem pathTo_eq_ok_iff_lineage : g.pathTo a false id = .ok steps ↔
    ∃ chain, a.Lineage id chain ∧ (∀ x ∈ chain, g.contains x.key.node = true) ∧
      steps = (chain.map stepOf).reverse := by
  rw [pathTo_eq, pathBack_eq_ok_iff_lineage]
  constructor
  · rintro ⟨chain, hc, -, hall, hsteps⟩
    exact ⟨chain, hc, hall, by rw [hsteps, List.append_nil]⟩
  · rintro ⟨chain, hc, hall, hsteps⟩
    have hlength := hc.length_le
    exact ⟨chain, hc, by omega, hall, by rw [hsteps, List.append_nil]⟩

def Reached (g : FlowGraph) (x parent : PathState) : Prop :=
  ∀ kind, x.via = some kind → g.Hop parent.key.node x.key.node kind

theorem allowsInto_eq_none_iff {x y : PathStep} : g.allowsInto x.node (y :: path) = none ↔
    ∀ kind, y.edge = some kind → g.Hop x.node y.node kind := by
  obtain ⟨node, _ | kind⟩ := y
  · simp [allowsInto_source]
  · simp [allowsInto_step, ← allowsHop_iff]

theorem allowsPath_iff : g.allowsPath path = true ↔
    path.IsChain fun x y ↦ ∀ kind, y.edge = some kind → g.Hop x.node y.node kind := by
  induction path with
  | nil => simp [allowsPath]
  | cons x path ih =>
    rw [allowsPath, Bool.and_eq_true, Option.isNone_iff_eq_none, ih]
    cases path with
    | nil => simp [allowsInto_nil]
    | cons y path => rw [allowsInto_eq_none_iff, List.isChain_cons_cons]

theorem allowsPath_reverse : g.allowsPath (chain.map stepOf).reverse = true ↔
    chain.IsChain g.Reached := by
  rw [allowsPath_iff, List.isChain_reverse, List.isChain_map]
  rfl

theorem allowsInto_ne_endless {n : FlowNode} {s : StateId} :
    g.allowsInto n path ≠ some (.endless s) := by
  rcases path with _ | ⟨⟨target, _ | kind⟩, path⟩
  · simp [allowsInto_nil]
  · simp [allowsInto_source]
  · rw [allowsInto_step]
    split <;> simp

/-- If the fuel is used up, it is used up behind each state. -/
theorem exists_parent_of_endless {s : StateId}
    (h : g.pathBack a validate start (fuel + 1) id path = .error (.endless s)) :
    ∃ x parent, a.get? id = some x ∧ g.contains x.key.node = true ∧ x.parent = some parent ∧
      g.pathBack a validate start fuel parent (stepOf x :: path) = .error (.endless s) := by
  have hinto : ∀ n,
      (if validate = true then g.allowsInto n path else none) ≠ some (.endless s) := by
    intro n
    split
    · exact allowsInto_ne_endless
    · simp
  rw [pathBack_succ] at h
  cases hx : a.get? id with
  | none => simp [hx] at h
  | some x =>
    simp only [hx] at h
    cases hcontains : g.contains x.key.node with
    | false => simp [hcontains] at h
    | true =>
      rw [hcontains] at h
      cases hbroken : (if validate = true then g.allowsInto x.key.node path else none) with
      | some broken =>
        rw [hbroken] at h
        injection h with h
        exact absurd (h ▸ hbroken) (hinto _)
      | none =>
        rw [hbroken] at h
        cases hp : x.parent with
        | none => simp [hp] at h
        | some parent => exact ⟨x, parent, rfl, hcontains, hp, by simpa [hp, stepOf] using h⟩

def HasAncestor (g : FlowGraph) (a : Arena) (id : StateId) (n : Nat) : Prop :=
  ∃ i x, a.ancestor? n id = some i ∧ a.get? i = some x ∧ g.contains x.key.node = true

theorem hasAncestor_zero {x : PathState} (hx : a.get? id = some x)
    (hcontains : g.contains x.key.node = true) : g.HasAncestor a id 0 :=
  ⟨id, x, rfl, hx, hcontains⟩

theorem hasAncestor_succ {x : PathState} {parent : StateId} {n : Nat} (hx : a.get? id = some x)
    (hp : x.parent = some parent) : g.HasAncestor a id (n + 1) ↔ g.HasAncestor a parent n := by
  simp [HasAncestor, Arena.ancestor?, hx, hp]

theorem hasAncestor_of_endless {s : StateId}
    (h : g.pathBack a validate start fuel id path = .error (.endless s)) :
    s = start ∧ ∀ n < fuel, g.HasAncestor a id n := by
  induction fuel generalizing id path with
  | zero =>
    cases h
    exact ⟨rfl, by simp⟩
  | succ fuel ih =>
    obtain ⟨x, parent, hx, hcontains, hp, hback⟩ := exists_parent_of_endless h
    obtain ⟨hs, hall⟩ := ih hback
    refine ⟨hs, ?_⟩
    intro n hn
    cases n with
    | zero => exact hasAncestor_zero hx hcontains
    | succ n => exact (hasAncestor_succ hx hp).mpr (hall n (Nat.lt_of_succ_lt_succ hn))

theorem pathBack_eq_endless (h : ∀ n ≤ fuel, g.HasAncestor a id n) :
    g.pathBack a false start fuel id path = .error (.endless start) := by
  induction fuel generalizing id path with
  | zero => rfl
  | succ fuel ih =>
    obtain ⟨i, x, hi, hx, hcontains⟩ := h 0 (Nat.zero_le _)
    cases hi
    cases hp : x.parent with
    | none =>
      obtain ⟨i, y, hi, -⟩ := h 1 (by omega)
      simp [Arena.ancestor?, hx, hp] at hi
    | some parent =>
      have hback : g.pathBack a false start (fuel + 1) id path =
          g.pathBack a false start fuel parent (stepOf x :: path) := by
        simp [pathBack_succ, hx, hcontains, hp, stepOf]
      rw [hback]
      apply ih
      intro n hn
      exact (hasAncestor_succ hx hp).mp (h (n + 1) (Nat.succ_le_succ hn))

theorem hasAncestor_of_le_size (h : ∀ n ≤ a.size, g.HasAncestor a id n) (n : Nat) :
    g.HasAncestor a id n := by
  have hsize : ∀ n ≤ a.size, ∃ i, a.ancestor? n id = some i ∧ i.val < a.size := by
    intro n hn
    obtain ⟨i, x, hi, hx, -⟩ := h n hn
    exact ⟨i, hi, Arena.lt_size_of_get? hx⟩
  obtain ⟨m, hm, heq⟩ := Arena.exists_ancestor_le hsize n
  obtain ⟨i, x, hi, hx⟩ := h m hm
  exact ⟨i, x, heq.trans hi, hx⟩

theorem hasAncestor_of_pathTo {s : StateId} (h : g.pathTo a validate id = .error (.endless s)) :
    s = id ∧ ∀ n, g.HasAncestor a id n := by
  obtain ⟨hs, hall⟩ := hasAncestor_of_endless h
  exact ⟨hs, hasAncestor_of_le_size fun n hn ↦ hall n (Nat.lt_succ_of_le hn)⟩

theorem pathTo_eq_endless_iff {s : StateId} : g.pathTo a false id = .error (.endless s) ↔
    s = id ∧ ∀ n, g.HasAncestor a id n := by
  constructor
  · exact hasAncestor_of_pathTo
  · rintro ⟨rfl, h⟩
    exact pathBack_eq_endless fun n _ ↦ h n

theorem pathTo_ne_endless (h : a.Lineage id chain) {s : StateId} :
    g.pathTo a validate id ≠ .error (.endless s) := by
  intro herr
  obtain ⟨i, x, hi, -⟩ := (hasAncestor_of_pathTo herr).2 chain.length
  rw [h.ancestor?_length] at hi
  cases hi

theorem pathTo_eq_ok_iff_reached : g.pathTo a validate id = .ok steps ↔
    ∃ chain, a.Lineage id chain ∧ (∀ x ∈ chain, g.contains x.key.node = true) ∧
      (validate = true → chain.IsChain g.Reached) ∧ steps = (chain.map stepOf).reverse := by
  cases validate with
  | false =>
    rw [pathTo_eq_ok_iff_lineage]
    simp
  | true =>
    rw [pathTo_validated_iff, pathTo_eq_ok_iff_lineage]
    constructor
    · rintro ⟨⟨chain, hc, hall, rfl⟩, hallows⟩
      exact ⟨chain, hc, hall, fun _ ↦ allowsPath_reverse.mp hallows, rfl⟩
    · rintro ⟨chain, hc, hall, hreached, rfl⟩
      exact ⟨⟨chain, hc, hall, rfl⟩, allowsPath_reverse.mpr (hreached rfl)⟩

/-- Whatever the parents are, a path is given exactly if they lead to a state without one over
nodes of the graph and, where this is checked, by hops of the graph. Without the check, the parents
are found to be endless exactly if they are; with it, only then. So a chain that ends is never found
to be endless, even if it goes through all states of the arena. -/
theorem pathTo_exact (g : FlowGraph) (a : Arena) (id : StateId) :
    (∀ validate steps, g.pathTo a validate id = .ok steps ↔
      ∃ chain, a.Lineage id chain ∧ (∀ x ∈ chain, g.contains x.key.node = true) ∧
        (validate = true → chain.IsChain g.Reached) ∧ steps = (chain.map stepOf).reverse) ∧
    (∀ s, g.pathTo a false id = .error (.endless s) ↔ s = id ∧ ∀ n, g.HasAncestor a id n) ∧
    (∀ s, g.pathTo a true id = .error (.endless s) → s = id ∧ ∀ n, g.HasAncestor a id n) ∧
    ∀ chain, a.Lineage id chain →
      chain.length ≤ a.size ∧ ∀ validate s, g.pathTo a validate id ≠ .error (.endless s) := by
  refine ⟨fun validate steps ↦ pathTo_eq_ok_iff_reached, fun s ↦ pathTo_eq_endless_iff,
    fun s h ↦ hasAncestor_of_pathTo h, ?_⟩
  intro chain hc
  exact ⟨hc.length_le, fun validate s ↦ pathTo_ne_endless hc⟩

def forwardArena : Arena where
  states := #[⟨.plain (.expr ⟨3⟩), some ⟨1⟩, some .additionalStep, ⟨3⟩⟩,
    ⟨.plain (.expr ⟨2⟩), some ⟨2⟩, some .localAssign, ⟨3⟩⟩,
    ⟨.plain (.param ⟨0⟩), some ⟨3⟩, some (.callToParameter ⟨1⟩), ⟨3⟩⟩,
    ⟨.plain (.expr ⟨0⟩), none, none, ⟨3⟩⟩]

theorem pathTo_exact_forward :
    forwardArena.Lineage ⟨0⟩ forwardArena.states.toList ∧
      (∀ validate, Engine.sendingEngine.graph.pathTo forwardArena validate ⟨0⟩ =
        .ok Engine.sendingFinding.path) ∧
      ∀ validate s,
        Engine.sendingEngine.graph.pathTo forwardArena validate ⟨0⟩ ≠ .error (.endless s) := by
  have hc : forwardArena.Lineage ⟨0⟩ forwardArena.states.toList :=
    .child rfl rfl (.child rfl rfl (.child rfl rfl (.origin rfl rfl)))
  have hreached : forwardArena.states.toList.IsChain Engine.sendingEngine.graph.Reached :=
    allowsPath_reverse.mp (by cbv)
  obtain ⟨hok, -, -, hends⟩ := pathTo_exact Engine.sendingEngine.graph forwardArena ⟨0⟩
  refine ⟨hc, ?_, (hends _ hc).2⟩
  intro validate
  exact (hok validate _).mpr ⟨_, hc, by decide, fun _ ↦ hreached, rfl⟩

end FlowGraph

end TaintFlow
