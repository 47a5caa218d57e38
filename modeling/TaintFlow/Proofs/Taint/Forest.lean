import TaintFlow.Proofs.Taint.Walk
import Mathlib.Order.Bounds.Basic
import Mathlib.Tactic.ByContra

namespace TaintFlow

theorem StateId.eq_or_lt_of_le {i j : StateId} (h : i.val ≤ j.val) : i = j ∨ i.val < j.val := by
  rcases Nat.eq_or_lt_of_le h with he | hlt
  · exact .inl (by cases i; cases j; exact congrArg _ he)
  · exact .inr hlt

namespace Arena

variable {a : Arena} {x y : PathState} {id : StateId}

theorem lt_size_of_get? (h : a.get? id = some x) : id.val < a.size :=
  (Array.getElem?_eq_some_iff.mp h).1

theorem get?_of_lt_size (h : id.val < a.size) : ∃ x, a.get? id = some x :=
  ⟨_, Array.getElem?_eq_getElem h⟩

theorem get?_push_old (h : a.get? id = some x) : (a.push y).get? id = some x := by
  have hlt := lt_size_of_get? h
  simp only [get?, push, size] at h hlt ⊢
  rw [Array.getElem?_push, if_neg (by omega), h]

theorem get?_push_new : (a.push y).get? a.nextId = some y := by
  simp [get?, push, nextId, size]

theorem of_get?_push (h : (a.push y).get? id = some x) :
    a.get? id = some x ∨ id = a.nextId ∧ x = y := by
  simp only [get?, push] at h
  rw [Array.getElem?_push] at h
  split at h
  · next hid => exact .inr ⟨by cases id; simp_all [nextId, size], (Option.some.inj h).symm⟩
  · exact .inl h

def HoldsBefore (a : Arena) (id : StateId) (key : TaintKey) : Prop :=
  ∃ j x, a.get? j = some x ∧ j.val < id.val ∧ x.key = key

def Holds (a : Arena) (key : TaintKey) : Prop := ∃ j x, a.get? j = some x ∧ x.key = key

theorem HoldsBefore.holds {key : TaintKey} (h : a.HoldsBefore id key) : a.Holds key := by
  obtain ⟨j, x, hx, -, hk⟩ := h
  exact ⟨j, x, hx, hk⟩

theorem HoldsBefore.push {key : TaintKey} (h : a.HoldsBefore id key) :
    (a.push y).HoldsBefore id key := by
  obtain ⟨j, x, hx, hj, hk⟩ := h
  exact ⟨j, x, get?_push_old hx, hj, hk⟩

theorem Holds.before_next {key : TaintKey} (h : a.Holds key) : a.HoldsBefore a.nextId key := by
  obtain ⟨j, x, hx, hk⟩ := h
  exact ⟨j, x, hx, lt_size_of_get? hx, hk⟩

theorem Holds.push {key : TaintKey} (h : a.Holds key) : (a.push y).Holds key :=
  h.before_next.push.holds

theorem holds_iff_mem {key : TaintKey} : a.Holds key ↔ key ∈ a.states.toList.map (·.key) := by
  simp only [Holds, get?, List.mem_map, Array.mem_toList_iff]
  constructor
  · rintro ⟨j, x, hx, hk⟩
    exact ⟨x, Array.mem_of_getElem? hx, hk⟩
  · rintro ⟨x, hx, hk⟩
    obtain ⟨j, hj⟩ := Array.mem_iff_getElem?.mp hx
    exact ⟨⟨j⟩, x, hj, hk⟩

/-- Following so many parents from a state leads to another, which has none. -/
inductive Links (a : Arena) : Nat → StateId → StateId → Prop
  | root {id : StateId} {x : PathState} :
      a.get? id = some x → x.parent = none → Links a 0 id id
  | link {n : Nat} {id parent root : StateId} {x : PathState} :
      a.get? id = some x → x.parent = some parent → Links a n parent root →
      Links a (n + 1) id root

section

variable (r : Rule) (g : FlowGraph) (k : Knobs) (sources : List FlowNode)

/-- Where a state of a breadth-first search comes from. A source comes after those before it in the
list, and after no other state. Any other state comes after every source; when it was recorded, each
state before its parent had been expanded. -/
inductive Origin (a : Arena) (id : StateId) (x : PathState) : Prop
  | source (n : FlowNode) (mem : n ∈ sources) (free : r.isBlocked g n = false)
      (eq : x = ⟨.plain n, none, none, id⟩)
      (earlier : ∀ j y, a.get? j = some y → j.val < id.val →
        y.parent = none ∧ sources.idxOf y.key.node < sources.idxOf n)
  | child (pid : StateId) (parent : PathState) (via : EdgeKind)
      (get : a.get? pid = some parent) (lt : pid.val < id.val)
      (eq : x = ⟨x.key, some pid, some via, parent.root⟩)
      (passes : r.Passes g k via parent.key x.key)
      (seeded : ∀ n ∈ sources, r.isBlocked g n = false → a.HoldsBefore id (.plain n))
      (expanded : ∀ j y, a.get? j = some y → j.val < pid.val → ∀ via key,
        r.Passes g k via y.key key → a.HoldsBefore id key)

/-- The arena of a breadth-first search: the sources come first, every other state has an earlier
one as its parent, and a key is recorded when the earliest state leading to it is expanded. -/
structure BreadthFirst (a : Arena) : Prop where
  distinct : ∀ i j x y, a.get? i = some x → a.get? j = some y → x.key = y.key → i = j
  origin : ∀ id x, a.get? id = some x → Origin r g k sources a id x

def Expanded (a : Arena) (id : StateId) : Prop :=
  ∀ x via key, a.get? id = some x → r.Passes g k via x.key key → a.Holds key

def Seeded (a : Arena) : Prop :=
  ∀ n ∈ sources, r.isBlocked g n = false → a.Holds (.plain n)

end

variable {r : Rule} {g : FlowGraph} {k : Knobs} {sources : List FlowNode}

theorem Origin.push (h : Origin r g k sources a id x) (hid : id.val < a.size) :
    Origin r g k sources (a.push y) id x := by
  cases h with
  | source n mem free eq earlier =>
    refine .source n mem free eq fun j z hz hj ↦ ?_
    rcases of_get?_push hz with hz | ⟨rfl, -⟩
    · exact earlier j z hz hj
    · exact absurd hid (Nat.not_lt.mpr (Nat.le_of_lt hj))
  | child pid parent via get lt eq passes seeded expanded =>
    refine .child pid parent via (get?_push_old get) lt eq passes
      (fun n hn hf ↦ (seeded n hn hf).push) fun j z hz hj via key hp ↦ ?_
    rcases of_get?_push hz with hz | ⟨rfl, -⟩
    · exact (expanded j z hz hj via key hp).push
    · exact absurd hid (Nat.not_lt.mpr (Nat.le_of_lt (Nat.lt_trans hj lt)))

namespace BreadthFirst

theorem empty : BreadthFirst r g k sources {} where
  distinct _ _ _ _ h := by simp [get?] at h
  origin _ _ h := by simp [get?] at h

theorem push (h : BreadthFirst r g k sources a) (hnew : ¬ a.Holds y.key)
    (ho : Origin r g k sources (a.push y) a.nextId y) : BreadthFirst r g k sources (a.push y) where
  distinct := by
    intro i j u v hu hv he
    rcases of_get?_push hu with hu | ⟨rfl, rfl⟩ <;> rcases of_get?_push hv with hv | ⟨rfl, hvy⟩
    · exact h.distinct i j u v hu hv he
    · exact absurd ⟨i, u, hu, hvy ▸ he⟩ hnew
    · exact absurd ⟨j, v, hv, he.symm⟩ hnew
    · rfl
  origin := by
    intro id x hx
    rcases of_get?_push hx with hx | ⟨rfl, rfl⟩
    · exact (h.origin id x hx).push (lt_size_of_get? hx)
    · exact ho

theorem push_source {n : FlowNode} (h : BreadthFirst r g k sources a) (hn : n ∈ sources)
    (hf : r.isBlocked g n = false)
    (he : ∀ j y, a.get? j = some y →
      y.parent = none ∧ sources.idxOf y.key.node < sources.idxOf n) :
    BreadthFirst r g k sources (a.push (a.rootState (.plain n))) := by
  refine h.push ?_ (.source n hn hf rfl fun j y hy hj ↦ ?_)
  · rintro ⟨j, y, hy, hk⟩
    have hlt := (he j y hy).2
    rw [hk] at hlt
    exact Nat.lt_irrefl _ hlt
  · rcases of_get?_push hy with hy | ⟨rfl, -⟩
    · exact he j y hy
    · exact absurd hj (Nat.lt_irrefl _)

theorem push_child {parent : PathState} {via : EdgeKind} {key : TaintKey}
    (h : BreadthFirst r g k sources a) (hs : Seeded r g sources a)
    (hx : ∀ j : StateId, j.val < id.val → Expanded r g k a j) (hp : a.get? id = some parent)
    (hpass : r.Passes g k via parent.key key) (hnew : ¬ a.Holds key) :
    BreadthFirst r g k sources (a.push ⟨key, some id, some via, parent.root⟩) := by
  have hid := lt_size_of_get? hp
  refine h.push hnew (.child id parent via (get?_push_old hp) hid rfl hpass
    (fun n hn hf ↦ (hs n hn hf).before_next.push) fun j y hy hj via' key' hp' ↦ ?_)
  rcases of_get?_push hy with hy | ⟨rfl, -⟩
  · exact (hx j hj y via' key' hy hp').before_next.push
  · exact absurd hid (Nat.not_lt.mpr (Nat.le_of_lt hj))

variable (h : BreadthFirst r g k sources a)
include h

theorem not_holdsBefore_self (hx : a.get? id = some x) : ¬ a.HoldsBefore id x.key := by
  rintro ⟨j, y, hy, hj, hk⟩
  rw [h.distinct j id y x hy hx hk] at hj
  exact Nat.lt_irrefl _ hj

theorem parent_le {pid j : StateId} {via : EdgeKind} (hx : a.get? id = some x)
    (hpar : x.parent = some pid) (hy : a.get? j = some y) (hp : r.Passes g k via y.key x.key) :
    pid.val ≤ j.val := by
  by_contra! hj
  cases h.origin id x hx with
  | source n mem free eq earlier => simp [eq] at hpar
  | child pid' parent via' get lt eq passes seeded expanded =>
    rw [eq] at hpar
    cases hpar
    exact h.not_holdsBefore_self hx (expanded j y hy hj via x.key hp)

theorem passes_of_parent {pid : StateId} (hx : a.get? id = some x) (hpar : x.parent = some pid) :
    ∃ parent via, a.get? pid = some parent ∧ pid.val < id.val ∧ x.via = some via ∧
      x.root = parent.root ∧ r.Passes g k via parent.key x.key := by
  cases h.origin id x hx with
  | source n mem free eq earlier => simp [eq] at hpar
  | child pid' parent via get lt eq passes seeded expanded =>
    rw [eq] at hpar
    cases hpar
    exact ⟨parent, via, get, lt, by rw [eq], by rw [eq], passes⟩

theorem source_of_parent (hx : a.get? id = some x) (hpar : x.parent = none) :
    ∃ n ∈ sources, r.isBlocked g n = false ∧ x = ⟨.plain n, none, none, id⟩ ∧
      ∀ j y, a.get? j = some y → j.val < id.val →
        y.parent = none ∧ sources.idxOf y.key.node < sources.idxOf n := by
  cases h.origin id x hx with
  | source n mem free eq earlier => exact ⟨n, mem, free, eq, earlier⟩
  | child pid parent via get lt eq passes seeded expanded => rw [eq] at hpar; cases hpar

theorem parent_of_plain {n : FlowNode} (hx : a.get? id = some x) (hn : n ∈ sources)
    (hf : r.isBlocked g n = false) (hk : x.key = .plain n) : x.parent = none := by
  cases h.origin id x hx with
  | source m mem free eq earlier => rw [eq]
  | child pid parent via get lt eq passes seeded expanded =>
    exact absurd (hk ▸ seeded n hn hf) (h.not_holdsBefore_self hx)

theorem parents_ordered {i j p q : StateId} (hx : a.get? i = some x) (hp : x.parent = some p)
    (hy : a.get? j = some y) (hq : y.parent = some q) (hij : i.val ≤ j.val) : p.val ≤ q.val := by
  rcases StateId.eq_or_lt_of_le hij with rfl | hlt
  · rw [hx] at hy
    cases hy
    rw [hp] at hq
    cases hq
    exact Nat.le_refl _
  · -- Otherwise `q` was expanded when `x` was recorded, and so the key of `y` was known.
    by_contra! hqp
    obtain ⟨parent, via, hget, -, -, -, hpass⟩ := h.passes_of_parent hy hq
    cases h.origin i x hx with
    | source n mem free eq earlier => simp [eq] at hp
    | child p' parent' via' get lt eq passes seeded expanded =>
      rw [eq] at hp
      cases hp
      obtain ⟨l, z, hz, hl, hk⟩ := expanded q parent hget hqp via y.key hpass
      rw [h.distinct l j z y hz hy hk] at hl
      omega

theorem exists_links (hx : a.get? id = some x) : ∃ n, n ≤ id.val ∧ a.Links n id x.root := by
  obtain ⟨i⟩ := id
  induction i using Nat.strongRecOn generalizing x with
  | _ i ih =>
    cases hp : x.parent with
    | none =>
      obtain ⟨n, -, -, he, -⟩ := h.source_of_parent hx hp
      exact ⟨0, Nat.zero_le _, by rw [he]; exact .root hx hp⟩
    | some pid =>
      obtain ⟨parent, via, hget, hlt, -, hroot, -⟩ := h.passes_of_parent hx hp
      obtain ⟨n, hn, hl⟩ := ih pid.val hlt hget
      exact ⟨n + 1, by simp only at hn hlt ⊢; omega, by rw [hroot]; exact .link hx hp hl⟩

theorem walk_of_links {n : Nat} {root : StateId} (hl : a.Links n id root)
    (hx : a.get? id = some x) :
    ∃ source ∈ sources, r.isBlocked g source = false ∧ x.root = root ∧
      a.get? root = some ⟨.plain source, none, none, root⟩ ∧
      r.Walk g k n (.plain source) x.key := by
  induction hl generalizing x with
  | @root id y hy hp =>
    rw [hy] at hx
    cases hx
    obtain ⟨n, hn, hf, rfl, -⟩ := h.source_of_parent hy hp
    exact ⟨n, hn, hf, rfl, hy, .nil _⟩
  | @link n id pid root y hy hp hl ih =>
    rw [hy] at hx
    cases hx
    obtain ⟨parent, via, hget, -, -, hroot, hpass⟩ := h.passes_of_parent hy hp
    obtain ⟨source, hs, hf, hr, hget', hw⟩ := ih hget
    exact ⟨source, hs, hf, hroot.trans hr, hget', hw.snoc hpass⟩

theorem exists_root (hx : a.get? id = some x) :
    ∃ source ∈ sources, r.isBlocked g source = false ∧
      a.get? x.root = some ⟨.plain source, none, none, x.root⟩ ∧
      r.Reaches g k (.plain source) x.key := by
  obtain ⟨n, -, hl⟩ := h.exists_links hx
  obtain ⟨source, hs, hf, -, hroot, hw⟩ := h.walk_of_links hl hx
  exact ⟨source, hs, hf, hroot, n, hw⟩

/-- Later states are not nearer to their sources, and among the equally near those with later
sources come later. -/
theorem links_ordered {n m : Nat} {i j p q : StateId} (hi : a.Links n i p) (hj : a.Links m j q)
    (hij : i.val ≤ j.val) : n < m ∨ n = m ∧ p.val ≤ q.val := by
  induction hj generalizing n i p with
  | @root j y hy hq =>
    obtain ⟨source, -, -, -, hearlier⟩ := h.source_of_parent hy hq
    cases hi with
    | root hx hp => exact .inr ⟨rfl, hij⟩
    | @link n _ pid _ x hx hp hl =>
      rcases StateId.eq_or_lt_of_le hij with rfl | hlt
      · rw [hx] at hy; cases hy; simp [hp] at hq
      · simp [(hearlier i x hx hlt).1] at hp
  | @link m j qid q y hy hq hl ih =>
    cases hi with
    | root => exact .inl (Nat.succ_pos _)
    | @link n _ pid _ x hx hp hl' =>
      have hle := h.parents_ordered hx hp hy hq hij
      rcases ih hl' hle with hlt | ⟨he, hr⟩
      · exact .inl (Nat.succ_lt_succ hlt)
      · exact .inr ⟨congrArg (· + 1) he, hr⟩

theorem sources_ordered {i j : StateId} (hx : a.get? i = some x) (hy : a.get? j = some y)
    (hq : y.parent = none) (hij : i.val ≤ j.val) :
    sources.idxOf x.key.node ≤ sources.idxOf y.key.node := by
  rcases StateId.eq_or_lt_of_le hij with rfl | hlt
  · rw [hx] at hy
    cases hy
    exact Nat.le_refl _
  · obtain ⟨n, -, -, rfl, hearlier⟩ := h.source_of_parent hy hq
    exact Nat.le_of_lt (hearlier i x hx hlt).2

end BreadthFirst

structure Complete (r : Rule) (g : FlowGraph) (k : Knobs) (sources : List FlowNode)
    (a : Arena) : Prop extends BreadthFirst r g k sources a where
  seeded : Seeded r g sources a
  expanded : ∀ id, Expanded r g k a id

namespace Complete

variable (h : Complete r g k sources a)
include h

theorem holds_of_walk {source : FlowNode} {n : Nat} {key : TaintKey} (hs : source ∈ sources)
    (hf : r.isBlocked g source = false) (hw : r.Walk g k n (.plain source) key) : a.Holds key := by
  generalize hb : TaintKey.plain source = start at hw
  induction hw with
  | nil => exact hb ▸ h.seeded source hs hf
  | snoc _ hp ih =>
    obtain ⟨j, x, hx, rfl⟩ := ih hb
    exact h.expanded j x _ _ hx hp

/-- No walk from a source to a recorded key is shorter than its chain of parents. -/
theorem links_le {source : FlowNode} {n m : Nat} {root : StateId} (hs : source ∈ sources)
    (hf : r.isBlocked g source = false) (hx : a.get? id = some x) (hl : a.Links n id root)
    (hw : r.Walk g k m (.plain source) x.key) : n ≤ m := by
  induction m generalizing id x n root with
  | zero =>
    have hkey : x.key = .plain source := by
      generalize hb : x.key = key at hw
      cases hw
      rfl
    have hp := h.parent_of_plain hx hs hf hkey
    cases hl with
    | root => exact Nat.le_refl _
    | link hx' hp' => rw [hx] at hx'; cases hx'; simp [hp] at hp'
  | succ m ih =>
    cases hl with
    | root => exact Nat.zero_le _
    | @link n _ pid _ x' hx' hp hl =>
      rw [hx] at hx'
      cases hx'
      generalize hb : x.key = key at hw
      cases hw with
      | snoc hw hpass =>
        -- The walk comes in from `y`, and the parent of `x` is not after `y`.
        obtain ⟨j, y, hy, rfl⟩ := h.holds_of_walk hs hf hw
        obtain ⟨d, -, hd⟩ := h.exists_links hy
        have hle := h.parent_le hx hp hy (hb ▸ hpass)
        have hord := h.links_ordered hl hd hle
        have hd' := ih hy hd hw
        omega

/-- Of the sources nearest to a key, its root is the first. -/
theorem root_le {source : FlowNode} {n : Nat} {root : StateId} {y : PathState}
    (hs : source ∈ sources) (hf : r.isBlocked g source = false) (hx : a.get? id = some x)
    (hl : a.Links n id root) (hy : a.get? root = some y)
    (hw : r.Walk g k n (.plain source) x.key) :
    sources.idxOf y.key.node ≤ sources.idxOf source := by
  induction n generalizing id x root y with
  | zero =>
    cases hl with
    | root hx' hp =>
      rw [hx] at hx' hy
      cases hx'
      cases hy
      generalize hb : x.key = key at hw
      cases hw
      exact Nat.le_of_eq rfl
  | succ n ih =>
    cases hl with
    | link hx' hp hl =>
      rw [hx] at hx'
      cases hx'
      generalize hb : x.key = key at hw
      cases hw with
      | snoc hw hpass =>
        obtain ⟨j, z, hz, rfl⟩ := h.holds_of_walk hs hf hw
        obtain ⟨d, -, hd⟩ := h.exists_links hz
        have hle := h.parent_le hx hp hz (hb ▸ hpass)
        have hdn := h.links_le hs hf hz hd hw
        obtain hlt | ⟨rfl, hroot⟩ := h.links_ordered hl hd hle
        · omega
        · obtain ⟨parent, -, hpid, -⟩ := h.passes_of_parent hx hp
          obtain ⟨s₁, -, -, -, hy', -⟩ := h.walk_of_links hl hpid
          obtain ⟨s₂, -, -, -, hz', -⟩ := h.walk_of_links hd hz
          rw [hy] at hy'
          cases hy'
          exact (h.sources_ordered hy hz' rfl hroot).trans (ih hz hd hz' hw)

end Complete

end Arena

end TaintFlow
