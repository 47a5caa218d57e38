import TaintFlow.Proofs.Taint.Chains

namespace TaintFlow

/-- What is done to a memory that holds one value at most. -/
inductive Slot (β : Type) where
  | store (value : β)
  | demand (value : β)
  | clear
  | keep

namespace Slot

variable {α β : Type}

/-- A value is stored, and another demanded before anything else is done. -/
def Clash (slot : α → Slot β) (stored demanded : β) (between actions : List α) : Prop :=
  demanded ≠ stored ∧ (∀ a ∈ between, slot a = keep) ∧ ∃ before a b after,
    slot a = store stored ∧ slot b = demand demanded ∧
      actions = before ++ a :: (between ++ b :: after)

variable {slot : α → Slot β} {held : Option β} {stored demanded : β} {between xs ys : List α}
  {a : α}

theorem Clash.append (h : Clash slot stored demanded between xs) (rest : List α) :
    Clash slot stored demanded between (xs ++ rest) := by
  obtain ⟨hne, hkeep, before, a, b, after, ha, hb, rfl⟩ := h
  exact ⟨hne, hkeep, before, a, b, after ++ rest, ha, hb, by simp⟩

variable [DecidableEq β]

def run : Slot β → Option β → Option (Option β)
  | store b, _ => some (some b)
  | demand b, held => if held.any (· ≠ b) then none else some none
  | clear, _ => some none
  | keep, held => some held

def run? (slot : α → Slot β) (held : Option β) (actions : List α) : Option (Option β) :=
  actions.foldlM (fun held a ↦ (slot a).run held) held

theorem run?_append : run? slot held (xs ++ ys) = (run? slot held xs).bind (run? slot · ys) :=
  List.foldlM_append ..

theorem run?_cons : run? slot held (a :: xs) = ((slot a).run held).bind (run? slot · xs) :=
  List.foldlM_cons ..

theorem run?_concat :
    run? slot held (xs ++ [a]) = (run? slot held xs).bind ((slot a).run ·) := by
  rw [run?_append]
  congr 1
  funext next
  simp [run?]

theorem run?_map {γ : Type} {f : γ → α} {steps : List γ} :
    run? slot held (steps.map f) = run? (fun c ↦ slot (f c)) held steps :=
  List.foldlM_map ..

theorem run?_keep (h : ∀ a ∈ xs, slot a = keep) : run? slot held xs = some held := by
  induction xs with
  | nil => rfl
  | cons a rest ih =>
    rw [run?_cons, h a List.mem_cons_self]
    exact ih fun b hb ↦ h b (List.mem_cons_of_mem _ hb)

theorem exists_store_of_run? (h : run? slot none xs = some (some stored)) :
    ∃ before a between, slot a = store stored ∧ xs = before ++ a :: between ∧
      ∀ b ∈ between, slot b = keep := by
  induction xs using List.reverseRecOn with
  | nil => cases h
  | append_singleton xs b ih =>
    rw [run?_concat] at h
    obtain ⟨held, hheld, hb⟩ := Option.bind_eq_some_iff.mp h
    -- The last action has stored the value, or left what was stored before.
    cases hslot : slot b with
    | store value =>
      rw [hslot] at hb
      cases hb
      exact ⟨xs, b, [], hslot, rfl, by simp⟩
    | demand value => simp [hslot, run] at hb
    | clear => simp [hslot, run] at hb
    | keep =>
      rw [hslot] at hb
      cases hb
      obtain ⟨before, a, between, ha, rfl, hkeep⟩ := ih hheld
      refine ⟨before, a, between ++ [b], ha, by simp, fun c hc ↦ ?_⟩
      rcases List.mem_append.mp hc with hc | hc
      · exact hkeep c hc
      · rwa [List.mem_singleton.mp hc]

theorem run_eq_none_iff {s : Slot β} :
    s.run held = none ↔ ∃ stored demanded, s = demand demanded ∧ held = some stored ∧
      demanded ≠ stored := by
  cases s with
  | demand value =>
    cases held with
    | none => simp [run]
    | some stored => simpa [run] using ne_comm
  | store | clear | keep => simp [run]

theorem Clash.run?_eq_none (h : Clash slot stored demanded between xs) :
    run? slot held xs = none := by
  obtain ⟨hne, hkeep, before, a, b, after, ha, hb, rfl⟩ := h
  have hnone : (slot b).run (some stored) = none :=
    run_eq_none_iff.mpr ⟨stored, demanded, hb, rfl, hne⟩
  rw [run?_append]
  refine Option.bind_eq_none_iff.mpr fun held _ ↦ ?_
  rw [run?_cons, ha, run, Option.bind_some, run?_append, run?_keep hkeep, Option.bind_some,
    run?_cons, hnone, Option.bind_none]

theorem run?_eq_none_iff : run? slot none xs = none ↔
    ∃ stored demanded between, Clash slot stored demanded between xs := by
  constructor
  · intro h
    induction xs using List.reverseRecOn with
    | nil => cases h
    | append_singleton xs b ih =>
      rw [run?_concat] at h
      cases hheld : run? slot none xs with
      | none =>
        obtain ⟨stored, demanded, between, hclash⟩ := ih hheld
        exact ⟨stored, demanded, between, hclash.append [b]⟩
      | some held =>
        -- The last action is the first that fails: it demands another value than the one held.
        rw [hheld, Option.bind_some] at h
        obtain ⟨stored, demanded, hb, rfl, hne⟩ := run_eq_none_iff.mp h
        obtain ⟨before, a, between, ha, rfl, hkeep⟩ := exists_store_of_run? hheld
        exact ⟨stored, demanded, between, hne, hkeep, before, a, b, [], ha, hb, by simp⟩
  · rintro ⟨stored, demanded, between, hclash⟩
    exact hclash.run?_eq_none

end Slot

/-- Beside its node a key keeps one value, as the edges store and demand it. -/
structure Knobs.Keeps {β : Type} [DecidableEq β] (k : Knobs) (g : FlowGraph)
    (key : FlowNode → Option β → TaintKey) (slot : FlowNode × FlowEdge → Slot β) : Prop where
  node : ∀ n held, (key n held).node = n
  plain : ∀ n, key n none = .plain n
  transfer : ∀ n edge held, k.transfer g (key n held) edge.target edge.kind =
    ((slot (n, edge)).run held).map (key edge.target)

namespace Rule

/-- A way from a source through nodes that are not blocked: the edges taken, each with the node that
it is taken from. -/
inductive Way (r : Rule) (g : FlowGraph) (source : FlowNode) :
    List (FlowNode × FlowEdge) → FlowNode → Prop
  | source : r.isBlocked g source = false → Way r g source [] source
  | move {steps : List (FlowNode × FlowEdge)} {n : FlowNode} {edge : FlowEdge} :
      Way r g source steps n → edge ∈ r.moves g n → r.isBlocked g edge.target = false →
      Way r g source (steps ++ [(n, edge)]) edge.target

def nodesOf (source : FlowNode) (steps : List (FlowNode × FlowEdge)) : List FlowNode :=
  source :: steps.map (·.2.target)

variable {r : Rule} {g : FlowGraph} {source n : FlowNode} {steps : List (FlowNode × FlowEdge)}

theorem Way.free_source (h : r.Way g source steps n) : r.isBlocked g source = false := by
  induction h with
  | source hfree => exact hfree
  | move _ _ _ ih => exact ih

theorem Way.exists_of_mem (h : r.Way g source steps n) {m : FlowNode}
    (hm : m ∈ nodesOf source steps) :
    ∃ before rest, r.Way g source before m ∧ steps = before ++ rest := by
  induction h with
  | source hfree =>
    rw [List.mem_singleton.mp hm]
    exact ⟨[], [], .source hfree, rfl⟩
  | @move steps n edge hway hmove hfree ih =>
    rw [nodesOf, List.map_append, ← List.cons_append] at hm
    rcases List.mem_append.mp hm with hm | hm
    · obtain ⟨before, rest, hbefore, rfl⟩ := ih hm
      exact ⟨before, rest ++ [(n, edge)], hbefore, by simp⟩
    · rw [List.mem_singleton.mp hm]
      exact ⟨_, [], hway.move hmove hfree, by simp⟩

section

variable {β : Type} [DecidableEq β] {k : Knobs} {key : FlowNode → Option β → TaintKey}
  {slot : FlowNode × FlowEdge → Slot β} (hk : k.Keeps g key slot)
include hk

theorem Way.reaches {held : Option β} (h : r.Way g source steps n)
    (hs : Slot.run? slot none steps = some held) :
    r.Reaches g k (.plain source) (key n held) := by
  induction h generalizing held with
  | source =>
    cases hs
    rw [hk.plain]
    exact ⟨0, .nil _⟩
  | @move steps n edge _ hm hfree ih =>
    rw [Slot.run?_concat] at hs
    obtain ⟨before, hbefore, hafter⟩ := Option.bind_eq_some_iff.mp hs
    obtain ⟨d, hw⟩ := ih hbefore
    have ht : k.transfer g (key n before) edge.target edge.kind = some (key edge.target held) := by
      rw [hk.transfer, hafter, Option.map_some]
    rw [← hk.node n before] at hm
    exact ⟨d + 1, hw.snoc (.of_transfer hm ht hfree)⟩

theorem Walk.exists_way {d : Nat} {x : TaintKey} (h : r.Walk g k d (.plain source) x)
    (hfree : r.isBlocked g source = false) : ∃ steps held, r.Way g source steps x.node ∧
      Slot.run? slot none steps = some held ∧ x = key x.node held := by
  generalize hb : TaintKey.plain source = start at h
  induction h with
  | nil => exact hb ▸ ⟨[], none, .source hfree, rfl, (hk.plain source).symm⟩
  | @snoc d a b c via _ hp ih =>
    obtain ⟨steps, held, hway, hs, hkey⟩ := ih hb
    have ht := hp.transfer
    rw [hkey, hk.transfer b.node ⟨c.node, via⟩] at ht
    obtain ⟨held', hheld, hc⟩ := Option.map_eq_some_iff.mp ht
    refine ⟨_, held', hway.move hp.move hp.free, ?_, hc.symm⟩
    rw [Slot.run?_concat, hs, Option.bind_some, hheld]

end

end Rule

namespace Pass

def Progress.Admits (p : Progress) (n : FlowNode) : Prop := ∃ key, p.arena.Holds key ∧ key.node = n

theorem Progress.Admits.mem_nodes {p : Progress} {n : FlowNode} (h : p.Admits n) :
    n ∈ p.arena.states.toList.map (·.key.node) := by
  obtain ⟨key, hkey, rfl⟩ := h
  obtain ⟨x, hx, rfl⟩ := List.mem_map.mp (Arena.holds_iff_mem.mp hkey)
  exact List.mem_map_of_mem hx

theorem Progress.admits_of_mem_nodes {p : Progress} {n : FlowNode}
    (h : n ∈ p.arena.states.toList.map (·.key.node)) : p.Admits n := by
  obtain ⟨x, hx, rfl⟩ := List.mem_map.mp h
  exact ⟨x.key, Arena.holds_iff_mem.mpr (List.mem_map_of_mem hx), rfl⟩

variable {s : Setup} {sources : List FlowNode}

theorem complete_of_halt (hn : (run s sources).halt = none) :
    (run s sources).progress.arena.Complete s.rule s.graph s.knobs sources := by
  have hanswered : ∀ f, (run s sources).halt ≠ some (.fault f) := by simp [hn]
  exact (run_sound (Outcome.answered hanswered)).2.2 hn

/-- A finished pass admits the nodes to which there is a way without a clash. -/
theorem admits_iff_way {β : Type} [DecidableEq β] {key : FlowNode → Option β → TaintKey}
    {slot : FlowNode × FlowEdge → Slot β} (hk : s.knobs.Keeps s.graph key slot)
    (hn : (run s sources).halt = none) {n : FlowNode} :
    (run s sources).progress.Admits n ↔ ∃ source ∈ sources, ∃ steps,
      s.rule.Way s.graph source steps n ∧ Slot.run? slot none steps ≠ none := by
  have hcomplete := complete_of_halt hn
  constructor
  · rintro ⟨x, hx, rfl⟩
    obtain ⟨d, source, hs, hfree, hw⟩ := hcomplete.holds_iff.mp hx
    obtain ⟨steps, held, hway, hrun, -⟩ := hw.exists_way hk hfree
    exact ⟨source, hs, steps, hway, by simp [hrun]⟩
  · rintro ⟨source, hs, steps, hway, hrun⟩
    obtain ⟨held, hheld⟩ := Option.ne_none_iff_exists'.mp hrun
    obtain ⟨d, hw⟩ := hway.reaches hk hheld
    exact ⟨_, hcomplete.holds_of_walk hs hway.free_source hw, hk.node n held⟩

end Pass

end TaintFlow
