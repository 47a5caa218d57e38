import TaintFlow.Proofs.Taint.Reconstruction
import TaintFlow.Proofs.Taint.Termination

namespace TaintFlow

/-- Taint gets from the key of `parent` to that of `x` over the edge that is noted at `x`, which is
one of the graph or a step that the rule adds. -/
structure PathState.Follows (r : Rule) (g : FlowGraph) (k : Knobs) (x parent : PathState) :
    Prop where
  root : x.root = parent.root
  step : ∃ via, x.via = some via ∧ k.transfer g parent.key x.key.node via = some x.key ∧
    (⟨x.key.node, via⟩ ∈ g.successors parent.key.node ∨
      via = .additionalStep ∧ x.key.node ∈ r.additionalSteps g parent.key.node)

namespace Arena

variable {r : Rule} {g : FlowGraph} {k : Knobs} {sources : List FlowNode} {a : Arena}
  {id pid root : StateId} {x : PathState} {chain : List PathState} {n : Nat}

def atSinks (r : Rule) (g : FlowGraph) (a : Arena) : List (PathState × Nat) :=
  a.states.toList.zipIdx.filter fun xi ↦ (r.sinkKind? g xi.1.key.node).isSome

theorem Links.exists_lineage (h : a.Links n id root) :
    ∃ chain y, a.Lineage id chain ∧ a.get? root = some y ∧ chain.getLast? = some y := by
  induction h with
  | root hx hp => exact ⟨_, _, .origin hx hp, hx, rfl⟩
  | link hx hp _ ih =>
    obtain ⟨chain, y, hc, hy, hlast⟩ := ih
    exact ⟨_, y, .child hx hp hc, hy, by rw [List.getLast?_cons, hlast, Option.getD_some]⟩

namespace BreadthFirst

variable (h : BreadthFirst r g k sources a)
include h

theorem follows (hx : a.get? id = some x) (hp : x.parent = some pid) :
    ∃ parent, a.get? pid = some parent ∧ pid.val < id.val ∧ x.Follows r g k parent := by
  obtain ⟨parent, via, hget, hlt, hvia, hroot, hpass⟩ := h.passes_of_parent hx hp
  have hmove := Rule.mem_moves_iff.mp hpass.move
  exact ⟨parent, hget, hlt, hroot, via, hvia, hpass.transfer, hmove⟩

theorem free (hx : a.get? id = some x) : r.isBlocked g x.key.node = false := by
  cases hp : x.parent with
  | none =>
    obtain ⟨n, -, hf, rfl, -⟩ := h.source_of_parent hx hp
    exact hf
  | some pid =>
    obtain ⟨parent, via, -, -, -, -, hpass⟩ := h.passes_of_parent hx hp
    exact hpass.free

theorem parent_eq_none_iff (hx : a.get? id = some x) : x.parent = none ↔ x.via = none := by
  cases hp : x.parent with
  | none =>
    obtain ⟨n, -, -, rfl, -⟩ := h.source_of_parent hx hp
    simp
  | some pid =>
    obtain ⟨parent, via, -, -, hvia, -⟩ := h.passes_of_parent hx hp
    simp [hvia]

theorem exists_of_mem_lineage (hc : a.Lineage id chain) :
    ∀ y ∈ chain, ∃ j, a.get? j = some y ∧ j.val ≤ id.val := by
  induction hc with
  | origin hx hp =>
    intro y hy
    rw [List.mem_singleton.mp hy]
    exact ⟨_, hx, Nat.le_refl _⟩
  | child hx hp _ ih =>
    intro y hy
    rcases List.mem_cons.mp hy with rfl | hy
    · exact ⟨_, hx, Nat.le_refl _⟩
    · obtain ⟨j, hj, hle⟩ := ih y hy
      obtain ⟨_, -, hlt, -⟩ := h.follows hx hp
      exact ⟨j, hj, by omega⟩

theorem nodup_lineage (hc : a.Lineage id chain) : (chain.map (·.key)).Nodup := by
  induction hc with
  | origin => exact List.nodup_singleton _
  | @child id pid x chain hx hp hc ih =>
    refine List.nodup_cons.mpr ⟨?_, ih⟩
    intro hmem
    obtain ⟨y, hy, hkey⟩ := List.mem_map.mp hmem
    obtain ⟨j, hj, hle⟩ := h.exists_of_mem_lineage hc y hy
    obtain ⟨_, -, hlt, -⟩ := h.follows hx hp
    have hsame : j = id := h.distinct j id y x hj hx hkey
    rw [hsame] at hle
    omega

theorem exists_lineage (hx : a.get? id = some x) :
    ∃ chain, a.Lineage id chain ∧ chain.getLast? = a.get? x.root ∧
      (chain.map (·.key)).Nodup := by
  obtain ⟨n, -, hl⟩ := h.exists_links hx
  obtain ⟨chain, y, hc, hy, hlast⟩ := hl.exists_lineage
  exact ⟨chain, hc, hlast.trans hy.symm, h.nodup_lineage hc⟩

end BreadthFirst

end Arena

structure ReachedSink.Notes (r : Rule) (g : FlowGraph) (a : Arena) (reached : ReachedSink)
    (id : StateId) (x : PathState) : Prop where
  state : reached.state = id
  root : reached.root = x.root
  source : ∃ y, a.get? x.root = some y ∧ reached.source = y.key.node
  sink : reached.sink = x.key.node
  kind : r.sinkKind? g x.key.node = some reached.kind

namespace Pass

variable {s : Setup} {sources : List FlowNode} {p : Progress}

/-- What the records of a pass satisfy. The chain of parents behind a state ends at its root and
repeats no key. The sinks noted are those that states are at, one for each and in their order. -/
structure Progress.Consistent (s : Setup) (sources : List FlowNode) (p : Progress) : Prop where
  distinct : p.arena.keys.Nodup
  linked : ∀ id x, p.arena.get? id = some x → (x.parent = none ↔ x.via = none)
  roots : ∀ id x, p.arena.get? id = some x → x.parent = none →
    x.root = id ∧ ∃ n ∈ sources, x.key = .plain n
  children : ∀ id pid x, p.arena.get? id = some x → x.parent = some pid →
    ∃ parent, p.arena.get? pid = some parent ∧ pid.val < id.val ∧
      x.Follows s.rule s.graph s.knobs parent
  chains : ∀ id x, p.arena.get? id = some x →
    ∃ chain, p.arena.Lineage id chain ∧ chain.getLast? = p.arena.get? x.root ∧
      (chain.map (·.key)).Nodup
  free : ∀ id x, p.arena.get? id = some x → s.rule.isBlocked s.graph x.key.node = false
  reached : List.Forall₂ (fun reached xi ↦ reached.Notes s.rule s.graph p.arena ⟨xi.2⟩ xi.1)
    p.reached.toList (p.arena.atSinks s.rule s.graph)

theorem forall₂_filterMap {α β : Type} {R : β → α → Prop} {f : α → Option β} {l : List α}
    (h : ∀ x ∈ l, ∀ y, f x = some y → R y x) :
    List.Forall₂ R (l.filterMap f) (l.filter fun x ↦ (f x).isSome) := by
  induction l with
  | nil => exact .nil
  | cons x l ih =>
    obtain ⟨hx, hl⟩ := List.forall_mem_cons.mp h
    cases hf : f x with
    | none =>
      rw [List.filterMap_cons_none hf, List.filter_cons_of_neg (by simp [hf])]
      exact ih hl
    | some y =>
      rw [List.filterMap_cons_some hf, List.filter_cons_of_pos (by simp [hf])]
      exact .cons (hx y hf) (ih hl)

theorem notes_of_arrival? {a : Arena} {id : StateId} {x y : PathState} {reached : ReachedSink}
    (hy : a.get? x.root = some y) (h : arrival? s a id x = some reached) :
    reached.Notes s.rule s.graph a id x := by
  obtain ⟨kind, hk, rfl⟩ := Option.map_eq_some_iff.mp h
  exact ⟨rfl, rfl, ⟨y, hy, by simp [hy]⟩, rfl, hk⟩

theorem Progress.Sound.forall₂_reached (h : p.Sound s sources) :
    List.Forall₂ (fun reached xi ↦ reached.Notes s.rule s.graph p.arena ⟨xi.2⟩ xi.1)
      p.reached.toList (p.arena.atSinks s.rule s.graph) := by
  have hsinks : p.arena.atSinks s.rule s.graph =
      p.arena.states.toList.zipIdx.filter fun xi ↦ (arrival? s p.arena ⟨xi.2⟩ xi.1).isSome := by
    simp only [Arena.atSinks, arrival?, Option.isSome_map]
  rw [h.reached, arrivals, hsinks]
  apply forall₂_filterMap
  intro xi hmem reached hr
  have hx : p.arena.get? ⟨xi.2⟩ = some xi.1 := by
    simpa [Arena.get?] using List.mem_zipIdx_iff_getElem?.mp hmem
  obtain ⟨source, -, -, hroot, -⟩ := h.forest.exists_root hx
  exact notes_of_arrival? hroot hr

/-- The records of a pass are consistent wherever it stops, whether or not it is interrupted, as
long as its rule does not fail to answer. -/
theorem run_consistent (ha : ∀ f, (run s sources).halt ≠ some (.fault f)) :
    (run s sources).progress.Consistent s sources := by
  obtain ⟨h, -, -⟩ := run_sound (Outcome.answered ha)
  exact {
    distinct := Arena.nodup_keys h.forest.distinct
    linked := fun id x hx ↦ h.forest.parent_eq_none_iff hx
    roots := by
      intro id x hx hp
      obtain ⟨n, hn, -, rfl, -⟩ := h.forest.source_of_parent hx hp
      exact ⟨rfl, n, hn, rfl⟩
    children := fun id pid x hx hp ↦ h.forest.follows hx hp
    chains := fun id x hx ↦ h.forest.exists_lineage hx
    free := fun id x hx ↦ h.forest.free hx
    reached := h.forall₂_reached }

def crowdedSetup : Setup where
  graph := .ofProgram relayProgram
  rule := {
    name := "crowded"
    isSource := fun _ n ↦ n = .expr ⟨1⟩ || n = .expr ⟨8⟩
    sinkKind? := fun _ n ↦
      if n = .expr ⟨3⟩ then some .network else if n = .expr ⟨5⟩ then some .logging else none
    isSanitizer := fun _ n ↦ n = .expr ⟨2⟩ }
  knobs := { Knobs.ofPreset .balanced with maxStates := 7 }
  budget := .unlimited

def crowdedSources : List FlowNode := [.expr ⟨1⟩, .expr ⟨8⟩, .expr ⟨1⟩]

theorem halt_crowded :
    (run crowdedSetup crowdedSources).halt = some (.interrupted (.stateLimit 7)) := by cbv

/-- The pass is interrupted, and each of the sources has got to one sink by then. -/
theorem run_consistent_crowded :
    (∀ f, (run crowdedSetup crowdedSources).halt ≠ some (.fault f)) ∧
      (run crowdedSetup crowdedSources).interruption? = some (.stateLimit 7) ∧
      (run crowdedSetup crowdedSources).progress.arena.keys =
        [.plain (.expr ⟨1⟩), .plain (.expr ⟨8⟩), ⟨.postUpdate ⟨0⟩, some ⟨0⟩, none⟩,
          ⟨.param ⟨1⟩, none, some ⟨9⟩⟩, ⟨.expr ⟨3⟩, some ⟨0⟩, none⟩, ⟨.expr ⟨5⟩, none, some ⟨9⟩⟩,
          ⟨.param ⟨1⟩, some ⟨0⟩, some ⟨4⟩⟩] ∧
      (run crowdedSetup crowdedSources).progress.reached.toList =
        [⟨⟨4⟩, ⟨0⟩, .expr ⟨1⟩, .expr ⟨3⟩, .network⟩, ⟨⟨5⟩, ⟨1⟩, .expr ⟨8⟩, .expr ⟨5⟩, .logging⟩] ∧
      (run crowdedSetup crowdedSources).progress.Consistent crowdedSetup crowdedSources := by
  have ha : ∀ f, (run crowdedSetup crowdedSources).halt ≠ some (.fault f) := by
    simp [halt_crowded]
  have hstop : (run crowdedSetup crowdedSources).interruption? = some (.stateLimit 7) := by
    simp [Outcome.interruption?, halt_crowded]
  exact ⟨ha, hstop, by cbv, by cbv, run_consistent ha⟩

end Pass

end TaintFlow
