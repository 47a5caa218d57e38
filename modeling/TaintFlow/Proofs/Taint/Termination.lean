import TaintFlow.Proofs.Taint.Capacity
import TaintFlow.Proofs.Taint.KeySpace
import TaintFlow.Taint.Evaluation

namespace TaintFlow

def Arena.keys (a : Arena) : List TaintKey := a.states.toList.map (·.key)

@[simp] theorem Arena.length_keys {a : Arena} : a.keys.length = a.size := by
  simp [keys, size]

theorem Arena.nodup_keys {a : Arena} (h : ∀ i j x y, a.get? i = some x → a.get? j = some y →
    x.key = y.key → i = j) : a.keys.Nodup := by
  refine List.pairwise_iff_getElem.mpr fun i j hi hj hlt he ↦ ?_
  rw [length_keys, size] at hi hj
  have hid := h ⟨i⟩ ⟨j⟩ _ _ (Array.getElem?_eq_getElem hi) (Array.getElem?_eq_getElem hj)
    (by simpa [keys] using he)
  cases hid
  exact Nat.lt_irrefl _ hlt

namespace Rule

variable {r : Rule} {g : FlowGraph} {n : FlowNode}

theorem length_moves :
    (r.moves g n).length = (g.successors n).length + (r.additionalSteps g n).length := by
  simp [moves]

theorem countP_moves : (r.moves g n).countP (·.kind = .additionalStep) =
    (r.additionalSteps g n).length := by
  have hedges : (g.successors n).countP (·.kind = .additionalStep) = 0 := by
    simpa [List.countP_eq_zero] using
      fun _ he ↦ FlowGraph.kind_ne_additionalStep_of_mem_successors he
  have hsteps : ((r.additionalSteps g n).map (FlowEdge.mk · .additionalStep)).countP
      (·.kind = .additionalStep) = (r.additionalSteps g n).length := by
    rw [List.countP_map]
    exact List.countP_eq_length.mpr fun _ _ ↦ by simp
  rw [moves, List.countP_append, hedges, hsteps, Nat.zero_add]

end Rule

namespace Pass

variable {s : Setup} {sources rest : List FlowNode} {p q : Progress} {id : StateId}
  {source key : TaintKey} {edge : FlowEdge} {edges : List FlowEdge} {halt : Halt}

theorem Taken.counts (h : Taken s id source edge p (.ok ()) q) :
    q.edges = p.edges + 1 ∧
      q.additional = p.additional + if edge.kind = .additionalStep then 1 else 0 := by
  cases h <;> exact ⟨rfl, rfl⟩

theorem TakesAll.counts (h : TakesAll s id source edges p (.ok ()) q) :
    q.edges = p.edges + edges.length ∧
      q.additional = p.additional + edges.countP (·.kind = .additionalStep) := by
  generalize hok : Except.ok () = res at h
  induction h with
  | nil => exact ⟨rfl, rfl⟩
  | cons ht _ ih =>
    obtain ⟨hedges, hadditional⟩ := ht.counts
    obtain ⟨hedges', hadditional'⟩ := ih hok
    rw [hedges', hedges, hadditional', hadditional, List.length_cons, List.countP_cons]
    simp only [decide_eq_true_eq]
    omega
  | halted => cases hok

theorem SeedsAll.counts (h : SeedsAll s rest p q) :
    q.edges = p.edges ∧ q.additional = p.additional := by
  induction h with
  | nil => exact ⟨rfl, rfl⟩
  | cons hn _ ih =>
    rw [ih.1, ih.2]
    cases hn <;> exact ⟨rfl, rfl⟩

theorem TakesAll.keys_prefix {res : Except Halt Unit} (h : TakesAll s id source edges p res q) :
    p.arena.keys <+: q.arena.keys := by
  have hfirst {edge : FlowEdge} {p m : Progress} {res : Except Halt Unit}
      (ht : Taken s id source edge p res m) : p.arena.keys <+: m.arena.keys := by
    rcases ht.arena_cases with he | ⟨-, x, he⟩
    · rw [he]
    · rw [he]
      simp [Arena.keys, Arena.push]
  induction h with
  | nil => exact List.prefix_rfl
  | cons ht _ ih => exact (hfirst ht).trans ih
  | halted ht => exact hfirst ht

/-- The moves out of the states expanded so far have been counted. -/
structure Progress.Counted (s : Setup) (p : Progress) : Prop where
  le : p.expanded ≤ p.arena.size
  edges : p.edges = ((p.arena.keys.take p.expanded).map fun key ↦
    (s.graph.successors key.node).length + (s.rule.additionalSteps s.graph key.node).length).sum
  additional : p.additional = ((p.arena.keys.take p.expanded).map fun key ↦
    (s.rule.additionalSteps s.graph key.node).length).sum

theorem Progress.Counted.next {x : PathState} (h : p.Counted s)
    (hx : p.arena.get? ⟨p.expanded⟩ = some x)
    (ht : TakesAll s ⟨p.expanded⟩ x.key (s.rule.moves s.graph x.key.node) p.takeUp (.ok ()) q) :
    q.Counted s := by
  have hlt : p.expanded < p.arena.size := Arena.lt_size_of_get? hx
  have hkey : p.arena.keys[p.expanded]? = some x.key := by
    simp only [Arena.get?] at hx
    simp [Arena.keys, hx]
  have hexpanded : q.expanded = p.expanded + 1 := ht.expanded_eq
  have hprefix : p.arena.keys <+: q.arena.keys := ht.keys_prefix
  have htake : q.arena.keys.take q.expanded = p.arena.keys.take p.expanded ++ [x.key] := by
    rw [hexpanded, take_add_one_of_prefix hprefix hkey]
  obtain ⟨hedges, hadditional⟩ := ht.counts
  refine ⟨?_, ?_, ?_⟩
  · have hsize : p.arena.keys.length ≤ q.arena.keys.length := hprefix.length_le
    rw [Arena.length_keys, Arena.length_keys] at hsize
    rw [hexpanded]
    exact Nat.le_trans hlt hsize
  · rw [htake, hedges, Rule.length_moves, List.map_append, List.sum_append, ← h.edges]
    simp [Progress.takeUp]
  · rw [htake, hadditional, Rule.countP_moves, List.map_append, List.sum_append, ← h.additional]
    simp [Progress.takeUp]

theorem Expands.counted (h : Expands s p (.ok ()) q) (hp : p.Counted s) :
    q.Counted s ∧ q.expanded = q.arena.size := by
  generalize hok : Except.ok () = res at h
  induction h with
  | done hend => exact ⟨hp, hp.le.antisymm (Array.getElem?_eq_none_iff.mp hend)⟩
  | interrupted => cases hok
  | halted => cases hok
  | next hx _ ht _ ih => exact ih (hp.next hx ht) hok

theorem run_counted (hh : (run s sources).halt = none) :
    (run s sources).progress.Counted s ∧
      (run s sources).progress.expanded = (run s sources).progress.arena.size := by
  have ha : ∀ f, (run s sources).halt ≠ some (.fault f) := by simp [hh]
  obtain ⟨m, hseeds, hend⟩ := Stretch.leads_run (Outcome.answered ha) leads_outcome
  rw [Outcome.result_eq_ok hh] at hend
  rcases hend with ⟨cause, -, he, -⟩ | ⟨-, hexp⟩
  · cases he
  · obtain ⟨hedges, hadditional⟩ := hseeds.counts
    have hexpanded : m.expanded = 0 := hseeds.expanded_eq
    refine hexp.counted ⟨by simp [hexpanded], ?_, ?_⟩
    · simp [hedges, hexpanded]
    · simp [hadditional, hexpanded]

section

variable (hs : s.rule.StaysIn s.graph) (ha : ∀ f, (run s sources).halt ≠ some (.fault f))
include hs ha

theorem run_keys_subset (h : s.graph.program.validate = .ok ())
    (hn : ∀ n ∈ sources, s.graph.contains n = true) :
    (run s sources).progress.arena.keys ⊆ s.graph.program.keys := by
  obtain ⟨hsound, -, -⟩ := run_sound (Outcome.answered ha)
  intro key hk
  obtain ⟨n, hw⟩ := hsound.mem_reachable (Arena.holds_iff_mem.mpr hk)
  exact Rule.mem_keys_of_walkFrom h hs hn hw

theorem halt_eq_none_of_room (h : s.graph.program.validate = .ok ())
    (hn : ∀ n ∈ sources, s.graph.contains n = true)
    (hnodup : (run s sources).progress.arena.keys.Nodup)
    (hroom : s.graph.program.keys.length ≤ s.knobs.maxStates)
    (hb : ∀ n, s.budget.interruption? n = none) : (run s sources).halt = none := by
  cases hh : (run s sources).halt with
  | none => rfl
  | some halt =>
    obtain ⟨-, hfull⟩ := run_full_of_halt hs ha hb hh
    obtain ⟨key, ⟨n, hw⟩, hnew⟩ := hfull.rest
    -- With the key that there was no room for, the arena would hold more keys than there are.
    have hmore : (key :: (run s sources).progress.arena.keys).Nodup :=
      List.nodup_cons.mpr ⟨fun hk ↦ hnew (Arena.holds_iff_mem.mpr hk), hnodup⟩
    have hall : key :: (run s sources).progress.arena.keys ⊆ s.graph.program.keys :=
      List.cons_subset.mpr ⟨Rule.mem_keys_of_walkFrom h hs hn hw, run_keys_subset hs ha h hn⟩
    have hle := (List.subperm_of_subset hmore hall).length_le
    rw [List.length_cons, Arena.length_keys] at hle
    have hsize := hfull.size
    omega

/-- A pass records no key twice and, from sources in the graph, no more keys than the program has.
With room for all of these it comes to an end. When it has, it has expanded each state once, and has
taken every edge and every step out of it. -/
theorem run_terminates (h : s.graph.program.validate = .ok ()) :
    (run s sources).progress.arena.keys.Nodup ∧
      ((∀ n ∈ sources, s.graph.contains n = true) →
        (run s sources).progress.arena.size ≤ s.graph.program.keyCount ∧
          (s.graph.program.keyCount ≤ s.knobs.maxStates →
            (∀ n, s.budget.interruption? n = none) → (run s sources).halt = none)) ∧
      ((run s sources).interruption? = none →
        (run s sources).progress.expanded = (run s sources).progress.arena.size ∧
          ∀ stats : EvaluationStats,
            (stats.addPass (run s sources).progress).edges = stats.edges +
                ((run s sources).progress.arena.keys.map fun key ↦
                  (s.graph.successors key.node).length +
                    (s.rule.additionalSteps s.graph key.node).length).sum ∧
              (stats.addPass (run s sources).progress).additionalSteps = stats.additionalSteps +
                ((run s sources).progress.arena.keys.map fun key ↦
                  (s.rule.additionalSteps s.graph key.node).length).sum) := by
  obtain ⟨hsound, -, -⟩ := run_sound (Outcome.answered ha)
  have hnodup := Arena.nodup_keys hsound.forest.distinct
  refine ⟨hnodup, fun hn ↦ ?_, fun hi ↦ ?_⟩
  · rw [← Program.length_keys, ← Arena.length_keys]
    have hsub := run_keys_subset hs ha h hn
    exact ⟨(List.subperm_of_subset hnodup hsub).length_le, halt_eq_none_of_room hs ha h hn hnodup⟩
  · have hhalt := halt_eq_none (Outcome.answered ha) hs hi
    obtain ⟨hcounted, hexpanded⟩ := run_counted hhalt
    have htake : (run s sources).progress.arena.keys.take (run s sources).progress.expanded =
        (run s sources).progress.arena.keys :=
      List.take_of_length_le (by rw [hexpanded, Arena.length_keys])
    have hedges := hcounted.edges
    have hadditional := hcounted.additional
    rw [htake] at hedges hadditional
    refine ⟨hexpanded, fun stats ↦ ⟨?_, ?_⟩⟩
    · exact congrArg (stats.edges + ·) hedges
    · exact congrArg (stats.additionalSteps + ·) hadditional

end

def loopingProgram : Program where
  functions := #[⟨⟨0⟩, "main", "looping.rb", [], none, [], default⟩,
    ⟨⟨1⟩, "again", "looping.rb", [⟨0⟩], none, [⟨2⟩, ⟨3⟩], default⟩]
  vars := #[⟨⟨0⟩, "x", some ⟨1⟩, none, .parameter 0, none, default⟩]
  exprs := #[⟨⟨0⟩, ⟨0⟩, default, "secret()", .call { name := "secret" }, []⟩,
    ⟨⟨1⟩, ⟨0⟩, default, "again(secret())",
      .call { name := "again", args := [⟨0⟩], target := some ⟨1⟩ }, []⟩,
    ⟨⟨2⟩, ⟨1⟩, default, "x", .read ⟨0⟩ [.param ⟨0⟩], []⟩,
    ⟨⟨3⟩, ⟨1⟩, default, "again(x)",
      .call { name := "again", args := [⟨2⟩], target := some ⟨1⟩ }, []⟩,
    ⟨⟨4⟩, ⟨1⟩, default, "print(x)", .call { name := "print", args := [⟨2⟩] }, []⟩]

def loopingSources : List FlowNode := [.expr ⟨0⟩]

def loopingSetup : Setup where
  graph := .ofProgram loopingProgram
  rule := {
    name := "looping"
    isSource := fun _ n ↦ loopingSources.contains n
    sinkKind? := fun _ _ ↦ none
    isAdditionalStep := fun _ _ m ↦ m = .expr ⟨4⟩ }
  knobs := { Knobs.ofPreset .balanced with contextSensitive := true }
  budget := .unlimited

theorem keys_looping : (run loopingSetup loopingSources).progress.arena.keys =
    [.plain (.expr ⟨0⟩), ⟨.param ⟨0⟩, none, some ⟨1⟩⟩, ⟨.expr ⟨2⟩, none, some ⟨1⟩⟩,
      ⟨.param ⟨0⟩, none, some ⟨3⟩⟩, ⟨.returned ⟨1⟩, none, some ⟨1⟩⟩, ⟨.expr ⟨4⟩, none, some ⟨1⟩⟩,
      ⟨.expr ⟨2⟩, none, some ⟨3⟩⟩, .plain (.expr ⟨1⟩), ⟨.returned ⟨1⟩, none, some ⟨3⟩⟩,
      ⟨.expr ⟨4⟩, none, some ⟨3⟩⟩, .plain (.expr ⟨3⟩), .plain (.returned ⟨1⟩)] := by
  cbv

theorem halt_looping : (run loopingSetup loopingSources).halt = none := by cbv

theorem staysIn_looping : loopingSetup.rule.StaysIn loopingSetup.graph := by
  intro n m hm
  have hm' : m = .expr ⟨4⟩ := by
    simpa [loopingSetup, Rule.additionalSteps] using (List.mem_filter.mp hm).2
  rw [hm']
  rfl

/-- The function is entered from two calls, and what it was given is expanded for each. -/
theorem run_terminates_looping :
    loopingProgram.validate = .ok () ∧ loopingSetup.rule.StaysIn loopingSetup.graph ∧
      (∀ f, (run loopingSetup loopingSources).halt ≠ some (.fault f)) ∧
      (∀ n ∈ loopingSources, loopingSetup.graph.contains n = true) ∧
      70 ≤ loopingSetup.knobs.maxStates ∧ (∀ n, loopingSetup.budget.interruption? n = none) ∧
      (run loopingSetup loopingSources).halt = none ∧
      (run loopingSetup loopingSources).progress.arena.size ≤ 70 ∧
      (run loopingSetup loopingSources).progress.expanded = 12 ∧
      (EvaluationStats.addPass {} (run loopingSetup loopingSources).progress).edges = 16 ∧
      (EvaluationStats.addPass {} (run loopingSetup loopingSources).progress).additionalSteps =
        2 := by
  have hv : loopingSetup.graph.program.validate = .ok () := by cbv
  have ha : ∀ f, (run loopingSetup loopingSources).halt ≠ some (.fault f) := by
    simp [halt_looping]
  have hn : ∀ n ∈ loopingSources, loopingSetup.graph.contains n = true := by
    simp [loopingSources]
    rfl
  have hb : ∀ n, loopingSetup.budget.interruption? n = none := fun _ ↦ rfl
  have hroom : 70 ≤ loopingSetup.knobs.maxStates := by decide
  obtain ⟨-, hbound, hcounts⟩ := run_terminates staysIn_looping ha hv
  obtain ⟨hsize, hends⟩ := hbound hn
  have hhalt := hends hroom hb
  obtain ⟨hexpanded, hstats⟩ := hcounts (by simp [Outcome.interruption?, hhalt])
  obtain ⟨hedges, hsteps⟩ := hstats {}
  rw [← Arena.length_keys] at hexpanded
  rw [keys_looping] at hexpanded hedges hsteps
  refine ⟨hv, staysIn_looping, ha, hn, hroom, hb, hhalt, hsize, hexpanded, ?_, ?_⟩
  · rw [hedges]
    cbv
  · rw [hsteps]
    cbv

end Pass

end TaintFlow
