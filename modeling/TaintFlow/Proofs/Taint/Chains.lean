import TaintFlow.Proofs.Taint.Exploration
import Mathlib

namespace TaintFlow

namespace Arena

variable {r : Rule} {g : FlowGraph} {k : Knobs} {sources : List FlowNode} {a : Arena}

/-- The chain of parents behind a state is a shortest walk to its key. It begins at the first source
in the list that is so near. -/
structure ShortestChain (r : Rule) (g : FlowGraph) (k : Knobs) (sources : List FlowNode) (a : Arena)
    (id : StateId) (x : PathState) (n : Nat) : Prop where
  links : a.Links n id x.root
  least : IsLeast {m | r.WalkFrom g k sources m x.key} n
  root : ∃ source ∈ sources, r.isBlocked g source = false ∧
    a.get? x.root = some ⟨.plain source, none, none, x.root⟩ ∧
    r.Walk g k n (.plain source) x.key ∧
    ∀ other ∈ sources, r.isBlocked g other = false → r.Walk g k n (.plain other) x.key →
      sources.idxOf source ≤ sources.idxOf other

namespace Complete

variable (h : Complete r g k sources a)
include h

theorem exists_shortestChain {id : StateId} {x : PathState} (hx : a.get? id = some x) :
    ∃ n, a.ShortestChain r g k sources id x n := by
  obtain ⟨n, -, hl⟩ := h.exists_links hx
  obtain ⟨source, hs, hf, -, hroot, hw⟩ := h.walk_of_links hl hx
  refine ⟨n, hl, ⟨⟨source, hs, hf, hw⟩, ?_⟩, source, hs, hf, hroot, hw, ?_⟩
  · rintro m ⟨other, ho, hof, hwo⟩
    exact h.links_le ho hof hx hl hwo
  · intro other ho hof hwo
    exact h.root_le ho hof hx hl hroot hwo

theorem holds_iff {key : TaintKey} : a.Holds key ↔ ∃ n, r.WalkFrom g k sources n key := by
  constructor
  · rintro ⟨id, x, hx, rfl⟩
    obtain ⟨n, hc⟩ := h.exists_shortestChain hx
    exact ⟨n, hc.least.1⟩
  · rintro ⟨n, source, hs, hf, hw⟩
    exact h.holds_of_walk hs hf hw

end Complete

end Arena

namespace Pass

/-- If the rule's steps stay in the graph, a pass that breaks off neither for want of an answer nor
by an interruption records exactly the keys that taint gets to from the sources that are not blocked,
each once and with a shortest chain. -/
theorem run_shortestChains {s : Setup} {sources : List FlowNode} (hs : s.rule.StaysIn s.graph)
    (ha : ∀ f, (run s sources).halt ≠ some (.fault f))
    (hi : (run s sources).interruption? = none) :
    (∀ key, (run s sources).progress.arena.Holds key ↔
        ∃ n, s.rule.WalkFrom s.graph s.knobs sources n key) ∧
      (∀ i j x y, (run s sources).progress.arena.get? i = some x →
        (run s sources).progress.arena.get? j = some y → x.key = y.key → i = j) ∧
      ∀ id x, (run s sources).progress.arena.get? id = some x →
        ∃ n, (run s sources).progress.arena.ShortestChain s.rule s.graph s.knobs sources id x n := by
  have hanswered : Stretch.Answered (run s sources).result := Outcome.answered ha
  have h := (run_sound hanswered).2.2 (halt_eq_none hanswered hs hi)
  exact ⟨fun key ↦ h.holds_iff, h.distinct, fun id x hx ↦ h.exists_shortestChain hx⟩

/-- The sum of two sources is multiplied by the second of them. -/
def meetingProgram : Program where
  functions := #[⟨⟨0⟩, "main", "main.rb", [], none, [], default⟩]
  exprs := #[⟨⟨0⟩, ⟨0⟩, default, "secret()", .call { name := "secret" }, []⟩,
    ⟨⟨1⟩, ⟨0⟩, default, "input()", .call { name := "input" }, []⟩,
    ⟨⟨2⟩, ⟨0⟩, default, "x + y", .operation "+" [⟨0⟩, ⟨1⟩], []⟩,
    ⟨⟨3⟩, ⟨0⟩, default, "(x + y) * y", .operation "*" [⟨2⟩, ⟨1⟩], []⟩]

def meetingSources : List FlowNode := [.expr ⟨0⟩, .expr ⟨1⟩]

def meetingSetup : Setup where
  graph := .ofProgram meetingProgram
  rule := {
    name := "meeting"
    isSource := fun _ n ↦ meetingSources.contains n
    sinkKind? := fun _ _ ↦ none }
  knobs := .ofPreset .balanced
  budget := .unlimited

/-- The product is credited to the second source, which is nearer, and the sum to the first. -/
theorem run_shortestChains_meeting :
    meetingSetup.rule.StaysIn meetingSetup.graph ∧
      (∀ f, (run meetingSetup meetingSources).halt ≠ some (.fault f)) ∧
      (run meetingSetup meetingSources).interruption? = none ∧
      (∃ n, (run meetingSetup meetingSources).progress.arena.ShortestChain meetingSetup.rule
        meetingSetup.graph meetingSetup.knobs meetingSources ⟨2⟩
        ⟨.plain (.expr ⟨2⟩), some ⟨0⟩, some .taintStep, ⟨0⟩⟩ n) ∧
      ∃ n, (run meetingSetup meetingSources).progress.arena.ShortestChain meetingSetup.rule
        meetingSetup.graph meetingSetup.knobs meetingSources ⟨3⟩
        ⟨.plain (.expr ⟨3⟩), some ⟨1⟩, some .taintStep, ⟨1⟩⟩ n := by
  have hs : meetingSetup.rule.StaysIn meetingSetup.graph := by
    intro n m hm
    simp [meetingSetup, Rule.additionalSteps] at hm
  have hn : (run meetingSetup meetingSources).halt = none := by cbv
  have ha : ∀ f, (run meetingSetup meetingSources).halt ≠ some (.fault f) := by simp [hn]
  have hi : (run meetingSetup meetingSources).interruption? = none := by
    simp [Outcome.interruption?, hn]
  have hchain := (run_shortestChains hs ha hi).2.2
  exact ⟨hs, ha, hi, hchain _ _ (by cbv), hchain _ _ (by cbv)⟩

end Pass

end TaintFlow
