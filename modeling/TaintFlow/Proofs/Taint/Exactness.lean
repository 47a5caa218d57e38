import TaintFlow.Proofs.Taint.Credit

namespace TaintFlow

theorem Pass.Progress.Sound.exists_shows_iff {s : Pass.Setup} {n : FlowNode} {p : Pass.Progress}
    (h : p.Sound s [n]) (hc : p.arena.Complete s.rule s.graph s.knobs [n]) {pair : FlowPair} :
    (∃ r, p.Shows s.rule r ∧ r.pair = pair) ↔
      pair.1 = n ∧ s.rule.Exposes s.graph s.knobs pair.1 pair.2.1 pair.2.2 :=
  (h.exists_shows_iff_attributes hc).trans Rule.attributes_singleton

namespace Engine

/-- With a pass for each source, an evaluation run to its end finds each pair of source and sink
once, exactly if taint from the source is exposed at the sink. -/
theorem mem_findings_iff {e : Engine} {r : Rule} {ev : Evaluation}
    (ha : e.knobs.attribution = .perSource) (h : e.evaluate r = .ok ev)
    (hc : ev.complete = true) :
    (ev.findings.map Finding.pair).Nodup ∧ ∀ source sink kind,
      (source, sink, kind) ∈ ev.findings.map Finding.pair ↔
        source ∈ e.graph.nodes ∧ r.isSource e.graph source = true ∧
          r.Exposes e.graph e.knobs source sink kind := by
  obtain ⟨sources, hs, hok⟩ := evaluate_eq_ok h
  obtain ⟨hfindings, -, hcomplete⟩ := conclude_eq_ok hok
  obtain ⟨hhalt, hroom⟩ := hcomplete hc
  have hP : ∀ i, ∀ list ∈ e.sourceLists sources, (Pass.run (e.setup r i) list).halt = none →
      ∀ pair : FlowPair, (∃ reached, (Pass.run (e.setup r i) list).progress.Shows
        r reached ∧ reached.pair = pair) ↔
          [pair.1] = list ∧ r.Exposes e.graph e.knobs pair.1 pair.2.1 pair.2.2 := by
    intro i list hl hn pair
    obtain ⟨n, -, rfl⟩ : ∃ n ∈ sources, [n] = list := by simpa [sourceLists, ha] using hl
    have hanswered : ∀ f, (Pass.run (e.setup r i) [n]).halt ≠ some (.fault f) := by simp [hn]
    obtain ⟨hsound, -, hcomplete⟩ := Pass.run_sound (Pass.Outcome.answered hanswered)
    refine (hsound.exists_shows_iff (hcomplete hn)).trans ?_
    rw [List.cons.injEq, eq_self, and_true]
    rfl
  obtain ⟨hexact, hmem⟩ := passes_exact hP .empty hhalt hroom
  rw [hfindings]
  refine ⟨hexact.nodup, fun source sink kind ↦ (hmem _).trans ?_⟩
  simp [Collection.pairs, sourceLists, ha, sources_eq_ok hs, and_assoc]

/-- Both sources reach the network with their sum, and it hides that they are logged as well. -/
def meetingRule : Rule where
  name := "meeting"
  isSource := fun _ n ↦ Pass.meetingSources.contains n
  sinkKind? := fun _ n ↦
    if n = .expr ⟨2⟩ then some .network else if n = .expr ⟨3⟩ then some .logging else none
  suppresses := fun kind hidden ↦ kind = .network && hidden = .logging

def meetingEngine : Engine where
  graph := .ofProgram Pass.meetingProgram
  knobs := { Knobs.ofPreset .balanced with attribution := .perSource }

def meetingEvaluation : Evaluation where
  rule := "meeting"
  sources := Pass.meetingSources
  findings := Pass.meetingSources.map fun source ↦
    { rule := "meeting", source, sink := .expr ⟨2⟩, sinkKind := .network
      path := [⟨source, none⟩, ⟨.expr ⟨2⟩, some .taintStep⟩], pathComplete := true }
  complete := true
  interruption := none
  stats := { sources := 2, passes := 2, states := 6, edges := 5, suppressed := 2 }

theorem evaluate_meeting : meetingEngine.evaluate meetingRule = .ok meetingEvaluation := by
  have hnodes : meetingEngine.graph.nodes =
      [.expr ⟨0⟩, .expr ⟨1⟩, .expr ⟨2⟩, .expr ⟨3⟩, .returned ⟨0⟩] :=
    FlowGraph.nodes_of_empty rfl rfl
  have hsources : meetingEngine.sources meetingRule = .ok Pass.meetingSources := by
    rw [Engine.sources, hnodes]
    cbv
  rw [evaluate_of_sources hsources]
  cbv

theorem mem_findings_iff_meeting :
    meetingEngine.knobs.attribution = .perSource ∧
      meetingEngine.evaluate meetingRule = .ok meetingEvaluation ∧
      meetingEvaluation.complete = true ∧
      meetingRule.Exposes meetingEngine.graph meetingEngine.knobs
        (.expr ⟨1⟩) (.expr ⟨2⟩) .network ∧
      ¬ meetingRule.Exposes meetingEngine.graph meetingEngine.knobs
        (.expr ⟨1⟩) (.expr ⟨3⟩) .logging := by
  obtain ⟨-, hmem⟩ := mem_findings_iff (e := meetingEngine) rfl evaluate_meeting rfl
  refine ⟨rfl, evaluate_meeting, rfl, ((hmem _ _ _).mp (by decide)).2.2, fun hexp ↦ ?_⟩
  obtain ⟨hn, hs, -⟩ := (hmem (.expr ⟨1⟩) (.expr ⟨2⟩) .network).mp (by decide)
  exact absurd ((hmem _ _ _).mpr ⟨hn, hs, hexp⟩) (by decide)

end Engine

end TaintFlow
