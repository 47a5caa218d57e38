import TaintFlow.Proofs.Taint.Exactness

namespace TaintFlow

def Evaluation.Finds (ev : Evaluation) (sink : FlowNode) (kind : SinkKind) : Prop :=
  ∃ source, ev.Reports source sink kind

namespace Rule

variable (r : Rule) (g : FlowGraph) (k : Knobs)

def Arrives (sources : List FlowNode) (sink : FlowNode) (kind : SinkKind) : Prop :=
  r.sinkKind? g sink = some kind ∧ ∃ source ∈ sources, r.isBlocked g source = false ∧
    ∃ key, r.Reaches g k (.plain source) key ∧ key.node = sink

variable {r g k} {sources : List FlowNode} {source sink : FlowNode} {kind : SinkKind}

theorem exists_attributes_iff (hs : ∀ kind other, r.suppresses kind other = false) :
    (∃ source, r.Attributes g k sources source sink kind) ↔ r.Arrives g k sources sink kind := by
  constructor
  · rintro ⟨source, ⟨key, hc, hn⟩, hk, -⟩
    exact ⟨hk, source, hc.mem, hc.free, key, hc.reaches, hn⟩
  · rintro ⟨hk, source, hmem, hf, key, hr, hn⟩
    obtain ⟨first, hc⟩ := exists_credits hmem hf hr
    exact ⟨first, ⟨key, hc, hn⟩, hk, fun _ other _ _ ↦ hs other kind⟩

end Rule

namespace Engine

/-- Two engines for one graph whose knobs differ in nothing but attribution. -/
structure Counterparts (perSource shared : Engine) : Prop where
  graph : shared.graph = perSource.graph
  attribution : perSource.knobs.attribution = .perSource
  knobs : shared.knobs = { perSource.knobs with attribution := .shared }

section

variable {e : Engine} {r : Rule} {ev : Evaluation} {sources : List FlowNode} {sink : FlowNode}
  {kind : SinkKind}

theorem exists_mem_sourceLists {P : FlowNode → Prop} :
    (∃ list ∈ e.sourceLists sources, ∃ source ∈ list, P source) ↔ ∃ source ∈ sources, P source := by
  unfold sourceLists
  split <;> simp

theorem finds_iff_arrives (hs : ∀ kind other, r.suppresses kind other = false)
    (h : e.evaluate r = .ok ev) (hc : ev.complete = true) :
    ev.Finds sink kind ↔ r.Arrives e.graph e.knobs (e.ruleSources r) sink kind := by
  simp only [Evaluation.Finds, reports_iff h hc]
  rw [exists_comm]
  simp only [exists_and_left, Rule.exists_attributes_iff hs, Rule.Arrives]
  rw [← exists_mem_sourceLists (e := e)]
  constructor
  · rintro ⟨list, hl, hk, hsource⟩
    exact ⟨hk, list, hl, hsource⟩
  · rintro ⟨hk, list, hl, hsource⟩
    exact ⟨list, hl, hk, hsource⟩

end

variable {perSource shared : Engine} {r : Rule} {ev ev' : Evaluation}

namespace Counterparts

variable (ht : Counterparts perSource shared)
include ht

theorem transfer : shared.knobs.transfer = perSource.knobs.transfer := by
  rw [ht.knobs]
  rfl

theorem attribution_shared : shared.knobs.attribution = .shared := by
  rw [ht.knobs]

theorem ruleSources : shared.ruleSources r = perSource.ruleSources r := by
  rw [Engine.ruleSources, ht.graph, Engine.ruleSources]

end Counterparts

/-- Under a rule none of whose sinks hides another, both ways of attribution find the sinks that
taint from some source gets to. -/
theorem finds_iff_finds (ht : Counterparts perSource shared)
    (hs : ∀ kind other, r.suppresses kind other = false)
    (h : perSource.evaluate r = .ok ev) (hc : ev.complete = true)
    (h' : shared.evaluate r = .ok ev') (hc' : ev'.complete = true)
    (sink : FlowNode) (kind : SinkKind) :
    (ev.Finds sink kind ↔ ev'.Finds sink kind) ∧
      (ev.Finds sink kind ↔ r.Arrives perSource.graph perSource.knobs
        (perSource.ruleSources r) sink kind) := by
  have hp : ev.Finds sink kind ↔ r.Arrives perSource.graph perSource.knobs
      (perSource.ruleSources r) sink kind := finds_iff_arrives hs h hc
  refine ⟨?_, hp⟩
  rw [hp, finds_iff_arrives hs h' hc', ht.ruleSources, ht.graph]
  simp only [Rule.Arrives, Rule.reaches_of_transfer_eq ht.transfer]

def sharedMeetingEngine : Engine :=
  { meetingEngine with knobs := { meetingEngine.knobs with attribution := .shared } }

theorem counterparts_meeting : Counterparts meetingEngine sharedMeetingEngine := ⟨rfl, rfl, rfl⟩

theorem sources_meeting (suppresses : SinkKind → SinkKind → Bool) :
    meetingEngine.sources { meetingRule with suppresses } = .ok Pass.meetingSources := by
  have hnodes : meetingEngine.graph.nodes =
      [.expr ⟨0⟩, .expr ⟨1⟩, .expr ⟨2⟩, .expr ⟨3⟩, .returned ⟨0⟩] :=
    FlowGraph.nodes_of_empty rfl rfl
  rw [Engine.sources, hnodes]
  cbv

def openMeetingRule : Rule := { meetingRule with suppresses := fun _ _ ↦ false }

def meetingFinding (source sink : FlowNode) (kind : SinkKind) (path : List FlowNode) : Finding :=
  { rule := "meeting", source, sink, sinkKind := kind
    path := ⟨source, none⟩ :: path.map (⟨·, some .taintStep⟩), pathComplete := true }

def openMeetingEvaluation : Evaluation where
  rule := "meeting"
  sources := Pass.meetingSources
  findings := [
    meetingFinding (.expr ⟨0⟩) (.expr ⟨2⟩) .network [.expr ⟨2⟩],
    meetingFinding (.expr ⟨0⟩) (.expr ⟨3⟩) .logging [.expr ⟨2⟩, .expr ⟨3⟩],
    meetingFinding (.expr ⟨1⟩) (.expr ⟨2⟩) .network [.expr ⟨2⟩],
    meetingFinding (.expr ⟨1⟩) (.expr ⟨3⟩) .logging [.expr ⟨3⟩]]
  complete := true
  interruption := none
  stats := { sources := 2, passes := 2, states := 6, edges := 5 }

def sharedMeetingEvaluation : Evaluation where
  rule := "meeting"
  sources := Pass.meetingSources
  findings := [
    meetingFinding (.expr ⟨0⟩) (.expr ⟨2⟩) .network [.expr ⟨2⟩],
    meetingFinding (.expr ⟨1⟩) (.expr ⟨3⟩) .logging [.expr ⟨3⟩]]
  complete := true
  interruption := none
  stats := { sources := 2, passes := 1, states := 4, edges := 4 }

theorem evaluate_openMeeting :
    meetingEngine.evaluate openMeetingRule = .ok openMeetingEvaluation := by
  have hs : meetingEngine.sources openMeetingRule = .ok Pass.meetingSources := sources_meeting _
  rw [evaluate_of_sources hs]
  cbv

theorem evaluate_sharedOpenMeeting :
    sharedMeetingEngine.evaluate openMeetingRule = .ok sharedMeetingEvaluation := by
  have hs : sharedMeetingEngine.sources openMeetingRule = .ok Pass.meetingSources :=
    sources_meeting _
  rw [evaluate_of_sources hs]
  cbv

theorem finds_iff_finds_meeting :
    Counterparts meetingEngine sharedMeetingEngine ∧
      (∀ kind other, openMeetingRule.suppresses kind other = false) ∧
      meetingEngine.evaluate openMeetingRule = .ok openMeetingEvaluation ∧
      openMeetingEvaluation.complete = true ∧
      sharedMeetingEngine.evaluate openMeetingRule = .ok sharedMeetingEvaluation ∧
      sharedMeetingEvaluation.complete = true ∧
      openMeetingEvaluation.Finds (.expr ⟨3⟩) .logging ∧
      ¬ sharedMeetingEvaluation.Finds (.expr ⟨3⟩) .network := by
  have hsame := finds_iff_finds counterparts_meeting (fun _ _ ↦ rfl) evaluate_openMeeting rfl
    evaluate_sharedOpenMeeting rfl
  refine ⟨counterparts_meeting, fun _ _ ↦ rfl, evaluate_openMeeting, rfl,
    evaluate_sharedOpenMeeting, rfl, ?_, fun hfound ↦ ?_⟩
  · exact (hsame _ _).1.mpr ⟨.expr ⟨1⟩, by decide⟩
  · obtain ⟨hkind, -⟩ := (hsame _ _).2.mp ((hsame _ _).1.mpr hfound)
    cases hkind

/-- What one pass for all sources reports, a pass for each source reports as well, unless the source
gets to a sink that hides it. The one pass credits each such sink to another source, which is nearer
to it, or as near and earlier. -/
theorem reports_of_reports_shared (ht : Counterparts perSource shared)
    (h : perSource.evaluate r = .ok ev) (hc : ev.complete = true)
    (h' : shared.evaluate r = .ok ev') (hc' : ev'.complete = true) :
    (∀ source sink kind, ev'.Reports source sink kind →
      (ev.Reports source sink kind ↔
        ∀ key, r.Reaches perSource.graph perSource.knobs (.plain source) key →
          ¬ r.Hides perSource.graph key kind) ∧
      ∀ key, r.Reaches perSource.graph perSource.knobs (.plain source) key →
        r.Hides perSource.graph key kind → ∃ rival ≠ source,
          r.Credits shared.graph shared.knobs (shared.ruleSources r) rival key) ∧
    ∀ source sink kind key, r.Hides perSource.graph key kind →
      (r.Reaches perSource.graph perSource.knobs (.plain source) key →
        ¬ ev.Reports source sink kind) ∧
      (r.Credits shared.graph shared.knobs (shared.ruleSources r) source key →
        ¬ ev'.Reports source sink kind) := by
  have hmem {source sink kind} : ev.Reports source sink kind ↔
      source ∈ perSource.ruleSources r ∧
        r.Exposes perSource.graph perSource.knobs source sink kind :=
    reports_perSource_iff ht.attribution h hc
  have hmem' {source sink kind} : ev'.Reports source sink kind ↔
      r.Attributes shared.graph shared.knobs (shared.ruleSources r) source sink kind :=
    reports_shared_iff ht.attribution_shared h' hc'
  refine ⟨fun source sink kind hfound ↦ ?_, fun source sink kind key hhides ↦ ⟨?_, ?_⟩⟩
  · have hattr := hmem'.mp hfound
    obtain ⟨start, hcredits, hn⟩ := hattr.credited
    constructor
    · have hreach := (Rule.reaches_of_transfer_eq ht.transfer).mp hcredits.reaches
      have hsource := ht.ruleSources ▸ hcredits.mem
      have hfree := hcredits.free
      have hkind := hattr.isSink
      rw [ht.graph] at hreach hfree hkind
      rw [hmem, Rule.exposes_iff]
      constructor
      · rintro ⟨-, -, -, -, hshown⟩
        exact hshown
      · intro hshown
        exact ⟨hsource, hfree, ⟨start, hreach, hn⟩, hkind, hshown⟩
    · intro key hr hhides
      have hr' := (Rule.reaches_of_transfer_eq ht.transfer).mpr hr
      rw [← ht.graph] at hr' hhides
      obtain ⟨rival, hrival⟩ := Rule.exists_credits hcredits.mem hcredits.free hr'
      refine ⟨rival, ?_, hrival⟩
      rintro rfl
      exact hattr.not_hides hrival hhides
  · intro hr hfound
    exact (Rule.exposes_iff.mp (hmem.mp hfound).2).2.2.2 key hr hhides
  · intro hcredits hfound
    exact (hmem'.mp hfound).not_hides hcredits (ht.graph ▸ hhides)

theorem evaluate_sharedMeeting :
    sharedMeetingEngine.evaluate meetingRule = .ok sharedMeetingEvaluation := by
  have hs : sharedMeetingEngine.sources meetingRule = .ok Pass.meetingSources :=
    sources_meeting meetingRule.suppresses
  rw [evaluate_of_sources hs]
  cbv

/-- Where the sum hides that the product is logged, one pass for both sources does not see that the
second source gets to the sum. -/
theorem not_forall_reports_of_reports_shared :
    ¬ ∀ (perSource shared : Engine) (r : Rule) (ev ev' : Evaluation),
      Counterparts perSource shared → perSource.graph.program.validate = .ok () →
      perSource.evaluate r = .ok ev → ev.complete = true →
      shared.evaluate r = .ok ev' → ev'.complete = true →
      ∀ source sink kind, ev'.Reports source sink kind → ev.Reports source sink kind := by
  intro hsub
  have hv : meetingEngine.graph.program.validate = .ok () := by cbv
  have hfound := hsub _ _ _ _ _ counterparts_meeting hv evaluate_meeting rfl
    evaluate_sharedMeeting rfl (.expr ⟨1⟩) (.expr ⟨3⟩) .logging (by decide)
  exact absurd hfound (by decide)

/-- The sum is credited to the first source, although the second gets there too. -/
theorem reports_of_reports_shared_meeting :
    Counterparts meetingEngine sharedMeetingEngine ∧
      meetingEngine.evaluate meetingRule = .ok meetingEvaluation ∧
      meetingEvaluation.complete = true ∧
      sharedMeetingEngine.evaluate meetingRule = .ok sharedMeetingEvaluation ∧
      sharedMeetingEvaluation.complete = true ∧
      sharedMeetingEvaluation.Reports (.expr ⟨1⟩) (.expr ⟨3⟩) .logging ∧
      ¬ meetingEvaluation.Reports (.expr ⟨1⟩) (.expr ⟨3⟩) .logging ∧
      ∃ key rival, key.node = .expr ⟨2⟩ ∧ rival ≠ .expr ⟨1⟩ ∧
        meetingRule.Credits sharedMeetingEngine.graph sharedMeetingEngine.knobs
          (sharedMeetingEngine.ruleSources meetingRule) rival key := by
  obtain ⟨hfound, hhidden⟩ := reports_of_reports_shared counterparts_meeting evaluate_meeting rfl
    evaluate_sharedMeeting rfl
  have hsum : meetingEvaluation.Reports (.expr ⟨1⟩) (.expr ⟨2⟩) .network := by decide
  obtain ⟨-, hexp⟩ := (reports_perSource_iff rfl evaluate_meeting rfl).mp hsum
  obtain ⟨key, hr, hn⟩ := hexp.reached
  have hhides : meetingRule.Hides meetingEngine.graph key .logging := ⟨.network, hn ▸ rfl, rfl⟩
  obtain ⟨rival, hne, hcredits⟩ :=
    (hfound (.expr ⟨1⟩) (.expr ⟨3⟩) .logging (by decide)).2 key hr hhides
  exact ⟨counterparts_meeting, evaluate_meeting, rfl, evaluate_sharedMeeting, rfl, by decide,
    (hhidden _ _ _ key hhides).1 hr, key, rival, hn, hne, hcredits⟩

end Engine

end TaintFlow
