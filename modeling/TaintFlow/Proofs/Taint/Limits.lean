import TaintFlow.Proofs.Taint.Credit
import TaintFlow.Proofs.Taint.Lockstep

namespace TaintFlow

namespace Pass

/-- Under another limit a pass reaches a part of the sinks that it reaches if it is not halted. -/
theorem run_limited_reached_prefix {s : Setup} {limit : Nat} {b : Budget}
    {sources : List FlowNode} (hn : (run s sources).halt = none) :
    (run (s.limited limit b) sources).progress.reached.toList <+:
      (run s sources).progress.reached.toList := by
  have hd : s.Differs limit b (fun _ ↦ True) (fun _ ↦ True) :=
    ⟨trivial, fun _ ↦ trivial, fun _ _ _ ↦ .inr trivial, fun _ _ _ ↦ .inr trivial⟩
  rcases run_lockstep hd sources with he | ⟨_, -, -, hle⟩ | ⟨_, -, hhalt, -⟩
  · rw [he]
  · exact hle.reached
  · rw [hn] at hhalt
    cases hhalt

end Pass

namespace Engine

def withMaxStates (e : Engine) (maxStates : Nat) : Engine :=
  { e with knobs := { e.knobs with maxStates } }

def Credits (e : Engine) (r : Rule) (source : FlowNode) (key : TaintKey) : Prop :=
  ∃ list ∈ e.sourceLists (e.ruleSources r), r.Credits e.graph e.knobs list source key

variable {e : Engine} {r : Rule} {m : Nat} {ev part : Evaluation} {sources : List FlowNode}
  {source sink : FlowNode} {kind : SinkKind} {key : TaintKey}

theorem credits_perSource_iff (ha : e.knobs.attribution = .perSource) :
    e.Credits r source key ↔ source ∈ e.ruleSources r ∧ r.isBlocked e.graph source = false ∧
      r.Reaches e.graph e.knobs (.plain source) key := by
  simp [Credits, sourceLists, ha, Rule.credits_singleton]

theorem credits_shared_iff (ha : e.knobs.attribution = .shared) :
    e.Credits r source key ↔ r.Credits e.graph e.knobs (e.ruleSources r) source key := by
  simp [Credits, sourceLists, ha]

theorem eq_of_mem_sourceLists {list list' : List FlowNode} (hl : list ∈ e.sourceLists sources)
    (hl' : list' ∈ e.sourceLists sources) (hn : source ∈ list) (hn' : source ∈ list') :
    list = list' := by
  unfold sourceLists at hl hl'
  cases ha : e.knobs.attribution with
  | perSource =>
    simp only [ha, List.mem_map] at hl hl'
    obtain ⟨n, -, rfl⟩ := hl
    obtain ⟨n', -, rfl⟩ := hl'
    rw [← List.mem_singleton.mp hn, ← List.mem_singleton.mp hn']
  | shared =>
    simp only [ha, List.mem_singleton] at hl hl'
    rw [hl, hl']

theorem exists_halt_eq_none {t : Tally} {lists : List (List FlowNode)}
    (hh : (e.passes r t lists).halt = none)
    (ht : (e.passes r t lists).collection.truncated = false) :
    ∀ list ∈ lists, ∃ i, (Pass.run (e.setup r i) list).halt = none := by
  induction lists generalizing t with
  | nil => simp
  | cons first rest ih =>
    rcases passes_cons_cases first rest rfl rfl with ⟨hstop, he⟩ | ⟨⟨hhalt, -⟩, he⟩
    · rw [he] at hh ht
      simp [hh, ht] at hstop
    · rw [he] at hh ht
      intro list hl
      rcases List.mem_cons.mp hl with rfl | hl
      · exact ⟨_, (Tally.halt_addPass_eq_none_iff.mp hhalt).1⟩
      · exact ih hh ht list hl

theorem exists_reached_of_reports (h : e.evaluate r = .ok ev)
    (hr : ev.Reports source sink kind) : ∃ list ∈ e.sourceLists (e.ruleSources r), ∃ i,
      ∃ reached ∈ (Pass.run (e.setup r i) list).progress.reached.toList,
        reached.pair = (source, sink, kind) := by
  obtain ⟨sources, hs, hok⟩ := evaluate_eq_ok h
  obtain ⟨hfindings, -, -⟩ := conclude_eq_ok hok
  rw [Evaluation.Reports, hfindings, List.mem_map] at hr
  obtain ⟨f, hf, hpair⟩ := hr
  rw [ruleSources, ← sources_eq_ok hs, ← hpair]
  refine forall_mem_passes (P := fun f ↦ ∃ list ∈ e.sourceLists sources, ∃ i,
    ∃ reached ∈ (Pass.run (e.setup r i) list).progress.reached.toList,
      reached.pair = f.pair) ?_ (by simp) f hf
  rintro i list hl - reached hreached
  exact ⟨list, hl, i, reached, hreached, Collection.pair_finding.symm⟩

theorem conclude_of_interrupted {t : Tally} {cause : Interruption}
    (h : t.halt = some (.interrupted cause)) (hp : e.knobs.partialResults = true) :
    e.conclude r sources t = .ok
      { rule := r.name, sources, findings := t.collection.findings.toList, complete := false
        interruption := some (TaintError.interrupted r.name cause).message
        stats := { t.stats with
          sources := sources.length, suppressed := t.collection.suppressed } } := by
  simp only [conclude, h, hp, if_true]

theorem credits_of_reports_withMaxStates (h : e.evaluate r = .ok ev) (hc : ev.complete = true)
    (h' : (e.withMaxStates m).evaluate r = .ok part) (hr : part.Reports source sink kind) :
    r.sinkKind? e.graph sink = some kind ∧ ∃ list ∈ e.sourceLists (e.ruleSources r),
      ∃ key, r.Credits e.graph e.knobs list source key ∧ key.node = sink := by
  obtain ⟨list, hl, i, reached, hreached, hpair⟩ := exists_reached_of_reports h' hr
  obtain ⟨sources, hs, hok⟩ := evaluate_eq_ok h
  obtain ⟨-, -, hcomplete⟩ := conclude_eq_ok hok
  obtain ⟨hhalt, hroom⟩ := hcomplete hc
  have hlist : list ∈ e.sourceLists (e.ruleSources r) := hl
  have hlist' : list ∈ e.sourceLists sources := by rwa [sources_eq_ok hs]
  obtain ⟨j, hn⟩ := exists_halt_eq_none hhalt hroom list hlist'
  -- The two passes have different budgets, but the one that matters here was not halted by its own.
  have hsetup : (e.withMaxStates m).setup r i =
      (e.setup r j).limited m ((e.withMaxStates m).setup r i).budget := rfl
  rw [hsetup] at hreached
  have hmem : reached ∈ (Pass.run (e.setup r j) list).progress.reached.toList :=
    (Pass.run_limited_reached_prefix hn).subset hreached
  have hanswered : ∀ f, (Pass.run (e.setup r j) list).halt ≠ some (.fault f) := by simp [hn]
  obtain ⟨hsound, -, hfull⟩ := Pass.run_sound (Pass.Outcome.answered hanswered)
  obtain ⟨key, hcredits, hnode, hkind⟩ := hsound.exists_credits_of_mem_reached (hfull hn) hmem
  cases hpair
  exact ⟨hkind, list, hlist, key, hcredits, hnode⟩

/-- What is reported under another limit of states is reported under this one if it leads to the end,
unless a sink that hides it is credited to the same source. -/
theorem reports_of_reports_withMaxStates (h : e.evaluate r = .ok ev) (hc : ev.complete = true)
    (h' : (e.withMaxStates m).evaluate r = .ok part) :
    (∀ source sink kind, part.Reports source sink kind →
      (ev.Reports source sink kind ↔
        ∀ key, e.Credits r source key → ¬ r.Hides e.graph key kind)) ∧
    ((∀ kind other, r.suppresses kind other = false) →
      ∀ source sink kind, part.Reports source sink kind → ev.Reports source sink kind) := by
  have hiff : ∀ source sink kind, part.Reports source sink kind →
      (ev.Reports source sink kind ↔
        ∀ key, e.Credits r source key → ¬ r.Hides e.graph key kind) := by
    intro source sink kind hr
    obtain ⟨hkind, list, hl, start, hcredits, hnode⟩ :=
      credits_of_reports_withMaxStates h hc h' hr
    rw [reports_iff h hc]
    constructor
    · rintro ⟨list', hl', hattr⟩ key ⟨list'', hl'', hkey⟩
      obtain ⟨first, hfirst, -⟩ := hattr.credited
      obtain rfl := eq_of_mem_sourceLists hl' hl'' hfirst.mem hkey.mem
      exact hattr.not_hides hkey
    · intro hshown
      refine ⟨list, hl, ⟨start, hcredits, hnode⟩, hkind, ?_⟩
      intro key other hkey hother
      have hfree := hshown key ⟨list, hl, hkey⟩
      exact Bool.eq_false_iff.mpr fun hhides ↦ hfree ⟨other, hother, hhides⟩
  refine ⟨hiff, fun hopen source sink kind hr ↦ (hiff source sink kind hr).mpr ?_⟩
  rintro key - ⟨other, -, hhides⟩
  rw [hopen other kind] at hhides
  cases hhides

def negatingProgram : Program where
  functions := #[⟨⟨0⟩, "main", "negate.rb", [], none, [], default⟩]
  exprs := #[⟨⟨0⟩, ⟨0⟩, default, "secret()", .call { name := "secret" }, []⟩,
    ⟨⟨1⟩, ⟨0⟩, default, "token()", .call { name := "token" }, []⟩,
    ⟨⟨2⟩, ⟨0⟩, default, "-secret()", .operation "-" [⟨0⟩], []⟩,
    ⟨⟨3⟩, ⟨0⟩, default, "-token()", .operation "-" [⟨1⟩], []⟩,
    ⟨⟨4⟩, ⟨0⟩, default, "--token()", .operation "-" [⟨3⟩], []⟩]

def negatingRule : Rule where
  name := "negating"
  isSource := fun _ n ↦ n = .expr ⟨0⟩ || n = .expr ⟨1⟩
  sinkKind? := fun _ n ↦
    if n = .expr ⟨2⟩ || n = .expr ⟨3⟩ then some .logging
    else if n = .expr ⟨4⟩ then some .network else none
  suppresses := fun kind hidden ↦ kind = .network && hidden = .logging

def negatingEngine : Engine where
  graph := .ofProgram negatingProgram
  knobs := { Knobs.ofPreset .balanced with timeoutMs := none }

def negatingFinding (source sink : ExprId) (kind : SinkKind) (path : List ExprId) : Finding :=
  { rule := "negating", source := .expr source, sink := .expr sink, sinkKind := kind
    path := ⟨.expr source, none⟩ :: path.map fun e ↦ ⟨.expr e, some .taintStep⟩
    pathComplete := true }

def negatingEvaluation : Evaluation where
  rule := "negating"
  sources := [.expr ⟨0⟩, .expr ⟨1⟩]
  findings := [negatingFinding ⟨0⟩ ⟨2⟩ .logging [⟨2⟩], negatingFinding ⟨1⟩ ⟨4⟩ .network [⟨3⟩, ⟨4⟩]]
  complete := true
  interruption := none
  stats := { sources := 2, passes := 2, states := 5, edges := 3, suppressed := 1 }

def shortNegatingEvaluation : Evaluation where
  rule := "negating"
  sources := [.expr ⟨0⟩, .expr ⟨1⟩]
  findings := [negatingFinding ⟨0⟩ ⟨2⟩ .logging [⟨2⟩], negatingFinding ⟨1⟩ ⟨3⟩ .logging [⟨3⟩]]
  complete := false
  interruption := some "Rule 'negating' exceeded the propagation state limit (2)"
  stats := { sources := 2, passes := 2, states := 4, edges := 3 }

theorem evaluate_negating :
    negatingEngine.evaluate negatingRule = .ok negatingEvaluation ∧
      (negatingEngine.withMaxStates 2).evaluate negatingRule = .ok shortNegatingEvaluation := by
  have hnodes : negatingEngine.graph.nodes =
      [.expr ⟨0⟩, .expr ⟨1⟩, .expr ⟨2⟩, .expr ⟨3⟩, .expr ⟨4⟩, .returned ⟨0⟩] :=
    FlowGraph.nodes_of_empty rfl rfl
  have hs : negatingEngine.sources negatingRule = .ok [.expr ⟨0⟩, .expr ⟨1⟩] := by
    rw [Engine.sources, hnodes]
    cbv
  have hs' : (negatingEngine.withMaxStates 2).sources negatingRule =
      .ok [.expr ⟨0⟩, .expr ⟨1⟩] := hs
  constructor
  · rw [evaluate_of_sources hs]
    cbv
  · rw [evaluate_of_sources hs']
    generalize ht : (negatingEngine.withMaxStates 2).passes negatingRule {}
      ((negatingEngine.withMaxStates 2).sourceLists [.expr ⟨0⟩, .expr ⟨1⟩]) = t
    have hhalt : t.halt = some (.interrupted (.stateLimit 2)) := by subst ht; cbv
    have hfindings : t.collection.findings.toList = shortNegatingEvaluation.findings := by
      subst ht; cbv
    have hsuppressed : t.collection.suppressed = 0 := by subst ht; cbv
    have hstats : t.stats = { shortNegatingEvaluation.stats with sources := 0 } := by
      subst ht; cbv
    rw [conclude_of_interrupted hhalt rfl, hfindings, hsuppressed, hstats]
    rfl

/-- A pass that is interrupted has not come to all that hides what it reports. -/
theorem not_forall_reports_of_reports_withMaxStates :
    ¬ ∀ (e : Engine) (r : Rule) (m : Nat) (part ev : Evaluation),
      e.graph.program.validate = .ok () → e.knobs.partialResults = true →
      e.knobs.timeoutMs = none → m ≤ e.knobs.maxStates →
      (e.withMaxStates m).evaluate r = .ok part → e.evaluate r = .ok ev → ev.complete = true →
      ∀ source sink kind, part.Reports source sink kind → ev.Reports source sink kind := by
  intro hsub
  have hv : negatingEngine.graph.program.validate = .ok () := by cbv
  have hfound := hsub negatingEngine negatingRule 2 _ _ hv rfl rfl (by decide)
    evaluate_negating.2 evaluate_negating.1 rfl (.expr ⟨1⟩) (.expr ⟨3⟩) .logging (by decide)
  exact absurd hfound (by decide)

/-- That the second secret is logged, the second pass reports only if it ends too early. -/
theorem reports_of_reports_withMaxStates_negating :
    negatingEngine.evaluate negatingRule = .ok negatingEvaluation ∧
      negatingEvaluation.complete = true ∧
      (negatingEngine.withMaxStates 2).evaluate negatingRule = .ok shortNegatingEvaluation ∧
      shortNegatingEvaluation.Reports (.expr ⟨0⟩) (.expr ⟨2⟩) .logging ∧
      (∀ key, negatingEngine.Credits negatingRule (.expr ⟨0⟩) key →
        ¬ negatingRule.Hides negatingEngine.graph key .logging) ∧
      shortNegatingEvaluation.Reports (.expr ⟨1⟩) (.expr ⟨3⟩) .logging ∧
      ∃ key, negatingEngine.Credits negatingRule (.expr ⟨1⟩) key ∧
        negatingRule.Hides negatingEngine.graph key .logging := by
  obtain ⟨hfull, hpart⟩ := evaluate_negating
  obtain ⟨hiff, -⟩ := reports_of_reports_withMaxStates hfull rfl hpart
  have hkept : shortNegatingEvaluation.Reports (.expr ⟨0⟩) (.expr ⟨2⟩) .logging := by decide
  have hlost : shortNegatingEvaluation.Reports (.expr ⟨1⟩) (.expr ⟨3⟩) .logging := by decide
  refine ⟨hfull, rfl, hpart, hkept, (hiff _ _ _ hkept).mp (by decide), hlost, ?_⟩
  have hhidden : ¬ ∀ key, negatingEngine.Credits negatingRule (.expr ⟨1⟩) key →
      ¬ negatingRule.Hides negatingEngine.graph key .logging :=
    fun hshown ↦ absurd ((hiff _ _ _ hlost).mpr hshown) (by decide)
  push Not at hhidden
  exact hhidden

end Engine

end TaintFlow
