import TaintFlow.Proofs.Taint.Collection
import TaintFlow.Proofs.Taint.Exploration
import TaintFlow.Proofs.Taint.Trails
import Mathlib

namespace TaintFlow

/-- The path of a finding leads taint from a source of the rule to a sink of the kind named. -/
structure Finding.Witnessed (r : Rule) (g : FlowGraph) (k : Knobs) (f : Finding) : Prop where
  complete : f.pathComplete = true
  isSource : r.isSource g f.source = true
  isSink : r.sinkKind? g f.sink = some f.sinkKind
  ends : ∃ edge, f.path.getLast? = some ⟨f.sink, edge⟩
  hops : f.path.IsChain fun x y ↦ ∃ via, y.edge = some via ∧ r.Hop g x.node y.node via
  free : ∀ step ∈ f.path, r.isBlocked g step.node = false
  replays : ∃ rest key, f.path = ⟨f.source, none⟩ :: rest ∧ (∀ step ∈ rest, step.edge ≠ none) ∧
    k.replay g (.plain f.source) rest = some key

theorem Finding.Witnessed.of_trail {r : Rule} {g : FlowGraph} {k : Knobs} {f : Finding}
    {key : TaintKey} (h : r.Trail g k f.source f.path key) (ho : r.ownSteps = none)
    (hc : f.pathComplete = true) (hsource : r.isSource g f.source = true) (hn : key.node = f.sink)
    (hsink : r.sinkKind? g f.sink = some f.sinkKind) : f.Witnessed r g k where
  complete := hc
  isSource := hsource
  isSink := hsink
  ends := hn ▸ h.getLast?
  hops := h.isChain ho
  free := h.free
  replays := by
    obtain ⟨rest, he, hedges, hr⟩ := h.exists_replay
    exact ⟨rest, key, he, hedges, hr⟩

namespace Pass

variable {s : Setup} {sources : List FlowNode} {p : Progress}

def Setup.withValidation (s : Setup) (validate : Bool) : Setup :=
  { s with knobs := { s.knobs with validatePaths := validate } }

theorem run_withValidation {validate : Bool} :
    run (s.withValidation validate) sources = run s sources := run_withKnobs rfl rfl

theorem Progress.Sound.finding_eq (h : p.Sound s sources) (ho : s.rule.ownSteps = none)
    (hv : s.graph.program.validate = .ok ()) (hp : s.graph.program.ListsParameters)
    (hs : ∀ source ∈ sources, s.graph.contains source = true) {reached : ReachedSink}
    (hr : reached ∈ p.reached.toList) :
    reached.source ∈ sources ∧
      s.rule.sinkKind? s.graph reached.sink = some reached.kind ∧
      ∃ steps key, s.rule.Trail s.graph s.knobs reached.source steps key ∧
        key.node = reached.sink ∧
        ∀ validate, Collection.finding (s.withValidation validate) p.arena reached =
          ⟨s.rule.name, reached.source, reached.sink, reached.kind, steps, true⟩ := by
  obtain ⟨id, x, source, kind, hx, hroot, hk, rfl⟩ := h.mem_reached_iff.mp hr
  obtain ⟨source', hmem, hroot', steps, ht, hpath⟩ := h.forest.pathTo_eq_ok hx ho hv hp hs
  rw [hroot] at hroot'
  cases hroot'
  refine ⟨hmem, hk, steps, x.key, ht, rfl, fun validate ↦ ?_⟩
  exact Collection.finding_of_ok (hpath validate)

end Pass

namespace Engine

variable {e : Engine} {r : Rule} {sources : List FlowNode}

def withValidation (e : Engine) (validate : Bool) : Engine :=
  { e with knobs := { e.knobs with validatePaths := validate } }

theorem mem_nodes_of_mem_sourceLists {list : List FlowNode} {n : FlowNode}
    (hs : e.sources r = .ok sources) (hl : list ∈ e.sourceLists sources) (hn : n ∈ list) :
    n ∈ e.graph.nodes ∧ r.isSource e.graph n = true := by
  have hmem : n ∈ sources := by
    unfold sourceLists at hl
    split at hl
    · obtain ⟨m, hm, rfl⟩ := List.mem_map.mp hl
      rwa [List.mem_singleton.mp hn]
    · rwa [List.mem_singleton.mp hl] at hn
  rw [sources_eq_ok hs] at hmem
  exact List.mem_filter.mp hmem

theorem setup_withValidation {validate : Bool} {i : Nat} :
    (e.withValidation validate).setup r i = (e.setup r i).withValidation validate := rfl

theorem sourceLists_withValidation {validate : Bool} :
    (e.withValidation validate).sourceLists sources = e.sourceLists sources := rfl

theorem conclude_withValidation {validate : Bool} {t : Tally} :
    (e.withValidation validate).conclude r sources t = e.conclude r sources t := rfl

/-- In a well-formed program whose functions list parameters, and under a rule that chooses its steps
among the candidates, every finding is witnessed by its path. Checking paths changes nothing. -/
theorem evaluate_witnessed {ev : Evaluation} (hv : e.graph.program.validate = .ok ())
    (hp : e.graph.program.ListsParameters) (ho : r.ownSteps = none)
    (h : e.evaluate r = .ok ev) :
    (∀ f ∈ ev.findings, f.Witnessed r e.graph e.knobs) ∧
      ∀ validate, (e.withValidation validate).evaluate r = .ok ev := by
  obtain ⟨sources, hs, hok⟩ := evaluate_eq_ok h
  obtain ⟨hfindings, -, -⟩ := conclude_eq_ok hok
  have hfinding (i : Nat) (list : List FlowNode) (hl : list ∈ e.sourceLists sources)
      (ha : ∀ f, (Pass.run (e.setup r i) list).halt ≠ some (.fault f)) (reached : ReachedSink)
      (hr : reached ∈ (Pass.run (e.setup r i) list).progress.reached.toList) :=
    (Pass.run_sound (Pass.Outcome.answered ha)).1.finding_eq ho hv hp
      (fun n hn ↦ FlowGraph.contains_of_mem_nodes hv (mem_nodes_of_mem_sourceLists hs hl hn).1) hr
  constructor
  · rw [hfindings]
    refine forall_mem_passes (fun i list hl ha reached hr ↦ ?_) (by simp)
    obtain ⟨hmem, hk, steps, key, ht, hn, hf⟩ := hfinding i list hl ha reached hr
    have he := hf e.knobs.validatePaths
    change Collection.finding (e.setup r i) _ _ = _ at he
    rw [he]
    exact .of_trail ht ho rfl (mem_nodes_of_mem_sourceLists hs hl hmem).2 hn hk
  · intro validate
    have hpasses : (e.withValidation validate).passes r {} (e.sourceLists sources) =
        e.passes r {} (e.sourceLists sources) := by
      refine passes_congr rfl (fun i list ↦ ?_) rfl (fun i list hl ha reached hr ↦ ?_)
      · rw [setup_withValidation, Pass.run_withValidation]
      · obtain ⟨-, -, steps, key, -, -, hf⟩ := hfinding i list hl ha reached hr
        rw [setup_withValidation]
        exact (hf validate).trans (hf e.knobs.validatePaths).symm
    have hs' : (e.withValidation validate).sources r = .ok sources := hs
    rw [evaluate_of_sources hs', conclude_withValidation, sourceLists_withValidation, hpasses, hok]

def sendingProgram : Program where
  functions := #[⟨⟨0⟩, "main", "main.rb", [], none, [], default⟩,
    ⟨⟨1⟩, "forward", "main.rb", [⟨0⟩], none, [], default⟩]
  vars := #[⟨⟨0⟩, "x", some ⟨1⟩, none, .parameter 0, none, default⟩]
  exprs := #[⟨⟨0⟩, ⟨0⟩, default, "secret()", .call { name := "secret" }, []⟩,
    ⟨⟨1⟩, ⟨0⟩, default, "forward(secret())",
      .call { name := "forward", args := [⟨0⟩], target := some ⟨1⟩ }, []⟩,
    ⟨⟨2⟩, ⟨1⟩, default, "x", .read ⟨0⟩ [.param ⟨0⟩], []⟩,
    ⟨⟨3⟩, ⟨1⟩, default, "send(x)", .call { name := "send", args := [⟨2⟩] }, []⟩]

def sendingRule : Rule where
  name := "sending"
  isSource := fun _ n ↦ n = .expr ⟨0⟩
  sinkKind? := fun _ n ↦ if n = .expr ⟨3⟩ then some .network else none
  isAdditionalStep := fun _ n _ ↦ n = .expr ⟨2⟩

def sendingEngine : Engine where
  graph := .ofProgram sendingProgram
  knobs := .ofPreset .thorough

def sendingFinding : Finding where
  rule := "sending"
  source := .expr ⟨0⟩
  sink := .expr ⟨3⟩
  sinkKind := .network
  path := [⟨.expr ⟨0⟩, none⟩, ⟨.param ⟨0⟩, some (.callToParameter ⟨1⟩)⟩,
    ⟨.expr ⟨2⟩, some .localAssign⟩, ⟨.expr ⟨3⟩, some .additionalStep⟩]
  pathComplete := true

def sendingEvaluation : Evaluation where
  rule := "sending"
  sources := [.expr ⟨0⟩]
  findings := [sendingFinding]
  complete := true
  interruption := none
  stats := { sources := 1, passes := 1, states := 4, edges := 3, additionalSteps := 1 }

theorem evaluate_sending : sendingEngine.evaluate sendingRule = .ok sendingEvaluation := by
  have hnodes : sendingEngine.graph.nodes = [.expr ⟨0⟩, .expr ⟨1⟩, .expr ⟨2⟩, .expr ⟨3⟩,
      .param ⟨0⟩, .returned ⟨0⟩, .returned ⟨1⟩] := FlowGraph.nodes_of_empty rfl rfl
  have hsources : sendingEngine.sources sendingRule = .ok [.expr ⟨0⟩] := by
    rw [Engine.sources, hnodes]
    cbv
  rw [evaluate_of_sources hsources]
  cbv

theorem evaluate_witnessed_sending :
    sendingProgram.validate = .ok () ∧ sendingProgram.ListsParameters ∧
      sendingRule.ownSteps = none ∧
      sendingEngine.evaluate sendingRule = .ok sendingEvaluation ∧
      sendingFinding.Witnessed sendingRule sendingEngine.graph sendingEngine.knobs ∧
      (sendingEngine.withValidation false).evaluate sendingRule = .ok sendingEvaluation := by
  have hv : sendingProgram.validate = .ok () := by cbv
  have hp : sendingProgram.ListsParameters := by
    simp [Program.ListsParameters, sendingProgram, Program.var?, VarId.index,
      VariableKind.isParameter]
  obtain ⟨hall, hsame⟩ := evaluate_witnessed hv hp rfl evaluate_sending
  exact ⟨hv, hp, rfl, evaluate_sending, hall _ (List.mem_singleton_self _), hsame false⟩

end Engine

end TaintFlow
