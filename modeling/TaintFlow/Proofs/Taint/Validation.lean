import TaintFlow.Proofs.Taint.Soundness

namespace TaintFlow

namespace FlowGraph

variable (g : FlowGraph)

def allowsPath : List PathStep → Bool
  | [] => true
  | x :: path => (g.allowsInto x.node path).isNone && allowsPath path

/-- Somewhere on a path, a step added by the rule leads to a node that is no candidate for one. -/
def leavesCandidates : List PathStep → Bool
  | x :: y :: path =>
    (y.edge = some .additionalStep && !(g.stepCandidates x.node).contains y.node) ||
      leavesCandidates (y :: path)
  | _ => false

variable {g} {r : Rule} {a : Arena} {start id : StateId} {validate : Bool} {fuel : Nat}
  {path steps : List PathStep} {x y : PathStep}

theorem allowsHop_of_mem_moves {n m : FlowNode} {via : EdgeKind} (h : ⟨m, via⟩ ∈ r.moves g n)
    (hk : via ≠ .additionalStep) : g.allowsHop n m via = true := by
  rcases Rule.mem_moves_iff.mp h with hedge | ⟨hvia, -⟩
  · exact Rule.Hop.allowsHop (r := r) (.inl hedge)
  · exact absurd hvia hk

theorem pathBack_eq_ok_iff :
    g.pathBack a validate start (fuel + 1) id path = .ok steps ↔
      ∃ x, a.get? id = some x ∧ g.contains x.key.node = true ∧
        (validate = true → g.allowsInto x.key.node path = none) ∧
        (x.parent = none ∧ steps = ⟨x.key.node, x.via⟩ :: path ∨
          ∃ parent, x.parent = some parent ∧
            g.pathBack a validate start fuel parent (⟨x.key.node, x.via⟩ :: path) = .ok steps) := by
  rw [pathBack_succ]
  cases hx : a.get? id with
  | none => simp
  | some x =>
    simp only [Option.some.injEq, exists_eq_left']
    cases hc : g.contains x.key.node with
    | false => simp
    | true =>
      cases validate with
      | false => cases x.parent <;> simp [eq_comm]
      | true => cases g.allowsInto x.key.node path <;> cases x.parent <;> simp [eq_comm]

theorem allowsPath_of_pathBack (h : g.pathBack a false start fuel id path = .ok steps)
    (hs : g.allowsPath steps = true) : g.allowsPath path = true := by
  induction fuel generalizing id path with
  | zero => cases h
  | succ fuel ih =>
    obtain ⟨x, -, -, -, hrest⟩ := pathBack_eq_ok_iff.mp h
    have hpath : g.allowsPath (⟨x.key.node, x.via⟩ :: path) = true := by
      rcases hrest with ⟨-, rfl⟩ | ⟨parent, -, hrest⟩
      · exact hs
      · exact ih hrest
    exact (Bool.and_eq_true_iff.mp hpath).2

/-- Checking a path hop by hop on the way comes to the same as checking all of it in the end. -/
theorem pathBack_validated_iff (hpath : g.allowsPath path = true) :
    g.pathBack a true start fuel id path = .ok steps ↔
      g.pathBack a false start fuel id path = .ok steps ∧ g.allowsPath steps = true := by
  -- What is behind a node has been checked before it, so that one hop more is to be checked.
  induction fuel generalizing id path with
  | zero => simp [pathBack_zero]
  | succ fuel ih =>
    constructor
    · intro h
      obtain ⟨x, hx, hc, hinto, hrest⟩ := pathBack_eq_ok_iff.mp h
      have hpath' : g.allowsPath (⟨x.key.node, x.via⟩ :: path) = true := by
        simp [allowsPath, hinto rfl, hpath]
      rcases hrest with ⟨hp, rfl⟩ | ⟨parent, hp, hrest⟩
      · exact ⟨pathBack_eq_ok_iff.mpr ⟨x, hx, hc, by simp, .inl ⟨hp, rfl⟩⟩, hpath'⟩
      · obtain ⟨hback, hs⟩ := (ih hpath').mp hrest
        exact ⟨pathBack_eq_ok_iff.mpr ⟨x, hx, hc, by simp, .inr ⟨parent, hp, hback⟩⟩, hs⟩
    · rintro ⟨h, hs⟩
      obtain ⟨x, hx, hc, -, hrest⟩ := pathBack_eq_ok_iff.mp h
      have hpath' : g.allowsPath (⟨x.key.node, x.via⟩ :: path) = true := by
        rcases hrest with ⟨-, rfl⟩ | ⟨parent, -, hrest⟩
        · exact hs
        · exact allowsPath_of_pathBack hrest hs
      have hinto : g.allowsInto x.key.node path = none := by
        simpa using (Bool.and_eq_true_iff.mp hpath').1
      refine pathBack_eq_ok_iff.mpr ⟨x, hx, hc, fun _ ↦ hinto, hrest.imp_right ?_⟩
      rintro ⟨parent, hp, hback⟩
      exact ⟨parent, hp, (ih hpath').mpr ⟨hback, hs⟩⟩

theorem pathTo_validated_iff : g.pathTo a true id = .ok steps ↔
    g.pathTo a false id = .ok steps ∧ g.allowsPath steps = true :=
  pathBack_validated_iff rfl

end FlowGraph

def Rule.Moves (r : Rule) (g : FlowGraph) (x y : PathStep) : Prop :=
  ∀ via, y.edge = some via → ⟨y.node, via⟩ ∈ r.moves g x.node

namespace FlowGraph

variable {g : FlowGraph} {r : Rule} {path : List PathStep} {x y : PathStep}

theorem allowsInto_of_moves (h : r.Moves g x y) : (g.allowsInto x.node (y :: path)).isNone =
    !(y.edge = some .additionalStep && !(g.stepCandidates x.node).contains y.node) := by
  obtain ⟨node, _ | via⟩ := y
  · simp [allowsInto_source]
  · by_cases hk : via = .additionalStep
    · subst hk
      by_cases hc : node ∈ g.stepCandidates x.node <;>
        simp [allowsInto_step, allowsHop_additionalStep, hc]
    · simp [allowsInto_step, allowsHop_of_mem_moves (h via rfl) hk, hk]

theorem allowsPath_of_isChain (h : path.IsChain (r.Moves g)) :
    g.allowsPath path = !g.leavesCandidates path := by
  induction path with
  | nil => rfl
  | cons x path ih =>
    obtain ⟨hx, hpath⟩ := List.isChain_cons.mp h
    cases path with
    | nil => rfl
    | cons y path =>
      rw [allowsPath, leavesCandidates, ih hpath, allowsInto_of_moves (hx y rfl), Bool.not_or]

theorem leavesCandidates_of_isChain (h : path.IsChain (r.Moves g))
    (hs : ∀ n, ∀ m ∈ r.additionalSteps g n, m ∈ g.stepCandidates n) :
    g.leavesCandidates path = false := by
  induction path with
  | nil => rfl
  | cons x path ih =>
    obtain ⟨hx, hpath⟩ := List.isChain_cons.mp h
    cases path with
    | nil => rfl
    | cons y path =>
      have hstep : y.edge = some .additionalStep → y.node ∈ g.stepCandidates x.node := fun hk ↦
        hs _ _ (Rule.mem_additionalSteps_of_mem_moves (hx y rfl _ hk) rfl)
      simpa [leavesCandidates, ih hpath] using hstep

end FlowGraph

theorem Arena.BreadthFirst.isChain_of_pathBack {r : Rule} {g : FlowGraph} {k : Knobs}
    {sources : List FlowNode} {a : Arena} {start id : StateId} {fuel : Nat}
    {path steps : List PathStep} (h : a.BreadthFirst r g k sources)
    (hback : g.pathBack a false start fuel id path = .ok steps) (hpath : path.IsChain (r.Moves g))
    (hinto : ∀ x, a.get? id = some x → ∀ y ∈ path.head?, r.Moves g ⟨x.key.node, x.via⟩ y) :
    steps.IsChain (r.Moves g) := by
  induction fuel generalizing id path with
  | zero => cases hback
  | succ fuel ih =>
    obtain ⟨x, hx, -, -, hrest⟩ := FlowGraph.pathBack_eq_ok_iff.mp hback
    have hpath' := List.isChain_cons.mpr ⟨hinto x hx, hpath⟩
    rcases hrest with ⟨-, rfl⟩ | ⟨pid, hp, hrest⟩
    · exact hpath'
    · refine ih hrest hpath' fun y hy z hz via hvia ↦ ?_
      obtain ⟨parent, via', hget, -, hvia', -, hpass⟩ := h.passes_of_parent hx hp
      rw [hy] at hget
      cases hget
      cases hz
      rw [hvia'] at hvia
      cases hvia
      exact hpass.move

theorem Arena.BreadthFirst.isChain_of_pathTo {r : Rule} {g : FlowGraph} {k : Knobs}
    {sources : List FlowNode} {a : Arena} {id : StateId} {steps : List PathStep}
    (h : a.BreadthFirst r g k sources) (hpath : g.pathTo a false id = .ok steps) :
    steps.IsChain (r.Moves g) :=
  h.isChain_of_pathBack hpath .nil (by simp)

/-- The finding with its path checked: one with a wrong step is given up. -/
def Finding.checked (g : FlowGraph) (f : Finding) : Finding :=
  if g.leavesCandidates f.path then
    { f with path := Collection.fallbackPath f.source f.sink, pathComplete := false }
  else f

theorem FlowGraph.leavesCandidates_fallbackPath {g : FlowGraph} {source sink : FlowNode} :
    g.leavesCandidates (Collection.fallbackPath source sink) = false := by
  unfold Collection.fallbackPath
  split <;> simp [leavesCandidates]

def Evaluation.checked (g : FlowGraph) (ev : Evaluation) : Evaluation :=
  { ev with findings := ev.findings.map (·.checked g) }

theorem Evaluation.checked_eq_self_iff {g : FlowGraph} {ev : Evaluation} :
    ev.checked g = ev ↔ ∀ f ∈ ev.findings, g.leavesCandidates f.path = false := by
  have hmap : ev.checked g = ev ↔ ev.findings.map (·.checked g) = ev.findings.map id := by
    rw [List.map_id, checked]
    exact ⟨fun h ↦ congrArg Evaluation.findings h, fun h ↦ by rw [h]⟩
  rw [hmap, List.map_inj_left]
  refine forall₂_congr fun f _ ↦
    ⟨fun h : f.checked g = f ↦ ?_, fun h ↦ by simp [Finding.checked, h]⟩
  cases hl : g.leavesCandidates f.path with
  | false => rfl
  | true =>
    -- The path would be replaced by one that has no added step.
    rw [Finding.checked, if_pos hl] at h
    rw [← congrArg Finding.path h, FlowGraph.leavesCandidates_fallbackPath] at hl
    cases hl

namespace Pass.Progress.Sound

variable {s : Setup} {sources : List FlowNode} {p : Progress} (h : p.Sound s sources)
  (reached : ReachedSink)
include h

theorem isChain_finding : (Collection.finding (s.withValidation false) p.arena reached).path.IsChain
    (s.rule.Moves s.graph) := by
  cases hpath : s.graph.pathTo p.arena false reached.state with
  | ok steps =>
    rw [Collection.finding_of_ok hpath]
    exact h.forest.isChain_of_pathTo hpath
  | error broken =>
    rw [Collection.finding_of_error hpath]
    simp only [Collection.fallbackPath]
    split <;> simp [Rule.Moves]

theorem finding_validated :
    Collection.finding (s.withValidation true) p.arena reached =
      (Collection.finding (s.withValidation false) p.arena reached).checked s.graph := by
  cases hback : s.graph.pathTo p.arena false reached.state with
  | error broken =>
    rw [Collection.finding_of_error (s := s.withValidation false) hback]
    have herr : ∀ steps, s.graph.pathTo p.arena true reached.state ≠ .ok steps := by
      intro steps he
      rw [(FlowGraph.pathTo_validated_iff.mp he).1] at hback
      cases hback
    cases hv : s.graph.pathTo p.arena true reached.state with
    | ok steps => exact absurd hv (herr steps)
    | error broken =>
      rw [Collection.finding_of_error (s := s.withValidation true) hv]
      simp [Finding.checked, FlowGraph.leavesCandidates_fallbackPath, Setup.withValidation]
  | ok steps =>
    rw [Collection.finding_of_ok (s := s.withValidation false) hback]
    have hchain := h.forest.isChain_of_pathTo hback
    have hallows := FlowGraph.allowsPath_of_isChain hchain
    cases hl : s.graph.leavesCandidates steps with
    | false =>
      have hv := FlowGraph.pathTo_validated_iff.mpr ⟨hback, by rw [hallows, hl]; rfl⟩
      rw [Collection.finding_of_ok (s := s.withValidation true) hv]
      simp [Finding.checked, hl, Setup.withValidation]
    | true =>
      cases hv : s.graph.pathTo p.arena true reached.state with
      | error broken =>
        rw [Collection.finding_of_error (s := s.withValidation true) hv]
        simp [Finding.checked, hl, Setup.withValidation]
      | ok steps' =>
        obtain ⟨hback', hs⟩ := FlowGraph.pathTo_validated_iff.mp hv
        rw [hback] at hback'
        cases hback'
        rw [hallows, hl] at hs
        cases hs

end Pass.Progress.Sound

namespace Engine

variable {e : Engine} {r : Rule} {sources : List FlowNode} {t t' : Tally}

theorem conclude_mapFindings {f : Finding → Finding} :
    e.conclude r sources (t.mapFindings f) = (e.conclude r sources t).map fun ev ↦
      { ev with findings := ev.findings.map f } := by
  simp only [conclude, Tally.mapFindings, Collection.mapFindings, Array.toList_map]
  split
  · rfl
  · split <;> rfl
  · rfl
  · rfl

theorem passes_validated (e : Engine) (r : Rule) (lists : List (List FlowNode)) :
    (e.withValidation true).passes r {} lists =
      ((e.withValidation false).passes r {} lists).mapFindings (Finding.checked e.graph) := by
  have hrun (validate : Bool) (i : Nat) (list : List FlowNode) :
      Pass.run ((e.withValidation validate).setup r i) list = Pass.run (e.setup r i) list := by
    rw [setup_withValidation, Pass.run_withValidation]
  have hempty : Tally.mapFindings (Finding.checked e.graph) {} = {} := by
    simp [Tally.mapFindings, Collection.mapFindings]
  have hfinding (i : Nat) (list : List FlowNode) (_ : list ∈ lists)
      (ha : ∀ fault, (Pass.run ((e.withValidation false).setup r i) list).halt ≠
        some (.fault fault)) (reached : ReachedSink)
      (_ : reached ∈ (Pass.run ((e.withValidation false).setup r i) list).progress.reached.toList) :
      Collection.finding ((e.withValidation true).setup r i)
          (Pass.run ((e.withValidation false).setup r i) list).progress.arena reached =
        (Collection.finding ((e.withValidation false).setup r i)
          (Pass.run ((e.withValidation false).setup r i) list).progress.arena reached).checked
            e.graph := by
    rw [hrun] at ha ⊢
    exact (Pass.run_sound (Pass.Outcome.answered ha)).1.finding_validated reached
  have hsame : (e.withValidation true).passes r
      (Tally.mapFindings (Finding.checked e.graph) {}) lists =
        ((e.withValidation false).passes r {} lists).mapFindings (Finding.checked e.graph) :=
    passes_mapFindings rfl (fun i list ↦ (hrun true i list).trans (hrun false i list).symm) rfl
      hfinding
  rwa [hempty] at hsame

theorem evaluate_validated :
    (e.withValidation true).evaluate r =
      ((e.withValidation false).evaluate r).map (·.checked e.graph) := by
  cases hs : e.sources r with
  | error f =>
    have herr (validate : Bool) : (e.withValidation validate).evaluate r =
        .error (.configuration r.name f.describe) := by
      have hs' : (e.withValidation validate).sources r = .error f := hs
      rw [evaluate, run_of_fault hs']
    rw [herr, herr]
    rfl
  | ok sources =>
    have heval (validate : Bool) : (e.withValidation validate).evaluate r =
        e.conclude r sources ((e.withValidation validate).passes r {} (e.sourceLists sources)) :=
      evaluate_of_sources (e := e.withValidation validate) hs
    rw [heval, heval, e.passes_validated, conclude_mapFindings]
    rfl

theorem isChain_path {ev : Evaluation} (h : (e.withValidation false).evaluate r = .ok ev) :
    ∀ f ∈ ev.findings, f.path.IsChain (r.Moves e.graph) := by
  obtain ⟨sources, hs, hok⟩ := evaluate_eq_ok h
  obtain ⟨hfindings, -, -⟩ := conclude_eq_ok hok
  rw [hfindings]
  refine forall_mem_passes (fun i list _ ha reached _ ↦ ?_) (by simp)
  rw [setup_withValidation, Pass.run_withValidation] at ha ⊢
  exact (Pass.run_sound (Pass.Outcome.answered ha)).1.isChain_finding reached

/-- Evaluating with paths checked comes to the same as checking the path of each finding afterwards.
It changes nothing exactly if no path goes by an added step to a node that is no candidate for one,
and so under every rule that takes its steps from the candidates. -/
theorem evaluate_eq_checked (e : Engine) (r : Rule) :
    (e.withValidation true).evaluate r =
        ((e.withValidation false).evaluate r).map (·.checked e.graph) ∧
      ((e.withValidation true).evaluate r = (e.withValidation false).evaluate r ↔
        ∀ ev, (e.withValidation false).evaluate r = .ok ev →
          ∀ f ∈ ev.findings, e.graph.leavesCandidates f.path = false) ∧
      ((∀ n, ∀ m ∈ r.additionalSteps e.graph n, m ∈ e.graph.stepCandidates n) →
        (e.withValidation true).evaluate r = (e.withValidation false).evaluate r) := by
  have hsame : (e.withValidation true).evaluate r = (e.withValidation false).evaluate r ↔
      ∀ ev, (e.withValidation false).evaluate r = .ok ev →
        ∀ f ∈ ev.findings, e.graph.leavesCandidates f.path = false := by
    rw [evaluate_validated]
    cases (e.withValidation false).evaluate r with
    | error err => simp [Except.map]
    | ok ev => simp [Except.map, Evaluation.checked_eq_self_iff]
  refine ⟨evaluate_validated, hsame, fun hs ↦ hsame.mpr fun ev hev f hf ↦ ?_⟩
  exact FlowGraph.leavesCandidates_of_isChain (isChain_path hev f hf) hs

def jumpingProgram : Program where
  functions := #[⟨⟨0⟩, "main", "jump.rb", [], none, [], default⟩]
  exprs := #[⟨⟨0⟩, ⟨0⟩, default, "secret()", .call { name := "secret" }, []⟩,
    ⟨⟨1⟩, ⟨0⟩, default, "target()", .call { name := "target" }, []⟩]

def jumpingRule : Rule where
  name := "jumping"
  isSource := fun _ n ↦ n = .expr ⟨0⟩
  sinkKind? := fun _ n ↦ if n = .expr ⟨1⟩ then some .network else none
  ownSteps := some fun _ n ↦ if n = .expr ⟨0⟩ then [.expr ⟨1⟩] else []

def jumpingEngine : Engine where
  graph := .ofProgram jumpingProgram
  knobs := { Knobs.ofPreset .balanced with timeoutMs := none }

def jumpingEvaluation (path : List PathStep) (pathComplete : Bool) : Evaluation where
  rule := "jumping"
  sources := [.expr ⟨0⟩]
  findings := [{ rule := "jumping", source := .expr ⟨0⟩, sink := .expr ⟨1⟩, sinkKind := .network
                 path, pathComplete }]
  complete := true
  interruption := none
  stats := { sources := 1, passes := 1, states := 2, edges := 1, additionalSteps := 1 }

theorem evaluate_jumping :
    (jumpingEngine.withValidation true).evaluate jumpingRule =
        .ok (jumpingEvaluation [⟨.expr ⟨0⟩, none⟩, ⟨.expr ⟨1⟩, none⟩] false) ∧
      (jumpingEngine.withValidation false).evaluate jumpingRule =
        .ok (jumpingEvaluation [⟨.expr ⟨0⟩, none⟩, ⟨.expr ⟨1⟩, some .additionalStep⟩] true) := by
  have hnodes : jumpingEngine.graph.nodes = [.expr ⟨0⟩, .expr ⟨1⟩, .returned ⟨0⟩] :=
    FlowGraph.nodes_of_empty rfl rfl
  have hs : jumpingEngine.sources jumpingRule = .ok [.expr ⟨0⟩] := by
    rw [Engine.sources, hnodes]
    cbv
  have hs' (validate : Bool) :
      (jumpingEngine.withValidation validate).sources jumpingRule = .ok [.expr ⟨0⟩] := hs
  constructor
  · rw [evaluate_of_sources (hs' true)]
    cbv
  · rw [evaluate_of_sources (hs' false)]
    cbv

/-- A rule may add a step to any node of the graph, but not every such step passes for one when
paths are checked. -/
theorem not_forall_findings_validated :
    ¬ ∀ (e : Engine) (r : Rule) (ev ev' : Evaluation), e.graph.program.validate = .ok () →
      r.StaysIn e.graph → e.knobs.timeoutMs = none →
      (e.withValidation true).evaluate r = .ok ev → (e.withValidation false).evaluate r = .ok ev' →
      ev.findings = ev'.findings := by
  intro hsame
  have hv : jumpingEngine.graph.program.validate = .ok () := by cbv
  have hstays : jumpingRule.StaysIn jumpingEngine.graph := by
    intro n m hm
    simp only [jumpingRule, Rule.additionalSteps] at hm
    split at hm
    · rw [List.mem_singleton.mp hm]
      rfl
    · cases hm
  have hfindings := hsame _ _ _ _ hv hstays rfl evaluate_jumping.1 evaluate_jumping.2
  exact absurd hfindings (by decide)

end Engine

end TaintFlow
