import TaintFlow.Taint.Engine

namespace TaintFlow

namespace FlowGraph

variable {g : FlowGraph} {a : Arena} {validate : Bool} {start id : StateId}

theorem allowsHop_additionalStep {source target : FlowNode} :
    g.allowsHop source target .additionalStep = (g.stepCandidates source).contains target := rfl

theorem allowsHop_of_ne {source target : FlowNode} {kind : EdgeKind} (h : kind ≠ .additionalStep) :
    g.allowsHop source target kind = g.hasEdge source target kind := by
  cases kind <;> first | rfl | exact absurd rfl h

theorem allowsInto_nil {n : FlowNode} : g.allowsInto n [] = none := rfl

theorem allowsInto_source {n target : FlowNode} {path : List PathStep} :
    g.allowsInto n (⟨target, none⟩ :: path) = none := rfl

theorem allowsInto_step {n target : FlowNode} {kind : EdgeKind} {path : List PathStep} :
    g.allowsInto n (⟨target, some kind⟩ :: path) =
      if g.allowsHop n target kind then none else some (.missingEdge kind n target) := by
  rw [allowsInto, intoQuery, Query.onGraph_bind, allowsHop]
  by_cases h : (g.hopQuery n target kind).onGraph g = true
  · rw [if_pos h, if_pos h, Query.onGraph_pure]
  · rw [if_neg h, if_neg h, Query.onGraph_pure]

theorem onGraph_checkQuery (n : FlowNode) (path : List PathStep) :
    (g.checkQuery validate n path).onGraph g = if validate then g.allowsInto n path else none := by
  cases validate <;> rfl

theorem pathBack_zero {path : List PathStep} :
    g.pathBack a validate start 0 id path = .error (.endless start) := rfl

theorem pathBack_succ {fuel : Nat} {path : List PathStep} :
    g.pathBack a validate start (fuel + 1) id path = match a.get? id with
      | none => .error (.unknownState id)
      | some x =>
        if !g.contains x.key.node then .error (.foreignNode x.key.node)
        else match if validate then g.allowsInto x.key.node path else none with
          | some broken => .error broken
          | none => match x.parent with
            | none => .ok (⟨x.key.node, x.via⟩ :: path)
            | some parent =>
              g.pathBack a validate start fuel parent (⟨x.key.node, x.via⟩ :: path) := by
  rw [pathBack, pathBackQuery]
  cases a.get? id with
  | none => rfl
  | some x =>
    dsimp only
    split
    · rfl
    · rw [Query.onGraph_bind, onGraph_checkQuery]
      cases if validate then g.allowsInto x.key.node path else none with
      | some broken => rfl
      | none => cases x.parent <;> rfl

theorem pathTo_eq : g.pathTo a validate id = g.pathBack a validate id (a.size + 1) id [] := rfl

end FlowGraph

namespace Pass

def Outcome.result (o : Outcome) : Except Halt Unit :=
  match o.halt with
  | none => .ok ()
  | some halt => .error halt

theorem Outcome.eq_of_result {o o' : Outcome} (h : o.result = o'.result)
    (hp : o.progress = o'.progress) : o = o' := by
  obtain ⟨p, _ | halt⟩ := o <;> obtain ⟨p', _ | halt'⟩ := o' <;> cases h <;> cases hp <;> rfl

namespace Stretch

variable {s : Setup} {x : Stretch Unit} {p : Progress}

/-- Where the edges asked for are those of the graph. -/
def expand (s : Setup) (id : StateId) (key : TaintKey) : Stretch Unit :=
  expandAlong s id key (s.graph.successors key.node)

def expandAll (s : Setup) (fuel : Nat) : Stretch Unit := fun p ↦
  let o := (expandAllQuery s fuel p).onGraph s.graph
  (o.result, o.progress)

def run (s : Setup) (sources : List FlowNode) : Stretch Unit := do
  start s sources
  expandAll s (fuel s sources)

theorem apply_eq : x p = ((x.outcome p).result, (x.outcome p).progress) := by
  unfold outcome StateT.run ExceptT.run
  rcases x p with ⟨_ | _, _⟩ <;> rfl

theorem bind_apply {f : Unit → Stretch Unit} : (x >>= f) p =
    if (x.outcome p).halt.isSome then x p else f () (x.outcome p).progress := by
  have hbind : (x >>= f) p = ExceptT.bindCont f (x p).1 (x p).2 := rfl
  rw [hbind]
  unfold outcome StateT.run ExceptT.run
  rcases x p with ⟨_ | _, _⟩ <;> rfl

theorem get_bind_apply {f : Progress → Stretch Unit} : (get >>= f) p = f p p := rfl

theorem expandAll_apply {fuel : Nat} : expandAll s fuel p =
    (((expandAllQuery s fuel p).onGraph s.graph).result,
      ((expandAllQuery s fuel p).onGraph s.graph).progress) := rfl

theorem expandAll_succ {fuel : Nat} : expandAll s (fuel + 1) = (do
    let p ← get
    if let some x := p.arena.get? ⟨p.expanded⟩ then
      if (p.expanded + 1) % checkInterval = 0 then check s (p.expanded + 1)
      expand s ⟨p.expanded⟩ x.key
      expandAll s fuel) := by
  funext p
  rw [expandAll_apply, get_bind_apply]
  rw [expandAllQuery]
  cases p.arena.get? ⟨p.expanded⟩ with
  | none => rfl
  | some x =>
    have hgo : (do expand s ⟨p.expanded⟩ x.key; expandAll s fuel : Stretch Unit) p =
        let o := (expand s ⟨p.expanded⟩ x.key).outcome p
        let o' := (if o.halt.isSome then return o
          else expandAllQuery s fuel o.progress : Query Outcome).onGraph s.graph
        (o'.result, o'.progress) := by
      rw [bind_apply]
      dsimp only
      split
      · exact apply_eq
      · rfl
    by_cases hmod : (p.expanded + 1) % checkInterval = 0
    · cases hc : s.budget.interruption? (p.expanded + 1) with
      | some cause =>
        simp only [Setup.check?, if_pos hmod, hc, check]
        rfl
      | none =>
        simp only [Setup.check?, if_pos hmod, hc, check]
        exact hgo.symm
    · simp only [Setup.check?, if_neg hmod]
      exact hgo.symm

end Stretch

/-- A pass ends as the stretch does that it takes where the edges are those of the graph. -/
theorem apply_run {s : Setup} {sources : List FlowNode} :
    Stretch.run s sources {} = ((run s sources).result, (run s sources).progress) := by
  rw [Stretch.run, Stretch.bind_apply, run, query]
  split
  · exact Stretch.apply_eq
  · rfl

end Pass

namespace Collection

variable {s : Pass.Setup} {a : Arena} {r : ReachedSink} {c : Collection}
  {hidden : ReachedSink → Except Fault Bool} {rest : List ReachedSink}

theorem finding_of_ok {path : List PathStep}
    (h : s.graph.pathTo a s.knobs.validatePaths r.state = .ok path) :
    finding s a r = { rule := s.rule.name, source := r.source, sink := r.sink, sinkKind := r.kind
                      path, pathComplete := true } := by
  unfold FlowGraph.pathTo at h
  simp only [finding, findingQuery, Query.onGraph_bind, h, Query.onGraph_pure]

theorem finding_of_error {broken : BrokenPath}
    (h : s.graph.pathTo a s.knobs.validatePaths r.state = .error broken) :
    finding s a r = { rule := s.rule.name, source := r.source, sink := r.sink, sinkKind := r.kind
                      path := fallbackPath r.source r.sink, pathComplete := false } := by
  unfold FlowGraph.pathTo at h
  simp only [finding, findingQuery, Query.onGraph_bind, h, Query.onGraph_pure]

theorem addAll_nil : addAll s a hidden c [] = c := rfl

theorem addAll_of_fault {f : Fault} (h : hidden r = .error f) :
    addAll s a hidden c (r :: rest) = { c with fault := some f } := by
  simp only [addAll, addAllQuery, h, Query.onGraph_pure]

theorem addAll_of_hidden (h : hidden r = .ok true) : addAll s a hidden c (r :: rest) =
    addAll s a hidden { c with suppressed := c.suppressed + 1 } rest := by
  simp only [addAll, addAllQuery, h]

theorem addAll_of_shown (h : hidden r = .ok false) : addAll s a hidden c (r :: rest) =
    if c.seen.contains (r.source, r.sink, r.kind) then addAll s a hidden c rest
    else if s.knobs.maxFindings ≤ c.findings.size then
      { c with seen := c.seen.insert (r.source, r.sink, r.kind), truncated := true }
    else
      addAll s a hidden
        { c with
          seen := c.seen.insert (r.source, r.sink, r.kind)
          findings := c.findings.push (finding s a r) } rest := by
  simp only [addAll, addAllQuery, h]
  split
  · rfl
  · split
    · rfl
    · rw [Query.onGraph_bind]
      rfl

theorem addPass_eq {p : Pass.Progress} : c.addPass s p = addAll s p.arena
    (fun r ↦ s.rule.hides s.graph r.kind
      ((Grouping.ofList (p.reached.toList.map fun r ↦ (r.root, r.kind))).get r.root))
    c p.reached.toList := rfl

end Collection

end TaintFlow
