import TaintFlow.Taint.Session
import TaintFlow.Proofs.Flow.Memory
import TaintFlow.Proofs.Taint.Asked

namespace TaintFlow

namespace Engine

variable {e : Engine} {r : Rule} {rules : List Rule} {seen : List String} {i : Nat} {n : FlowNode}

theorem runAll_cons : e.runAll (r :: rules) seen =
    (r.name, if r.name ∈ seen then ⟨.error (repeatedRuleError r.name), []⟩ else e.run r) ::
      e.runAll rules (r.name :: seen) := by
  rw [runAll, queries, List.map_cons, ← runAll, List.contains_eq_mem]
  by_cases hseen : r.name ∈ seen
  · simp [hseen]
  · simp [hseen, run]

/-- A rule has the outcome that it has alone, unless its name has come before. -/
theorem getElem?_runAll (h : rules[i]? = some r) : (e.runAll rules seen)[i]? = some (r.name,
    if r.name ∈ seen ∨ r.name ∈ (rules.take i).map (·.name) then
      ⟨.error (repeatedRuleError r.name), []⟩
    else e.run r) := by
  induction rules generalizing seen i with
  | nil => cases h
  | cons first rest ih =>
    rw [runAll_cons]
    cases i with
    | zero =>
      cases h
      simp
    | succ i =>
      have hrest := @ih (first.name :: seen) i h
      rw [List.getElem?_cons_succ, hrest]
      simp only [List.take_succ_cons, List.map_cons, List.mem_cons]
      congr 3
      exact propext (by tauto)

theorem length_runAll : (e.runAll rules seen).length = rules.length := by
  induction rules generalizing seen with
  | nil => rfl
  | cons r rest ih => rw [runAll_cons, List.length_cons, ih, List.length_cons]

theorem mem_asked_iff_of_mem_queries {q : String × Query Run} (h : q ∈ e.queries rules seen) :
    n ∈ q.2.asked e.graph ↔ n ∈ (q.2.onGraph e.graph).expanded := by
  induction rules generalizing seen with
  | nil => cases h
  | cons r rest ih =>
    rcases List.mem_cons.mp h with rfl | hrest
    · cases seen.contains r.name with
      | true => exact Iff.rfl
      | false => exact mem_asked_query_iff
    · exact ih hrest

theorem length_evaluateAll : (e.evaluateAll rules).length = rules.length := by
  rw [evaluateAll, List.length_map, length_runAll]

theorem getElem?_evaluateAll (h : rules[i]? = some r) :
    (e.evaluateAll rules)[i]? = some (r.name,
      if r.name ∈ (rules.take i).map (·.name) then .error (repeatedRuleError r.name)
      else e.evaluate r) := by
  rw [evaluateAll, List.getElem?_map, getElem?_runAll h]
  simp only [List.not_mem_nil, false_or, Option.map_some]
  split <;> rfl

theorem evaluateAllOn_remembers {c : SuccessorCache} {before : Set FlowNode}
    (h : c.Remembers e.graph before) (rules : List Rule) (turns : List Nat) :
    (e.evaluateAllOn rules turns c).1 = e.evaluateAll rules ∧
      (e.evaluateAllOn rules turns c).2.Remembers e.graph
        (before ∪ {n | n ∈ (e.runAll rules []).flatMap (·.2.expanded)}) := by
  let tasks := (e.queries rules []).map fun q ↦ Task.running q.2
  obtain ⟨hanswers, hafter⟩ :=
    Task.runAll_remembers h (if e.knobs.parallel then turns else []) tasks
  refine ⟨?_, hafter.congr fun n ↦ ?_⟩
  · have hzip : (e.evaluateAllOn rules turns c).1 = ((e.queries rules []).map (·.1)).zip
        ((Task.runAll (if e.knobs.parallel then turns else []) tasks c).1.map (·.outcome)) := rfl
    rw [hzip, hanswers, List.map_map, List.map_map, List.zip_map', evaluateAll, runAll,
      List.map_map]
    rfl
  · simp only [tasks, runAll, List.flatMap_map, Set.mem_union, Set.mem_ofPred_eq, List.mem_flatMap]
    refine or_congr_right (exists_congr fun q ↦ and_congr_right fun hq ↦ ?_)
    exact mem_asked_iff_of_mem_queries hq

end Engine

namespace Request

variable {c : SuccessorCache} {g : FlowGraph} {before : Set FlowNode}

/-- The reply that the graph gives. -/
def reply (g : FlowGraph) : Request → Reply
  | successors n => .edges (g.successors n)
  | predecessors n => .edges (g.predecessors n)
  | hasEdge source target kind => .found (g.hasEdge source target kind)
  | warm _ => .done
  | evaluate t r => .outcome ((engine g t).evaluate r)
  | evaluateAll t rules _ => .outcomes ((engine g t).evaluateAll rules)

/-- The nodes whose edges a request asks for. An evaluation asks for those that it expands. -/
def asked (g : FlowGraph) : Request → List FlowNode
  | successors n => [n]
  | predecessors _ => g.nodes
  | hasEdge source _ _ => [source]
  | warm _ => g.nodes
  | evaluate t r => ((engine g t).run r).expanded
  | evaluateAll t rules _ => ((engine g t).runAll rules []).flatMap (·.2.expanded)

def needsAll : Request → Bool
  | predecessors _ | warm _ => true
  | _ => false

theorem warm_remembers (h : c.Remembers g before) (turns : List Nat) :
    ((warm turns).serve c).2.Remembers g (before ∪ {n | n ∈ g.nodes}) := by
  obtain ⟨-, hafter⟩ := Task.runAll_remembers h turns
    (g.nodes.map fun n ↦ Task.running (Query.successors n))
  rw [serve, h.graph_eq]
  refine hafter.reverseEdges.2.congr fun n ↦ ?_
  simp only [Set.mem_union, Set.mem_ofPred_eq, List.mem_flatMap, List.mem_map]
  constructor
  · rintro ((hn | ⟨t, ⟨m, hm, rfl⟩, hn⟩) | hn)
    · exact .inl hn
    · have hmn : n = m := by simpa [Task.pending] using hn
      exact .inr (hmn ▸ hm)
    · exact .inr hn
  · rintro (hn | hn)
    · exact .inl (.inl hn)
    · exact .inr hn

theorem serve_remembers (h : c.Remembers g before) (q : Request) : (q.serve c).1 = q.reply g ∧
    (q.serve c).2.Remembers g (before ∪ {n | n ∈ q.asked g}) := by
  cases q with
  | successors n =>
    obtain ⟨hedges, hafter⟩ := h.successors n
    refine ⟨congrArg Reply.edges hedges, hafter.congr fun m ↦ ?_⟩
    simp [asked, or_comm]
  | predecessors n =>
    obtain ⟨hedges, hafter⟩ := h.predecessors n
    exact ⟨congrArg Reply.edges hedges, hafter⟩
  | hasEdge source target kind =>
    obtain ⟨hfound, hafter⟩ := h.hasEdge source target kind
    refine ⟨congrArg Reply.found hfound, hafter.congr fun m ↦ ?_⟩
    simp [asked, or_comm]
  | warm turns => exact ⟨rfl, warm_remembers h turns⟩
  | evaluate t r =>
    obtain ⟨hrun, hafter⟩ := h.run ((engine g t).query r)
    rw [serve, h.graph_eq]
    refine ⟨congrArg (Reply.outcome ·.outcome) hrun, hafter.congr fun n ↦ ?_⟩
    exact or_congr_right (Engine.mem_asked_query_iff (e := engine g t))
  | evaluateAll t rules turns =>
    obtain ⟨houtcomes, hafter⟩ := Engine.evaluateAllOn_remembers (e := engine g t) h rules turns
    rw [serve, h.graph_eq]
    exact ⟨congrArg Reply.outcomes houtcomes, hafter⟩

theorem serveAll_remembers (h : c.Remembers g before) (past : List Request) :
    (serveAll c past).Remembers g (before ∪ {n | n ∈ past.flatMap (·.asked g)}) := by
  induction past generalizing c before with
  | nil => exact h.congr fun n ↦ by simp
  | cons q past ih =>
    refine (ih (serve_remembers h q).2).congr fun n ↦ ?_
    simp only [Set.mem_union, Set.mem_ofPred_eq, List.flatMap_cons, List.mem_append]
    tauto

theorem mem_asked_of_needsAll {q : Request} {n : FlowNode} (h : q.needsAll = true)
    (hn : n ∈ g.nodes) : n ∈ q.asked g := by
  cases q <;> first | exact hn | cases h

end Request

end TaintFlow
