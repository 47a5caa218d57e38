import TaintFlow.Flow.Cache
import TaintFlow.Taint.Evaluation
import TaintFlow.Taint.Registry

namespace TaintFlow

/-- Whether a rule has been cancelled, and how much time is gone, by the time that a pass of it has
expanded so many states. Passes are numbered from 0. -/
structure Clock where
  cancelled : Nat → Nat → Bool := fun _ _ ↦ false
  elapsedMs : Nat → Nat → Nat := fun _ _ ↦ 0

/-- What rules are evaluated under, with a clock for each rule by its name. -/
structure Terms where
  knobs : Knobs
  cancelled : Bool := false
  clock : String → Clock := fun _ ↦ {}

structure Engine extends Terms where
  graph : FlowGraph

/-- What came of a rule, and the nodes whose states it expanded. -/
structure Run where
  outcome : Except TaintError Evaluation
  expanded : List FlowNode

namespace Engine

def checkProgram (p : Program) : Except TaintError Unit :=
  match p.validate with
  | .ok () => .ok ()
  | .error failed => .error (.invalidGraph failed.complaint)

def readProgram (text : String) : Except TaintError Program := do
  let some p := Program.ofText? text | throw (.malformedJson "not a program")
  checkProgram p
  return p

/-- The engine for a well-formed program and knobs in range; the program is looked at first. -/
def ofProgram (p : Program) (k : Knobs) : Except TaintError Engine := do
  checkProgram p
  match k.validate with
  | .ok () => return { graph := .ofProgram p, knobs := k }
  | .error e => .error (.settings e)

structure Tally where
  collection : Collection := {}
  stats : EvaluationStats := {}
  expanded : List FlowNode := []
  halt : Option Halt := none

namespace Tally

/-- Takes in a pass. Its findings are collected unless it broke off, and the rule may break off over
that as well. -/
def addPassQuery (s : Pass.Setup) (o : Pass.Outcome) (t : Tally) : Query Tally :=
  let t := { t with
    stats := t.stats.addPass o.progress
    expanded := t.expanded ++ o.expandedNodes
    halt := o.halt }
  match o.halt with
  | some (.foreignStep _ _) | some (.fault _) => return t
  | none | some (.interrupted _) => do
    let collection ← t.collection.addPassQuery s o.progress
    return { t with collection, halt := (collection.fault.map .fault).or o.halt }

def addPass (s : Pass.Setup) (o : Pass.Outcome) (t : Tally) : Tally :=
  (t.addPassQuery s o).onGraph s.graph

end Tally

variable (e : Engine)

def setup (r : Rule) (pass : Nat := 0) : Pass.Setup where
  graph := e.graph
  rule := r
  knobs := e.knobs
  budget := {
    limitMs := e.knobs.timeoutMs
    cancelled := fun expanded ↦ e.cancelled || (e.clock r.name).cancelled pass expanded
    elapsedMs := (e.clock r.name).elapsedMs pass }

/-- The nodes that are sources of the rule, or the first fault met in asking. -/
def sources (r : Rule) : Except Fault (List FlowNode) :=
  match e.graph.nodes.findSome? fun n ↦ r.fault? e.graph (.source n) with
  | some f => .error f
  | none => .ok (e.graph.nodes.filter (r.isSource e.graph))

def sourceLists (sources : List FlowNode) : List (List FlowNode) :=
  match e.knobs.attribution with
  | .perSource => sources.map ([·])
  | .shared => [sources]

def foreignStepError (rule : String) (source target : FlowNode) : TaintError :=
  .configuration rule <|
    s!"additional step from {source} targets {target}, " ++ "which is not part of the flow graph"

def conclude (r : Rule) (sources : List FlowNode) (t : Tally) : Except TaintError Evaluation :=
  let stats := { t.stats with
    sources := sources.length, suppressed := t.collection.suppressed }
  let result : Evaluation :=
    { rule := r.name, sources, findings := t.collection.findings.toList
      complete := !t.collection.truncated, interruption := none, stats }
  match t.halt with
  | none => .ok result
  | some (.interrupted cause) =>
    let error := TaintError.interrupted r.name cause
    if e.knobs.partialResults then
      .ok { result with complete := false, interruption := some error.message }
    else .error error
  | some (.foreignStep source target) => .error (foreignStepError r.name source target)
  | some (.fault f) => .error (.configuration r.name f.describe)

/-- A pass for each list of sources, until one halts or there are too many findings. -/
def passesQuery (r : Rule) (t : Tally) : List (List FlowNode) → Query Tally
  | [] => return t
  | sources :: rest => do
    let s := e.setup r t.stats.passes
    let t ← t.addPassQuery s (← Pass.query s sources)
    if t.halt.isSome || t.collection.truncated then return t
    passesQuery r t rest

def passes (r : Rule) (t : Tally) (lists : List (List FlowNode)) : Tally :=
  (e.passesQuery r t lists).onGraph e.graph

def query (r : Rule) : Query Run :=
  match e.sources r with
  | .error f => return ⟨.error (.configuration r.name f.describe), []⟩
  | .ok sources => do
    let t ← e.passesQuery r {} (e.sourceLists sources)
    return ⟨e.conclude r sources t, t.expanded⟩

def run (r : Rule) : Run :=
  (e.query r).onGraph e.graph

def evaluate (r : Rule) : Except TaintError Evaluation :=
  (e.run r).outcome

def repeatedRuleError (rule : String) : TaintError :=
  .configuration rule "another rule with this name was already evaluated"

/-- Each rule under its name. One whose name has come before is refused, and not run. -/
def queries : List Rule → List String → List (String × Query Run)
  | [], _ => []
  | r :: rest, seen =>
    let q :=
      if seen.contains r.name then return ⟨.error (repeatedRuleError r.name), []⟩ else e.query r
    (r.name, q) :: queries rest (r.name :: seen)

def runAll (rules : List Rule) (seen : List String) : List (String × Run) :=
  (e.queries rules seen).map fun q ↦ (q.1, q.2.onGraph e.graph)

def evaluateAll (rules : List Rule) : List (String × Except TaintError Evaluation) :=
  (e.runAll rules []).map fun (name, run) ↦ (name, run.outcome)

/-- Evaluates rules on a memory that they share. Side by side they take the turns listed as long as
there are any. -/
def evaluateAllOn (rules : List Rule) (turns : List Nat) (c : SuccessorCache) :
    List (String × Except TaintError Evaluation) × SuccessorCache :=
  let queries := e.queries rules []
  let tasks := queries.map fun q ↦ Task.running q.2
  let (runs, c) := Task.runAll (if e.knobs.parallel then turns else []) tasks c
  ((queries.map (·.1)).zip (runs.map (·.outcome)), c)

def runRegistry (reg : Registry) (names : Option (List String)) :
    Except SettingsError (List (String × Run)) :=
  match names with
  | some names => (reg.select names).map (e.runAll · [])
  | none => .ok (e.runAll reg.rules [])

end Engine

end TaintFlow
