import TaintFlow.Taint.Finding
import TaintFlow.Taint.Pass

namespace TaintFlow

structure EvaluationStats where
  sources : Nat := 0
  passes : Nat := 0
  states : Nat := 0
  edges : Nat := 0
  additionalSteps : Nat := 0
  sanitized : Nat := 0
  suppressed : Nat := 0
  elapsedMs : Nat := 0
deriving DecidableEq, Repr

namespace EvaluationStats

def counts (s : EvaluationStats) : List (String × Json) :=
  [("sources", .natural s.sources), ("passes", .natural s.passes), ("states", .natural s.states),
   ("edges_traversed", .natural s.edges), ("additional_steps", .natural s.additionalSteps),
   ("sanitized", .natural s.sanitized), ("suppressed", .natural s.suppressed)]

def toJson (s : EvaluationStats) : Json :=
  .object (s.counts ++ [("elapsed_ms", .natural s.elapsedMs)])

def ofJson? (j : Json) : Option EvaluationStats := do
  let fields ← j.fields? ["sources", "passes", "states", "edges_traversed", "additional_steps",
    "sanitized", "suppressed", "elapsed_ms"] false
  let count name := fields.required name (Json.below? UInt64.size)
  return { sources := ← count "sources"
           passes := ← count "passes"
           states := ← count "states"
           edges := ← count "edges_traversed"
           additionalSteps := ← count "additional_steps"
           sanitized := ← count "sanitized"
           suppressed := ← count "suppressed"
           elapsedMs := ← count "elapsed_ms" }

def addPass (s : EvaluationStats) (p : Pass.Progress) : EvaluationStats :=
  { s with
    passes := s.passes + 1
    states := s.states + p.arena.size
    edges := s.edges + p.edges
    additionalSteps := s.additionalSteps + p.additional
    sanitized := s.sanitized + p.sanitized }

end EvaluationStats

structure Evaluation where
  rule : String
  /-- Every source, also those that are blocked. -/
  sources : List FlowNode
  findings : List Finding
  /-- Cleared when the evaluation was interrupted, or reached its limit of findings. -/
  complete : Bool
  interruption : Option String
  stats : EvaluationStats
deriving DecidableEq, Repr

abbrev FlowPair := FlowNode × FlowNode × SinkKind

def FlowPair.le (a b : FlowPair) : Bool :=
  ((compare a.1 b.1).then ((compare a.2.1 b.2.1).then (compare a.2.2 b.2.2))).isLE

namespace Evaluation

def pairs (e : Evaluation) : List FlowPair :=
  ((e.findings.map fun f ↦ ((f.source, f.sink, f.sinkKind) : FlowPair)).eraseDups).mergeSort
    FlowPair.le

def findingsOfKind (e : Evaluation) (kind : SinkKind) : List Finding :=
  e.findings.filter (·.sinkKind = kind)

def isEmpty (e : Evaluation) : Bool :=
  e.findings.isEmpty

def toJson (e : Evaluation) : Json :=
  .object <| [("rule", .string e.rule), ("sources", .ofList FlowNode.toJson e.sources),
    ("findings", .ofList Finding.toJson e.findings), ("complete", .bool e.complete)] ++
    e.interruption.toList.map (fun text ↦ ("interruption", .string text)) ++
    [("stats", e.stats.toJson)]

def ofJson? (j : Json) : Option Evaluation := do
  let fields ←
    j.fields? ["rule", "sources", "findings", "complete", "interruption", "stats"] false
  return { rule := ← fields.required "rule" Json.string?
           sources := ← fields.required "sources" (Json.list? FlowNode.ofJson?)
           findings := ← fields.required "findings" (Json.list? Finding.ofJson?)
           complete := ← fields.required "complete" Json.bool?
           interruption := ← fields.nullable "interruption" Json.string?
           stats := ← fields.required "stats" EvaluationStats.ofJson? }

end Evaluation

structure Collection where
  seen : Std.HashSet FlowPair := ∅
  findings : Array Finding := #[]
  suppressed : Nat := 0
  truncated : Bool := false
  /-- What the rule broke off with when it was asked whether a sink is hidden. -/
  fault : Option Fault := none

namespace Collection

def fallbackPath (source sink : FlowNode) : List PathStep :=
  ⟨source, none⟩ :: if sink = source then [] else [⟨sink, none⟩]

variable (s : Pass.Setup) (a : Arena)

def findingQuery (r : ReachedSink) : Query Finding := do
  let (path, complete) := match ← s.graph.pathQuery a s.knobs.validatePaths r.state with
    | .ok path => (path, true)
    | .error _ => (fallbackPath r.source r.sink, false)
  return { rule := s.rule.name, source := r.source, sink := r.sink, sinkKind := r.kind, path
           pathComplete := complete }

/-- Goes through sinks in the order reached. Hidden ones are counted, repeated ones passed over,
and at the first one over the limit, or the first that the rule fails to tell about, the rest is
left. -/
def addAllQuery (hidden : ReachedSink → Except Fault Bool) (c : Collection) :
    List ReachedSink → Query Collection
  | [] => return c
  | r :: rest =>
    match hidden r with
    | .error f => return { c with fault := some f }
    | .ok true => addAllQuery hidden { c with suppressed := c.suppressed + 1 } rest
    | .ok false =>
      if c.seen.contains (r.source, r.sink, r.kind) then addAllQuery hidden c rest
      else if s.knobs.maxFindings ≤ c.findings.size then
        return { c with seen := c.seen.insert (r.source, r.sink, r.kind), truncated := true }
      else do
        let f ← findingQuery s a r
        addAllQuery hidden
          { c with
            seen := c.seen.insert (r.source, r.sink, r.kind)
            findings := c.findings.push f } rest

/-- Adds what a pass has reached. A sink is hidden when the rule says that a kind of sink reached
from the same root hides its kind. -/
def addPassQuery (p : Pass.Progress) (c : Collection) : Query Collection :=
  let kinds := Grouping.ofList (p.reached.toList.map fun r ↦ (r.root, r.kind))
  let hidden r := s.rule.hides s.graph r.kind (kinds.get r.root)
  addAllQuery s p.arena hidden c p.reached.toList

def finding (r : ReachedSink) : Finding :=
  (findingQuery s a r).onGraph s.graph

def addAll (hidden : ReachedSink → Except Fault Bool) (c : Collection) (rs : List ReachedSink) :
    Collection :=
  (addAllQuery s a hidden c rs).onGraph s.graph

def addPass (p : Pass.Progress) (c : Collection) : Collection :=
  (c.addPassQuery s p).onGraph s.graph

end Collection

end TaintFlow
