import TaintFlow.Taint.Rule
import TaintFlow.Taint.Witness

namespace TaintFlow

structure Finding where
  rule : String
  source : FlowNode
  sink : FlowNode
  sinkKind : SinkKind
  path : List PathStep
  /-- Cleared when the path could not be given and only its ends are named. -/
  pathComplete : Bool
deriving DecidableEq, Repr

/-- Fills in a template from left to right. An opening brace begins a placeholder if the text up to
the next closing brace is the name of one; else, or if nothing is closed any more, it stands for
itself. The first `skip` characters are dropped. -/
def Template.fill (value? : String → Option String) : List Char → Nat → List Char
  | [], _ => []
  | _ :: cs, skip + 1 => fill value? cs skip
  | c :: cs, 0 =>
    if c ≠ '\x7b' then c :: fill value? cs 0
    else if '\x7d' ∉ cs then c :: cs
    else
      let name := cs.takeWhile (· ≠ '\x7d')
      match value? (String.ofList name) with
      | some value => value.toList ++ fill value? cs (name.length + 1)
      | none => c :: fill value? cs 0

namespace Finding

def toJson (f : Finding) : Json :=
  .object [("rule", .string f.rule), ("source", f.source.toJson), ("sink", f.sink.toJson),
    ("sink_kind", f.sinkKind.toJson), ("path", .ofList PathStep.toJson f.path),
    ("path_complete", .bool f.pathComplete)]

def ofJson? (j : Json) : Option Finding := do
  let fields ←
    j.fields? ["rule", "source", "sink", "sink_kind", "path", "path_complete"] false
  return { rule := ← fields.required "rule" Json.string?
           source := ← fields.required "source" FlowNode.ofJson?
           sink := ← fields.required "sink" FlowNode.ofJson?
           sinkKind := ← fields.required "sink_kind" SinkKind.ofJson?
           path := ← fields.required "path" (Json.list? PathStep.ofJson?)
           pathComplete := ← fields.required "path_complete" Json.bool? }

def nodes (f : Finding) : List FlowNode :=
  f.path.map (·.node)

variable (f : Finding) (g : FlowGraph)

def locationText (n : FlowNode) : String :=
  ((g.location? n).map toString).getD "<unknown>"

def placeholders : List (String × String) :=
  [("source", g.describe f.source), ("sink", g.describe f.sink),
   ("source_location", locationText g f.source), ("sink_location", locationText g f.sink),
   ("sink_kind", toString f.sinkKind), ("rule", f.rule)]

/-- The template with its placeholders, which stand in braces, filled in. What is filled in is not
searched again. -/
def render (template : String) : String :=
  String.ofList (Template.fill (fun name ↦ (f.placeholders g).lookup name) template.toList 0)

end Finding

structure NodeReport where
  node : FlowNode
  text : String
  location : Option String
  edge : Option EdgeKind
deriving DecidableEq, Repr

namespace NodeReport

def ofNode (g : FlowGraph) (n : FlowNode) (edge : Option EdgeKind) : NodeReport where
  node := n
  text := g.describe n
  location := (g.location? n).map toString
  edge := edge

def toJson (n : NodeReport) : Json :=
  .object <| [("node", n.node.toJson), ("text", .string n.text),
    ("location", .ofOption .string n.location)] ++
    n.edge.toList.map fun edge ↦ ("edge", edge.toJson)

end NodeReport

structure FindingReport where
  rule : String
  sinkKind : SinkKind
  message : String
  source : NodeReport
  sink : NodeReport
  path : List NodeReport
  pathComplete : Bool
deriving DecidableEq, Repr

def Finding.report (f : Finding) (g : FlowGraph) (template : String) : FindingReport where
  rule := f.rule
  sinkKind := f.sinkKind
  message := f.render g template
  source := .ofNode g f.source none
  sink := .ofNode g f.sink none
  path := f.path.map fun s ↦ .ofNode g s.node s.edge
  pathComplete := f.pathComplete

def FindingReport.toJson (r : FindingReport) : Json :=
  .object [("rule", .string r.rule), ("sink_kind", r.sinkKind.toJson),
    ("message", .string r.message), ("source", r.source.toJson), ("sink", r.sink.toJson),
    ("path", .ofList NodeReport.toJson r.path), ("path_complete", .bool r.pathComplete)]

end TaintFlow
