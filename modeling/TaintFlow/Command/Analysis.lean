import TaintFlow.Command.Arguments
import TaintFlow.Rules.Builtin
import TaintFlow.Settings.Document
import TaintFlow.Taint.Engine

namespace TaintFlow

structure RuleReport where
  rule : String
  error : Option String
  complete : Bool
  interruption : Option String
  findings : List FindingReport
deriving Repr

namespace RuleReport

def ofOutcome (reg : Registry) (g : FlowGraph) (rule : String) :
    Except TaintError Evaluation → RuleReport
  | .ok e =>
    let template := ((reg.find? rule).map (·.template)).getD ""
    { rule, error := none, complete := e.complete, interruption := e.interruption
      findings := e.findings.map (·.report g template) }
  | .error e =>
    { rule, error := some e.message, complete := false, interruption := none, findings := [] }

def toJson (r : RuleReport) : Json :=
  .object <| [("rule", .string r.rule)] ++ r.error.toList.map (fun e ↦ ("error", .string e)) ++
    [("complete", .bool r.complete)] ++
    r.interruption.toList.map (fun i ↦ ("interruption", .string i)) ++
    [("findings", .ofList FindingReport.toJson r.findings)]

end RuleReport

structure AnalysisReport where
  graph : String
  preset : Preset
  rules : List RuleReport
deriving Repr

namespace AnalysisReport

def toJson (r : AnalysisReport) : Json :=
  .object [("graph", .string r.graph), ("preset", .string r.preset.name),
    ("rules", .ofList RuleReport.toJson r.rules)]

variable (r : AnalysisReport)

def hasError : Bool := r.rules.any (·.error.isSome)

def hasFindings : Bool := r.rules.any (!·.findings.isEmpty)

/-- The status to exit with: 2 after an error, and 1 for findings if they are to count. -/
def status (failOnFindings : Bool) : UInt32 :=
  if r.hasError then 2 else if failOnFindings && r.hasFindings then 1 else 0

end AnalysisReport

namespace AnalyzeOptions

abbrev Files := String → Except String String

variable (o : AnalyzeOptions) (files : Files)

def settings : Except TaintError Settings := do
  let s ← match o.config with
    | some path =>
      match files path with
      | .ok text => (Settings.ofYaml text).mapError .settings
      | .error reason => throw (.settings (.unreadableFile reason))
    | none => (Settings.ofPreset (o.preset.getD .balanced)).build.mapError .settings
  return if o.rules.isEmpty then s else { s with rules := some o.rules }

def program : Except TaintError Program :=
  match files o.graph with
  | .error reason => .error (.unreadableFile reason)
  | .ok text => Engine.readProgram text

def report : Except TaintError AnalysisReport := do
  let s ← o.settings files
  let tables ← (NameTables.ofOverrides s.names).mapError .settings
  let reg := Registry.builtin tables
  let engine ← Engine.ofProgram (← o.program files) s.knobs
  let runs ← (engine.runRegistry reg s.rules).mapError .settings
  return {
    graph := o.graph
    preset := s.preset
    rules := runs.map fun (rule, run) ↦ .ofOutcome reg engine.graph rule run.outcome }

def inputs : List String := o.config.toList ++ [o.graph]

end AnalyzeOptions

structure Response where
  status : UInt32
  output : String := ""
  complaint : String := ""
  /-- A file to be written, with its text; if that fails the status is 1. -/
  file : Option (String × String) := none
deriving Repr

namespace Command

def usage : String :=
  "Usage: taint-cli <analyze|rules>\n\n" ++
    "  analyze --graph <FILE> [--config <FILE> | --preset <NAME>] [--rule <NAME>]...\n" ++
    "          [--output <FILE>] [--fail-on-findings]\n" ++
    "  rules\n"

def listRules (reg : Registry) : String :=
  String.join (reg.rules.map fun r ↦ s!"{r.name}\n    {r.template}\n")

def respondAnalyze (o : AnalyzeOptions) (files : AnalyzeOptions.Files) : Response :=
  match o.report files with
  | .error e => { status := 1, complaint := s!"Error: {e.message}\n" }
  | .ok report =>
    let status := report.status o.failOnFindings
    let text := report.toJson.pretty
    match o.output with
    | some path => { status, file := some (path, text) }
    | none => { status, output := text ++ "\n" }

def respond (files : AnalyzeOptions.Files) : Command → Response
  | analyze o => respondAnalyze o files
  | rules =>
    match NameTables.ofOverrides {} with
    | .ok tables => { status := 0, output := listRules (Registry.builtin tables) }
    | .error e => { status := 1, complaint := s!"Error: {e.message}\n" }
  | help => { status := 0, output := usage }

/-- The response to a command line; one that makes no sense is answered by how to write it. -/
def respondTo (files : AnalyzeOptions.Files) (args : List String) : Response :=
  match ofArguments? args with
  | some c => c.respond files
  | none => { status := 2, complaint := usage }

end Command

end TaintFlow
