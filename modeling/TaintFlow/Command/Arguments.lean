import TaintFlow.Settings.Preset

namespace TaintFlow

structure AnalyzeOptions where
  graph : String
  config : Option String := none
  preset : Option Preset := none
  rules : List String := []
  output : Option String := none
  failOnFindings : Bool := false
deriving DecidableEq, Repr

inductive Command where
  | analyze (options : AnalyzeOptions)
  | rules
  | help
deriving DecidableEq, Repr

inductive ValueOption where
  | graph
  | config
  | preset
  | rule
  | output
deriving DecidableEq, Repr

namespace ValueOption

def all : List ValueOption := [graph, config, preset, rule, output]

def name : ValueOption → String
  | graph => "graph"
  | config => "config"
  | preset => "preset"
  | rule => "rule"
  | output => "output"

def letter : ValueOption → Char
  | graph => 'g'
  | config => 'c'
  | preset => 'p'
  | rule => 'r'
  | output => 'o'

def ofName? (name : String) : Option ValueOption := all.find? (·.name == name)

def ofLetter? (letter : Char) : Option ValueOption := all.find? (·.letter == letter)

end ValueOption

structure GivenOptions where
  graph : Option String := none
  config : Option String := none
  preset : Option Preset := none
  rules : List String := []
  output : Option String := none
  failOnFindings : Bool := false

namespace GivenOptions

variable (o : GivenOptions)

def once {α : Type} (old : Option α) (new : α) : Option (Option α) :=
  if old.isSome then none else some (some new)

def set (option : ValueOption) (value : String) : Option GivenOptions := do
  match option with
  | .rule => return { o with rules := o.rules ++ [value] }
  | .preset => return { o with preset := ← once o.preset (← (Preset.ofName? value).toOption) }
  | .graph =>
    guard (!value.isEmpty)
    return { o with graph := ← once o.graph value }
  | .config =>
    guard (!value.isEmpty)
    return { o with config := ← once o.config value }
  | .output =>
    guard (!value.isEmpty)
    return { o with output := ← once o.output value }

def setFailOnFindings : Option GivenOptions := do
  guard (!o.failOnFindings)
  return { o with failOnFindings := true }

/-- A program is required, and settings come from a file or a preset. -/
def options? : Option AnalyzeOptions := do
  let graph ← o.graph
  guard (o.config.isNone || o.preset.isNone)
  return { graph, config := o.config, preset := o.preset, rules := o.rules, output := o.output
           failOnFindings := o.failOnFindings }

end GivenOptions

inductive Argument where
  | long (name : String) (value : Option String)
  | short (letter : Char) (attached : List Char)
  | separator
  | word (text : String)
deriving DecidableEq, Repr

namespace Argument

def ofString (arg : String) : Argument :=
  match arg.toList with
  | ['-', '-'] => separator
  | '-' :: '-' :: cs =>
    match cs.dropWhile (· ≠ '=') with
    | [] => long (String.ofList cs) none
    | _ :: value => long (String.ofList (cs.takeWhile (· ≠ '='))) (some (String.ofList value))
  | '-' :: c :: cs => short c cs
  | _ => word arg

/-- The value attached to a letter, if there is one; an equals sign may stand in front of it. -/
def attachedValue? : List Char → Option String
  | [] => none
  | '=' :: cs => some (String.ofList cs)
  | cs => some (String.ofList cs)

def option? : Argument → Option (ValueOption × Option String)
  | long name value => (ValueOption.ofName? name).map (·, value)
  | short letter attached => (ValueOption.ofLetter? letter).map (·, attachedValue? attached)
  | separator | word _ => none

def asksHelp : Argument → Bool
  | long "help" none => true
  | short 'h' _ => true
  | _ => false

def isWord : Argument → Bool
  | word _ => true
  | _ => false

end Argument

namespace Command

/-- Reads the arguments of `analyze`; the first one that makes no sense or asks for help decides. -/
def readAnalyze (o : GivenOptions) : List String → Option Command
  | [] => o.options?.map analyze
  | arg :: rest =>
    let a := Argument.ofString arg
    if a.asksHelp then some help
    else if a = .separator then if rest.isEmpty then o.options?.map analyze else none
    else if a = .long "fail-on-findings" none then do readAnalyze (← o.setFailOnFindings) rest
    else match a.option?, rest with
      | some (option, some value), rest => do readAnalyze (← o.set option value) rest
      | some (option, none), value :: rest =>
        if (Argument.ofString value).isWord then do readAnalyze (← o.set option value) rest
        else none
      | _, _ => none

def readPlain (c : Command) : List String → Option Command
  | [] => some c
  | [arg] =>
    let a := Argument.ofString arg
    if a.asksHelp then some help else if a = .separator then some c else none
  | arg :: _ => if (Argument.ofString arg).asksHelp then some help else none

def ofArguments? : List String → Option Command
  | "analyze" :: args => readAnalyze {} args
  | "rules" :: args => readPlain rules args
  | ["help"] | ["help", "analyze"] | ["help", "rules"] | ["help", "help"] => some help
  | arg :: _ => if (Argument.ofString arg).asksHelp then some help else none
  | [] => none

end Command

end TaintFlow
