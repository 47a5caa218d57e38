import TaintFlow.Yaml.Token

namespace TaintFlow.Yaml

structure NodeProps where
  anchor : Option Nat := none
  tag : Option String := none
deriving DecidableEq, Repr

inductive Node where
  | scalar (props : NodeProps) (style : ScalarStyle) (text : String)
  | sequence (props : NodeProps) (items : List Node)
  | mapping (props : NodeProps) (entries : List (Node × Node))
  | reference (anchor : Nat)
deriving Repr

namespace Node

def props : Node → NodeProps
  | scalar p _ _ | sequence p _ | mapping p _ => p
  | reference _ => {}

def blank (p : NodeProps) : Node := scalar p .plain ""

mutual

def anchored : Node → List (Nat × Node)
  | scalar p style text => p.anchor.toList.map (·, scalar p style text)
  | sequence p items => p.anchor.toList.map (·, sequence p items) ++ anchoredItems items
  | mapping p entries => p.anchor.toList.map (·, mapping p entries) ++ anchoredEntries entries
  | reference _ => []

def anchoredItems : List Node → List (Nat × Node)
  | [] => []
  | n :: ns => n.anchored ++ anchoredItems ns

def anchoredEntries : List (Node × Node) → List (Nat × Node)
  | [] => []
  | (k, v) :: es => k.anchored ++ v.anchored ++ anchoredEntries es

end

end Node

structure Document where
  root : Option Node

namespace Document

variable (d : Document)

/-- What a node stands for: itself unless it is an alias. Where an anchor has been given to several
nodes it is that of the last. -/
def follow : Node → Option Node
  | .reference anchor => ((d.root.map Node.anchored).getD []).reverse.lookup anchor
  | n => some n

end Document

end TaintFlow.Yaml
