import TaintFlow.Flow.Graph
import TaintFlow.Program.Constant

namespace TaintFlow

inductive SinkKind where
  | network
  | logging
  | encryption
  | custom (name : String)
deriving DecidableEq, Hashable, Ord, Repr

namespace SinkKind

instance : ToString SinkKind where
  toString
    | network => "network"
    | logging => "logging"
    | encryption => "encryption"
    | custom name => name

def toJson : SinkKind → Json
  | network => .string "network"
  | logging => .string "logging"
  | encryption => .string "encryption"
  | custom name => .tagged "custom" (.string name)

def ofJson? (j : Json) : Option SinkKind := do
  match ← j.variant? with
  | ("network", payload) => Json.plain? network payload
  | ("logging", payload) => Json.plain? logging payload
  | ("encryption", payload) => Json.plain? encryption payload
  | ("custom", some payload) => return custom (← payload.string?)
  | _ => none

end SinkKind

/-- A question put to a rule that the rule may fail to answer. -/
inductive Probe where
  | source (n : FlowNode)
  | sink (n : FlowNode)
  | sanitizer (n : FlowNode)
  | step (source target : FlowNode)
  /-- Where the steps from `source` lead, asked of a rule that does not choose among candidates. -/
  | ownSteps (source : FlowNode)
  | suppresses (reached hidden : SinkKind)
deriving DecidableEq, Repr

structure Fault where
  message : Option String
deriving DecidableEq, Repr

def Fault.describe (f : Fault) : String :=
  "predicate panicked: " ++ f.message.getD "unknown panic payload"

def defaultTemplate : String :=
  "Sensitive data from \x7bsource\x7d (\x7bsource_location\x7d) reaches \x7bsink\x7d " ++
    "(\x7bsink_location\x7d)."

/-- Pure predicates on the nodes of a flow graph, which they read and leave as it is. -/
structure Rule where
  name : String
  isSource : FlowGraph → FlowNode → Bool
  sinkKind? : FlowGraph → FlowNode → Option SinkKind
  isSanitizer : FlowGraph → FlowNode → Bool := fun _ _ ↦ false
  isAdditionalStep : FlowGraph → FlowNode → FlowNode → Bool := fun _ _ _ ↦ false
  /-- The targets of additional steps, for a rule that does not choose among the candidates. -/
  ownSteps : Option (FlowGraph → FlowNode → List FlowNode) := none
  isSanitizingGuard : FlowGraph → Guard → Bool := fun _ _ ↦ false
  suppresses : SinkKind → SinkKind → Bool := fun _ _ ↦ false
  template : String := defaultTemplate
  /-- Which questions the rule fails to answer; most rules answer all. -/
  fault? : FlowGraph → Probe → Option Fault := fun _ _ ↦ none

namespace Rule

variable (r : Rule) (g : FlowGraph)

def additionalSteps (n : FlowNode) : List FlowNode :=
  match r.ownSteps with
  | some steps => steps g n
  | none => (g.stepCandidates n).filter (r.isAdditionalStep g n)

/-- The fault met when the additional steps from `n` are asked for. A rule that chooses among the
candidates is asked about one after another. -/
def stepsFault? (n : FlowNode) : Option Fault :=
  match r.ownSteps with
  | some _ => r.fault? g (.ownSteps n)
  | none => (g.stepCandidates n).findSome? fun m ↦ r.fault? g (.step n m)

/-- Whether `n` is a read of a variable under a guard that makes it safe: the rule accepts the
guard, and its condition checks the variable. -/
def isGuarded (n : FlowNode) : Bool :=
  match n.expr?.bind g.program.expr? with
  | some ⟨_, _, _, _, .read v _, guards⟩ =>
    guards.any fun guard ↦ r.isSanitizingGuard g guard && g.program.guardChecks guard.condition v
  | _ => false

def isBlocked (n : FlowNode) : Bool :=
  r.isSanitizer g n || r.isGuarded g n

/-- Whether sinks of the kinds reached hide one of kind `kind`. The rule is asked about each of them
in turn until one does. -/
def hides (kind : SinkKind) : List SinkKind → Except Fault Bool
  | [] => .ok false
  | reached :: rest =>
    match r.fault? g (.suppresses reached kind) with
    | some f => .error f
    | none => if r.suppresses reached kind then .ok true else hides kind rest

variable {r g}

theorem any_of_hides {kind : SinkKind} {kinds : List SinkKind} {b : Bool}
    (h : r.hides g kind kinds = .ok b) : kinds.any (r.suppresses · kind) = b := by
  induction kinds with
  | nil =>
    cases h
    rfl
  | cons reached rest ih =>
    rw [List.any_cons]
    unfold hides at h
    cases hf : r.fault? g (.suppresses reached kind) with
    | some f => simp [hf] at h
    | none =>
      cases hs : r.suppresses reached kind with
      | true =>
        simp only [hf, hs, if_true] at h
        cases h
        rfl
      | false =>
        simp only [hf, hs, Bool.false_eq_true, if_false] at h
        exact ih h

end Rule

end TaintFlow
