import TaintFlow.Rules.Masking
import TaintFlow.Rules.SensitiveSource
import TaintFlow.Taint.Registry

namespace TaintFlow

namespace Transmission

variable (t : NameTables)

def isNetworkCall (site : CallSite) : Bool :=
  site.concept = some .networkSend || site.concept = some .networkReceive ||
    (t.networkConcept? site.name).isSome

def isEncryptionCall (site : CallSite) : Bool :=
  site.concept = some .encryption || t.isCryptoName site.name

/-- Whether a value is the data that a network call sends or receives: its first argument, or the
second where the first is the socket. A socket that is constant does not count. -/
def isNetworkData (p : Program) (u : Use) : Bool :=
  (p.call? u.user).any fun site ↦
    isNetworkCall t site &&
      match site.receiver with
      | some socket => u.role = .argument 0 && !p.isConstant socket
      | none => u.role = .argument 1 && site.args.head?.any (!p.isConstant ·)

def isOperandUse (u : Use) : Bool :=
  match u.role with
  | .argument _ | .receiver => true
  | _ => false

/-- Network data is a network sink. Otherwise an encryption call, and whatever goes into one, is an
encryption sink. -/
def sinkKind? (g : FlowGraph) : FlowNode → Option SinkKind
  | .expr e =>
    let uses := g.index.uses.get e
    if uses.any (isNetworkData t g.program) then some .network
    else if (g.program.call? e).any (isEncryptionCall t) ||
        uses.any fun u ↦ isOperandUse u && (g.program.call? u.user).any (isEncryptionCall t) then
      some .encryption
    else none
  | _ => none

def isAdditionalStep (g : FlowGraph) (source target : FlowNode) : Bool :=
  ((target.expr?.bind g.program.call?).any fun site ↦
    isEncryptionCall t site && source.expr?.any (site.operands.contains ·)) ||
    Masking.isReplacementStep t g source target

def rule : Rule where
  name := "cleartext-transmission"
  isSource := SensitiveSource.isSource t.sensitive
  sinkKind? := sinkKind? t
  isSanitizer := Masking.isSanitizer t
  isAdditionalStep := isAdditionalStep t
  suppresses reached candidate := reached = .encryption && candidate = .network
  template := "Sensitive data from \x7bsource\x7d (\x7bsource_location\x7d) is transmitted over " ++
    "the network in cleartext at \x7bsink\x7d (\x7bsink_location\x7d)."

end Transmission

namespace Logging

variable (t : NameTables)

/-- Whether a call writes to a log: it is known to, or a logging method is called on a logger. -/
def isLoggingCall (p : Program) (call : ExprId) : Bool :=
  (p.call? call).any fun site ↦
    site.concept = some .logging ||
      (t.isLogMethod site.name && (site.receiver.bind p.exprName?).any t.isLoggerReceiver)

def isArgumentUse (u : Use) : Bool :=
  match u.role with
  | .argument _ => true
  | _ => false

def sinkKind? (g : FlowGraph) : FlowNode → Option SinkKind
  | .expr e =>
    if isLoggingCall t g.program e || (g.index.uses.get e).any fun u ↦
        isArgumentUse u && isLoggingCall t g.program u.user then some .logging
    else none
  | _ => none

/-- Masking sanitizes, and so does a call whose name says that its result gives nothing away. -/
def isSanitizer (g : FlowGraph) (n : FlowNode) : Bool :=
  Masking.isSanitizer t g n ||
    (n.expr?.bind g.program.call?).any fun site ↦ t.isNotSensitiveName site.name

def rule : Rule where
  name := "cleartext-logging"
  isSource := SensitiveSource.isSource t.sensitive
  sinkKind? := sinkKind? t
  isSanitizer := isSanitizer t
  isAdditionalStep := Masking.isReplacementStep t
  template := "Sensitive data from \x7bsource\x7d (\x7bsource_location\x7d) is logged in " ++
    "cleartext at \x7bsink\x7d (\x7bsink_location\x7d)."

end Logging

def Registry.builtin (t : NameTables) : Registry where
  rules := [Transmission.rule t, Logging.rule t]

end TaintFlow
