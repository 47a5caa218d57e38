import TaintFlow.Rules.NameTables
import TaintFlow.Taint.Rule

namespace TaintFlow

namespace Masking

def trim (cs : List Char) : List Char :=
  ((cs.dropWhile Unicode.isBlank).reverse.dropWhile Unicode.isBlank).reverse

def without? (front cs : List Char) : Option (List Char) :=
  if front.isPrefixOf cs then some (cs.drop front.length) else none

def withoutEnd? (back cs : List Char) : Option (List Char) :=
  (without? back.reverse cs.reverse).map List.reverse

def dropStartAnchor (cs : List Char) : List Char :=
  ((without? ['\\', 'A'] cs).orElse fun _ ↦ without? ['^'] cs).getD cs

def dropEndAnchor (cs : List Char) : List Char :=
  (([['\\', 'z'], ['\\', 'Z'], ['$']] : List (List Char)).findSome? (withoutEnd? · cs)).getD cs

def dropGroup (cs : List Char) : List Char :=
  match (without? ['(', '?', ':'] cs).orElse fun _ ↦ without? ['('] cs with
  | some inner => (withoutEnd? [')'] inner).getD cs
  | none => cs

/-- Whether replacing what the pattern matches leaves nothing of a text. One character replaced
everywhere does, but not where it is anchored, since it then matches once. -/
def isFullMatch (pattern : String) (kind : ReplaceKind) : Bool :=
  let trimmed := trim pattern.toList
  let bare := dropEndAnchor (dropStartAnchor trimmed)
  let anchored := bare.length != trimmed.length
  let core := dropGroup bare
  core = ['.', '+'] || core = ['.', '*'] ||
    (kind = .global && core = ['.'] && !anchored)

variable (t : NameTables)

def isEffectiveReplacement (p : Program) (call : ExprId) : Bool :=
  match p.call? call with
  | none => false
  | some site =>
    match t.replaceKind? site.name, site.args.head?.bind p.kind? with
    | some kind, some (.regex pattern _) => isFullMatch pattern kind
    | _, _ => false

def isInPlace (site : CallSite) : Bool :=
  site.mutatesReceiver || site.name.toList.getLast? = some '!'

/-- The result of an effective replacement, and the receiver of one in place after it. -/
def isSanitizer (g : FlowGraph) : FlowNode → Bool
  | .expr e => isEffectiveReplacement t g.program e
  | .postUpdate receiver =>
    (g.index.uses.get receiver).any fun u ↦
      u.role = .receiver && (g.program.call? u.user).any isInPlace &&
        isEffectiveReplacement t g.program u.user
  | _ => false

/-- From the receiver to the result of any replacement, so that masking is judged on the result. -/
def isReplacementStep (g : FlowGraph) (source target : FlowNode) : Bool :=
  match source, target with
  | .expr source, .expr target =>
    (g.program.call? target).any fun site ↦
      site.receiver = some source && (t.replaceKind? site.name).isSome
  | _, _ => false

end Masking

end TaintFlow
