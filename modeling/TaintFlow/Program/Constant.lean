import TaintFlow.Program.Basic

namespace TaintFlow

/-- How many levels of expressions a constant may be built from. -/
def constantLevels : Nat := 65

namespace Program

variable (p : Program)

abbrev Visit := StateM (List ExprId)

def isConstantDef (visit : ExprId → Visit Bool) : Def → Visit Bool
  | .initializer v =>
    match (p.var? v).bind (·.initializer) with
    | some e => visit e
    | none => return false
  | .assign e => visit e
  | .param _ | .mutation _ | .uninitialized _ => return false

/-- Whether an expression of a kind is constant, where `visit` looks at those that it is built from
until one is not. A read is constant when every definition reaching it is, and without definitions
when it reads a global; a call is constant when its operands are, so a call without any is. Loads,
stores and look-ups never are. -/
def isConstantKind (visit : ExprId → Visit Bool) : ExprKind → Visit Bool
  | .literal _ | .regex _ _ => return true
  | .read v [] => return (p.var? v).any (·.kind = .global)
  | .read _ defs => defs.allM (p.isConstantDef visit)
  | .assign _ value => visit value
  | .call site => site.operands.allM visit
  | .operation _ operands => operands.allM visit
  | .hash entries => (ExprKind.hash entries).children.allM visit
  | .fieldLoad _ _ | .fieldStore _ _ _ | .index _ _ _ => return false

/-- Looks at `e` with so many levels left. An expression that is being looked at already would be
built from itself, and is not constant. -/
def visitConstant : Nat → ExprId → Visit Bool
  | 0, _ => return false
  | levels + 1, e => do
    if (← get).contains e then return false
    modify (e :: ·)
    match p.kind? e with
    | none => return false
    | some kind =>
      let constant ← p.isConstantKind (visitConstant levels) kind
      modify (·.erase e)
      return constant

def isConstant (e : ExprId) : Bool :=
  ((p.visitConstant constantLevels e).run []).1

def reads (v : VarId) (e : ExprId) : Bool :=
  match p.kind? e with
  | some (.read w _) => w = v
  | _ => false

def children (e : ExprId) : List ExprId :=
  ((p.kind? e).map (·.children)).getD []

/-- Searches for a read of `v` among the expressions waiting and those below them, passing over
what it has seen. -/
def searchRead (v : VarId) : Nat → List ExprId → List ExprId → Bool
  | 0, _, _ => false
  | _ + 1, [], _ => false
  | fuel + 1, e :: waiting, seen =>
    if seen.contains e then searchRead v fuel waiting seen
    else p.reads v e || searchRead v fuel (p.children e ++ waiting) (e :: seen)

/-- Enough steps for any search: every expression brings in its children once, and each takes one
step to leave again. -/
def searchBound : Nat :=
  (p.exprs.toList.flatMap (·.kind.children)).length + 2

def guardChecks (condition : ExprId) (v : VarId) : Bool :=
  p.searchRead v p.searchBound [condition] []

end Program

end TaintFlow
