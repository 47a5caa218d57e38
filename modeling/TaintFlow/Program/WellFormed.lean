import TaintFlow.Program.Basic

namespace TaintFlow

inductive Ref where
  | function (f : FunctionId)
  | var (v : VarId)
  | field (f : FieldId)
  | expr (e : ExprId)
deriving DecidableEq, Repr

namespace Ref

def index : Ref → Nat
  | function f => f.index
  | var v => v.index
  | field f => f.index
  | expr e => e.index

instance : ToString Ref where
  toString
    | function f => toString f
    | var v => toString v
    | field f => toString f
    | expr e => toString e

def sortName : Ref → String
  | function _ => "function"
  | var _ => "variable"
  | field _ => "field"
  | expr _ => "expression"

end Ref

/-- Where in a program a number is used. -/
inductive Usage where
  | parameterOf (name : String)
  | returnOf (name : String)
  | ownerOf (name : String)
  | initializerOf (name : String)
  | operandOf (e : ExprId)
deriving DecidableEq, Repr

def Usage.describe : Usage → String
  | parameterOf name => s!"parameter of {name}"
  | returnOf name => s!"return of {name}"
  | ownerOf name => s!"owner of variable {name}"
  | initializerOf name => s!"initializer of variable {name}"
  | operandOf e => s!"operand of {e}"

inductive Requirement where
  | placed (ref : Ref) (position : Nat)
  | defined (ref : Ref) (usage : Usage)
deriving DecidableEq, Repr

namespace Requirement

def complaint : Requirement → String
  | placed ref position => s!"{ref.sortName} {ref} stored at position {position}"
  | defined ref usage => s!"dangling {ref} ({usage.describe})"

end Requirement

def Def.ref : Def → Ref
  | initializer v | param v | uninitialized v => .var v
  | assign e | mutation e => .expr e

def ExprKind.otherRefs : ExprKind → List Ref
  | read v defs => .var v :: defs.map Def.ref
  | assign v _ => [.var v]
  | call site => site.target.toList.map .function
  | fieldLoad _ f | fieldStore _ f _ => [.field f]
  | hash entries => entries.filterMap fun e ↦ e.field.map .field
  | index _ _ field => field.toList.map .field
  | literal _ | regex _ _ | operation _ _ => []

namespace Function

def requirements (f : Function) (position : Nat) : List Requirement :=
  .placed (.function f.id) position ::
    (f.params ++ f.selfParam.toList).map (fun v ↦ .defined (.var v) (.parameterOf f.name)) ++
    f.returns.map fun e ↦ .defined (.expr e) (.returnOf f.name)

end Function

namespace Variable

def requirements (v : Variable) (position : Nat) : List Requirement :=
  .placed (.var v.id) position ::
    v.function.toList.map (fun f ↦ .defined (.function f) (.ownerOf v.name)) ++
    v.initializer.toList.map fun e ↦ .defined (.expr e) (.initializerOf v.name)

end Variable

namespace Expr

/-- Everything an expression refers to: its function, its children, the conditions of its guards,
and the rest. -/
def refs (e : Expr) : List Ref :=
  .function e.function :: e.kind.children.map .expr ++ e.guards.map (fun g ↦ .expr g.condition) ++
    e.kind.otherRefs

def requirements (e : Expr) (position : Nat) : List Requirement :=
  .placed (.expr e.id) position :: e.refs.map fun r ↦ .defined r (.operandOf e.id)

end Expr

namespace Program

variable (p : Program)

def size : Ref → Nat
  | .function _ => p.functions.size
  | .var _ => p.vars.size
  | .field _ => p.fields.size
  | .expr _ => p.exprs.size

def meets : Requirement → Bool
  | .placed ref position => ref.index == position
  | .defined ref _ => ref.index < p.size ref

/-- Functions first, then variables, fields and expressions, each sort in the order stored. -/
def requirements : List Requirement :=
  p.functions.toList.zipIdx.flatMap (fun (f, i) ↦ f.requirements i) ++
    p.vars.toList.zipIdx.flatMap (fun (v, i) ↦ v.requirements i) ++
    p.fields.toList.zipIdx.map (fun (f, i) ↦ .placed (.field f.id) i) ++
    p.exprs.toList.zipIdx.flatMap fun (e, i) ↦ e.requirements i

/-- The first requirement that the program fails, if it fails any. -/
def validate : Except Requirement Unit :=
  match p.requirements.find? (!p.meets ·) with
  | some failed => .error failed
  | none => .ok ()

end Program

end TaintFlow
