import TaintFlow.Program.Basic
import TaintFlow.Program.Grouping
import Std.Data.HashSet

namespace TaintFlow

inductive UseRole where
  | argument (position : Nat)
  | receiver
  | assignedValue
  | storedValue (field : FieldId)
  | storeBase
  | loadBase (field : FieldId)
  | hashValue (field : Option FieldId)
  | hashKey
  | indexBase (field : Option FieldId)
  | indexKey
  | operand
deriving DecidableEq, Repr

/-- Whether a value used in this way may be carried on by a step of a rule: into the result of a
call, or out of an object. -/
def UseRole.isStep : UseRole → Bool
  | argument _ | receiver | loadBase _ | indexBase _ => true
  | _ => false

structure Use where
  user : ExprId
  role : UseRole
deriving DecidableEq, Repr

namespace ExprKind

/-- The operands of an expression with the part each plays; a stored value comes before the object
it is stored into. -/
def operandRoles : ExprKind → List (ExprId × UseRole)
  | literal _ | regex _ _ | read _ _ => []
  | assign _ value => [(value, .assignedValue)]
  | call site =>
    site.receiver.toList.map (·, .receiver) ++
      site.args.zipIdx.map fun (arg, i) ↦ (arg, .argument i)
  | fieldLoad base f => [(base, .loadBase f)]
  | fieldStore base f value => [(value, .storedValue f), (base, .storeBase)]
  | hash entries => entries.flatMap fun e ↦ [(e.key, .hashKey), (e.value, .hashValue e.field)]
  | index base key field => [(base, .indexBase field), (key, .indexKey)]
  | operation _ operands => operands.map (·, .operand)

def defs : ExprKind → List Def
  | read _ defs => defs
  | _ => []

def fieldsWritten : ExprKind → List FieldId
  | fieldStore _ f _ => [f]
  | hash entries => entries.filterMap (·.field)
  | _ => []

def updates : ExprKind → List ExprId
  | fieldStore base _ _ => [base]
  | read _ defs => defs.filterMap fun | .mutation e => some e | _ => none
  | _ => []

def uninitializedReads : ExprKind → List VarId
  | read _ defs => defs.filterMap fun | .uninitialized v => some v | _ => none
  | _ => []

end ExprKind

namespace Program

variable (p : Program)

def usePairs : List (ExprId × Use) :=
  p.exprs.toList.flatMap fun e ↦ e.kind.operandRoles.map fun (operand, role) ↦
    (operand, ⟨e.id, role⟩)

def readerPairs : List (Def × ExprId) :=
  p.exprs.toList.flatMap fun e ↦ e.kind.defs.map (·, e.id)

def callerPairs : List (FunctionId × ExprId) :=
  p.exprs.toList.filterMap fun e ↦ (e.kind.call?.bind (·.target)).map (·, e.id)

def returnPairs : List (ExprId × FunctionId) :=
  p.functions.toList.flatMap fun f ↦ f.returns.map (·, f.id)

def initializerPairs : List (ExprId × VarId) :=
  p.vars.toList.filterMap fun v ↦ v.initializer.map (·, v.id)

end Program

structure Index where
  callers : Grouping FunctionId ExprId
  uses : Grouping ExprId Use
  readers : Grouping Def ExprId
  /-- The variable that an expression is the initial value of; the last one, if there are more. -/
  initializerOf : Std.HashMap ExprId VarId
  returnedBy : Grouping ExprId FunctionId
  postUpdated : Std.HashSet ExprId
  uninitialized : Std.HashSet VarId
  writtenFields : Std.HashSet FieldId

def Program.index (p : Program) : Index where
  callers := .ofList p.callerPairs
  uses := .ofList p.usePairs
  readers := .ofList p.readerPairs
  initializerOf := p.initializerPairs.foldl (fun table (e, v) ↦ table.insert e v) ∅
  returnedBy := .ofList p.returnPairs
  postUpdated := (p.exprs.toList.flatMap (·.kind.updates)).foldl .insert ∅
  uninitialized := (p.exprs.toList.flatMap (·.kind.uninitializedReads)).foldl .insert ∅
  writtenFields := (p.exprs.toList.flatMap (·.kind.fieldsWritten)).foldl .insert ∅

end TaintFlow
