import TaintFlow.Program.WellFormed
import TaintFlow.Text.Quoted
import Std.Data.HashMap

namespace TaintFlow

structure Draft where
  file : String
  program : Program := {}
  fieldIds : Std.HashMap String FieldId := ∅

/-- A step of construction; it fails with the element that is missing. -/
abbrev Drafting := ExceptT Ref (StateM Draft)

namespace Drafting

def program : Drafting Program := return (← get).program

def edit (f : Program → Program) : Drafting Unit :=
  modify fun d ↦ { d with program := f d.program }

def need (ref : Ref) : Drafting Unit := do
  unless ref.index < (← program).size ref do throw ref

def editFunction (f : FunctionId) (change : Function → Function) : Drafting Unit := do
  need (.function f)
  edit fun p ↦ { p with functions := p.functions.modify f.index change }

def editVariable (v : VarId) (change : Variable → Variable) : Drafting Unit := do
  need (.var v)
  edit fun p ↦ { p with vars := p.vars.modify v.index change }

def editExpr (e : ExprId) (change : Expr → Expr) : Drafting Unit := do
  need (.expr e)
  edit fun p ↦ { p with exprs := p.exprs.modify e.index change }

def inFile (file : String) : Drafting Unit :=
  modify fun d ↦ { d with file := file }

def function (name : String) : Drafting FunctionId := do
  let d ← get
  let id := FunctionId.ofIndex d.program.functions.size
  let new : Function :=
    { id, name, file := d.file, params := [], selfParam := none, returns := [], span := .zero }
  edit fun p ↦ { p with functions := p.functions.push new }
  return id

def newVariable (function : Option FunctionId) (name : String) (typeName : Option String)
    (kind : VariableKind) : Drafting VarId := do
  let id := VarId.ofIndex (← program).vars.size
  let new : Variable := { id, name, function, typeName, kind, initializer := none, span := .zero }
  edit fun p ↦ { p with vars := p.vars.push new }
  return id

def param (f : FunctionId) (name : String) (typeName : Option String) : Drafting VarId := do
  need (.function f)
  let count := (((← program).function? f).map (·.params.length)).getD 0
  let id ← newVariable (some f) name typeName (.parameter (UInt64.ofNat count))
  editFunction f fun fn ↦ { fn with params := fn.params ++ [id] }
  return id

/-- Adds the receiver parameter. The variable is made before the function is looked for. -/
def selfParam (f : FunctionId) : Drafting VarId := do
  let id ← newVariable (some f) "self" none .selfParameter
  editFunction f fun fn ↦ { fn with selfParam := some id }
  return id

def field (name : String) : Drafting FieldId := do
  let d ← get
  match d.fieldIds[name]? with
  | some id => return id
  | none =>
    let id := FieldId.ofIndex d.program.fields.size
    edit fun p ↦ { p with fields := p.fields.push { id, name } }
    modify fun d ↦ { d with fieldIds := d.fieldIds.insert name id }
    return id

def setInitial (v : VarId) (value : ExprId) : Drafting Unit :=
  editVariable v fun x ↦ { x with initializer := some value }

def returns (f : FunctionId) (value : ExprId) : Drafting Unit :=
  editFunction f fun fn ↦ { fn with returns := fn.returns ++ [value] }

def push (function : FunctionId) (kind : ExprKind) (text : String) : Drafting ExprId := do
  let id := ExprId.ofIndex (← program).exprs.size
  let span := Span.onLine (id.val + 1) 1 (1 + UInt32.ofNat text.utf8ByteSize)
  edit fun p ↦ { p with exprs := p.exprs.push { id, function, span, text, kind, guards := [] } }
  return id

def textOf (e : ExprId) : Drafting String :=
  return (((← program).expr? e).map (·.text)).getD "?"

def textsOf (es : List ExprId) : Drafting String :=
  return ", ".intercalate (← es.mapM textOf)

def nameOf (v : VarId) : Drafting String := do
  need (.var v)
  return ((← program).variableName? v).getD ""

def keyField (key : ExprId) : Drafting (Option FieldId) := do
  match (← program).literalName? key with
  | some name => return some (← field name)
  | none => return none

def literal (f : FunctionId) (value : Literal) : Drafting ExprId :=
  push f (.literal value) <| match value with
    | .string s => Text.quoted s
    | .symbol s => ":" ++ s
    | .number n => n
    | .boolean b => if b then "true" else "false"
    | .nil => "nil"

def regex (f : FunctionId) (pattern flags : String) : Drafting ExprId :=
  push f (.regex pattern flags) s!"/{pattern}/{flags}"

def read (f : FunctionId) (v : VarId) (defs : List Def) : Drafting ExprId := do
  push f (.read v defs) (← nameOf v)

def setDefs (e : ExprId) (defs : List Def) : Drafting Unit :=
  editExpr e fun x ↦ match x.kind with
    | .read v _ => { x with kind := .read v defs }
    | _ => x

def assign (f : FunctionId) (v : VarId) (value : ExprId) : Drafting ExprId := do
  push f (.assign v value) s!"{← nameOf v} = {← textOf value}"

def call (f : FunctionId) (site : CallSite) : Drafting ExprId := do
  let args ← textsOf site.args
  match site.receiver with
  | some receiver => push f (.call site) s!"{← textOf receiver}.{site.name}({args})"
  | none => push f (.call site) s!"{site.name}({args})"

def fieldLoad (f : FunctionId) (base : ExprId) (name : String) : Drafting ExprId := do
  let fld ← field name
  push f (.fieldLoad base fld) s!"{← textOf base}.{name}"

def fieldStore (f : FunctionId) (base : ExprId) (name : String) (value : ExprId) :
    Drafting ExprId := do
  let fld ← field name
  push f (.fieldStore base fld value) s!"{← textOf base}.{name} = {← textOf value}"

def hash (f : FunctionId) (pairs : List (ExprId × ExprId)) : Drafting ExprId := do
  let entries ← pairs.mapM fun (key, value) ↦
    return ({ key, value, field := ← keyField key } : HashEntry)
  let texts ← entries.mapM fun e ↦ return s!"{← textOf e.key} => {← textOf e.value}"
  push f (.hash entries) ("\x7b" ++ ", ".intercalate texts ++ "\x7d")

def index (f : FunctionId) (base key : ExprId) : Drafting ExprId := do
  let fld ← keyField key
  push f (.index base key fld) s!"{← textOf base}[{← textOf key}]"

/-- Two operands are written around their operator, other numbers of them after it. -/
def operation (f : FunctionId) (operator : String) (operands : List ExprId) : Drafting ExprId := do
  let text ← match operands with
    | [lhs, rhs] => pure s!"{← textOf lhs} {operator} {← textOf rhs}"
    | _ => pure s!"{operator}({← textsOf operands})"
  push f (.operation operator operands) text

def guard (e condition : ExprId) (branch : Bool) : Drafting Unit :=
  editExpr e fun x ↦ { x with guards := x.guards ++ [{ condition, branch }] }

def setText (e : ExprId) (text : String) : Drafting Unit :=
  editExpr e fun x ↦ { x with text }

def setSpan (e : ExprId) (span : Span) : Drafting Unit :=
  editExpr e fun x ↦ { x with span }

end Drafting

namespace Draft

inductive Step where
  | inFile (file : String)
  | function (name : String)
  | param (f : FunctionId) (name : String) (typeName : Option String)
  | selfParam (f : FunctionId)
  | localVar (f : FunctionId) (name : String) (typeName : Option String)
  | global (name : String)
  | field (name : String)
  | setInitial (v : VarId) (value : ExprId)
  | returns (f : FunctionId) (value : ExprId)
  | literal (f : FunctionId) (value : Literal)
  | regex (f : FunctionId) (pattern flags : String)
  | read (f : FunctionId) (v : VarId) (defs : List Def)
  | setDefs (e : ExprId) (defs : List Def)
  | assign (f : FunctionId) (v : VarId) (value : ExprId)
  | call (f : FunctionId) (site : CallSite)
  | fieldLoad (f : FunctionId) (base : ExprId) (name : String)
  | fieldStore (f : FunctionId) (base : ExprId) (name : String) (value : ExprId)
  | hash (f : FunctionId) (entries : List (ExprId × ExprId))
  | index (f : FunctionId) (base key : ExprId)
  | operation (f : FunctionId) (operator : String) (operands : List ExprId)
  | guard (e condition : ExprId) (branch : Bool)
  | setText (e : ExprId) (text : String)
  | setSpan (e : ExprId) (span : Span)

def Step.run : Step → Drafting (Option Ref)
  | .inFile file => do Drafting.inFile file; return none
  | .function name => return some (.function (← Drafting.function name))
  | .param f name typeName => return some (.var (← Drafting.param f name typeName))
  | .selfParam f => return some (.var (← Drafting.selfParam f))
  | .localVar f name typeName =>
    return some (.var (← Drafting.newVariable (some f) name typeName .localVar))
  | .global name => return some (.var (← Drafting.newVariable none name none .global))
  | .field name => return some (.field (← Drafting.field name))
  | .setInitial v value => do Drafting.setInitial v value; return none
  | .returns f value => do Drafting.returns f value; return none
  | .literal f value => return some (.expr (← Drafting.literal f value))
  | .regex f pattern flags => return some (.expr (← Drafting.regex f pattern flags))
  | .read f v defs => return some (.expr (← Drafting.read f v defs))
  | .setDefs e defs => do Drafting.setDefs e defs; return none
  | .assign f v value => return some (.expr (← Drafting.assign f v value))
  | .call f site => return some (.expr (← Drafting.call f site))
  | .fieldLoad f base name => return some (.expr (← Drafting.fieldLoad f base name))
  | .fieldStore f base name value => return some (.expr (← Drafting.fieldStore f base name value))
  | .hash f entries => return some (.expr (← Drafting.hash f entries))
  | .index f base key => return some (.expr (← Drafting.index f base key))
  | .operation f operator operands =>
    return some (.expr (← Drafting.operation f operator operands))
  | .guard e condition branch => do Drafting.guard e condition branch; return none
  | .setText e text => do Drafting.setText e text; return none
  | .setSpan e span => do Drafting.setSpan e span; return none

def empty (file : String) : Draft := { file }

def apply (d : Draft) (step : Step) : Except Ref (Option Ref) × Draft :=
  StateT.run (ExceptT.run step.run) d

/-- Does the steps in order until one fails: the result of each step done, the element missing if
one failed, and the draft left. -/
def applyAll (d : Draft) : List Step → List (Option Ref) × Option Ref × Draft
  | [] => ([], none, d)
  | step :: steps =>
    match d.apply step with
    | (.ok made, d) =>
      let (results, missing, d) := applyAll d steps
      (made :: results, missing, d)
    | (.error missing, d) => ([], some missing, d)

end Draft

end TaintFlow
