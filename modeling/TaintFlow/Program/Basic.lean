import TaintFlow.Program.Span

namespace TaintFlow

structure FunctionId where
  val : UInt32
deriving DecidableEq, Hashable, Ord, Repr, Inhabited

structure VarId where
  val : UInt32
deriving DecidableEq, Hashable, Ord, Repr, Inhabited

structure ExprId where
  val : UInt32
deriving DecidableEq, Hashable, Ord, Repr, Inhabited

structure FieldId where
  val : UInt32
deriving DecidableEq, Hashable, Ord, Repr, Inhabited

namespace FunctionId

def index (f : FunctionId) : Nat := f.val.toNat

def ofIndex (i : Nat) : FunctionId := ⟨UInt32.ofNat i⟩

instance : ToString FunctionId where
  toString f := s!"fn#{f.val}"

end FunctionId

namespace VarId

def index (v : VarId) : Nat := v.val.toNat

def ofIndex (i : Nat) : VarId := ⟨UInt32.ofNat i⟩

instance : ToString VarId where
  toString v := s!"var#{v.val}"

end VarId

namespace ExprId

def index (e : ExprId) : Nat := e.val.toNat

def ofIndex (i : Nat) : ExprId := ⟨UInt32.ofNat i⟩

instance : ToString ExprId where
  toString e := s!"expr#{e.val}"

end ExprId

namespace FieldId

def index (f : FieldId) : Nat := f.val.toNat

def ofIndex (i : Nat) : FieldId := ⟨UInt32.ofNat i⟩

instance : ToString FieldId where
  toString f := s!"field#{f.val}"

end FieldId

structure Function where
  id : FunctionId
  name : String
  file : String
  params : List VarId
  selfParam : Option VarId
  returns : List ExprId
  span : Span
deriving DecidableEq, Repr

inductive VariableKind where
  | localVar
  | parameter (index : UInt64)
  | selfParameter
  | global
deriving DecidableEq, Repr

def VariableKind.isParameter : VariableKind → Bool
  | parameter _ | selfParameter => true
  | localVar | global => false

structure Variable where
  id : VarId
  name : String
  function : Option FunctionId
  typeName : Option String
  kind : VariableKind
  initializer : Option ExprId
  span : Span
deriving DecidableEq, Repr

/-- A field of an object, or a key of a hash that is known by name. -/
structure Field where
  id : FieldId
  name : String
deriving DecidableEq, Repr

inductive Literal where
  | string (text : String)
  | symbol (name : String)
  | number (text : String)
  | boolean (value : Bool)
  | nil
deriving DecidableEq, Repr

/-- The name that a literal key stands for: strings and symbols have one. -/
def Literal.name? : Literal → Option String
  | string s | symbol s => some s
  | number _ | boolean _ | nil => none

inductive Concept where
  | logging
  | networkSend
  | networkReceive
  | encryption
deriving DecidableEq, Repr

structure CallSite where
  name : String
  receiver : Option ExprId := none
  args : List ExprId := []
  target : Option FunctionId := none
  concept : Option Concept := none
  mutatesReceiver : Bool := false
deriving DecidableEq, Repr

def CallSite.operands (c : CallSite) : List ExprId :=
  c.receiver.toList ++ c.args

/-- A definition that may reach a read of a variable. -/
inductive Def where
  | initializer (v : VarId)
  | assign (e : ExprId)
  | param (v : VarId)
  | mutation (e : ExprId)
  /-- No value has been given yet. -/
  | uninitialized (v : VarId)
deriving DecidableEq, Hashable, Ord, Repr

structure HashEntry where
  key : ExprId
  value : ExprId
  field : Option FieldId
deriving DecidableEq, Repr

inductive ExprKind where
  | literal (value : Literal)
  | regex (pattern flags : String)
  | read (var : VarId) (defs : List Def)
  | assign (var : VarId) (value : ExprId)
  | call (site : CallSite)
  | fieldLoad (base : ExprId) (field : FieldId)
  | fieldStore (base : ExprId) (field : FieldId) (value : ExprId)
  | hash (entries : List HashEntry)
  | index (base key : ExprId) (field : Option FieldId)
  | operation (operator : String) (operands : List ExprId)
deriving DecidableEq, Repr

namespace ExprKind

def children : ExprKind → List ExprId
  | literal _ | regex _ _ | read _ _ => []
  | assign _ value => [value]
  | call site => site.operands
  | fieldLoad base _ => [base]
  | fieldStore base _ value => [base, value]
  | hash entries => entries.flatMap fun e ↦ [e.key, e.value]
  | index base key _ => [base, key]
  | operation _ operands => operands

def call? : ExprKind → Option CallSite
  | call site => some site
  | _ => none

end ExprKind

structure Guard where
  condition : ExprId
  branch : Bool
deriving DecidableEq, Repr

structure Expr where
  id : ExprId
  function : FunctionId
  span : Span
  text : String
  kind : ExprKind
  guards : List Guard
deriving DecidableEq, Repr

structure Program where
  functions : Array Function := #[]
  vars : Array Variable := #[]
  exprs : Array Expr := #[]
  fields : Array Field := #[]
deriving DecidableEq, Repr, Inhabited

namespace Program

variable (p : Program)

def function? (f : FunctionId) : Option Function := p.functions[f.index]?

def var? (v : VarId) : Option Variable := p.vars[v.index]?

def expr? (e : ExprId) : Option Expr := p.exprs[e.index]?

def field? (f : FieldId) : Option Field := p.fields[f.index]?

def fieldName? (f : FieldId) : Option String := (p.field? f).map (·.name)

def variableName? (v : VarId) : Option String := (p.var? v).map (·.name)

def kind? (e : ExprId) : Option ExprKind := (p.expr? e).map (·.kind)

def call? (e : ExprId) : Option CallSite := (p.kind? e).bind (·.call?)

def literalName? (e : ExprId) : Option String :=
  match p.kind? e with
  | some (.literal l) => l.name?
  | _ => none

def exprName? (e : ExprId) : Option String :=
  match p.kind? e with
  | some (.read v _) | some (.assign v _) => p.variableName? v
  | some (.call site) => some site.name
  | some (.fieldLoad _ f) | some (.fieldStore _ f _) => p.fieldName? f
  | some (.index _ _ (some f)) => p.fieldName? f
  | some (.index _ key none) => p.literalName? key
  | some (.literal l) => l.name?
  | _ => none

def location? (e : ExprId) : Option Location := do
  let expr ← p.expr? e
  let function ← p.function? expr.function
  return expr.span.location function.file

/-- The source text of an expression, or else its name, or else its number. -/
def describe (e : ExprId) : String :=
  match p.expr? e with
  | some expr => if expr.text.isEmpty then (p.exprName? e).getD (toString e) else expr.text
  | none => toString e

end Program

end TaintFlow
