import TaintFlow.Rules.NameTables
import TaintFlow.Taint.Rule

namespace TaintFlow

structure SensitiveNames where
  isName : String → Bool
  isType : String → Bool

def NameTables.sensitive (t : NameTables) : SensitiveNames where
  isName := t.isSensitiveName
  isType := t.isSensitiveType

namespace SensitiveSource

variable (s : SensitiveNames) (g : FlowGraph)

def isSensitiveVariable (v : VarId) : Bool :=
  (g.program.var? v).any fun x ↦
    s.isName x.name || x.typeName.any s.isType

def isSensitiveField (f : FieldId) : Bool :=
  (g.program.fieldName? f).any s.isName

def isSensitiveUse (u : Use) : Bool :=
  match u.role with
  | .assignedValue =>
    match g.program.kind? u.user with
    | some (.assign v _) => isSensitiveVariable s g v
    | _ => false
  | .hashValue (some f) | .storedValue f => isSensitiveField s g f
  | _ => false

/-- Whether a field is sensitive and never written, so that it must come from elsewhere. -/
def isUnwritten (f : FieldId) : Bool :=
  !g.index.writtenFields.contains f && isSensitiveField s g f

def isSensitiveExpr (e : ExprId) : Bool :=
  (g.index.initializerOf[e]?).any (isSensitiveVariable s g) ||
    (g.index.uses.get e).any (isSensitiveUse s g) ||
    match g.program.kind? e with
    | some (.call site) => s.isName site.name
    | some (.fieldLoad _ f) | some (.index _ _ (some f)) => isUnwritten s g f
    | _ => false

def isSource : FlowNode → Bool
  | .expr e => isSensitiveExpr s g e
  | .param v | .uninitialized v => isSensitiveVariable s g v
  | .postUpdate _ | .returned _ => false

end SensitiveSource

end TaintFlow
