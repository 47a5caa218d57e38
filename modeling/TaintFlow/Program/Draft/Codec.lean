import TaintFlow.Program.Codec
import TaintFlow.Program.Draft

namespace TaintFlow.Draft.Step

/-- A step is written as an array of its name and its arguments; more of them are passed over. -/
def ofJson? : Json → Option Step
  | .array (.string name :: args) =>
    match name, args with
    | "in_file", path :: _ => return .inFile (← path.string?)
    | "function", name :: _ => return .function (← name.string?)
    | "param", f :: name :: _ => return .param (← FunctionId.ofJson? f) (← name.string?) none
    | "param_typed", f :: name :: type :: _ =>
      return .param (← FunctionId.ofJson? f) (← name.string?) (← type.string?)
    | "self_param", f :: _ => return .selfParam (← FunctionId.ofJson? f)
    | "local", f :: name :: _ => return .localVar (← FunctionId.ofJson? f) (← name.string?) none
    | "local_typed", f :: name :: type :: _ =>
      return .localVar (← FunctionId.ofJson? f) (← name.string?) (← type.string?)
    | "global", name :: _ => return .global (← name.string?)
    | "field", name :: _ => return .field (← name.string?)
    | "initialize", v :: e :: _ => return .setInitial (← VarId.ofJson? v) (← ExprId.ofJson? e)
    | "returns", f :: e :: _ => return .returns (← FunctionId.ofJson? f) (← ExprId.ofJson? e)
    | "literal", f :: l :: _ => return .literal (← FunctionId.ofJson? f) (← Literal.ofJson? l)
    | "string", f :: s :: _ => return .literal (← FunctionId.ofJson? f) (.string (← s.string?))
    | "symbol", f :: s :: _ => return .literal (← FunctionId.ofJson? f) (.symbol (← s.string?))
    | "number", f :: s :: _ => return .literal (← FunctionId.ofJson? f) (.number (← s.string?))
    | "regex", f :: pattern :: flags :: _ =>
      return .regex (← FunctionId.ofJson? f) (← pattern.string?) (← flags.string?)
    | "read", f :: v :: defs :: _ =>
      return .read (← FunctionId.ofJson? f) (← VarId.ofJson? v) (← defs.list? Def.ofJson?)
    | "set_defs", e :: defs :: _ =>
      return .setDefs (← ExprId.ofJson? e) (← defs.list? Def.ofJson?)
    | "assign", f :: v :: e :: _ =>
      return .assign (← FunctionId.ofJson? f) (← VarId.ofJson? v) (← ExprId.ofJson? e)
    | "call", f :: site :: _ => return .call (← FunctionId.ofJson? f) (← CallSite.ofJson? site)
    | "field_load", f :: e :: name :: _ =>
      return .fieldLoad (← FunctionId.ofJson? f) (← ExprId.ofJson? e) (← name.string?)
    | "field_store", f :: base :: name :: value :: _ =>
      return .fieldStore (← FunctionId.ofJson? f) (← ExprId.ofJson? base) (← name.string?)
        (← ExprId.ofJson? value)
    | "hash", f :: entries :: _ =>
      return .hash (← FunctionId.ofJson? f)
        (← entries.list? (Json.pair? ExprId.ofJson? ExprId.ofJson?))
    | "index", f :: base :: key :: _ =>
      return .index (← FunctionId.ofJson? f) (← ExprId.ofJson? base) (← ExprId.ofJson? key)
    | "operation", f :: operator :: operands :: _ =>
      return .operation (← FunctionId.ofJson? f) (← operator.string?)
        (← operands.list? ExprId.ofJson?)
    | "guard", e :: condition :: branch :: _ =>
      return .guard (← ExprId.ofJson? e) (← ExprId.ofJson? condition) (← branch.bool?)
    | "set_text", e :: text :: _ => return .setText (← ExprId.ofJson? e) (← text.string?)
    | "set_span", e :: span :: _ => return .setSpan (← ExprId.ofJson? e) (← Span.ofJson? span)
    | _, _ => none
  | _ => none

end TaintFlow.Draft.Step
