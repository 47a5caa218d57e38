import TaintFlow.Program.WellFormed
import TaintFlow.Json.Record
import TaintFlow.Json.Reader
import TaintFlow.Json.Printer

namespace TaintFlow

namespace FunctionId

def toJson (f : FunctionId) : Json := .natural f.index

def ofJson? (j : Json) : Option FunctionId := j.uint32?.map FunctionId.mk

end FunctionId

namespace VarId

def toJson (v : VarId) : Json := .natural v.index

def ofJson? (j : Json) : Option VarId := j.uint32?.map VarId.mk

end VarId

namespace ExprId

def toJson (e : ExprId) : Json := .natural e.index

def ofJson? (j : Json) : Option ExprId := j.uint32?.map ExprId.mk

end ExprId

namespace FieldId

def toJson (f : FieldId) : Json := .natural f.index

def ofJson? (j : Json) : Option FieldId := j.uint32?.map FieldId.mk

end FieldId

namespace Span

def toJson (s : Span) : Json :=
  .object [("start_line", .natural s.startLine.toNat), ("start_col", .natural s.startCol.toNat),
    ("end_line", .natural s.endLine.toNat), ("end_col", .natural s.endCol.toNat)]

def ofJson? (j : Json) : Option Span := do
  let fields ← j.fields? ["start_line", "start_col", "end_line", "end_col"] false
  return { startLine := ← fields.required "start_line" Json.uint32?
           startCol := ← fields.required "start_col" Json.uint32?
           endLine := ← fields.required "end_line" Json.uint32?
           endCol := ← fields.required "end_col" Json.uint32? }

end Span

def Location.toJson (l : Location) : Json :=
  .object [("file", .string l.file), ("line", .natural l.line.toNat),
    ("column", .natural l.column.toNat)]

namespace Function

def toJson (f : Function) : Json :=
  .object [("id", f.id.toJson), ("name", .string f.name), ("file_path", .string f.file),
    ("params", .ofList VarId.toJson f.params), ("self_param", .ofOption VarId.toJson f.selfParam),
    ("returns", .ofList ExprId.toJson f.returns), ("span", f.span.toJson)]

def ofJson? (j : Json) : Option Function := do
  let fields ←
    j.fields? ["id", "name", "file_path", "params", "self_param", "returns", "span"] false
  return { id := ← fields.required "id" FunctionId.ofJson?
           name := ← fields.required "name" Json.string?
           file := ← fields.required "file_path" Json.string?
           params := ← fields.optional "params" [] (Json.list? VarId.ofJson?)
           selfParam := ← fields.optional "self_param" none (Json.nullable VarId.ofJson?)
           returns := ← fields.optional "returns" [] (Json.list? ExprId.ofJson?)
           span := ← fields.optional "span" .zero Span.ofJson? }

end Function

namespace VariableKind

def toJson : VariableKind → Json
  | localVar => .string "local"
  | parameter i => .tagged "parameter" (.object [("index", .natural i.toNat)])
  | selfParameter => .string "self_parameter"
  | global => .string "global"

def ofJson? (j : Json) : Option VariableKind := do
  match ← j.variant? with
  | ("local", payload) => Json.plain? localVar payload
  | ("self_parameter", payload) => Json.plain? selfParameter payload
  | ("global", payload) => Json.plain? global payload
  | ("parameter", some payload) =>
    let fields ← payload.fields? ["index"] false
    return parameter (← fields.required "index" Json.uint64?)
  | _ => none

end VariableKind

namespace Variable

def toJson (v : Variable) : Json :=
  .object [("id", v.id.toJson), ("name", .string v.name),
    ("function", .ofOption FunctionId.toJson v.function),
    ("type_name", .ofOption .string v.typeName), ("kind", v.kind.toJson),
    ("initializer", .ofOption ExprId.toJson v.initializer), ("span", v.span.toJson)]

def ofJson? (j : Json) : Option Variable := do
  let fields ←
    j.fields? ["id", "name", "function", "type_name", "kind", "initializer", "span"] false
  return { id := ← fields.required "id" VarId.ofJson?
           name := ← fields.required "name" Json.string?
           function := ← fields.optional "function" none (Json.nullable FunctionId.ofJson?)
           typeName := ← fields.optional "type_name" none (Json.nullable Json.string?)
           kind := ← fields.required "kind" VariableKind.ofJson?
           initializer := ← fields.optional "initializer" none (Json.nullable ExprId.ofJson?)
           span := ← fields.optional "span" .zero Span.ofJson? }

end Variable

namespace Field

def toJson (f : Field) : Json :=
  .object [("id", f.id.toJson), ("name", .string f.name)]

def ofJson? (j : Json) : Option Field := do
  let fields ← j.fields? ["id", "name"] false
  return { id := ← fields.required "id" FieldId.ofJson?
           name := ← fields.required "name" Json.string? }

end Field

namespace Literal

def toJson : Literal → Json
  | string s => .tagged "string" (.string s)
  | symbol s => .tagged "symbol" (.string s)
  | number n => .tagged "number" (.string n)
  | boolean b => .tagged "boolean" (.bool b)
  | nil => .string "nil"

def ofJson? (j : Json) : Option Literal := do
  match ← j.variant? with
  | ("string", some payload) => return string (← payload.string?)
  | ("symbol", some payload) => return symbol (← payload.string?)
  | ("number", some payload) => return number (← payload.string?)
  | ("boolean", some payload) => return boolean (← payload.bool?)
  | ("nil", payload) => Json.plain? nil payload
  | _ => none

end Literal

namespace Concept

def name : Concept → String
  | logging => "logging"
  | networkSend => "network_send"
  | networkReceive => "network_receive"
  | encryption => "encryption"

def toJson (c : Concept) : Json := .string c.name

def ofJson? (j : Json) : Option Concept := do
  match ← j.variant? with
  | ("logging", payload) => Json.plain? logging payload
  | ("network_send", payload) => Json.plain? networkSend payload
  | ("network_receive", payload) => Json.plain? networkReceive payload
  | ("encryption", payload) => Json.plain? encryption payload
  | _ => none

end Concept

namespace CallSite

def toJson (c : CallSite) : Json :=
  .object [("name", .string c.name), ("receiver", .ofOption ExprId.toJson c.receiver),
    ("args", .ofList ExprId.toJson c.args), ("target", .ofOption FunctionId.toJson c.target),
    ("concept", .ofOption Concept.toJson c.concept),
    ("mutates_receiver", .bool c.mutatesReceiver)]

def ofJson? (j : Json) : Option CallSite := do
  let fields ←
    j.fields? ["name", "receiver", "args", "target", "concept", "mutates_receiver"] false
  return { name := ← fields.required "name" Json.string?
           receiver := ← fields.optional "receiver" none (Json.nullable ExprId.ofJson?)
           args := ← fields.optional "args" [] (Json.list? ExprId.ofJson?)
           target := ← fields.optional "target" none (Json.nullable FunctionId.ofJson?)
           concept := ← fields.optional "concept" none (Json.nullable Concept.ofJson?)
           mutatesReceiver := ← fields.optional "mutates_receiver" false Json.bool? }

end CallSite

namespace Def

def toJson : Def → Json
  | initializer v => .tagged "initializer" v.toJson
  | assign e => .tagged "assign" e.toJson
  | param v => .tagged "param" v.toJson
  | mutation e => .tagged "mutation" e.toJson
  | uninitialized v => .tagged "uninitialized" v.toJson

def ofJson? (j : Json) : Option Def := do
  match ← j.variant? with
  | ("initializer", some payload) => return initializer (← VarId.ofJson? payload)
  | ("assign", some payload) => return assign (← ExprId.ofJson? payload)
  | ("param", some payload) => return param (← VarId.ofJson? payload)
  | ("mutation", some payload) => return mutation (← ExprId.ofJson? payload)
  | ("uninitialized", some payload) => return uninitialized (← VarId.ofJson? payload)
  | _ => none

end Def

namespace HashEntry

def toJson (e : HashEntry) : Json :=
  .object [("key", e.key.toJson), ("value", e.value.toJson),
    ("field", .ofOption FieldId.toJson e.field)]

def ofJson? (j : Json) : Option HashEntry := do
  let fields ← j.fields? ["key", "value", "field"] false
  return { key := ← fields.required "key" ExprId.ofJson?
           value := ← fields.required "value" ExprId.ofJson?
           field := ← fields.optional "field" none (Json.nullable FieldId.ofJson?) }

end HashEntry

namespace ExprKind

def toJson : ExprKind → Json
  | literal value => .tagged "literal" value.toJson
  | regex pattern flags =>
    .tagged "regex" (.object [("pattern", .string pattern), ("flags", .string flags)])
  | read v defs =>
    .tagged "read" (.object [("var", v.toJson), ("defs", .ofList Def.toJson defs)])
  | assign v value =>
    .tagged "assign" (.object [("var", v.toJson), ("value", value.toJson)])
  | call site => .tagged "call" site.toJson
  | fieldLoad base f =>
    .tagged "field_load" (.object [("base", base.toJson), ("field", f.toJson)])
  | fieldStore base f value =>
    .tagged "field_store"
      (.object [("base", base.toJson), ("field", f.toJson), ("value", value.toJson)])
  | hash entries => .tagged "hash" (.object [("entries", .ofList HashEntry.toJson entries)])
  | index base key f =>
    .tagged "index" (.object
      [("base", base.toJson), ("key", key.toJson), ("field", .ofOption FieldId.toJson f)])
  | operation operator operands =>
    .tagged "operation"
      (.object [("operator", .string operator), ("operands", .ofList ExprId.toJson operands)])

def ofJson? (j : Json) : Option ExprKind := do
  match ← j.variant? with
  | ("literal", some payload) => return literal (← Literal.ofJson? payload)
  | ("regex", some payload) =>
    let fields ← payload.fields? ["pattern", "flags"] false
    return regex (← fields.required "pattern" Json.string?)
      (← fields.optional "flags" "" Json.string?)
  | ("read", some payload) =>
    let fields ← payload.fields? ["var", "defs"] false
    return read (← fields.required "var" VarId.ofJson?)
      (← fields.required "defs" (Json.list? Def.ofJson?))
  | ("assign", some payload) =>
    let fields ← payload.fields? ["var", "value"] false
    return assign (← fields.required "var" VarId.ofJson?)
      (← fields.required "value" ExprId.ofJson?)
  | ("call", some payload) => return call (← CallSite.ofJson? payload)
  | ("field_load", some payload) =>
    let fields ← payload.fields? ["base", "field"] false
    return fieldLoad (← fields.required "base" ExprId.ofJson?)
      (← fields.required "field" FieldId.ofJson?)
  | ("field_store", some payload) =>
    let fields ← payload.fields? ["base", "field", "value"] false
    return fieldStore (← fields.required "base" ExprId.ofJson?)
      (← fields.required "field" FieldId.ofJson?) (← fields.required "value" ExprId.ofJson?)
  | ("hash", some payload) =>
    let fields ← payload.fields? ["entries"] false
    return hash (← fields.required "entries" (Json.list? HashEntry.ofJson?))
  | ("index", some payload) =>
    let fields ← payload.fields? ["base", "key", "field"] false
    return index (← fields.required "base" ExprId.ofJson?)
      (← fields.required "key" ExprId.ofJson?)
      (← fields.optional "field" none (Json.nullable FieldId.ofJson?))
  | ("operation", some payload) =>
    let fields ← payload.fields? ["operator", "operands"] false
    return operation (← fields.required "operator" Json.string?)
      (← fields.required "operands" (Json.list? ExprId.ofJson?))
  | _ => none

end ExprKind

namespace Guard

def toJson (g : Guard) : Json :=
  .object [("condition", g.condition.toJson), ("branch", .bool g.branch)]

def ofJson? (j : Json) : Option Guard := do
  let fields ← j.fields? ["condition", "branch"] false
  return { condition := ← fields.required "condition" ExprId.ofJson?
           branch := ← fields.required "branch" Json.bool? }

end Guard

namespace Expr

def toJson (e : Expr) : Json :=
  .object [("id", e.id.toJson), ("function", e.function.toJson), ("span", e.span.toJson),
    ("text", .string e.text), ("kind", e.kind.toJson), ("guards", .ofList Guard.toJson e.guards)]

def ofJson? (j : Json) : Option Expr := do
  let fields ← j.fields? ["id", "function", "span", "text", "kind", "guards"] false
  return { id := ← fields.required "id" ExprId.ofJson?
           function := ← fields.required "function" FunctionId.ofJson?
           span := ← fields.optional "span" .zero Span.ofJson?
           text := ← fields.optional "text" "" Json.string?
           kind := ← fields.required "kind" ExprKind.ofJson?
           guards := ← fields.optional "guards" [] (Json.list? Guard.ofJson?) }

end Expr

namespace Program

def toJson (p : Program) : Json :=
  .object [("functions", .ofList Function.toJson p.functions.toList),
    ("variables", .ofList Variable.toJson p.vars.toList),
    ("exprs", .ofList Expr.toJson p.exprs.toList),
    ("fields", .ofList Field.toJson p.fields.toList)]

def ofJson? (j : Json) : Option Program := do
  let fields ← j.fields? ["functions", "variables", "exprs", "fields"] false
  return {
    functions := (← fields.optional "functions" [] (Json.list? Function.ofJson?)).toArray
    vars := (← fields.optional "variables" [] (Json.list? Variable.ofJson?)).toArray
    exprs := (← fields.optional "exprs" [] (Json.list? Expr.ofJson?)).toArray
    fields := (← fields.optional "fields" [] (Json.list? Field.ofJson?)).toArray }

def toText (p : Program) : String :=
  p.toJson.pretty

def ofText? (text : String) : Option Program :=
  Json.read? text >>= ofJson?

end Program

end TaintFlow
