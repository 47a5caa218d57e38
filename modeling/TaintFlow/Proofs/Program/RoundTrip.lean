import TaintFlow.Proofs.Json.Codec
import TaintFlow.Taint.Engine

namespace TaintFlow

open Json (Codec)

theorem FunctionId.codec : Codec toJson ofJson? := Codec.uint32.wrap fun _ ↦ rfl

theorem VarId.codec : Codec toJson ofJson? := Codec.uint32.wrap fun _ ↦ rfl

theorem ExprId.codec : Codec toJson ofJson? := Codec.uint32.wrap fun _ ↦ rfl

theorem FieldId.codec : Codec toJson ofJson? := Codec.uint32.wrap fun _ ↦ rfl

theorem Span.codec : Codec toJson ofJson? where
  plain s := by simp [toJson]
  decode_encode s := by
    simp [toJson, ofJson?, Json.Fields.required, Codec.uint32.decode_encode]

theorem Function.codec : Codec toJson ofJson? where
  plain f := by
    have hparams := VarId.codec.list.plain f.params
    have hself := (VarId.codec.option nofun).plain f.selfParam
    have hreturns := ExprId.codec.list.plain f.returns
    simp [toJson, FunctionId.codec.plain, hparams, hself, hreturns, Span.codec.plain]
  decode_encode f := by
    have hparams := VarId.codec.list.decode_encode f.params
    have hself := (VarId.codec.option nofun).decode_encode f.selfParam
    have hreturns := ExprId.codec.list.decode_encode f.returns
    simp [toJson, ofJson?, Json.Fields.required, Json.Fields.optional, Json.string?,
      FunctionId.codec.decode_encode, hparams, hself, hreturns, Span.codec.decode_encode]

theorem VariableKind.codec : Codec toJson ofJson? where
  plain k := by cases k <;> simp [toJson]
  decode_encode k := by
    cases k <;> simp [toJson, ofJson?, Json.tagged, Json.variant?, Json.plain?,
      Json.Fields.required, Codec.uint64.decode_encode]

theorem Variable.codec : Codec toJson ofJson? where
  plain v := by
    have hfunction := (FunctionId.codec.option nofun).plain v.function
    have htype := (Codec.string.option nofun).plain v.typeName
    have hinitializer := (ExprId.codec.option nofun).plain v.initializer
    simp [toJson, VarId.codec.plain, hfunction, htype, VariableKind.codec.plain, hinitializer,
      Span.codec.plain]
  decode_encode v := by
    have hfunction := (FunctionId.codec.option nofun).decode_encode v.function
    have htype := (Codec.string.option nofun).decode_encode v.typeName
    have hinitializer := (ExprId.codec.option nofun).decode_encode v.initializer
    simp [toJson, ofJson?, Json.Fields.required, Json.Fields.optional, Json.string?,
      VarId.codec.decode_encode, hfunction, htype, VariableKind.codec.decode_encode, hinitializer,
      Span.codec.decode_encode]

theorem Field.codec : Codec toJson ofJson? where
  plain f := by simp [toJson, FieldId.codec.plain]
  decode_encode f := by
    simp [toJson, ofJson?, Json.Fields.required, Json.string?, FieldId.codec.decode_encode]

theorem Literal.codec : Codec toJson ofJson? where
  plain l := by cases l <;> simp [toJson]
  decode_encode l := by
    cases l <;> simp [toJson, ofJson?, Json.tagged, Json.variant?, Json.string?, Json.bool?,
      Json.plain?]

theorem Concept.codec : Codec toJson ofJson? where
  plain c := by simp [toJson]
  decode_encode c := by
    cases c <;> simp [toJson, name, ofJson?, Json.variant?, Json.plain?]

theorem CallSite.codec : Codec toJson ofJson? where
  plain c := by
    have hreceiver := (ExprId.codec.option nofun).plain c.receiver
    have hargs := ExprId.codec.list.plain c.args
    have htarget := (FunctionId.codec.option nofun).plain c.target
    have hconcept := (Concept.codec.option nofun).plain c.concept
    simp [toJson, hreceiver, hargs, htarget, hconcept]
  decode_encode c := by
    have hreceiver := (ExprId.codec.option nofun).decode_encode c.receiver
    have hargs := ExprId.codec.list.decode_encode c.args
    have htarget := (FunctionId.codec.option nofun).decode_encode c.target
    have hconcept := (Concept.codec.option nofun).decode_encode c.concept
    simp [toJson, ofJson?, Json.Fields.required, Json.Fields.optional, Json.string?, Json.bool?,
      hreceiver, hargs, htarget, hconcept]

theorem Def.codec : Codec toJson ofJson? where
  plain d := by cases d <;> simp [toJson, VarId.codec.plain, ExprId.codec.plain]
  decode_encode d := by
    cases d <;> simp [toJson, ofJson?, Json.tagged, Json.variant?, VarId.codec.decode_encode,
      ExprId.codec.decode_encode]

theorem HashEntry.codec : Codec toJson ofJson? where
  plain e := by
    have hfield := (FieldId.codec.option nofun).plain e.field
    simp [toJson, ExprId.codec.plain, hfield]
  decode_encode e := by
    have hfield := (FieldId.codec.option nofun).decode_encode e.field
    simp [toJson, ofJson?, Json.Fields.required, Json.Fields.optional,
      ExprId.codec.decode_encode, hfield]

theorem ExprKind.codec : Codec toJson ofJson? where
  plain k := by
    cases k with
    | literal value => simp [toJson, Literal.codec.plain]
    | regex pattern flags => simp [toJson]
    | read v defs => simp [toJson, VarId.codec.plain, Def.codec.list.plain]
    | assign v value => simp [toJson, VarId.codec.plain, ExprId.codec.plain]
    | call site => simp [toJson, CallSite.codec.plain]
    | fieldLoad base f => simp [toJson, ExprId.codec.plain, FieldId.codec.plain]
    | fieldStore base f value => simp [toJson, ExprId.codec.plain, FieldId.codec.plain]
    | hash entries => simp [toJson, HashEntry.codec.list.plain]
    | index base key f =>
      have hfield := (FieldId.codec.option nofun).plain f
      simp [toJson, ExprId.codec.plain, hfield]
    | operation operator operands => simp [toJson, ExprId.codec.list.plain]
  decode_encode k := by
    cases k with
    | literal value =>
      simp [toJson, ofJson?, Json.tagged, Json.variant?, Literal.codec.decode_encode]
    | regex pattern flags =>
      simp [toJson, ofJson?, Json.tagged, Json.variant?, Json.Fields.required,
        Json.Fields.optional, Json.string?]
    | read v defs =>
      simp [toJson, ofJson?, Json.tagged, Json.variant?, Json.Fields.required,
        VarId.codec.decode_encode, Def.codec.list.decode_encode]
    | assign v value =>
      simp [toJson, ofJson?, Json.tagged, Json.variant?, Json.Fields.required,
        VarId.codec.decode_encode, ExprId.codec.decode_encode]
    | call site =>
      simp [toJson, ofJson?, Json.tagged, Json.variant?, CallSite.codec.decode_encode]
    | fieldLoad base f =>
      simp [toJson, ofJson?, Json.tagged, Json.variant?, Json.Fields.required,
        ExprId.codec.decode_encode, FieldId.codec.decode_encode]
    | fieldStore base f value =>
      simp [toJson, ofJson?, Json.tagged, Json.variant?, Json.Fields.required,
        ExprId.codec.decode_encode, FieldId.codec.decode_encode]
    | hash entries =>
      simp [toJson, ofJson?, Json.tagged, Json.variant?, Json.Fields.required,
        HashEntry.codec.list.decode_encode]
    | index base key f =>
      have hfield := (FieldId.codec.option nofun).decode_encode f
      simp [toJson, ofJson?, Json.tagged, Json.variant?, Json.Fields.required,
        Json.Fields.optional, ExprId.codec.decode_encode, hfield]
    | operation operator operands =>
      simp [toJson, ofJson?, Json.tagged, Json.variant?, Json.Fields.required, Json.string?,
        ExprId.codec.list.decode_encode]

theorem Guard.codec : Codec toJson ofJson? where
  plain g := by simp [toJson, ExprId.codec.plain]
  decode_encode g := by
    simp [toJson, ofJson?, Json.Fields.required, Json.bool?, ExprId.codec.decode_encode]

theorem Expr.codec : Codec toJson ofJson? where
  plain e := by
    simp [toJson, ExprId.codec.plain, FunctionId.codec.plain, Span.codec.plain,
      ExprKind.codec.plain, Guard.codec.list.plain]
  decode_encode e := by
    simp [toJson, ofJson?, Json.Fields.required, Json.Fields.optional, Json.string?,
      ExprId.codec.decode_encode, FunctionId.codec.decode_encode, Span.codec.decode_encode,
      ExprKind.codec.decode_encode, Guard.codec.list.decode_encode]

namespace Program

theorem codec : Codec toJson ofJson? where
  plain p := by
    simp [toJson, Function.codec.list.plain, Variable.codec.list.plain, Expr.codec.list.plain,
      Field.codec.list.plain]
  decode_encode p := by
    simp [toJson, ofJson?, Json.Fields.optional, Function.codec.list.decode_encode,
      Variable.codec.list.decode_encode, Expr.codec.list.decode_encode,
      Field.codec.list.decode_encode]

/-- Every program, well formed or not, is read back from its text. -/
theorem ofText?_toText (p : Program) : ofText? p.toText = some p := by
  have htext : Json.read? p.toText = some p.toJson := (codec.plain p).read?_pretty
  rw [ofText?, htext]
  exact codec.decode_encode p

end Program

namespace Engine

theorem readProgram_toText_eq (p : Program) :
    readProgram p.toText = (checkProgram p).map fun _ ↦ p := by
  simp only [readProgram, p.ofText?_toText]
  cases checkProgram p <;> rfl

/-- A well-formed program is accepted when it is read back from its text. -/
theorem readProgram_toText {p : Program} (h : p.validate = .ok ()) :
    readProgram p.toText = .ok p := by
  have hcheck : checkProgram p = .ok () := by rw [checkProgram, h]
  rw [readProgram_toText_eq, hcheck]
  rfl

def quotingCall : CallSite where
  name := "f"
  receiver := some ⟨0⟩
  args := [⟨0⟩]
  target := some ⟨0⟩
  concept := some .networkSend
  mutatesReceiver := true

def quotingProgram : Program where
  functions := #[⟨⟨0⟩, "quote\"\\\n", "naïve\x00.rb", [⟨0⟩], some ⟨1⟩, [⟨1⟩], .onLine 3 1 9⟩]
  vars := #[⟨⟨0⟩, "\u2028", some ⟨0⟩, some "", .parameter 0, some ⟨0⟩, .zero⟩,
    ⟨⟨1⟩, "self", none, none, .selfParameter, none, .zero⟩]
  exprs := #[⟨⟨0⟩, ⟨0⟩, .zero, "\x1b[1m", .literal (.string "\t\x7f𝄞"), []⟩,
    ⟨⟨1⟩, ⟨0⟩, .zero, "", .call quotingCall, [⟨⟨0⟩, false⟩]⟩,
    ⟨⟨2⟩, ⟨0⟩, .zero, "", .hash [⟨⟨0⟩, ⟨1⟩, some ⟨0⟩⟩, ⟨⟨1⟩, ⟨0⟩, none⟩], []⟩,
    ⟨⟨3⟩, ⟨0⟩, .zero, "", .read ⟨0⟩ [.param ⟨0⟩, .mutation ⟨2⟩], []⟩]
  fields := #[⟨⟨0⟩, "/\x08"⟩]

theorem readProgram_toText_quoting : quotingProgram.validate = .ok () ∧
    readProgram quotingProgram.toText = .ok quotingProgram := by
  have hvalid : quotingProgram.validate = .ok () := by cbv
  exact ⟨hvalid, readProgram_toText hvalid⟩

end Engine

end TaintFlow
