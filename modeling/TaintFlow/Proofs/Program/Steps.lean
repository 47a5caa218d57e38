import Mathlib.Tactic.Tauto
import TaintFlow.Program.Draft

namespace TaintFlow

def ExprKind.fieldSlots : ExprKind → List (Option FieldId)
  | fieldLoad _ f | fieldStore _ f _ => [some f]
  | hash entries => entries.map (·.field)
  | index _ _ field => [field]
  | literal _ | regex _ _ | read _ _ | assign _ _ | call _ | operation _ _ => []

namespace Draft

variable (d : Draft)

def edit (change : Program → Program) : Draft :=
  { d with program := change d.program }

def pushFunction (name : String) : Draft :=
  let new : Function :=
    { id := .ofIndex d.program.functions.size, name, file := d.file, params := [],
      selfParam := none, returns := [], span := .zero }
  d.edit fun p ↦ { p with functions := p.functions.push new }

def editFunction (f : FunctionId) (change : Function → Function) : Draft :=
  d.edit fun p ↦ { p with functions := p.functions.modify f.index change }

def pushVariable (function : Option FunctionId) (name : String) (typeName : Option String)
    (kind : VariableKind) : Draft :=
  let new : Variable :=
    { id := .ofIndex d.program.vars.size, name, function, typeName, kind, initializer := none,
      span := .zero }
  d.edit fun p ↦ { p with vars := p.vars.push new }

def editVariable (v : VarId) (change : Variable → Variable) : Draft :=
  d.edit fun p ↦ { p with vars := p.vars.modify v.index change }

def pushExpr (function : FunctionId) (kind : ExprKind) (text : String) : Draft :=
  let id := ExprId.ofIndex d.program.exprs.size
  let span := Span.onLine (id.val + 1) 1 (1 + UInt32.ofNat text.utf8ByteSize)
  d.edit fun p ↦ { p with exprs := p.exprs.push { id, function, span, text, kind, guards := [] } }

def editExpr (e : ExprId) (change : Expr → Expr) : Draft :=
  d.edit fun p ↦ { p with exprs := p.exprs.modify e.index change }

def pushField (name : String) : Draft :=
  let id := FieldId.ofIndex d.program.fields.size
  { d with
    program := { d.program with fields := d.program.fields.push { id, name } }
    fieldIds := d.fieldIds.insert name id }

def intern (name : String) : FieldId × Draft :=
  match d.fieldIds[name]? with
  | some id => (id, d)
  | none => (.ofIndex d.program.fields.size, d.pushField name)

def pushParam (f : FunctionId) (position : Nat) (name : String) (typeName : Option String) :
    Draft :=
  (d.pushVariable (some f) name typeName (.parameter (.ofNat position))).editFunction f fun fn ↦
    { fn with params := fn.params ++ [.ofIndex d.program.vars.size] }

def pushReceiver (f : FunctionId) : Draft :=
  d.pushVariable (some f) "self" none .selfParameter

/-- Names are looked up one after the other, where there is one, and their fields found or made. -/
inductive Interns : Draft → List (Option String) → List (Option FieldId) → Draft → Prop
  | nil {d : Draft} : Interns d [] [] d
  | skip {d d' : Draft} {names : List (Option String)} {fields : List (Option FieldId)}
      (h : Interns d names fields d') : Interns d (none :: names) (none :: fields) d'
  | look {d d' : Draft} {name : String} {names : List (Option String)}
      {fields : List (Option FieldId)} (h : Interns (d.intern name).2 names fields d') :
      Interns d (some name :: names) (some (d.intern name).1 :: fields) d'

section

variable {d} {d' d₁ : Draft} {names names' : List (Option String)}
  {fields fields' : List (Option FieldId)}

theorem Interns.eq_withFields (h : d.Interns names fields d') :
    d'.program = { d.program with fields := d'.program.fields } := by
  induction h with
  | nil => rfl
  | skip h ih => exact ih
  | look h ih =>
    rw [ih]
    unfold intern
    split <;> rfl

theorem Interns.exprs_eq (h : d.Interns names fields d') : d'.program.exprs = d.program.exprs := by
  rw [h.eq_withFields]

theorem Interns.literalName?_eq (h : d.Interns names fields d') (e : ExprId) :
    d'.program.literalName? e = d.program.literalName? e := by
  rw [Program.literalName?, Program.literalName?, Program.kind?, Program.kind?, Program.expr?,
    Program.expr?, h.exprs_eq]

theorem Interns.append (h : d.Interns names fields d₁) (h' : d₁.Interns names' fields' d') :
    d.Interns (names ++ names') (fields ++ fields') d' := by
  induction h with
  | nil => exact h'
  | skip h ih => exact .skip (ih h')
  | look h ih => exact .look (ih h')

end

namespace Step

def refs : Step → List Ref
  | .inFile _ | .function _ | .global _ | .field _ => []
  | .param f _ _ | .selfParam f | .localVar f _ _ | .literal f _ | .regex f _ _ => [.function f]
  | .setInitial v value => [.var v, .expr value]
  | .returns f value => [.function f, .expr value]
  | .read f v defs => .function f :: .var v :: defs.map Def.ref
  | .setDefs e defs => .expr e :: defs.map Def.ref
  | .assign f v value => [.function f, .var v, .expr value]
  | .call f site =>
    .function f :: site.operands.map .expr ++ site.target.toList.map .function
  | .fieldLoad f base _ => [.function f, .expr base]
  | .fieldStore f base _ value => [.function f, .expr base, .expr value]
  | .hash f pairs => .function f :: pairs.flatMap fun (key, value) ↦ [.expr key, .expr value]
  | .index f base key => [.function f, .expr base, .expr key]
  | .operation f _ operands => .function f :: operands.map .expr
  | .guard e condition _ => [.expr e, .expr condition]
  | .setText e _ | .setSpan e _ => [.expr e]

def names (p : Program) : Step → List (Option String)
  | .field name | .fieldLoad _ _ name | .fieldStore _ _ name _ => [some name]
  | .hash _ pairs => pairs.map fun (key, _) ↦ p.literalName? key
  | .index _ _ key => [p.literalName? key]
  | _ => []

end Step

/-- What adding an expression comes to. The names are looked up first, and the expression refers to
their fields and to what was passed. -/
inductive Adds (d : Draft) (function : FunctionId) (names : List (Option String))
    (passed : List Ref) : Except Ref ExprId × Draft → Prop
  | added {kind : ExprKind} {text : String} {d' : Draft}
      (hi : d.Interns names kind.fieldSlots d')
      (hr : ∀ ref ∈ kind.children.map .expr ++ kind.otherRefs,
        ref ∈ passed ∨ ∃ f, ref = .field f ∧ some f ∈ kind.fieldSlots) :
      Adds d function names passed
        (.ok (.ofIndex d.program.exprs.size), d'.pushExpr function kind text)
  | missing {ref : Ref} (hm : d.program.size ref ≤ ref.index) :
      Adds d function names passed (.error ref, d)

/-- Everything that a step may come to. -/
inductive Effect (d : Draft) : Step → Except Ref (Option Ref) × Draft → Prop
  | inFile (file : String) : Effect d (.inFile file) (.ok none, { d with file })
  | function (name : String) : Effect d (.function name)
      (.ok (some (.function (.ofIndex d.program.functions.size))), d.pushFunction name)
  | param {f : FunctionId} {x : Function} (hx : d.program.functions[f.index]? = some x)
      (name : String) (typeName : Option String) : Effect d (.param f name typeName)
      (.ok (some (.var (.ofIndex d.program.vars.size))),
        d.pushParam f x.params.length name typeName)
  | selfParam {f : FunctionId} (hf : f.index < d.program.functions.size) : Effect d (.selfParam f)
      (.ok (some (.var (.ofIndex d.program.vars.size))),
        (d.pushReceiver f).editFunction f fun fn ↦
          { fn with selfParam := some (.ofIndex d.program.vars.size) })
  | orphan {f : FunctionId} (hf : d.program.functions.size ≤ f.index) :
      Effect d (.selfParam f) (.error (.function f), d.pushReceiver f)
  | localVar (f : FunctionId) (name : String) (typeName : Option String) :
      Effect d (.localVar f name typeName) (.ok (some (.var (.ofIndex d.program.vars.size))),
        d.pushVariable (some f) name typeName .localVar)
  | global (name : String) : Effect d (.global name)
      (.ok (some (.var (.ofIndex d.program.vars.size))), d.pushVariable none name none .global)
  | field {name : String} {f : FieldId} {d' : Draft} (hi : d.Interns [some name] [some f] d') :
      Effect d (.field name) (.ok (some (.field f)), d')
  | setInitial (v : VarId) (value : ExprId) : Effect d (.setInitial v value)
      (.ok none, d.editVariable v fun x ↦ { x with initializer := some value })
  | returns (f : FunctionId) (value : ExprId) : Effect d (.returns f value)
      (.ok none, d.editFunction f fun fn ↦ { fn with returns := fn.returns ++ [value] })
  | revise {step : Step} {e : ExprId} {change : Expr → Expr} (hn : step.names d.program = [])
      (hid : ∀ x, (change x).id = x.id)
      (hk : ∀ x, (change x).kind.fieldSlots = x.kind.fieldSlots)
      (hr : ∀ x, ∀ ref ∈ (change x).refs, ref ∈ x.refs ∨ ref ∈ step.refs) :
      Effect d step (.ok none, d.editExpr e change)
  | expr {step : Step} {function : FunctionId} {kind : ExprKind} {text : String} {d' : Draft}
      (hf : .function function ∈ step.refs)
      (hi : d.Interns (step.names d.program) kind.fieldSlots d')
      (hr : ∀ ref ∈ kind.children.map .expr ++ kind.otherRefs,
        ref ∈ step.refs ∨ ∃ f, ref = .field f ∧ some f ∈ kind.fieldSlots) :
      Effect d step (.ok (some (.expr (.ofIndex d.program.exprs.size))),
        d'.pushExpr function kind text)
  | missing {step : Step} {ref : Ref} (hs : ∀ f, step ≠ .selfParam f)
      (hm : d.program.size ref ≤ ref.index) : Effect d step (.error ref, d)

end Draft

namespace Drafting

variable {α β : Type}

def outcome (x : Drafting α) (d : Draft) : Except Ref α × Draft :=
  StateT.run (ExceptT.run x) d

def Looks (x : Drafting α) : Prop := ∀ d, ∃ a, outcome x d = (.ok a, d)

def Pushes (function : FunctionId) (kind : ExprKind) (x : Drafting ExprId) : Prop :=
  ∀ d, ∃ text, outcome x d =
    (.ok (.ofIndex d.program.exprs.size), d.pushExpr function kind text)

section

variable {d d' : Draft} {x : Drafting α} {f : α → Drafting β} {a : α} {b : β} {ref : Ref}

theorem outcome_bind : outcome (x >>= f) d =
    match outcome x d with
    | (.ok a, d') => outcome (f a) d'
    | (.error missing, d') => (.error missing, d') := by
  cases h : outcome x d with
  | mk r d' =>
    have hx : StateT.run (ExceptT.run x) d = (r, d') := h
    cases r <;> simp [outcome, ExceptT.run_bind, StateT.run_bind, hx] <;> rfl

theorem outcome_bind_of_ok (h : outcome x d = (.ok a, d')) :
    outcome (x >>= f) d = outcome (f a) d' := by
  rw [outcome_bind, h]

theorem outcome_bind_of_error (h : outcome x d = (.error ref, d')) :
    outcome (x >>= f) d = (.error ref, d') := by
  rw [outcome_bind, h]

theorem outcome_bind_pure (g : α → β) :
    outcome (do return g (← x)) d = ((outcome x d).1.map g, (outcome x d).2) := by
  rw [outcome_bind]
  rcases outcome x d with ⟨r, d'⟩
  cases r <;> rfl

theorem outcome_program : outcome program d = (.ok d.program, d) := rfl

theorem outcome_need_of_lt (ref : Ref) (h : ref.index < d.program.size ref) :
    outcome (need ref) d = (.ok (), d) := by
  rw [need, outcome_bind_of_ok outcome_program, if_pos h]
  rfl

theorem outcome_need_of_le (ref : Ref) (h : d.program.size ref ≤ ref.index) :
    outcome (need ref) d = (.error ref, d) := by
  rw [need, outcome_bind_of_ok outcome_program, if_neg (Nat.not_lt.mpr h)]
  rfl

theorem Looks.pure (a : α) : Looks (Pure.pure a : Drafting α) := fun _ ↦ ⟨a, rfl⟩

theorem Looks.bind (hx : Looks x) (hf : ∀ a, Looks (f a)) : Looks (x >>= f) := by
  intro d
  obtain ⟨a, ha⟩ := hx d
  obtain ⟨b, hb⟩ := hf a d
  exact ⟨b, (outcome_bind_of_ok ha).trans hb⟩

theorem Looks.mapM (hf : ∀ a, Looks (f a)) (l : List α) : Looks (l.mapM f) := by
  induction l with
  | nil => exact .pure []
  | cons a rest ih =>
    rw [List.mapM_cons]
    exact (hf a).bind fun b ↦ ih.bind fun bs ↦ .pure (b :: bs)

theorem Looks.pushes {f : α → Drafting ExprId} {function : FunctionId} {kind : ExprKind}
    (hx : Looks x) (hf : ∀ a, Pushes function kind (f a)) : Pushes function kind (x >>= f) := by
  intro d
  obtain ⟨a, ha⟩ := hx d
  obtain ⟨text, ht⟩ := hf a d
  exact ⟨text, (outcome_bind_of_ok ha).trans ht⟩

end

section

variable {d : Draft}

theorem pushes_push (function : FunctionId) (kind : ExprKind) (text : String) :
    Pushes function kind (push function kind text) := fun _ ↦ ⟨text, rfl⟩

theorem looks_textOf (e : ExprId) : Looks (textOf e) := fun _ ↦ ⟨_, rfl⟩

theorem looks_textsOf (es : List ExprId) : Looks (textsOf es) :=
  (Looks.mapM looks_textOf es).bind fun _ ↦ .pure _

theorem pushes_call (f : FunctionId) (site : CallSite) : Pushes f (.call site) (call f site) := by
  refine (looks_textsOf site.args).pushes fun _ ↦ ?_
  split
  · exact (looks_textOf _).pushes fun _ ↦ pushes_push _ _ _
  · exact pushes_push _ _ _

theorem pushes_operation (f : FunctionId) (operator : String) (operands : List ExprId) :
    Pushes f (.operation operator operands) (operation f operator operands) := by
  unfold operation
  dsimp only
  split
  · exact (looks_textOf _).pushes fun _ ↦ (looks_textOf _).pushes fun _ ↦
      (Looks.pure _).pushes fun _ ↦ pushes_push _ _ _
  · exact (looks_textsOf _).pushes fun _ ↦ (Looks.pure _).pushes fun _ ↦ pushes_push _ _ _

theorem outcome_newVariable (function : Option FunctionId) (name : String)
    (typeName : Option String) (kind : VariableKind) :
    outcome (newVariable function name typeName kind) d =
      (.ok (.ofIndex d.program.vars.size), d.pushVariable function name typeName kind) := rfl

theorem outcome_edit_of_lt (ref : Ref) (h : ref.index < d.program.size ref)
    (change : Program → Program) :
    outcome (do need ref; edit change) d = (.ok (), d.edit change) := by
  rw [outcome_bind_of_ok (outcome_need_of_lt ref h)]
  rfl

theorem outcome_edit_of_le (ref : Ref) (h : d.program.size ref ≤ ref.index)
    (change : Program → Program) : outcome (do need ref; edit change) d = (.error ref, d) :=
  outcome_bind_of_error (outcome_need_of_le ref h)

theorem outcome_param_of_some {f : FunctionId} {x : Function}
    (hx : d.program.functions[f.index]? = some x) (name : String) (typeName : Option String) :
    outcome (param f name typeName) d = (.ok (.ofIndex d.program.vars.size),
      d.pushParam f x.params.length name typeName) := by
  have hf : f.index < d.program.functions.size := (Array.getElem?_eq_some_iff.mp hx).1
  have hcount : ((d.program.function? f).map (·.params.length)).getD 0 = x.params.length := by
    rw [Program.function?, hx, Option.map_some, Option.getD_some]
  rw [param, outcome_bind_of_ok (outcome_need_of_lt (.function f) hf),
    outcome_bind_of_ok outcome_program, hcount, outcome_bind_of_ok (outcome_newVariable _ _ _ _),
    Drafting.editFunction, outcome_bind_of_ok (outcome_edit_of_lt (.function f) (by exact hf) _)]
  rfl

theorem outcome_param_of_le {f : FunctionId} (hf : d.program.functions.size ≤ f.index)
    (name : String) (typeName : Option String) :
    outcome (param f name typeName) d = (.error (.function f), d) := by
  rw [param, outcome_bind_of_error (outcome_need_of_le (.function f) hf)]

theorem outcome_selfParam_of_lt {f : FunctionId} (hf : f.index < d.program.functions.size) :
    outcome (selfParam f) d = (.ok (.ofIndex d.program.vars.size),
      (d.pushReceiver f).editFunction f fun fn ↦
        { fn with selfParam := some (.ofIndex d.program.vars.size) }) := by
  rw [selfParam, outcome_bind_of_ok (outcome_newVariable _ _ _ _),
    Drafting.editFunction, outcome_bind_of_ok (outcome_edit_of_lt (.function f) (by exact hf) _)]
  rfl

theorem outcome_selfParam_of_le {f : FunctionId} (hf : d.program.functions.size ≤ f.index) :
    outcome (selfParam f) d = (.error (.function f), d.pushReceiver f) := by
  rw [selfParam, outcome_bind_of_ok (outcome_newVariable _ _ _ _),
    Drafting.editFunction, outcome_bind_of_error (outcome_edit_of_le (.function f) (by exact hf) _)]
  rfl

theorem outcome_field (name : String) :
    outcome (field name) d = (.ok (d.intern name).1, (d.intern name).2) := by
  have hget : outcome get d = (.ok d, d) := rfl
  rw [field, outcome_bind_of_ok hget, Draft.intern]
  cases d.fieldIds[name]? <;> rfl

theorem exists_outcome_keyField (key : ExprId) : ∃ f d',
    outcome (keyField key) d = (.ok f, d') ∧ d.Interns [d.program.literalName? key] [f] d' := by
  rw [keyField, outcome_bind_of_ok outcome_program]
  cases d.program.literalName? key with
  | none => exact ⟨none, d, rfl, .skip .nil⟩
  | some name =>
    refine ⟨_, _, ?_, .look .nil⟩
    exact outcome_bind_of_ok (outcome_field name)

def entry (pair : ExprId × ExprId) : Drafting HashEntry :=
  return { key := pair.1, value := pair.2, field := ← keyField pair.1 }

theorem exists_outcome_entries (pairs : List (ExprId × ExprId)) : ∃ entries d',
    outcome (pairs.mapM entry) d = (.ok entries, d') ∧
      d.Interns (pairs.map fun (key, _) ↦ d.program.literalName? key) (entries.map (·.field)) d' ∧
      entries.map (fun e ↦ (e.key, e.value)) = pairs := by
  induction pairs generalizing d with
  | nil => exact ⟨[], d, rfl, .nil, rfl⟩
  | cons pair rest ih =>
    obtain ⟨f, d₁, hf, hi⟩ := exists_outcome_keyField (d := d) pair.1
    obtain ⟨entries, d', he, hi', hpairs⟩ := @ih d₁
    have hentry : outcome (entry pair) d = (.ok ⟨pair.1, pair.2, f⟩, d₁) := by
      rw [entry, outcome_bind_of_ok hf]
      rfl
    refine ⟨⟨pair.1, pair.2, f⟩ :: entries, d', ?_, ?_, ?_⟩
    · rw [List.mapM_cons, outcome_bind_of_ok hentry, outcome_bind_of_ok he]
      rfl
    · simp only [hi.literalName?_eq] at hi'
      exact hi.append hi'
    · rw [List.map_cons, hpairs]

theorem Pushes.adds {x : Drafting ExprId} {function : FunctionId} {kind : ExprKind}
    {passed : List Ref} (hx : Pushes function kind x) (hs : kind.fieldSlots = [])
    (hr : ∀ ref ∈ kind.children.map .expr ++ kind.otherRefs, ref ∈ passed) :
    d.Adds function [] passed (outcome x d) := by
  obtain ⟨text, h⟩ := hx d
  rw [h]
  exact .added (hs ▸ .nil) fun ref hm ↦ .inl (hr ref hm)

theorem Pushes.adds_nameOf {x : String → Drafting ExprId} {function : FunctionId}
    {kind : ExprKind} {passed : List Ref} (v : VarId) (hx : ∀ name, Pushes function kind (x name))
    (hs : kind.fieldSlots = [])
    (hr : ∀ ref ∈ kind.children.map .expr ++ kind.otherRefs, ref ∈ passed) :
    d.Adds function [] passed (outcome (nameOf v >>= x) d) := by
  rcases Nat.lt_or_ge (Ref.var v).index (d.program.size (.var v)) with hlt | hge
  · have hname : outcome (nameOf v) d = (.ok ((d.program.variableName? v).getD ""), d) := by
      rw [nameOf, outcome_bind_of_ok (outcome_need_of_lt (.var v) hlt)]
      rfl
    rw [outcome_bind_of_ok hname]
    exact (hx _).adds hs hr
  · have hname : outcome (nameOf v) d = (.error (.var v), d) := by
      rw [nameOf, outcome_bind_of_error (outcome_need_of_le (.var v) hge)]
    rw [outcome_bind_of_error hname]
    exact .missing hge

theorem adds_read (f : FunctionId) (v : VarId) (defs : List Def) :
    d.Adds f [] (Draft.Step.read f v defs).refs (outcome (read f v defs) d) :=
  Pushes.adds_nameOf v (fun _ ↦ pushes_push _ _ _) rfl fun _ hm ↦ List.mem_cons_of_mem _ hm

theorem adds_assign (f : FunctionId) (v : VarId) (value : ExprId) :
    d.Adds f [] (Draft.Step.assign f v value).refs (outcome (assign f v value) d) := by
  refine Pushes.adds_nameOf v
    (fun _ ↦ (looks_textOf value).pushes fun _ ↦ pushes_push f (.assign v value) _) rfl ?_
  intro ref hm
  simp only [ExprKind.children, ExprKind.otherRefs, List.map_cons, List.map_nil,
    List.singleton_append, List.mem_cons, List.not_mem_nil, or_false] at hm
  rcases hm with rfl | rfl <;> simp [Draft.Step.refs]

theorem adds_call (f : FunctionId) (site : CallSite) :
    d.Adds f [] (Draft.Step.call f site).refs (outcome (call f site) d) :=
  (pushes_call f site).adds rfl fun _ hm ↦ List.mem_cons_of_mem _ hm

theorem adds_operation (f : FunctionId) (operator : String) (operands : List ExprId) :
    d.Adds f [] (Draft.Step.operation f operator operands).refs
      (outcome (operation f operator operands) d) := by
  refine (pushes_operation f operator operands).adds rfl fun ref hm ↦ List.mem_cons_of_mem _ ?_
  simpa [ExprKind.children, ExprKind.otherRefs] using hm

theorem adds_of_interns {β : Type} (kind : ExprKind) {x : Drafting β} {f : β → Drafting ExprId}
    {b : β} {d' : Draft} {function : FunctionId} {names : List (Option String)} {passed : List Ref}
    (hx : outcome x d = (.ok b, d')) (hi : d.Interns names kind.fieldSlots d')
    (hf : Pushes function kind (f b))
    (hr : ∀ ref ∈ kind.children.map .expr ++ kind.otherRefs,
      ref ∈ passed ∨ ∃ f, ref = .field f ∧ some f ∈ kind.fieldSlots) :
    d.Adds function names passed (outcome (x >>= f) d) := by
  obtain ⟨text, h⟩ := hf d'
  rw [outcome_bind_of_ok hx, h, hi.exprs_eq]
  exact .added hi hr

theorem adds_fieldLoad (f : FunctionId) (base : ExprId) (name : String) :
    d.Adds f [some name] (Draft.Step.fieldLoad f base name).refs
      (outcome (fieldLoad f base name) d) := by
  refine adds_of_interns (.fieldLoad base (d.intern name).1) (outcome_field name)
    (.look .nil) ((looks_textOf base).pushes fun _ ↦ pushes_push _ _ _) ?_
  simp [ExprKind.children, ExprKind.otherRefs, ExprKind.fieldSlots, Draft.Step.refs]

theorem adds_fieldStore (f : FunctionId) (base : ExprId) (name : String) (value : ExprId) :
    d.Adds f [some name] (Draft.Step.fieldStore f base name value).refs
      (outcome (fieldStore f base name value) d) := by
  refine adds_of_interns (.fieldStore base (d.intern name).1 value) (outcome_field name)
    (.look .nil) ((looks_textOf base).pushes fun _ ↦ (looks_textOf value).pushes fun _ ↦
      pushes_push _ _ _) ?_
  simp [ExprKind.children, ExprKind.otherRefs, ExprKind.fieldSlots, Draft.Step.refs]

theorem adds_index (f : FunctionId) (base key : ExprId) :
    d.Adds f [d.program.literalName? key] (Draft.Step.index f base key).refs
      (outcome (index f base key) d) := by
  obtain ⟨field, d', hx, hi⟩ := exists_outcome_keyField (d := d) key
  refine adds_of_interns (.index base key field) hx hi
    ((looks_textOf base).pushes fun _ ↦ (looks_textOf key).pushes fun _ ↦ pushes_push _ _ _) ?_
  cases field <;> simp [ExprKind.children, ExprKind.otherRefs, ExprKind.fieldSlots,
    Draft.Step.refs]

theorem adds_hash (f : FunctionId) (pairs : List (ExprId × ExprId)) :
    d.Adds f (pairs.map fun (key, _) ↦ d.program.literalName? key) (Draft.Step.hash f pairs).refs
      (outcome (hash f pairs) d) := by
  obtain ⟨entries, d', hx, hi, hpairs⟩ := exists_outcome_entries (d := d) pairs
  refine adds_of_interns (.hash entries) hx hi ?_ ?_
  · refine (Looks.mapM (fun e ↦ ?_) entries).pushes fun _ ↦ pushes_push _ _ _
    exact (looks_textOf _).bind fun _ ↦ (looks_textOf _).bind fun _ ↦ .pure _
  · intro ref hm
    rcases List.mem_append.mp hm with hm | hm
    · obtain ⟨e, he, rfl⟩ := List.mem_map.mp hm
      obtain ⟨entry, hentry, he⟩ := List.mem_flatMap.mp he
      have hpair : (entry.key, entry.value) ∈ pairs := hpairs ▸ List.mem_map_of_mem hentry
      refine .inl (List.mem_cons_of_mem _ (List.mem_flatMap.mpr ⟨_, hpair, ?_⟩))
      exact List.mem_map_of_mem he
    · obtain ⟨entry, hentry, hf⟩ := List.mem_filterMap.mp hm
      obtain ⟨field, hfield, rfl⟩ := Option.map_eq_some_iff.mp hf
      exact .inr ⟨field, rfl, List.mem_map.mpr ⟨entry, hentry, hfield⟩⟩

end

end Drafting

namespace Draft

open Drafting

variable {d : Draft} {step : Step}

theorem effect_of_adds {function : FunctionId} {x : Drafting ExprId}
    (hrun : step.run = do return some (.expr (← x))) (hs : ∀ f, step ≠ .selfParam f)
    (hf : .function function ∈ step.refs)
    (h : d.Adds function (step.names d.program) step.refs (outcome x d)) :
    d.Effect step (d.apply step) := by
  have happly : d.apply step = ((outcome x d).1.map (some <| .expr ·), (outcome x d).2) := by
    rw [← outcome_bind_pure, ← hrun]
    rfl
  rw [happly]
  generalize outcome x d = result at h
  cases h with
  | added hi hr => exact .expr hf hi hr
  | missing hm => exact .missing hs hm

theorem effect_of_edit (ref : Ref) {change : Program → Program}
    (hrun : step.run = do (do need ref; Drafting.edit change); return none)
    (hs : ∀ f, step ≠ .selfParam f) (h : d.Effect step (.ok none, d.edit change)) :
    d.Effect step (d.apply step) := by
  have happly : d.apply step =
      outcome (do (do need ref; Drafting.edit change); return none) d := by
    rw [← hrun]
    rfl
  rw [happly]
  rcases Nat.lt_or_ge ref.index (d.program.size ref) with hlt | hge
  · rw [outcome_bind_of_ok (outcome_edit_of_lt ref hlt change)]
    exact h
  · rw [outcome_bind_of_error (outcome_edit_of_le ref hge change)]
    exact .missing hs hge

theorem mem_refs_of_setDefs {e : ExprId} {defs : List Def} {x : Expr} {ref : Ref}
    (hm : ref ∈ (match x.kind with
      | .read v _ => { x with kind := .read v defs }
      | _ => x : Expr).refs) : ref ∈ x.refs ∨ ref ∈ (Step.setDefs e defs).refs := by
  split at hm
  · next v old hk =>
    simp only [Expr.refs, hk, ExprKind.children, ExprKind.otherRefs, Step.refs, List.mem_cons,
      List.mem_append, List.cons_append] at hm ⊢
    tauto
  · exact .inl hm

theorem effect_param (f : FunctionId) (name : String) (typeName : Option String) :
    d.Effect (.param f name typeName) (d.apply (.param f name typeName)) := by
  cases hx : d.program.functions[f.index]? with
  | some x =>
    have happly : d.apply (.param f name typeName) = _ :=
      outcome_bind_of_ok (outcome_param_of_some hx name typeName)
    exact happly ▸ .param hx name typeName
  | none =>
    have hf := Array.getElem?_eq_none_iff.mp hx
    have happly : d.apply (.param f name typeName) = _ :=
      outcome_bind_of_error (outcome_param_of_le hf name typeName)
    exact happly ▸ .missing nofun hf

theorem effect_selfParam (f : FunctionId) :
    d.Effect (.selfParam f) (d.apply (.selfParam f)) := by
  rcases Nat.lt_or_ge f.index d.program.functions.size with hlt | hge
  · have happly : d.apply (.selfParam f) = _ := outcome_bind_of_ok (outcome_selfParam_of_lt hlt)
    exact happly ▸ .selfParam hlt
  · have happly : d.apply (.selfParam f) = _ :=
      outcome_bind_of_error (outcome_selfParam_of_le hge)
    exact happly ▸ .orphan hge

theorem effect_apply (d : Draft) (step : Step) : d.Effect step (d.apply step) := by
  cases step with
  | inFile file => exact .inFile file
  | function name => exact .function name
  | param f name typeName => exact effect_param f name typeName
  | selfParam f => exact effect_selfParam f
  | localVar f name typeName => exact .localVar f name typeName
  | global name => exact .global name
  | field name =>
    have happly : d.apply (.field name) = _ := outcome_bind_of_ok (outcome_field name)
    exact happly ▸ .field (.look .nil)
  | setInitial v value => exact effect_of_edit (.var v) rfl nofun (.setInitial v value)
  | returns f value => exact effect_of_edit (.function f) rfl nofun (.returns f value)
  | literal f value =>
    refine effect_of_adds rfl nofun List.mem_cons_self ((pushes_push _ _ _).adds rfl ?_)
    exact nofun
  | regex f pattern flags =>
    refine effect_of_adds rfl nofun List.mem_cons_self ((pushes_push _ _ _).adds rfl ?_)
    exact nofun
  | read f v defs => exact effect_of_adds rfl nofun List.mem_cons_self (adds_read f v defs)
  | setDefs e defs =>
    refine effect_of_edit (.expr e) rfl nofun
      (.revise rfl (fun x ↦ ?_) (fun x ↦ ?_) fun x ref hm ↦ ?_)
    · cases x.kind <;> rfl
    · cases hk : x.kind <;> simp only [hk, ExprKind.fieldSlots]
    · exact mem_refs_of_setDefs hm
  | assign f v value => exact effect_of_adds rfl nofun List.mem_cons_self (adds_assign f v value)
  | call f site => exact effect_of_adds rfl nofun List.mem_cons_self (adds_call f site)
  | fieldLoad f base name =>
    exact effect_of_adds rfl nofun List.mem_cons_self (adds_fieldLoad f base name)
  | fieldStore f base name value =>
    exact effect_of_adds rfl nofun List.mem_cons_self (adds_fieldStore f base name value)
  | hash f pairs => exact effect_of_adds rfl nofun List.mem_cons_self (adds_hash f pairs)
  | index f base key => exact effect_of_adds rfl nofun List.mem_cons_self (adds_index f base key)
  | operation f operator operands =>
    exact effect_of_adds rfl nofun List.mem_cons_self (adds_operation f operator operands)
  | guard e condition branch =>
    refine effect_of_edit (.expr e) rfl nofun
      (.revise rfl (fun _ ↦ rfl) (fun _ ↦ rfl) fun x ref hm ↦ ?_)
    simp only [Expr.refs, Step.refs, List.map_append, List.map_cons, List.map_nil,
      List.cons_append, List.mem_cons, List.mem_append, List.not_mem_nil, or_false] at hm ⊢
    tauto
  | setText e text =>
    exact effect_of_edit (.expr e) rfl nofun
      (.revise rfl (fun _ ↦ rfl) (fun _ ↦ rfl) fun _ _ hm ↦ .inl hm)
  | setSpan e span =>
    exact effect_of_edit (.expr e) rfl nofun
      (.revise rfl (fun _ ↦ rfl) (fun _ ↦ rfl) fun _ _ hm ↦ .inl hm)

theorem size_vars_pushReceiver (d : Draft) (f : FunctionId) :
    (d.pushReceiver f).program.vars.size = d.program.vars.size + 1 := Array.size_push _

/-- A step fails only for want of an element, and then the draft is as it was, unless it is the step
for a receiver parameter: of that one, a variable stays for the function that is missing. -/
theorem eq_of_apply_eq_error {missing : Ref} {d' : Draft}
    (h : d.apply step = (.error missing, d')) : d.program.size missing ≤ missing.index ∧
      (d' = d ↔ ∀ f, step ≠ .selfParam f) ∧
      ∀ f, step = .selfParam f → missing = .function f ∧ d' = d.pushReceiver f := by
  have he := d.effect_apply step
  rw [h] at he
  cases he with
  | @orphan f hf =>
    refine ⟨hf, iff_of_false (fun heq ↦ ?_) (fun hs ↦ hs f rfl), fun f' hs ↦ ?_⟩
    · have hsize := d.size_vars_pushReceiver f
      rw [heq] at hsize
      omega
    · cases hs
      exact ⟨rfl, rfl⟩
  | missing hs hm => exact ⟨hm, iff_of_true rfl hs, fun f hf ↦ absurd hf (hs f)⟩

theorem eq_of_apply_eq_error_orphan :
    ((empty "app.rb").apply (.selfParam ⟨5⟩) =
        (.error (.function ⟨5⟩), (empty "app.rb").pushReceiver ⟨5⟩)) ∧
      (empty "app.rb").pushReceiver ⟨5⟩ ≠ empty "app.rb" ∧
      (empty "app.rb").apply (.param ⟨5⟩ "x" none) = (.error (.function ⟨5⟩), empty "app.rb") := by
  have horphan : (empty "app.rb").apply (.selfParam ⟨5⟩) =
      (.error (.function ⟨5⟩), (empty "app.rb").pushReceiver ⟨5⟩) := rfl
  refine ⟨horphan, fun heq ↦ ?_, rfl⟩
  exact (eq_of_apply_eq_error horphan).2.1.mp heq ⟨5⟩ rfl

/-- Not every step that fails leaves the program as it was. -/
theorem not_forall_error_unchanged : ¬ ∀ (file : String) (steps : List Step)
    (results : List (Option Ref)) (d : Draft) (step : Step) (missing : Ref) (d' : Draft),
    (empty file).applyAll steps = (results, none, d) → d.apply step = (.error missing, d') →
      d'.program = d.program ∧ d'.fieldIds = d.fieldIds := by
  intro h
  have hvars := congrArg (·.vars.size) (h "app.rb" [] [] _ (.selfParam ⟨5⟩) _ _ rfl rfl).1
  exact Nat.one_ne_zero hvars

end Draft

end TaintFlow
