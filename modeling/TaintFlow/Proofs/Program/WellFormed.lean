import TaintFlow.Taint.Engine

namespace TaintFlow

inductive ExprKind.Mentions : ExprKind → Ref → Prop
  | readVariable {v : VarId} {defs : List Def} : Mentions (.read v defs) (.var v)
  | initialized {v w : VarId} {defs : List Def} (h : .initializer w ∈ defs) :
      Mentions (.read v defs) (.var w)
  | assignedAt {v : VarId} {e : ExprId} {defs : List Def} (h : .assign e ∈ defs) :
      Mentions (.read v defs) (.expr e)
  | passedIn {v w : VarId} {defs : List Def} (h : .param w ∈ defs) :
      Mentions (.read v defs) (.var w)
  | mutatedAt {v : VarId} {e : ExprId} {defs : List Def} (h : .mutation e ∈ defs) :
      Mentions (.read v defs) (.expr e)
  | unset {v w : VarId} {defs : List Def} (h : .uninitialized w ∈ defs) :
      Mentions (.read v defs) (.var w)
  | assignedVariable {v : VarId} {value : ExprId} : Mentions (.assign v value) (.var v)
  | assignedValue {v : VarId} {value : ExprId} : Mentions (.assign v value) (.expr value)
  | receiver {site : CallSite} {e : ExprId} (h : site.receiver = some e) :
      Mentions (.call site) (.expr e)
  | argument {site : CallSite} {e : ExprId} (h : e ∈ site.args) : Mentions (.call site) (.expr e)
  | target {site : CallSite} {f : FunctionId} (h : site.target = some f) :
      Mentions (.call site) (.function f)
  | loadBase {base : ExprId} {f : FieldId} : Mentions (.fieldLoad base f) (.expr base)
  | loadField {base : ExprId} {f : FieldId} : Mentions (.fieldLoad base f) (.field f)
  | storeBase {base value : ExprId} {f : FieldId} :
      Mentions (.fieldStore base f value) (.expr base)
  | storeField {base value : ExprId} {f : FieldId} :
      Mentions (.fieldStore base f value) (.field f)
  | storedValue {base value : ExprId} {f : FieldId} :
      Mentions (.fieldStore base f value) (.expr value)
  | entryKey {entries : List HashEntry} {entry : HashEntry} (h : entry ∈ entries) :
      Mentions (.hash entries) (.expr entry.key)
  | entryValue {entries : List HashEntry} {entry : HashEntry} (h : entry ∈ entries) :
      Mentions (.hash entries) (.expr entry.value)
  | entryField {entries : List HashEntry} {entry : HashEntry} {f : FieldId} (h : entry ∈ entries)
      (hf : entry.field = some f) : Mentions (.hash entries) (.field f)
  | indexBase {base key : ExprId} {field : Option FieldId} :
      Mentions (.index base key field) (.expr base)
  | indexKey {base key : ExprId} {field : Option FieldId} :
      Mentions (.index base key field) (.expr key)
  | indexField {base key : ExprId} {f : FieldId} : Mentions (.index base key (some f)) (.field f)
  | operand {operator : String} {operands : List ExprId} {e : ExprId} (h : e ∈ operands) :
      Mentions (.operation operator operands) (.expr e)

namespace Program

/-- The places in a program where a number stands that should name an element. -/
inductive Mentions (p : Program) : Ref → Prop
  | parameter {f : Function} {v : VarId} (hf : f ∈ p.functions.toList) (hv : v ∈ f.params) :
      Mentions p (.var v)
  | selfParameter {f : Function} {v : VarId} (hf : f ∈ p.functions.toList)
      (hv : f.selfParam = some v) : Mentions p (.var v)
  | returned {f : Function} {e : ExprId} (hf : f ∈ p.functions.toList) (he : e ∈ f.returns) :
      Mentions p (.expr e)
  | owner {v : Variable} {f : FunctionId} (hv : v ∈ p.vars.toList) (hf : v.function = some f) :
      Mentions p (.function f)
  | initializer {v : Variable} {e : ExprId} (hv : v ∈ p.vars.toList)
      (he : v.initializer = some e) : Mentions p (.expr e)
  | function {e : Expr} (he : e ∈ p.exprs.toList) : Mentions p (.function e.function)
  | condition {e : Expr} {guard : Guard} (he : e ∈ p.exprs.toList) (hg : guard ∈ e.guards) :
      Mentions p (.expr guard.condition)
  | kind {e : Expr} {ref : Ref} (he : e ∈ p.exprs.toList) (h : e.kind.Mentions ref) :
      Mentions p ref

inductive Stands (p : Program) : Ref → Nat → Prop
  | function {f : Function} {i : Nat} (h : p.functions.toList[i]? = some f) :
      Stands p (.function f.id) i
  | var {v : Variable} {i : Nat} (h : p.vars.toList[i]? = some v) : Stands p (.var v.id) i
  | field {f : Field} {i : Nat} (h : p.fields.toList[i]? = some f) : Stands p (.field f.id) i
  | expr {e : Expr} {i : Nat} (h : p.exprs.toList[i]? = some e) : Stands p (.expr e.id) i

structure WellFormed (p : Program) : Prop where
  placed : ∀ ref i, p.Stands ref i → ref.index = i
  defined : ∀ ref, p.Mentions ref → ref.index < p.size ref

def Lacks (p : Program) : Requirement → Prop
  | .placed ref i => p.Stands ref i ∧ ref.index ≠ i
  | .defined ref _ => p.Mentions ref ∧ p.size ref ≤ ref.index

end Program

namespace ExprKind

variable {kind : ExprKind} {ref : Ref} {e : ExprId}

theorem mentions_of_mem_children (he : e ∈ kind.children) : kind.Mentions (.expr e) := by
  cases kind with
  | literal _ | regex _ _ | read _ _ => cases he
  | assign v value =>
    rw [List.mem_singleton.mp he]
    exact .assignedValue
  | call site =>
    rcases List.mem_append.mp he with he | he
    · exact .receiver (Option.mem_toList.mp he)
    · exact .argument he
  | fieldLoad base f =>
    rw [List.mem_singleton.mp he]
    exact .loadBase
  | fieldStore base f value =>
    rcases List.mem_cons.mp he with rfl | he
    · exact .storeBase
    · rw [List.mem_singleton.mp he]
      exact .storedValue
  | hash entries =>
    obtain ⟨entry, hm, he⟩ := List.mem_flatMap.mp he
    rcases List.mem_cons.mp he with rfl | he
    · exact .entryKey hm
    · rw [List.mem_singleton.mp he]
      exact .entryValue hm
  | index base key field =>
    rcases List.mem_cons.mp he with rfl | he
    · exact .indexBase
    · rw [List.mem_singleton.mp he]
      exact .indexKey
  | operation operator operands => exact .operand he

theorem mentions_of_mem_otherRefs (h : ref ∈ kind.otherRefs) : kind.Mentions ref := by
  cases kind with
  | literal _ | regex _ _ | operation _ _ => cases h
  | read v defs =>
    rcases List.mem_cons.mp h with rfl | h
    · exact .readVariable
    · obtain ⟨d, hd, rfl⟩ := List.mem_map.mp h
      cases d with
      | initializer w => exact .initialized hd
      | assign e => exact .assignedAt hd
      | param w => exact .passedIn hd
      | mutation e => exact .mutatedAt hd
      | uninitialized w => exact .unset hd
  | assign v value =>
    rw [List.mem_singleton.mp h]
    exact .assignedVariable
  | call site =>
    obtain ⟨f, hf, rfl⟩ := List.mem_map.mp h
    exact .target (Option.mem_toList.mp hf)
  | fieldLoad base f =>
    rw [List.mem_singleton.mp h]
    exact .loadField
  | fieldStore base f value =>
    rw [List.mem_singleton.mp h]
    exact .storeField
  | hash entries =>
    obtain ⟨entry, hm, h⟩ := List.mem_filterMap.mp h
    obtain ⟨f, hf, rfl⟩ := Option.map_eq_some_iff.mp h
    exact .entryField hm hf
  | index base key field =>
    obtain ⟨f, hf, rfl⟩ := List.mem_map.mp h
    cases Option.mem_toList.mp hf
    exact .indexField

theorem Mentions.mem (h : kind.Mentions ref) : ref ∈ kind.children.map .expr ++ kind.otherRefs := by
  cases h with
  | initialized h | assignedAt h | passedIn h | mutatedAt h | unset h =>
    apply List.mem_append_right
    exact List.mem_cons_of_mem _ (List.mem_map_of_mem h)
  | receiver h | argument h | target h | operand h =>
    simp [children, otherRefs, CallSite.operands, h]
  | entryKey h | entryValue h =>
    apply List.mem_append_left
    exact List.mem_map_of_mem (List.mem_flatMap.mpr ⟨_, h, by simp⟩)
  | entryField h hf =>
    apply List.mem_append_right
    exact List.mem_filterMap.mpr ⟨_, h, by rw [hf, Option.map_some]⟩
  | _ => simp [children, otherRefs]

end ExprKind

namespace Program

variable {p : Program} {ref : Ref} {i : Nat} {q : Requirement}

theorem validate_eq_ok_iff : p.validate = .ok () ↔ ∀ q ∈ p.requirements, p.meets q = true := by
  constructor
  · intro h q hq
    unfold validate at h
    split at h
    · cases h
    · next hnone => simpa using List.find?_eq_none.mp hnone q hq
  · intro h
    have hnone : p.requirements.find? (!p.meets ·) = none := by
      apply List.find?_eq_none.mpr
      intro q hq
      simp [h q hq]
    rw [validate, hnone]

theorem mem_requirements : q ∈ p.requirements ↔
    (∃ (f : Function) (i : Nat), p.functions.toList[i]? = some f ∧ q ∈ f.requirements i) ∨
      (∃ (v : Variable) (i : Nat), p.vars.toList[i]? = some v ∧ q ∈ v.requirements i) ∨
      (∃ (f : Field) (i : Nat), p.fields.toList[i]? = some f ∧ .placed (.field f.id) i = q) ∨
      ∃ (e : Expr) (i : Nat), p.exprs.toList[i]? = some e ∧ q ∈ e.requirements i := by
  simp only [requirements, List.mem_append, List.mem_flatMap, List.mem_map, Prod.exists,
    List.mem_zipIdx_iff_getElem?, or_assoc]

theorem mem_requirements_placed : .placed ref i ∈ p.requirements ↔ p.Stands ref i := by
  rw [mem_requirements]
  simp only [Function.requirements, Variable.requirements, Expr.requirements, List.cons_append,
    List.mem_cons, List.mem_append, List.mem_map, Requirement.placed.injEq, reduceCtorEq, and_false,
    exists_false, or_false]
  constructor
  · rintro (⟨f, j, h, rfl, rfl⟩ | ⟨v, j, h, rfl, rfl⟩ | ⟨f, j, h, rfl, rfl⟩ | ⟨e, j, h, rfl, rfl⟩)
    · exact .function h
    · exact .var h
    · exact .field h
    · exact .expr h
  · intro h
    cases h with
    | function h => exact .inl ⟨_, _, h, rfl, rfl⟩
    | var h => exact .inr (.inl ⟨_, _, h, rfl, rfl⟩)
    | field h => exact .inr (.inr (.inl ⟨_, _, h, rfl, rfl⟩))
    | expr h => exact .inr (.inr (.inr ⟨_, _, h, rfl, rfl⟩))

theorem mentions_of_mem_refs {e : Expr} (he : e ∈ p.exprs.toList) (h : ref ∈ e.refs) :
    p.Mentions ref := by
  simp only [Expr.refs, List.cons_append, List.mem_cons, List.mem_append, List.mem_map] at h
  rcases h with rfl | (⟨x, hx, rfl⟩ | ⟨guard, hg, rfl⟩) | h
  · exact .function he
  · exact .kind he (ExprKind.mentions_of_mem_children hx)
  · exact .condition he hg
  · exact .kind he (ExprKind.mentions_of_mem_otherRefs h)

theorem mentions_of_defined {usage : Usage} (h : .defined ref usage ∈ p.requirements) :
    p.Mentions ref := by
  rcases mem_requirements.mp h with ⟨f, i, hi, h⟩ | ⟨v, i, hi, h⟩ | ⟨f, i, hi, h⟩ | ⟨e, i, hi, h⟩
  · have hf := List.mem_of_getElem? hi
    simp only [Function.requirements, List.cons_append, List.mem_cons, List.mem_append,
      List.mem_map, reduceCtorEq, Requirement.defined.injEq, false_or, Option.mem_toList] at h
    rcases h with ⟨v, hv | hv, rfl, -⟩ | ⟨e, he, rfl, -⟩
    · exact .parameter hf hv
    · exact .selfParameter hf hv
    · exact .returned hf he
  · have hv := List.mem_of_getElem? hi
    simp only [Variable.requirements, List.cons_append, List.mem_cons, List.mem_append,
      List.mem_map, reduceCtorEq, Requirement.defined.injEq, false_or, Option.mem_toList] at h
    rcases h with ⟨f, hf, rfl, -⟩ | ⟨e, he, rfl, -⟩
    · exact .owner hv hf
    · exact .initializer hv he
  · cases h
  · rcases List.mem_cons.mp h with h | h
    · cases h
    · obtain ⟨ref', hr, h⟩ := List.mem_map.mp h
      cases h
      exact mentions_of_mem_refs (List.mem_of_getElem? hi) hr

theorem Mentions.exists_defined (h : p.Mentions ref) :
    ∃ usage, .defined ref usage ∈ p.requirements := by
  have hfunction {f : Function} (hf : f ∈ p.functions.toList) {q : Requirement}
      (hq : ∀ i, q ∈ f.requirements i) : q ∈ p.requirements := by
    obtain ⟨i, hi⟩ := List.mem_iff_getElem?.mp hf
    exact mem_requirements.mpr (.inl ⟨f, i, hi, hq i⟩)
  have hvar {v : Variable} (hv : v ∈ p.vars.toList) {q : Requirement}
      (hq : ∀ i, q ∈ v.requirements i) : q ∈ p.requirements := by
    obtain ⟨i, hi⟩ := List.mem_iff_getElem?.mp hv
    exact mem_requirements.mpr (.inr (.inl ⟨v, i, hi, hq i⟩))
  have hexpr {e : Expr} (he : e ∈ p.exprs.toList) {ref : Ref} (hr : ref ∈ e.refs) :
      .defined ref (.operandOf e.id) ∈ p.requirements := by
    obtain ⟨i, hi⟩ := List.mem_iff_getElem?.mp he
    exact mem_requirements.mpr (.inr (.inr (.inr
      ⟨e, i, hi, List.mem_cons_of_mem _ (List.mem_map_of_mem hr)⟩)))
  cases h with
  | @parameter f v hf hv =>
    exact ⟨.parameterOf f.name, hfunction hf fun i ↦ by simp [Function.requirements, hv]⟩
  | @selfParameter f v hf hv =>
    exact ⟨.parameterOf f.name, hfunction hf fun i ↦ by simp [Function.requirements, hv]⟩
  | @returned f e hf he =>
    exact ⟨.returnOf f.name, hfunction hf fun i ↦ by simp [Function.requirements, he]⟩
  | @owner v f hv hf => exact ⟨.ownerOf v.name, hvar hv fun i ↦ by simp [Variable.requirements, hf]⟩
  | @initializer v e hv he =>
    exact ⟨.initializerOf v.name, hvar hv fun i ↦ by simp [Variable.requirements, he]⟩
  | function he => exact ⟨_, hexpr he List.mem_cons_self⟩
  | condition he hg =>
    exact ⟨_, hexpr he (List.mem_append_left _ (List.mem_append_right _ (List.mem_map_of_mem hg)))⟩
  | kind he h =>
    rcases List.mem_append.mp h.mem with hc | ho
    · exact ⟨_, hexpr he
        (List.mem_append_left _ (List.mem_append_left _ (List.mem_cons_of_mem _ hc)))⟩
    · exact ⟨_, hexpr he (List.mem_append_right _ ho)⟩

theorem validate_eq_ok_iff_wellFormed : p.validate = .ok () ↔ p.WellFormed := by
  rw [validate_eq_ok_iff]
  constructor
  · intro h
    refine ⟨fun ref i hs ↦ ?_, fun ref hm ↦ ?_⟩
    · exact of_decide_eq_true (h _ (mem_requirements_placed.mpr hs))
    · obtain ⟨usage, hq⟩ := hm.exists_defined
      exact of_decide_eq_true (h _ hq)
  · intro hw q hq
    cases q with
    | placed ref i => exact decide_eq_true (hw.placed ref i (mem_requirements_placed.mp hq))
    | defined ref usage => exact decide_eq_true (hw.defined ref (mentions_of_defined hq))

theorem wellFormed_of_validate (h : p.validate = .ok ()) : p.WellFormed :=
  validate_eq_ok_iff_wellFormed.mp h

theorem lacks_of_validate (h : p.validate = .error q) : p.Lacks q := by
  unfold validate at h
  split at h
  · next hfind =>
    cases h
    have hq := List.mem_of_find?_eq_some hfind
    have hfails : ¬ p.meets q = true := by simpa using List.find?_some hfind
    cases q with
    | placed ref i => exact ⟨mem_requirements_placed.mp hq, by simpa [meets] using hfails⟩
    | defined ref usage => exact ⟨mentions_of_defined hq, by simpa [meets] using hfails⟩
  · cases h

end Program

namespace Engine

/-- The check passes the well-formed programs and no others. What it tells of another one is true:
an element stands where its number does not say, or a number that occurs names nothing. -/
theorem checkProgram_eq_ok_iff {p : Program} : (checkProgram p = .ok () ↔ p.WellFormed) ∧
    (¬ p.WellFormed →
      ∃ fault, p.Lacks fault ∧ checkProgram p = .error (.invalidGraph fault.complaint)) := by
  unfold checkProgram
  rw [← Program.validate_eq_ok_iff_wellFormed]
  cases h : p.validate with
  | ok => simp
  | error fault =>
    refine ⟨by simp, fun _ ↦ ?_⟩
    exact ⟨fault, Program.lacks_of_validate h, rfl⟩

end Engine

end TaintFlow
