import Mathlib.Data.List.Basic
import TaintFlow.Proofs.Flow.Definitions
import TaintFlow.Rules.SensitiveSource

namespace TaintFlow

namespace Program

variable (p : Program)

def DeclaresLast (v : VarId) (e : ExprId) : Prop :=
  p.initializer? v = some e ∧ ∀ w, p.initializer? w = some e → w.index ≤ v.index

inductive Writes (f : FieldId) : Prop
  | store {e base value : ExprId} (h : p.kind? e = some (.fieldStore base f value)) : Writes f
  | entry {e : ExprId} {entries : List HashEntry} {entry : HashEntry}
      (h : p.kind? e = some (.hash entries)) (hm : entry ∈ entries) (hf : entry.field = some f) :
      Writes f

end Program

namespace SensitiveSource

variable (s : SensitiveNames) (p : Program)

def SensitiveVariable (v : VarId) : Prop :=
  ∃ x, p.var? v = some x ∧
    (s.isName x.name = true ∨ ∃ name, x.typeName = some name ∧ s.isType name = true)

def SensitiveField (f : FieldId) : Prop :=
  ∃ x, p.field? f = some x ∧ s.isName x.name = true

inductive SensitiveUse (e : ExprId) : Prop
  | assigned {a : ExprId} {v : VarId} (h : p.kind? a = some (.assign v e))
      (hv : SensitiveVariable s p v) : SensitiveUse e
  | stored {x base : ExprId} {f : FieldId} (h : p.kind? x = some (.fieldStore base f e))
      (hf : SensitiveField s p f) : SensitiveUse e
  | entry {x : ExprId} {entries : List HashEntry} {entry : HashEntry} {f : FieldId}
      (h : p.kind? x = some (.hash entries)) (hm : entry ∈ entries) (hk : entry.field = some f)
      (he : entry.value = e) (hf : SensitiveField s p f) : SensitiveUse e
  | call {site : CallSite} (h : p.kind? e = some (.call site)) (hn : s.isName site.name = true) :
      SensitiveUse e
  | load {base : ExprId} {f : FieldId} (h : p.kind? e = some (.fieldLoad base f))
      (hf : SensitiveField s p f) (hw : ¬ p.Writes f) : SensitiveUse e
  | lookup {base key : ExprId} {f : FieldId} (h : p.kind? e = some (.index base key (some f)))
      (hf : SensitiveField s p f) (hw : ¬ p.Writes f) : SensitiveUse e

/-- The sources as they are meant. -/
inductive Sensitive : FlowNode → Prop
  | declared {v : VarId} {e : ExprId} (h : p.initializer? v = some e)
      (hv : SensitiveVariable s p v) : Sensitive (.expr e)
  | used {e : ExprId} (h : SensitiveUse s p e) : Sensitive (.expr e)
  | param {v : VarId} (h : SensitiveVariable s p v) : Sensitive (.param v)
  | uninitialized {v : VarId} (h : SensitiveVariable s p v) : Sensitive (.uninitialized v)

end SensitiveSource

namespace Program

variable {p : Program} {e : ExprId} {v w : VarId} {f : FieldId}

section

variable (h : p.validate = .ok ())
include h

theorem contains_writtenFields_iff_writes :
    p.index.writtenFields.contains f = true ↔ p.Writes f := by
  rw [contains_writtenFields]
  constructor
  · rintro ⟨x, hx, hf⟩
    have hk : p.kind? x.id = some x.kind := by rw [kind?, expr?_of_mem h hx, Option.map_some]
    cases hkind : x.kind with
    | fieldStore base g value =>
      rw [hkind] at hk hf
      cases List.mem_singleton.mp hf
      exact .store hk
    | hash entries =>
      rw [hkind] at hk hf
      obtain ⟨entry, hm, hf⟩ := List.mem_filterMap.mp hf
      exact .entry hk hm hf
    | _ =>
      rw [hkind] at hf
      cases hf
  · intro hw
    cases hw with
    | store hk =>
      obtain ⟨x, hx, hkind⟩ := Option.map_eq_some_iff.mp hk
      refine ⟨x, mem_of_expr? hx, ?_⟩
      rw [hkind]
      exact List.mem_singleton_self _
    | entry hk hm hf =>
      obtain ⟨x, hx, hkind⟩ := Option.map_eq_some_iff.mp hk
      refine ⟨x, mem_of_expr? hx, ?_⟩
      rw [hkind]
      exact List.mem_filterMap.mpr ⟨_, hm, hf⟩

theorem pairwise_initializerPairs :
    p.initializerPairs.Pairwise fun a b ↦ a.2.index < b.2.index := by
  rw [initializerPairs, List.pairwise_filterMap, List.pairwise_iff_getElem]
  intro i j hi hj hij a ha b hb
  obtain ⟨x, -, rfl⟩ := Option.map_eq_some_iff.mp ha
  obtain ⟨y, -, rfl⟩ := Option.map_eq_some_iff.mp hb
  rw [index_of_getElem?_vars h (List.getElem?_eq_getElem hi),
    index_of_getElem?_vars h (List.getElem?_eq_getElem hj)]
  exact hij

theorem declaresLast_of_initializerOf (hv : p.index.initializerOf[e]? = some v) :
    p.DeclaresLast v e := by
  refine ⟨initializer?_of_initializerOf h hv, fun w hw ↦ ?_⟩
  simp only [index, getElem?_foldl_insert, Std.HashMap.getElem?_empty, Option.or_none] at hv
  obtain ⟨before, hbefore⟩ := List.getLast?_eq_some_iff.mp hv
  have hpairs : ((p.initializerPairs.filter (·.1 == e)).map (·.2)).Pairwise
      fun a b ↦ a.index < b.index :=
    List.pairwise_map.mpr ((pairwise_initializerPairs h).filter _)
  have hmem : w ∈ (p.initializerPairs.filter (·.1 == e)).map (·.2) := by
    simpa using (mem_initializerPairs h).mpr hw
  rw [hbefore] at hpairs hmem
  rcases List.mem_append.mp hmem with hmem | hmem
  · exact Nat.le_of_lt ((List.pairwise_append.mp hpairs).2.2 w hmem v (List.mem_singleton_self v))
  · exact Nat.le_of_eq (congrArg _ (List.mem_singleton.mp hmem))

theorem exists_initializerOf (hv : p.initializer? v = some e) :
    ∃ w, p.index.initializerOf[e]? = some w := by
  cases hlast : p.index.initializerOf[e]? with
  | some w => exact ⟨w, rfl⟩
  | none =>
    simp only [index, getElem?_foldl_insert, Std.HashMap.getElem?_empty, Option.or_none,
      List.getLast?_eq_none_iff, List.map_eq_nil_iff, List.filter_eq_nil_iff, beq_iff_eq] at hlast
    exact absurd rfl (hlast _ ((mem_initializerPairs h).mpr hv))

theorem initializerOf_eq_some_iff :
    p.index.initializerOf[e]? = some v ↔ p.DeclaresLast v e := by
  refine ⟨declaresLast_of_initializerOf h, fun hlast ↦ ?_⟩
  obtain ⟨w, hw⟩ := exists_initializerOf h hlast.1
  obtain ⟨hdeclared, hafter⟩ := declaresLast_of_initializerOf h hw
  have hindex := Nat.le_antisymm (hafter v hlast.1) (hlast.2 w hdeclared)
  rw [hw, VarId.eq_of_index_eq hindex]

end

end Program

namespace SensitiveSource

variable {s : SensitiveNames} {g : FlowGraph} {e : ExprId} {v : VarId} {f : FieldId}

theorem isSensitiveVariable_iff :
    isSensitiveVariable s g v = true ↔ SensitiveVariable s g.program v := by
  simp [isSensitiveVariable, SensitiveVariable, Option.any_eq_true]

theorem isSensitiveField_iff : isSensitiveField s g f = true ↔ SensitiveField s g.program f := by
  unfold isSensitiveField SensitiveField Program.fieldName?
  cases g.program.field? f <;> simp

section

variable (h : g.program.validate = .ok ())
include h

theorem isUnwritten_iff :
    isUnwritten s g f = true ↔ SensitiveField s g.program f ∧ ¬ g.program.Writes f := by
  rw [isUnwritten, Bool.and_eq_true, Bool.not_eq_true', ← Bool.not_eq_true, isSensitiveField_iff,
    g.index_eq, Program.contains_writtenFields_iff_writes h, and_comm]

theorem sensitiveUse_of_isSensitiveUse {u : Use} (hu : u ∈ g.index.uses.get e)
    (hs : isSensitiveUse s g u = true) : SensitiveUse s g.program e := by
  rw [g.index_eq] at hu
  obtain ⟨kind, hk, hrole⟩ := (Program.mem_uses h).mp hu
  obtain ⟨user, role⟩ := u
  cases role with
  | assignedValue =>
    obtain ⟨v, rfl⟩ := ExprKind.mem_operandRoles_assignedValue.mp hrole
    rw [isSensitiveUse, hk] at hs
    exact .assigned hk (isSensitiveVariable_iff.mp hs)
  | storedValue f =>
    obtain ⟨base, rfl⟩ := ExprKind.mem_operandRoles_storedValue.mp hrole
    exact .stored hk (isSensitiveField_iff.mp hs)
  | hashValue field =>
    obtain ⟨entries, entry, rfl, hm, hf, he⟩ := ExprKind.mem_operandRoles_hashValue.mp hrole
    cases field with
    | none => cases hs
    | some f => exact .entry hk hm hf he (isSensitiveField_iff.mp hs)
  | _ => cases hs

theorem exists_isSensitiveUse {user : ExprId} {role : UseRole} {kind : ExprKind}
    (hk : g.program.kind? user = some kind) (hrole : (e, role) ∈ kind.operandRoles)
    (hs : isSensitiveUse s g ⟨user, role⟩ = true) :
    (g.index.uses.get e).any (isSensitiveUse s g) = true := by
  rw [g.index_eq]
  exact List.any_eq_true.mpr ⟨_, (Program.mem_uses h).mpr ⟨kind, hk, hrole⟩, hs⟩

theorem isSensitiveExpr_iff : isSensitiveExpr s g e = true ↔
    (∃ v, g.program.DeclaresLast v e ∧ SensitiveVariable s g.program v) ∨
      SensitiveUse s g.program e := by
  rw [isSensitiveExpr, Bool.or_eq_true, Bool.or_eq_true, or_assoc, Option.any_eq_true]
  constructor
  · rintro (⟨v, hv, hs⟩ | hu | hs)
    · rw [g.index_eq, Program.initializerOf_eq_some_iff h] at hv
      exact .inl ⟨v, hv, isSensitiveVariable_iff.mp hs⟩
    · obtain ⟨u, hu, hs⟩ := List.any_eq_true.mp hu
      exact .inr (sensitiveUse_of_isSensitiveUse h hu hs)
    · split at hs
      · next hk => exact .inr (.call hk hs)
      · next hk =>
        obtain ⟨hf, hw⟩ := (isUnwritten_iff h).mp hs
        exact .inr (.load hk hf hw)
      · next hk =>
        obtain ⟨hf, hw⟩ := (isUnwritten_iff h).mp hs
        exact .inr (.lookup hk hf hw)
      · cases hs
  · rintro (⟨v, hv, hs⟩ | hs)
    · rw [g.index_eq]
      exact .inl ⟨v, (Program.initializerOf_eq_some_iff h).mpr hv, isSensitiveVariable_iff.mpr hs⟩
    · refine .inr ?_
      cases hs with
      | @assigned a v hk hv =>
        refine .inl (exists_isSensitiveUse h hk
          (ExprKind.mem_operandRoles_assignedValue.mpr ⟨v, rfl⟩) ?_)
        rw [isSensitiveUse, hk]
        exact isSensitiveVariable_iff.mpr hv
      | @stored x base f hk hf =>
        exact .inl (exists_isSensitiveUse h hk
          (ExprKind.mem_operandRoles_storedValue.mpr ⟨base, rfl⟩) (isSensitiveField_iff.mpr hf))
      | @entry x entries entry f hk hm hfield he hf =>
        exact .inl (exists_isSensitiveUse h hk (ExprKind.mem_operandRoles_hashValue.mpr
          ⟨entries, entry, rfl, hm, hfield, he⟩) (isSensitiveField_iff.mpr hf))
      | call hk hn =>
        rw [hk]
        exact .inr hn
      | load hk hf hw =>
        rw [hk]
        exact .inr ((isUnwritten_iff h).mpr ⟨hf, hw⟩)
      | lookup hk hf hw =>
        rw [hk]
        exact .inr ((isUnwritten_iff h).mpr ⟨hf, hw⟩)

end

/-- A node is a source exactly if it is meant to be one, except that of the variables declared with
an expression only the last counts: where that one is not sensitive, the expression has to be
sensitive by its use. -/
theorem isSource_iff (h : g.program.validate = .ok ()) (n : FlowNode) : isSource s g n = true ↔
    Sensitive s g.program n ∧ ∀ e v, n = .expr e → g.program.DeclaresLast v e →
      SensitiveVariable s g.program v ∨ SensitiveUse s g.program e := by
  cases n with
  | expr e =>
    rw [isSource, isSensitiveExpr_iff h]
    constructor
    · rintro (⟨v, hv, hs⟩ | hs)
      · refine ⟨.declared hv.1 hs, ?_⟩
        rintro e w ⟨⟩ hw
        have hindex := Nat.le_antisymm (hv.2 w hw.1) (hw.2 v hv.1)
        rw [VarId.eq_of_index_eq hindex]
        exact .inl hs
      · refine ⟨.used hs, ?_⟩
        rintro e w ⟨⟩ -
        exact .inr hs
    · rintro ⟨hs, hlast⟩
      cases hs with
      | declared hv _ =>
        obtain ⟨w, hw⟩ := Program.exists_initializerOf h hv
        rw [Program.initializerOf_eq_some_iff h] at hw
        exact (hlast e w rfl hw).imp_left fun hs ↦ ⟨w, hw, hs⟩
      | used hs => exact .inr hs
  | param v | uninitialized v =>
    rw [isSource, isSensitiveVariable_iff]
    constructor
    · intro hs
      refine ⟨?_, by rintro e w ⟨⟩⟩
      constructor
      exact hs
    · rintro ⟨hs, -⟩
      cases hs
      assumption
  | postUpdate e | returned f =>
    constructor
    · intro hs
      cases hs
    · rintro ⟨hs, -⟩
      cases hs

def chainedProgram : Program where
  functions := #[⟨⟨0⟩, "main", "chained.rb", [], none, [], default⟩]
  vars := #[⟨⟨0⟩, "password", some ⟨0⟩, none, .localVar, some ⟨0⟩, default⟩,
    ⟨⟨1⟩, "user", some ⟨0⟩, none, .localVar, some ⟨0⟩, default⟩,
    ⟨⟨2⟩, "name", some ⟨0⟩, none, .localVar, some ⟨1⟩, default⟩,
    ⟨⟨3⟩, "secret", some ⟨0⟩, none, .localVar, none, default⟩]
  exprs := #[⟨⟨0⟩, ⟨0⟩, default, "\"hunter2\"", .literal (.string "hunter2"), []⟩,
    ⟨⟨1⟩, ⟨0⟩, default, "\"t0k3n\"", .literal (.string "t0k3n"), []⟩,
    ⟨⟨2⟩, ⟨0⟩, default, "secret = \"t0k3n\"", .assign ⟨3⟩ ⟨1⟩, []⟩]

def chainedGraph : FlowGraph := .ofProgram chainedProgram

def secrets : SensitiveNames where
  isName name := name = "password" || name = "secret"
  isType _ := false

/-- The literal that a password is declared with is no source if a variable after it has the same
initial value. -/
theorem not_forall_sensitive_isSource : ¬ ∀ (s : SensitiveNames) (g : FlowGraph) (n : FlowNode),
    g.program.validate = .ok () → (isSource s g n = true ↔ Sensitive s g.program n) := by
  intro hiff
  have hv : chainedGraph.program.validate = .ok () := by cbv
  have hmeant : Sensitive secrets chainedGraph.program (.expr ⟨0⟩) :=
    .declared (v := ⟨0⟩) rfl ⟨_, rfl, .inl rfl⟩
  have hsource : isSource secrets chainedGraph (.expr ⟨0⟩) = false := by cbv
  rw [(hiff secrets chainedGraph (.expr ⟨0⟩) hv).mpr hmeant] at hsource
  cases hsource

theorem isSource_iff_chained :
    chainedGraph.program.validate = .ok () ∧
      chainedProgram.DeclaresLast ⟨2⟩ ⟨1⟩ ∧ ¬ SensitiveVariable secrets chainedProgram ⟨2⟩ ∧
      isSource secrets chainedGraph (.expr ⟨1⟩) = true := by
  have hv : chainedGraph.program.validate = .ok () := by cbv
  have huse : SensitiveUse secrets chainedGraph.program ⟨1⟩ :=
    .assigned (a := ⟨2⟩) (v := ⟨3⟩) rfl ⟨_, rfl, .inl rfl⟩
  refine ⟨hv, ?_, ?_, (isSource_iff hv _).mpr ⟨.used huse, ?_⟩⟩
  · have hlast : chainedProgram.index.initializerOf[(⟨1⟩ : ExprId)]? = some ⟨2⟩ := by cbv
    exact (Program.initializerOf_eq_some_iff hv).mp hlast
  · rintro ⟨x, ⟨⟩, hname | ⟨type, ⟨⟩, -⟩⟩
    exact absurd hname (by decide)
  · rintro e v ⟨⟩ -
    exact .inr huse

end SensitiveSource

end TaintFlow
