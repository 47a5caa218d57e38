import TaintFlow.Proofs.Program.Growth

namespace TaintFlow

namespace Program

variable {p p' : Program} {f : FunctionId} {v : VarId} {kind : VariableKind} {x : Function}

def Owns (p : Program) (f : FunctionId) (v : VarId) (kind : VariableKind) : Prop :=
  ∃ x, p.var? v = some x ∧ x.kind = kind ∧ x.function = some f

structure Declares (p : Program) (x : Function) : Prop where
  length_le : x.params.length ≤ p.vars.size
  param : ∀ (i : Nat) (v : VarId), x.params[i]? = some v →
    p.Owns x.id v (.parameter (.ofNat i))
  receiver : ∀ v, x.selfParam = some v → p.Owns x.id v .selfParameter

def fieldsOf? (p : Program) : Option Ref → Option (List (Option FieldId))
  | some (.field f) => some [some f]
  | some (.expr e) => (p.kind? e).map (·.fieldSlots)
  | some (.function _) | some (.var _) | none => some []

theorem UsesOnly.mono {P Q : Ref → Prop} (h : p.UsesOnly P) (hpq : ∀ ref, P ref → Q ref) :
    p.UsesOnly Q :=
  ⟨fun x hx ref hm ↦ hpq ref (h.functions x hx ref hm),
    fun x hx ref hm ↦ hpq ref (h.vars x hx ref hm),
    fun x hx ref hm ↦ hpq ref (h.exprs x hx ref hm)⟩

section

variable (h : p.Extends p')
include h

theorem Owns.of_extends (ho : p.Owns f v kind) : p'.Owns f v kind := by
  obtain ⟨x, hx, hk, hf⟩ := ho
  obtain ⟨x', hx', hv⟩ := h.vars.kept v.index x hx
  simp only [Prod.mk.injEq] at hv
  exact ⟨x', hx', hv.2.1.trans hk, hv.2.2.trans hf⟩

theorem Declares.of_extends (hd : p.Declares x) : p'.Declares x where
  length_le := Nat.le_trans hd.length_le h.vars.size_le
  param i v hv := (hd.param i v hv).of_extends h
  receiver v hv := (hd.receiver v hv).of_extends h

theorem fieldName?_of_extends {f : FieldId} {name : String} (hn : p.fieldName? f = some name) :
    p'.fieldName? f = some name := by
  obtain ⟨x, hx, rfl⟩ := Option.map_eq_some_iff.mp hn
  obtain ⟨x', hx', rfl⟩ := h.fields.kept f.index x hx
  rw [fieldName?, field?, hx', Option.map_some]

theorem fieldsOf?_of_extends {made : Option Ref} {fields : List (Option FieldId)}
    (hm : p.fieldsOf? made = some fields) : p'.fieldsOf? made = some fields := by
  cases made with
  | none => exact hm
  | some ref =>
    cases ref with
    | function _ | var _ | field _ => exact hm
    | expr e =>
      obtain ⟨_, hk, rfl⟩ := Option.map_eq_some_iff.mp hm
      obtain ⟨x, hx, rfl⟩ := Option.map_eq_some_iff.mp hk
      obtain ⟨x', hx', hv⟩ := h.exprs.kept e.index x hx
      simp only [Prod.mk.injEq] at hv
      simp only [fieldsOf?, kind?, expr?, hx', Option.map_some, hv.2]

end

end Program

namespace Draft

variable {d d' d₁ : Draft} {step : Step} {made : Option Ref} {names : List (Option String)}
  {fields : List (Option FieldId)}

/-- The names entered are those of the fields, each with its field. -/
def Entered (d : Draft) : Prop :=
  ∀ (name : String) (f : FieldId), d.fieldIds[name]? = some f ↔ d.program.fieldName? f = some name

/-- What holds at any time in a run, `passed` telling the numbers that are passed to its steps. -/
structure Sound (passed : Ref → Prop) (d : Draft) : Prop where
  placed : ∀ ref i, d.program.Stands ref i → ref.index = i
  entered : d.Entered
  declares : ∀ x ∈ d.program.functions, d.program.Declares x
  uses : d.program.UsesOnly fun ref ↦ passed ref ∨ ref.index < d.program.size ref

section

variable {name : String}

theorem fieldName?_pushField (hs : d.program.fields.size < UInt32.size) (f : FieldId) :
    (d.pushField name).program.fieldName? f =
      if f = .ofIndex d.program.fields.size then some name else d.program.fieldName? f := by
  have hindex : (FieldId.ofIndex d.program.fields.size).index = d.program.fields.size := by
    rw [FieldId.index_ofIndex, Nat.mod_eq_of_lt hs]
  simp only [Program.fieldName?, Program.field?, pushField, Array.getElem?_push]
  by_cases hf : f = .ofIndex d.program.fields.size
  · rw [if_pos hf, if_pos (hf ▸ hindex), Option.map_some]
  · rw [if_neg hf, if_neg fun h ↦ hf (FieldId.eq_of_index_eq (h.trans hindex.symm))]

theorem entered_pushField (h : d.Entered) (hnone : d.fieldIds[name]? = none)
    (hs : (d.pushField name).program.Small) : (d.pushField name).Entered := by
  intro other f
  have hsize : d.program.fields.size + 1 < UInt32.size :=
    Array.size_push _ ▸ hs (.field ⟨0⟩)
  have hnew : d.program.fieldName? (.ofIndex d.program.fields.size) = none := by
    rw [Program.fieldName?, Program.field?, FieldId.index_ofIndex, Nat.mod_eq_of_lt (by omega),
      Array.getElem?_size, Option.map_none]
  rw [fieldName?_pushField (by omega), pushField, Std.HashMap.getElem?_insert]
  -- The name is new to the table, and the number is new to the fields.
  by_cases hname : name = other
  · subst hname
    rw [if_pos (beq_self_eq_true name), Option.some_inj]
    split
    · next hf => exact iff_of_true hf.symm rfl
    · next hf =>
      refine iff_of_false (fun heq ↦ hf heq.symm) fun hf' ↦ ?_
      have hold := (h name f).mpr hf'
      rw [hnone] at hold
      cases hold
  · rw [if_neg (by simpa using hname)]
    split
    · next hf =>
      refine iff_of_false (fun hf' ↦ ?_) fun heq ↦ hname (Option.some_inj.mp heq)
      have hold := (h other f).mp hf'
      rw [hf, hnew] at hold
      cases hold
    · exact h other f

theorem intern_of_some {f : FieldId} (h : d.fieldIds[name]? = some f) : d.intern name = (f, d) := by
  simp only [intern, h]

theorem intern_of_none (h : d.fieldIds[name]? = none) :
    d.intern name = (.ofIndex d.program.fields.size, d.pushField name) := by
  simp only [intern, h]

theorem entered_intern (h : d.Entered) (hs : (d.intern name).2.program.Small) :
    (d.intern name).2.Entered := by
  cases hname : d.fieldIds[name]? with
  | some f =>
    rw [intern_of_some hname]
    exact h
  | none =>
    rw [intern_of_none hname] at hs ⊢
    exact entered_pushField h hname hs

theorem Interns.entered (h : d.Interns names fields d') (hd : d.Entered)
    (hs : d'.program.Small) : d'.Entered := by
  induction h with
  | nil => exact hd
  | skip h ih => exact ih hd hs
  | look h ih => exact ih (entered_intern hd (h.extends.small hs)) hs

theorem Entered.nodup (h : d.Entered) (hp : ∀ ref i, d.program.Stands ref i → ref.index = i) :
    (d.program.fields.toList.map (·.name)).Nodup := by
  have hname : ∀ {i : Nat} {x : Field}, d.program.fields.toList[i]? = some x →
      d.fieldIds[x.name]? = some x.id := by
    intro i x hx
    have hindex : x.id.index = i := hp _ i (.field hx)
    rw [h, Program.fieldName?, Program.field?, hindex, ← Array.getElem?_toList, hx, Option.map_some]
  rw [List.Nodup, List.pairwise_map, List.pairwise_iff_getElem]
  intro i j hi hj hlt heq
  have hxi := List.getElem?_eq_getElem hi
  have hxj := List.getElem?_eq_getElem hj
  have hid := Option.some_inj.mp ((hname hxi).symm.trans (heq ▸ hname hxj))
  have hij : i = j := by
    rw [← hp _ i (.field hxi), ← hp _ j (.field hxj), hid]
  omega

theorem Entered.index_lt (h : d.Entered) {f : FieldId} (hf : d.fieldIds[name]? = some f) :
    f.index < d.program.fields.size := by
  obtain ⟨x, hx, -⟩ := Option.map_eq_some_iff.mp ((h name f).mp hf)
  exact (Array.getElem?_eq_some_iff.mp hx).1

theorem Enters.of_extends (hn : d.Enters names fields) (h : d.Entered) (h' : d'.Entered)
    (he : d.program.Extends d'.program) : d'.Enters names fields := by
  refine List.Forall₂.imp (fun name field hr ↦ ?_) hn
  cases hr with
  | none => exact .none
  | some hf => exact .some ((h' _ _).mpr (Program.fieldName?_of_extends he ((h _ _).mp hf)))

def fieldIdOf (d : Draft) (name : String) : FieldId :=
  (d.fieldIds[name]?).getD ⟨0⟩

theorem Enters.eq_map (h : d.Enters names fields) : fields = names.map (·.map d.fieldIdOf) := by
  induction h with
  | nil => rfl
  | cons hr h ih =>
    rw [List.map_cons, ← ih]
    cases hr with
    | none => rfl
    | some hf => rw [Option.map_some, fieldIdOf, hf, Option.getD_some]

theorem Enters.fieldIds_of_mem (h : d.Enters names fields) (hm : some name ∈ names) :
    d.fieldIds[name]? = some (d.fieldIdOf name) := by
  induction h with
  | nil => cases hm
  | cons hr h ih =>
    rcases List.mem_cons.mp hm with rfl | hm
    · cases hr with
      | some hf => rw [fieldIdOf, hf, Option.getD_some]
    · exact ih hm

end

theorem kind?_pushExpr (hs : d.program.exprs.size < UInt32.size) (function : FunctionId)
    (kind : ExprKind) (text : String) :
    (d.pushExpr function kind text).program.kind? (.ofIndex d.program.exprs.size) = some kind := by
  simp only [Program.kind?, Program.expr?, pushExpr, edit, ExprId.index_ofIndex,
    Nat.mod_eq_of_lt hs, Array.getElem?_push_size, Option.map_some]

theorem owns_pushVariable (hs : d.program.vars.size < UInt32.size) (f : FunctionId) (name : String)
    (typeName : Option String) (kind : VariableKind) :
    (d.pushVariable (some f) name typeName kind).program.Owns f (.ofIndex d.program.vars.size)
      kind := by
  simp only [Program.Owns, Program.var?, pushVariable, edit, VarId.index_ofIndex,
    Nat.mod_eq_of_lt hs, Array.getElem?_push_size, Option.some_inj, exists_eq_left', and_self]

theorem Interns.functions_eq (h : d.Interns names fields d') :
    d'.program.functions = d.program.functions := by
  rw [h.eq_withFields]

theorem declares_editFunction {f : FunctionId} {change : Function → Function}
    (hid : ∀ x, (change x).id = x.id) (hd : ∀ x ∈ d.program.functions, d.program.Declares x)
    (hc : ∀ x, d.program.functions[f.index]? = some x → d.program.Declares (change x)) :
    ∀ x ∈ (d.editFunction f change).program.functions,
      (d.editFunction f change).program.Declares x :=
  fun x hx ↦ (forall_mem_modify hd hc x hx).of_extends (extends_editFunction f hid)

section

variable (h : d.Effect step (.ok made, d')) (hs : d'.program.Small)
include h hs

theorem Effect.entered (hd : d.Entered) : d'.Entered := by
  cases h with
  | field hi => exact hi.entered hd hs
  | expr hf hi hr => exact hi.entered hd ((extends_pushExpr _ _ _).small hs)
  | _ => exact hd

theorem Effect.enters : ∃ fields, d'.program.fieldsOf? made = some fields ∧
    d'.Enters (step.names d.program) fields := by
  cases h with
  | field hi => exact ⟨_, rfl, hi.enters⟩
  | revise hn hid hk hr => exact ⟨[], rfl, hn ▸ .nil⟩
  | @expr _ function kind text d₁ hf hi hr =>
    refine ⟨kind.fieldSlots, ?_, hi.enters⟩
    have hsize : d₁.program.exprs.size < UInt32.size :=
      (extends_pushExpr function kind text).small hs (.expr ⟨0⟩)
    rw [Program.fieldsOf?, ← hi.exprs_eq, kind?_pushExpr hsize, Option.map_some]
  | _ => exact ⟨[], rfl, .nil⟩

theorem Effect.declares (hp : ∀ ref i, d.program.Stands ref i → ref.index = i)
    (hd : ∀ x ∈ d.program.functions, d.program.Declares x) :
    ∀ x ∈ d'.program.functions, d'.program.Declares x := by
  have hext := h.extends
  have hd' := fun x hx ↦ (hd x hx).of_extends hext
  have hnew : d.program.vars.size < UInt32.size := hext.small hs (.var ⟨0⟩)
  have hid : ∀ {f : FunctionId} {x : Function}, d.program.functions[f.index]? = some x →
      x.id = f := fun hx ↦
    FunctionId.eq_of_index_eq (hp _ _ (.function (Array.getElem?_toList ▸ hx)))
  cases h with
  | function name => exact forall_mem_push hd' ⟨Nat.zero_le _, nofun, nofun⟩
  | @param f x hx name typeName =>
    have hext := extends_pushVariable (d := d) (some f) name typeName
      (.parameter (.ofNat x.params.length))
    have howns := owns_pushVariable hnew f name typeName (.parameter (.ofNat x.params.length))
    refine declares_editFunction (fun _ ↦ rfl) (fun y hy ↦ (hd y hy).of_extends hext) fun y hy ↦ ?_
    cases hx.symm.trans hy
    have hold := hd x (Array.mem_of_getElem? hx)
    refine ⟨?_, fun i v hv ↦ ?_, fun v hv ↦ (hold.receiver v hv).of_extends hext⟩
    · have hlength := hold.length_le
      simp [pushVariable, edit, hlength]
    · -- Either a parameter that was there, or the one that comes last now.
      rw [List.getElem?_append] at hv
      split at hv
      · exact (hold.param i v hv).of_extends hext
      · next hi =>
        have hlt := (List.getElem?_eq_some_iff.mp hv).1
        have hlast : i = x.params.length := by
          simp only [List.length_singleton] at hlt
          omega
        subst hlast
        rw [Nat.sub_self, List.getElem?_cons_zero, Option.some_inj] at hv
        exact hv ▸ hid hx ▸ howns
  | @selfParam f hf =>
    have hext := extends_pushVariable (d := d) (some f) "self" none .selfParameter
    have howns := owns_pushVariable hnew f "self" none .selfParameter
    refine declares_editFunction (fun _ ↦ rfl) (fun y hy ↦ (hd y hy).of_extends hext) fun y hy ↦ ?_
    have hold := (hd y (Array.mem_of_getElem? hy)).of_extends hext
    refine ⟨hold.length_le, hold.param, fun v hv ↦ ?_⟩
    cases hv
    exact hid hy ▸ howns
  | returns f value =>
    refine declares_editFunction (fun _ ↦ rfl) hd fun y hy ↦ ?_
    have hold := hd y (Array.mem_of_getElem? hy)
    exact ⟨hold.length_le, hold.param, hold.receiver⟩
  | field hi => exact fun x hx ↦ hd' x (hi.functions_eq ▸ hx)
  | expr hf hi hr => exact fun x hx ↦ hd' x (hi.functions_eq ▸ hx)
  | _ => exact hd'

theorem Effect.sound {passed : Ref → Prop} (hd : d.Sound passed)
    (hp : ∀ ref ∈ step.refs, passed ref) : d'.Sound passed where
  placed ref i hi := h.extends.placed hs hd.placed hi
  entered := h.entered hs hd.entered
  declares := h.declares hs hd.placed hd.declares
  uses := by
    refine h.usesOnly (hd.uses.mono fun ref hr ↦ ?_) (fun ref hr ↦ .inl (hp ref hr))
      (fun _ ↦ .inr) fun name f hf ↦ (h.entered hs hd.entered).index_lt hf
    exact hr.imp_right fun hlt ↦ Nat.lt_of_lt_of_le hlt (h.extends.size_le ref)

end

inductive Runs : Draft → List Step → List (Option Ref) → Draft → Prop
  | nil {d : Draft} : Runs d [] [] d
  | cons {d d₁ d' : Draft} {step : Step} {steps : List Step} {made : Option Ref}
      {results : List (Option Ref)} (h : d.apply step = (.ok made, d₁))
      (hr : Runs d₁ steps results d') : Runs d (step :: steps) (made :: results) d'

section

variable {steps before : List Step} {results : List (Option Ref)}

theorem applyAll_cons (d : Draft) (step : Step) (steps : List Step) :
    d.applyAll (step :: steps) = match d.apply step with
      | (.ok made, d) => (made :: (d.applyAll steps).1, (d.applyAll steps).2)
      | (.error missing, d) => ([], some missing, d) := rfl

theorem runs_of_applyAll (h : d.applyAll steps = (results, none, d')) :
    d.Runs steps results d' := by
  induction steps generalizing d results with
  | nil =>
    cases h
    exact .nil
  | cons step rest ih =>
    rw [applyAll_cons] at h
    split at h
    · next made d₁ hstep =>
      simp only [Prod.mk.injEq] at h
      obtain ⟨rfl, hrest⟩ := h
      exact .cons hstep (ih (Prod.ext rfl hrest))
    · cases h

theorem Runs.applyAll_eq (h : d.Runs steps results d') :
    d.applyAll steps = (results, none, d') := by
  induction h with
  | nil => rfl
  | cons h hr ih =>
    rw [applyAll_cons, h]
    simp only [ih]

theorem Runs.split (h : d.Runs (before ++ step :: steps) results d') :
    ∃ (results₁ results₂ : List (Option Ref)) (made : Option Ref) (d₀ d₁ : Draft),
      d.Runs before results₁ d₀ ∧ d₀.apply step = (.ok made, d₁) ∧ d₁.Runs steps results₂ d' ∧
        results[before.length]? = some made := by
  induction before generalizing d results with
  | nil =>
    cases h with
    | cons h hr => exact ⟨[], _, _, d, _, .nil, h, hr, rfl⟩
  | cons first rest ih =>
    cases h with
    | cons h hr =>
      obtain ⟨results₁, results₂, made, d₀, d₁, hbefore, hstep, hafter, hmade⟩ := ih hr
      exact ⟨_ :: results₁, results₂, made, d₀, d₁, .cons h hbefore, hstep, hafter, hmade⟩

theorem Runs.extends (h : d.Runs steps results d') : d.program.Extends d'.program := by
  induction h with
  | nil => exact .refl
  | cons h hr ih => exact Program.Extends.trans (h ▸ effect_apply _ _).extends ih

theorem Runs.sound {passed : Ref → Prop} (h : d.Runs steps results d') (hs : d'.program.Small)
    (hd : d.Sound passed) (hp : ∀ step ∈ steps, ∀ ref ∈ step.refs, passed ref) :
    d'.Sound passed := by
  induction h with
  | nil => exact hd
  | @cons d d₁ d' step steps made results h hr ih =>
    have heffect : d.Effect step (.ok made, d₁) := h ▸ effect_apply d step
    have hd₁ := heffect.sound (hr.extends.small hs) hd (hp step List.mem_cons_self)
    exact ih hs hd₁ fun step hm ↦ hp step (List.mem_cons_of_mem _ hm)

theorem sound_empty (file : String) (passed : Ref → Prop) : (empty file).Sound passed where
  placed ref i hi := by cases hi <;> contradiction
  entered name f := by
    simp [empty, Program.fieldName?, Program.field?]
  declares := nofun
  uses := ⟨nofun, nofun, nofun⟩

theorem Sound.exists_param {passed : Ref → Prop} (h : d.Sound passed) (hs : d.program.Small)
    {x : Function} (hx : x ∈ d.program.functions) {i : Nat} {v : VarId}
    (hv : x.params[i]? = some v) : ∃ y k, d.program.var? v = some y ∧ y.kind = .parameter k ∧
      k.toNat = i ∧ y.function = some x.id := by
  obtain ⟨y, hy, hk, hf⟩ := (h.declares x hx).param i v hv
  refine ⟨y, .ofNat i, hy, hk, ?_, hf⟩
  have hi := (List.getElem?_eq_some_iff.mp hv).1
  have hlength := (h.declares x hx).length_le
  have hsize : d.program.vars.size < UInt32.size := hs (.var ⟨0⟩)
  rw [UInt64.toNat_ofNat', Nat.mod_eq_of_lt]
  simp only [UInt32.size] at hsize
  omega

theorem Sound.validate_eq_ok {passed : Ref → Prop} (h : d.Sound passed)
    (hp : ∀ ref, passed ref → ref.index < d.program.size ref) : d.program.validate = .ok () := by
  refine Program.validate_eq_ok_iff_wellFormed.mpr ⟨h.placed, fun ref hm ↦ ?_⟩
  rcases h.uses.of_mentions hm with hpassed | hlt
  · exact hp ref hpassed
  · exact hlt

theorem Runs.fieldsOf?_eq {file : String} {step : Step} {after : List Step} {d' : Draft}
    (h : (empty file).Runs (before ++ step :: after) results d') (hs : d'.program.Small) :
    ∃ made, results[before.length]? = some made ∧
      d'.program.fieldsOf? made =
        some ((step.names ((empty file).applyAll before).2.2.program).map (·.map d'.fieldIdOf)) ∧
      ∀ name, some name ∈ step.names ((empty file).applyAll before).2.2.program →
        d'.program.fieldName? (d'.fieldIdOf name) = some name := by
  obtain ⟨_, _, made, d₀, d₁, hbefore, hstep, hafter, hmade⟩ := h.split
  have heffect : d₀.Effect step (.ok made, d₁) := hstep ▸ effect_apply d₀ step
  have hs₁ := hafter.extends.small hs
  -- How names are entered has nothing to do with what is passed to the steps.
  have hsound₀ := hbefore.sound (heffect.extends.small hs₁) (sound_empty file fun _ ↦ True)
    fun _ _ _ _ ↦ trivial
  have hsound₁ := heffect.sound hs₁ hsound₀ fun _ _ ↦ trivial
  have hsound := hafter.sound hs hsound₁ fun _ _ _ _ ↦ trivial
  obtain ⟨fields, hfields, hn⟩ := heffect.enters hs₁
  have hn' := hn.of_extends hsound₁.entered hsound.entered hafter.extends
  rw [hbefore.applyAll_eq]
  refine ⟨made, hmade, ?_, fun name hm ↦ ?_⟩
  · rw [Program.fieldsOf?_of_extends hafter.extends hfields, hn'.eq_map]
  · exact (hsound.entered _ _).mp (hn'.fieldIds_of_mem hm)

/-- Construction without a failing step, of fewer elements of each sort than there are numbers,
leaves a program in which elements stand where their numbers say, the fields have different names, a
name that steps look up has one field for all of them, and parameters are of their position and
their function. If all that is passed to the steps is there by the end, the program is well
formed. -/
theorem invariants_of_applyAll {file : String}
    (h : (empty file).applyAll steps = (results, none, d)) (hs : d.program.Small) :
    (∀ ref i, d.program.Stands ref i → ref.index = i) ∧
    (d.program.fields.toList.map (·.name)).Nodup ∧
    (∃ idOf : String → FieldId, ∀ before step after, steps = before ++ step :: after →
      ∃ made, results[before.length]? = some made ∧
        d.program.fieldsOf? made =
          some ((step.names ((empty file).applyAll before).2.2.program).map (·.map idOf)) ∧
        ∀ name, some name ∈ step.names ((empty file).applyAll before).2.2.program →
          d.program.fieldName? (idOf name) = some name) ∧
    (∀ x ∈ d.program.functions,
      (∀ (i : Nat) (v : VarId), x.params[i]? = some v → ∃ y k, d.program.var? v = some y ∧
        y.kind = .parameter k ∧ k.toNat = i ∧ y.function = some x.id) ∧
      ∀ v, x.selfParam = some v → ∃ y, d.program.var? v = some y ∧ y.kind = .selfParameter) ∧
    ((∀ step ∈ steps, ∀ ref ∈ step.refs, ref.index < d.program.size ref) →
      d.program.validate = .ok ()) := by
  have hruns := runs_of_applyAll h
  have hsound := hruns.sound hs (sound_empty file fun ref ↦ ∃ step ∈ steps, ref ∈ step.refs)
    fun step hm ref hr ↦ ⟨step, hm, hr⟩
  refine ⟨hsound.placed, hsound.entered.nodup hsound.placed, ⟨d.fieldIdOf, ?_⟩, fun x hx ↦ ⟨?_, ?_⟩,
    fun hp ↦ hsound.validate_eq_ok fun ref ⟨step, hm, hr⟩ ↦ hp step hm ref hr⟩
  · rintro before step after rfl
    exact hruns.fieldsOf?_eq hs
  · exact fun i v hv ↦ hsound.exists_param hs hx hv
  · intro v hv
    obtain ⟨y, hy, hk, -⟩ := (hsound.declares x hx).receiver v hv
    exact ⟨y, hy, hk⟩

end

def loading : List Step :=
  [.function "main", .param ⟨0⟩ "x" none, .selfParam ⟨0⟩, .returns ⟨0⟩ ⟨1⟩,
    .read ⟨0⟩ ⟨0⟩ [.param ⟨0⟩], .fieldLoad ⟨0⟩ ⟨0⟩ "name", .field "name"]

def opened : Draft := ((empty "app.rb").applyAll (loading.take 5)).2.2

def loaded : Draft :=
  (opened.pushField "name").pushExpr ⟨0⟩ (.fieldLoad ⟨0⟩ ⟨0⟩) "x.name"

theorem runs_loading : (empty "app.rb").Runs loading
    [some (.function ⟨0⟩), some (.var ⟨0⟩), some (.var ⟨1⟩), none, some (.expr ⟨0⟩),
      some (.expr ⟨1⟩), some (.field ⟨0⟩)] loaded := by
  -- The table of names does not evaluate, so that the look-ups are taken apart from the rest.
  have hload : opened.apply (.fieldLoad ⟨0⟩ ⟨0⟩ "name") = (.ok (some (.expr ⟨1⟩)), loaded) := by
    have hfield := Drafting.outcome_field (d := opened) "name"
    rw [intern_of_none Std.HashMap.getElem?_empty] at hfield
    have hexpr : Drafting.outcome (Drafting.fieldLoad ⟨0⟩ ⟨0⟩ "name") opened =
        (.ok ⟨1⟩, loaded) := Drafting.outcome_bind_of_ok hfield
    exact Drafting.outcome_bind_of_ok hexpr
  have hagain : loaded.apply (.field "name") = (.ok (some (.field ⟨0⟩)), loaded) := by
    have hfield := Drafting.outcome_field (d := loaded) "name"
    rw [intern_of_some Std.HashMap.getElem?_insert_self] at hfield
    exact Drafting.outcome_bind_of_ok hfield
  exact .cons rfl (.cons rfl (.cons rfl (.cons rfl (.cons rfl (.cons hload (.cons hagain .nil))))))

theorem invariants_of_applyAll_loading :
    (∃ results, (empty "app.rb").applyAll loading = (results, none, loaded)) ∧
      loaded.program.Small ∧
      (∀ step ∈ loading, ∀ ref ∈ step.refs, ref.index < loaded.program.size ref) ∧
      loaded.program.validate = .ok () := by
  have hsmall : loaded.program.Small
    | .function _ => (by decide : loaded.program.functions.size < UInt32.size)
    | .var _ => (by decide : loaded.program.vars.size < UInt32.size)
    | .field _ => (by decide : loaded.program.fields.size < UInt32.size)
    | .expr _ => (by decide : loaded.program.exprs.size < UInt32.size)
  have hrefs : ∀ step ∈ loading, ∀ ref ∈ step.refs, ref.index < loaded.program.size ref := by
    decide
  exact ⟨⟨_, runs_loading.applyAll_eq⟩, hsmall, hrefs,
    (invariants_of_applyAll runs_loading.applyAll_eq hsmall).2.2.2.2 hrefs⟩

end Draft

end TaintFlow
