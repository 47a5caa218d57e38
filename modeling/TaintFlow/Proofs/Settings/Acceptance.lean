import TaintFlow.Rules.NameTables
import TaintFlow.Settings.Document
import Mathlib.Tactic.Choose

namespace TaintFlow

namespace NameTables

def pattern (t : NameTables) : PatternSlot → Pattern
  | .password => t.password
  | .passwordExclusion => t.passwordExclusion
  | .credential => t.credential
  | .notSensitive => t.notSensitive
  | .crypto => t.crypto
  | .cryptoExclusion => t.cryptoExclusion
  | .loggerReceiver => t.loggerReceiver

def methods (t : NameTables) : MethodSlot → List String
  | .log => t.log
  | .networkSend => t.networkSend
  | .networkReceive => t.networkReceive
  | .singleReplace => t.singleReplace
  | .globalReplace => t.globalReplace

def ofSlots (pattern : PatternSlot → Pattern) (methods : MethodSlot → List String) :
    NameTables where
  password := pattern .password
  passwordExclusion := pattern .passwordExclusion
  credential := pattern .credential
  notSensitive := pattern .notSensitive
  crypto := pattern .crypto
  cryptoExclusion := pattern .cryptoExclusion
  loggerReceiver := pattern .loggerReceiver
  log := methods .log
  networkSend := methods .networkSend
  networkReceive := methods .networkReceive
  singleReplace := methods .singleReplace
  globalReplace := methods .globalReplace

variable (pattern : PatternSlot → Pattern) (methods : MethodSlot → List String)

theorem pattern_ofSlots (slot : PatternSlot) :
    (ofSlots pattern methods).pattern slot = pattern slot := by
  cases slot <;> rfl

theorem methods_ofSlots (slot : MethodSlot) :
    (ofSlots pattern methods).methods slot = methods slot := by
  cases slot <;> rfl

end NameTables

/-- Overrides are accepted on their own, with settings that are built, or with settings that are
read. -/
inductive NameOverrides.Accepted : NameOverrides → Prop
  | validated {o : NameOverrides} : o.validate = .ok () → o.Accepted
  | built {s s' : Settings} : s.build = .ok s' → s'.names.Accepted
  | read {text : String} {s : Settings} : Settings.ofYaml text = .ok s → s.names.Accepted

section Outcomes

variable {ε α β : Type} {x : Except ε α} {f : α → Except ε β} {b : β}

theorem bind_eq_ok_iff : x >>= f = .ok b ↔ ∃ a, x = .ok a ∧ f a = .ok b := by
  cases x with
  | error e => simp [bind, Except.bind]
  | ok a => simp [bind, Except.bind]

theorem forM_eq_ok_iff {xs : List α} {f : α → Except ε Unit} :
    xs.forM f = .ok () ↔ ∀ x ∈ xs, f x = .ok () := by
  induction xs with
  | nil => simp [List.forM, pure, Except.pure]
  | cons x xs ih =>
    change (f x >>= fun _ ↦ xs.forM f) = .ok () ↔ _
    rw [bind_eq_ok_iff, List.forall_mem_cons]
    constructor
    · rintro ⟨a, hx, hxs⟩
      exact ⟨hx, ih.mp hxs⟩
    · rintro ⟨hx, hxs⟩
      exact ⟨_, hx, ih.mpr hxs⟩

theorem discard_eq_ok_iff : discard x = .ok () ↔ ∃ a, x = .ok a := by
  cases x with
  | error e =>
    constructor
    · intro h
      cases h
    · rintro ⟨a, h⟩
      cases h
  | ok a => exact ⟨fun _ ↦ ⟨a, rfl⟩, fun _ ↦ rfl⟩

end Outcomes

theorem PatternSlot.isSome_read?_builtin (slot : PatternSlot) :
    (Pattern.read? slot.builtin).isSome = true := by
  cases slot <;> decide +kernel

theorem MethodSlot.builtin_ne_nil (slot : MethodSlot) : slot.builtin ≠ [] := by
  cases slot <;> simp [builtin]

theorem PatternSlot.mem_all (slot : PatternSlot) : slot ∈ all := by
  cases slot <;> decide

namespace NameOverrides

variable {o : NameOverrides} {t : NameTables} {name text : String} {p : Pattern}

theorem compile_eq_ok_iff : compile name text = .ok p ↔ Pattern.read? text = some p := by
  unfold compile
  split
  · rename_i q hq
    simp [hq]
  · rename_i hnone
    simp [hnone]

theorem mem_patterns : (name, text) ∈ o.patterns ↔
    ∃ slot, o.pattern? slot = some text ∧ PatternSlot.name slot = name := by
  simp only [patterns, List.mem_filterMap, Option.map_eq_some_iff, Prod.mk.injEq]
  constructor
  · rintro ⟨slot, -, text, hslot, hname, rfl⟩
    exact ⟨slot, hslot, hname⟩
  · rintro ⟨slot, hslot, hname⟩
    exact ⟨slot, slot.mem_all, text, hslot, hname, rfl⟩

theorem validate_eq_ok_iff : o.validate = .ok () ↔
    (∀ slot text, o.pattern? slot = some text → ∃ p, Pattern.read? text = some p) ∧
      o.log ≠ some [] := by
  have hpatterns : (∀ x ∈ o.patterns, discard (compile x.1 x.2) = .ok ()) ↔
      ∀ slot text, o.pattern? slot = some text → ∃ p, Pattern.read? text = some p := by
    simp only [Prod.forall, discard_eq_ok_iff, compile_eq_ok_iff, mem_patterns]
    constructor
    · intro h slot text hslot
      exact h slot.name text ⟨slot, hslot, rfl⟩
    · rintro h name text ⟨slot, hslot, -⟩
      exact h slot text hslot
  have hmethods : (if o.log = some [] then
      throw (.invalid "log_methods must not be empty; omit it to keep the defaults")
      else pure () : Except SettingsError Unit) = .ok () ↔ o.log ≠ some [] := by
    by_cases hlog : o.log = some []
    · simp [hlog]
    · simp [hlog, pure, Except.pure]
  rw [validate, bind_eq_ok_iff, ← hpatterns, ← hmethods]
  constructor
  · rintro ⟨_, hfirst, hsecond⟩
    exact ⟨forM_eq_ok_iff.mp hfirst, hsecond⟩
  · rintro ⟨hfirst, hsecond⟩
    exact ⟨_, forM_eq_ok_iff.mpr hfirst, hsecond⟩

end NameOverrides

namespace NameTables

open NameOverrides (compile_eq_ok_iff)

variable {o : NameOverrides} {t : NameTables}

theorem ofOverrides_eq_ok_iff : ofOverrides o = .ok t ↔
    (∀ slot, Pattern.read? ((o.pattern? slot).getD slot.builtin) = some (t.pattern slot)) ∧
      ∀ slot, t.methods slot = (o.methods? slot).getD slot.builtin := by
  simp only [ofOverrides, bind_eq_ok_iff, compile_eq_ok_iff]
  constructor
  · rintro ⟨p₁, h₁, p₂, h₂, p₃, h₃, p₄, h₄, p₅, h₅, p₆, h₆, p₇, h₇, h⟩
    cases h
    constructor
    · intro slot
      cases slot with
      | password => exact h₁
      | passwordExclusion => exact h₂
      | credential => exact h₃
      | notSensitive => exact h₄
      | crypto => exact h₅
      | cryptoExclusion => exact h₆
      | loggerReceiver => exact h₇
    · intro slot
      cases slot <;> rfl
  · rintro ⟨hp, hm⟩
    refine ⟨_, hp .password, _, hp .passwordExclusion, _, hp .credential, _, hp .notSensitive,
      _, hp .crypto, _, hp .cryptoExclusion, _, hp .loggerReceiver, ?_⟩
    simp only [← hm]
    rfl

theorem exists_ofOverrides_iff : (∃ t, ofOverrides o = .ok t) ↔
    ∀ slot text, o.pattern? slot = some text → ∃ p, Pattern.read? text = some p := by
  constructor
  · rintro ⟨t, ht⟩ slot text hslot
    refine ⟨t.pattern slot, ?_⟩
    rw [← (ofOverrides_eq_ok_iff.mp ht).1 slot, hslot]
    rfl
  · intro h
    have hread : ∀ slot, ∃ p, Pattern.read? ((o.pattern? slot).getD slot.builtin) = some p := by
      intro slot
      cases hslot : o.pattern? slot with
      | none => exact Option.isSome_iff_exists.mp slot.isSome_read?_builtin
      | some text => exact h slot text hslot
    choose pattern hpattern using hread
    refine ⟨ofSlots pattern fun slot ↦ (o.methods? slot).getD slot.builtin,
      ofOverrides_eq_ok_iff.mpr ⟨?_, ?_⟩⟩
    · intro slot
      rw [pattern_ofSlots, hpattern]
    · intro slot
      rw [methods_ofSlots]

theorem methods_eq_nil_iff (h : ofOverrides o = .ok t) (slot : MethodSlot) :
    t.methods slot = [] ↔ o.methods? slot = some [] := by
  rw [(ofOverrides_eq_ok_iff.mp h).2 slot]
  cases hslot : o.methods? slot with
  | none => simpa using slot.builtin_ne_nil
  | some names => simp

end NameTables

namespace Settings

variable {s s' : Settings} {text : String}

theorem validate_of_build (h : s.build = .ok s') : s'.validate = .ok () := by
  obtain ⟨_, hvalid, hs⟩ := bind_eq_ok_iff.mp h
  cases hs
  exact hvalid

theorem validate_names (h : s.validate = .ok ()) : s.names.validate = .ok () := by
  obtain ⟨_, -, hnames⟩ := bind_eq_ok_iff.mp h
  exact hnames

theorem exists_build_of_settings {f : SettingsFile} (h : f.settings = .ok s) :
    ∃ s₀ : Settings, s₀.build = .ok s := by
  unfold SettingsFile.settings at h
  split at h
  · rename_i version hversion
    by_cases hsupported : SettingsFile.supportedVersions.contains version = true
    · rw [if_pos hsupported] at h
      obtain ⟨preset, -, h⟩ := bind_eq_ok_iff.mp h
      exact ⟨_, h⟩
    · rw [if_neg hsupported] at h
      cases h
  · cases h

theorem exists_build_of_ofYaml (h : ofYaml text = .ok s) : ∃ s₀ : Settings, s₀.build = .ok s := by
  unfold ofYaml ofDocument at h
  split at h
  · split at h
    · exact exists_build_of_settings h
    · cases h
  · cases h

end Settings

theorem NameOverrides.Accepted.validate {o : NameOverrides} (h : o.Accepted) :
    o.validate = .ok () := by
  cases h with
  | validated h => exact h
  | built h => exact Settings.validate_names (Settings.validate_of_build h)
  | read h =>
    obtain ⟨s₀, hbuild⟩ := Settings.exists_build_of_ofYaml h
    exact Settings.validate_names (Settings.validate_of_build hbuild)

namespace NameTables

/-- Overrides are accepted exactly if tables can be made from them in which some methods log. Of the
lists of methods, those are empty that are set to nothing. -/
theorem accepted_iff_ofOverrides (o : NameOverrides) :
    (o.Accepted ↔ ∃ t, ofOverrides o = .ok t ∧ t.methods .log ≠ []) ∧
      ∀ t, ofOverrides o = .ok t → ∀ slot, t.methods slot = [] ↔ o.methods? slot = some [] := by
  refine ⟨⟨?_, ?_⟩, fun t ht slot ↦ methods_eq_nil_iff ht slot⟩
  · intro h
    obtain ⟨hpatterns, hlog⟩ := NameOverrides.validate_eq_ok_iff.mp h.validate
    obtain ⟨t, ht⟩ := exists_ofOverrides_iff.mpr hpatterns
    exact ⟨t, ht, fun hnil ↦ hlog ((methods_eq_nil_iff ht .log).mp hnil)⟩
  · rintro ⟨t, ht, hlog⟩
    refine .validated (NameOverrides.validate_eq_ok_iff.mpr ⟨exists_ofOverrides_iff.mp ⟨t, ht⟩, ?_⟩)
    exact fun hnil ↦ hlog ((methods_eq_nil_iff ht .log).mpr hnil)

def silentOverrides : NameOverrides where
  networkSend := some []

theorem accepted_silent : silentOverrides.Accepted := .validated rfl

theorem not_forall_accepted_methods : ¬ ∀ o : NameOverrides, o.Accepted →
    ∃ t, ofOverrides o = .ok t ∧ ∀ slot, t.methods slot ≠ [] := by
  intro h
  obtain ⟨t, ht, hall⟩ := h silentOverrides accepted_silent
  exact hall .networkSend ((methods_eq_nil_iff ht .networkSend).mpr rfl)

theorem accepted_iff_ofOverrides_silent : silentOverrides.Accepted ∧
    ∃ t, ofOverrides silentOverrides = .ok t ∧ t.methods .log ≠ [] ∧
      t.methods .networkSend = [] := by
  obtain ⟨haccepted, hempty⟩ := accepted_iff_ofOverrides silentOverrides
  obtain ⟨t, ht, hlog⟩ := haccepted.mp accepted_silent
  exact ⟨accepted_silent, t, ht, hlog, (hempty t ht .networkSend).mpr rfl⟩

end NameTables

end TaintFlow
