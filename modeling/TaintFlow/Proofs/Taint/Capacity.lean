import TaintFlow.Proofs.Taint.Lockstep

namespace TaintFlow

theorem Arena.encard_holds {a : Arena} (h : ∀ i j x y, a.get? i = some x → a.get? j = some y →
    x.key = y.key → i = j) : {key | a.Holds key}.encard = a.size := by
  have hrange : {key | a.Holds key} = Set.range fun i : Fin a.states.size ↦ a.states[i].key := by
    ext key
    constructor
    · rintro ⟨j, x, hx, rfl⟩
      obtain ⟨hj, rfl⟩ := Array.getElem?_eq_some_iff.mp hx
      exact ⟨⟨j.val, hj⟩, rfl⟩
    · rintro ⟨i, rfl⟩
      exact ⟨⟨i⟩, _, Array.getElem?_eq_getElem i.isLt, rfl⟩
  have hinj : Function.Injective fun i : Fin a.states.size ↦ a.states[i].key := by
    intro i j he
    have hid := h ⟨i⟩ ⟨j⟩ _ _ (Array.getElem?_eq_getElem i.isLt)
      (Array.getElem?_eq_getElem j.isLt) he
    exact Fin.ext (congrArg StateId.val hid)
  rw [hrange, ← Set.image_univ, hinj.encard_image, Set.encard_univ, ENat.card_eq_coe_fintype_card,
    Fintype.card_fin, Arena.size]

namespace Pass

variable {s : Setup} {sources rest : List FlowNode} {p q : Progress} {id : StateId}
  {source key : TaintKey} {edge : FlowEdge} {edges : List FlowEdge} {halt : Halt}
  {res : Except Halt Unit}

def Setup.reachable (s : Setup) (sources : List FlowNode) : Set TaintKey :=
  {key | ∃ n, s.rule.WalkFrom s.graph s.knobs sources n key}

def Setup.seeds (s : Setup) (sources : List FlowNode) : Set TaintKey :=
  {key | ∃ n ∈ sources, s.rule.isBlocked s.graph n = false ∧ key = .plain n}

theorem Progress.Sound.mem_reachable (h : p.Sound s sources) (hk : p.arena.Holds key) :
    key ∈ s.reachable sources := by
  obtain ⟨id, x, hx, rfl⟩ := hk
  obtain ⟨n, hn, hf, -, m, hw⟩ := h.forest.exists_root hx
  exact ⟨m, n, hn, hf, hw⟩

theorem Setup.mem_reachable_of_passes {via : EdgeKind} (h : source ∈ s.reachable sources)
    (hp : s.rule.Passes s.graph s.knobs via source key) : key ∈ s.reachable sources := by
  obtain ⟨n, m, hm, hf, hw⟩ := h
  exact ⟨n + 1, m, hm, hf, hw.snoc hp⟩

/-- There is no room for another state, and there is another key to record. -/
structure Progress.Full (s : Setup) (sources : List FlowNode) (p : Progress) : Prop where
  size : s.knobs.maxStates ≤ p.arena.size
  rest : ∃ key ∈ s.reachable sources, ¬ p.arena.Holds key

theorem Taken.full_of_error (ht : Taken s id source edge p (.error halt) q)
    (h : p.Expanding s sources id source) (hs : s.rule.StaysIn s.graph)
    (he : edge ∈ s.rule.moves s.graph source.node) :
    halt = .interrupted (.stateLimit s.knobs.maxStates) ∧ q.Full s sources := by
  cases ht with
  | @full key ht hnew hf hsize =>
    obtain ⟨x, hx, rfl⟩ := h.current
    have hkey := h.mem_reachable ⟨id, x, hx, rfl⟩
    have hpass := Rule.Passes.of_transfer he ht hf
    exact ⟨rfl, hsize, key, s.mem_reachable_of_passes hkey hpass, h.not_holds hnew⟩
  | foreign hk hc =>
    rw [hs _ _ (Rule.mem_additionalSteps_of_mem_moves he hk)] at hc
    cases hc

theorem TakesAll.full_of_error (ht : TakesAll s id source edges p (.error halt) q)
    (h : p.Expanding s sources id source) (hs : s.rule.StaysIn s.graph)
    (he : ∀ edge ∈ edges, edge ∈ s.rule.moves s.graph source.node) :
    halt = .interrupted (.stateLimit s.knobs.maxStates) ∧ q.Full s sources := by
  generalize herr : Except.error halt = res at ht
  induction ht with
  | nil => cases herr
  | cons hfirst _ ih =>
    exact ih (hfirst.expanding h (he _ List.mem_cons_self))
      (fun edge hedge ↦ he edge (List.mem_cons_of_mem _ hedge)) herr
  | halted hfirst =>
    cases herr
    exact hfirst.full_of_error h hs (he _ List.mem_cons_self)

theorem Expands.full_of_error (h : Expands s p (.error halt) q) (hp : p.Ready s sources)
    (hs : s.rule.StaysIn s.graph) (hb : ∀ n, s.budget.interruption? n = none) :
    halt = .interrupted (.stateLimit s.knobs.maxStates) ∧ q.Full s sources := by
  generalize herr : Except.error halt = res at h
  induction h with
  | done => cases herr
  | interrupted hc =>
    rw [Setup.check?] at hc
    split at hc
    · rw [hb] at hc
      cases hc
    · cases hc
  | halted hx _ ht =>
    cases herr
    exact ht.full_of_error (hp.expanding hx) hs fun _ he ↦ he
  | next hx _ ht _ ih => exact ih (hp.next hx ht) herr

theorem Expands.size_le {bound : Nat} (h : Expands s p res q) (hmax : s.knobs.maxStates ≤ bound)
    (hp : p.arena.size ≤ bound) : q.arena.size ≤ bound := by
  induction h with
  | done => exact hp
  | interrupted => exact hp
  | halted _ _ ht => exact ht.size_le hmax hp
  | next _ _ ht _ ih => exact ih (ht.size_le hmax hp)

theorem SeedsAll.holds_or_mem_seeds (h : SeedsAll s rest p q) (hk : q.arena.Holds key) :
    p.arena.Holds key ∨ key ∈ s.seeds rest := by
  induction h with
  | nil => exact .inl hk
  | @cons n rest p m q hn _ ih =>
    rcases ih hk with hm | ⟨n', hn', hf, rfl⟩
    · cases hn with
      | blocked => exact .inl hm
      | known => exact .inl hm
      | recorded hf =>
        obtain ⟨j, x, hx, rfl⟩ := hm
        rcases Arena.of_get?_push hx with hx | ⟨-, rfl⟩
        · exact .inl ⟨j, x, hx, rfl⟩
        · exact .inr ⟨n, List.mem_cons_self, hf, rfl⟩
    · exact .inr ⟨n', List.mem_cons_of_mem _ hn', hf, rfl⟩

theorem Setup.encard_seeds_le (h : p.Sound s sources)
    (hseeded : p.arena.Seeded s.rule s.graph sources) :
    (s.seeds sources).encard ≤ p.arena.size := by
  rw [← Arena.encard_holds h.forest.distinct]
  refine Set.encard_le_encard ?_
  rintro _ ⟨n, hn, hf, rfl⟩
  exact hseeded n hn hf

theorem Progress.Full.lt_reachable (hfull : p.Full s sources) (h : p.Sound s sources) :
    (p.arena.size : ℕ∞) < (s.reachable sources).encard := by
  have hcard := Arena.encard_holds h.forest.distinct
  obtain ⟨key, hkey, hnew⟩ := hfull.rest
  rw [← hcard]
  refine Set.Finite.encard_lt_encard (Set.finite_of_encard_eq_coe hcard) ⟨?_, ?_⟩
  · exact fun _ hk ↦ h.mem_reachable hk
  · exact fun hsub ↦ hnew (hsub hkey)

theorem Setup.encard_reachable (h : p.arena.Complete s.rule s.graph s.knobs sources) :
    (s.reachable sources).encard = p.arena.size := by
  rw [← Arena.encard_holds h.distinct]
  exact congrArg Set.encard (Set.ext fun _ ↦ h.holds_iff.symm)

theorem exists_seedsAll_size_le (ha : ∀ f, (run s sources).halt ≠ some (.fault f)) :
    ∃ m, SeedsAll s sources {} m ∧
      (run s sources).progress.arena.size ≤ max m.arena.size s.knobs.maxStates := by
  obtain ⟨m, hseeds, hend⟩ := Stretch.leads_run (Outcome.answered ha) leads_outcome
  refine ⟨m, hseeds, ?_⟩
  rcases hend with ⟨cause, -, -, hq⟩ | ⟨-, hexp⟩
  · rw [hq]
    exact Nat.le_max_left _ _
  · exact hexp.size_le (Nat.le_max_right _ _) (Nat.le_max_left _ _)

theorem run_size_le (ha : ∀ f, (run s sources).halt ≠ some (.fault f)) :
    ((run s sources).progress.arena.size : ℕ∞) ≤
      max (s.seeds sources).encard s.knobs.maxStates := by
  obtain ⟨m, hseeds, hsize⟩ := exists_seedsAll_size_le ha
  have hm : (m.arena.size : ℕ∞) ≤ (s.seeds sources).encard := by
    rw [← Arena.encard_holds hseeds.ready.forest.distinct]
    refine Set.encard_le_encard fun key hk ↦ ?_
    rcases hseeds.holds_or_mem_seeds hk with ⟨j, x, hx, -⟩ | hkey
    · simp [Arena.get?] at hx
    · exact hkey
  calc ((run s sources).progress.arena.size : ℕ∞)
      ≤ (max m.arena.size s.knobs.maxStates : ℕ) := Nat.cast_le.mpr hsize
    _ = max (m.arena.size : ℕ∞) s.knobs.maxStates := Nat.mono_cast.map_max
    _ ≤ max (s.seeds sources).encard s.knobs.maxStates := max_le_max_right _ hm

/-- Under knobs in range every state has a number of its own. -/
theorem run_size_lt_capacity (hk : s.knobs.validate = .ok ())
    (hs : sources.length < Arena.capacity) (ha : ∀ f, (run s sources).halt ≠ some (.fault f)) :
    (run s sources).progress.arena.size < Arena.capacity := by
  obtain ⟨m, hseeds, hsize⟩ := exists_seedsAll_size_le ha
  have hm : m.arena.size ≤ sources.length := by simpa [Arena.size] using hseeds.size_le
  have hmax := Knobs.maxStates_le_of_validate hk
  have hroom : 50000000 < Arena.capacity := by decide
  omega

theorem run_full_of_halt (hs : s.rule.StaysIn s.graph)
    (ha : ∀ f, (run s sources).halt ≠ some (.fault f))
    (hb : ∀ n, s.budget.interruption? n = none) (hh : (run s sources).halt = some halt) :
    halt = .interrupted (.stateLimit s.knobs.maxStates) ∧
      (run s sources).progress.Full s sources := by
  obtain ⟨m, hseeds, hend⟩ := Stretch.leads_run (Outcome.answered ha) leads_outcome
  have hres : (run s sources).result = .error halt := by rw [Outcome.result, hh]
  rw [hres] at hend
  rcases hend with ⟨cause, hc, -⟩ | ⟨-, hexp⟩
  · rw [hb] at hc
    cases hc
  · exact hexp.full_of_error hseeds.ready hs hb

/-- A pass that its budget does not interrupt records all its sources, and beyond them no more
states than its limit. It is interrupted exactly if there is more to record. -/
theorem run_size_eq_min (hs : s.rule.StaysIn s.graph)
    (ha : ∀ f, (run s sources).halt ≠ some (.fault f))
    (hb : ∀ n, s.budget.interruption? n = none) :
    ((run s sources).progress.arena.size : ℕ∞) =
        min (s.reachable sources).encard (max (s.seeds sources).encard s.knobs.maxStates) ∧
      ((run s sources).interruption? = some (.stateLimit s.knobs.maxStates) ↔
        max (s.seeds sources).encard s.knobs.maxStates < (s.reachable sources).encard) ∧
      ((run s sources).progress.arena.size ≤ s.knobs.maxStates ↔
        (s.seeds sources).encard ≤ s.knobs.maxStates) := by
  obtain ⟨hsound, hseeded, hcomplete⟩ := run_sound (Outcome.answered ha)
  have hroom := run_size_le ha
  have hseeds := Setup.encard_seeds_le hsound hseeded
  have hlimit : (run s sources).progress.arena.size ≤ s.knobs.maxStates ↔
      (s.seeds sources).encard ≤ s.knobs.maxStates := by
    constructor
    · exact fun hle ↦ hseeds.trans (Nat.cast_le.mpr hle)
    · intro hle
      rw [max_eq_right hle] at hroom
      exact Nat.cast_le.mp hroom
  cases hh : (run s sources).halt with
  | none =>
    have hall := Setup.encard_reachable (hcomplete hh)
    have hnone : (run s sources).interruption? = none := by simp [Outcome.interruption?, hh]
    rw [hall, hnone]
    exact ⟨(min_eq_left hroom).symm, iff_of_false (by simp) hroom.not_gt, hlimit⟩
  | some halt =>
    obtain ⟨rfl, hfull⟩ := run_full_of_halt hs ha hb hh
    have hmore := hfull.lt_reachable hsound
    have hsize := le_antisymm hroom (max_le hseeds (Nat.cast_le.mpr hfull.size))
    have hstop : (run s sources).interruption? = some (.stateLimit s.knobs.maxStates) := by
      simp [Outcome.interruption?, hh]
    rw [← hsize]
    exact ⟨(min_eq_right hmore.le).symm, iff_of_true hstop hmore, hlimit⟩

def crampedSetup : Setup := meetingSetup.limited 1 .unlimited

theorem size_cramped : (run crampedSetup meetingSources).progress.arena.size = 2 := by cbv

theorem halt_cramped :
    (run crampedSetup meetingSources).halt = some (.interrupted (.stateLimit 1)) := by cbv

theorem staysIn_cramped : crampedSetup.rule.StaysIn crampedSetup.graph := by
  intro n m hm
  simp [crampedSetup, Setup.limited, meetingSetup, Rule.additionalSteps] at hm

/-- A pass can hold more states than its limit, as its sources are not counted against it. -/
theorem not_forall_size_le_maxStates : ¬ ∀ s sources, s.graph.program.validate = .ok () →
    s.knobs.validate = .ok () → s.rule.StaysIn s.graph →
    (∀ f, (run s sources).halt ≠ some (.fault f)) → (∀ n, s.budget.interruption? n = none) →
    ((run s sources).progress.arena.size : ℕ∞) =
        min (s.reachable sources).encard s.knobs.maxStates ∧
      ((run s sources).interruption? = some (.stateLimit s.knobs.maxStates) ↔
        s.knobs.maxStates < (s.reachable sources).encard) ∧
      (run s sources).progress.arena.size ≤ s.knobs.maxStates := by
  intro hsub
  have hv : crampedSetup.graph.program.validate = .ok () := by cbv
  have hk : crampedSetup.knobs.validate = .ok () := by cbv
  have ha : ∀ f, (run crampedSetup meetingSources).halt ≠ some (.fault f) := by
    simp [halt_cramped]
  obtain ⟨-, -, hle⟩ := hsub crampedSetup meetingSources hv hk staysIn_cramped ha fun _ ↦ rfl
  rw [size_cramped] at hle
  exact absurd hle (by decide)

/-- Both sources are recorded, and the sum of them is not. -/
theorem run_size_eq_min_cramped :
    crampedSetup.rule.StaysIn crampedSetup.graph ∧
      (∀ f, (run crampedSetup meetingSources).halt ≠ some (.fault f)) ∧
      (∀ n, crampedSetup.budget.interruption? n = none) ∧
      (run crampedSetup meetingSources).progress.arena.size = 2 ∧
      min (crampedSetup.reachable meetingSources).encard
        (max (crampedSetup.seeds meetingSources).encard 1) = 2 ∧
      max (crampedSetup.seeds meetingSources).encard 1 <
        (crampedSetup.reachable meetingSources).encard ∧
      ¬ (crampedSetup.seeds meetingSources).encard ≤ 1 := by
  have ha : ∀ f, (run crampedSetup meetingSources).halt ≠ some (.fault f) := by
    simp [halt_cramped]
  have hb : ∀ n, crampedSetup.budget.interruption? n = none := fun _ ↦ rfl
  have hstop : (run crampedSetup meetingSources).interruption? = some (.stateLimit 1) := by
    simp [Outcome.interruption?, halt_cramped]
  obtain ⟨hsize, hstops, hroom⟩ := run_size_eq_min staysIn_cramped ha hb
  rw [size_cramped] at hsize hroom
  refine ⟨staysIn_cramped, ha, hb, size_cramped, hsize.symm, hstops.mp hstop, fun hle ↦ ?_⟩
  exact absurd (hroom.mpr hle) (by decide)

end Pass

end TaintFlow
