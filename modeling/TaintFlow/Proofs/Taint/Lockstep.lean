import TaintFlow.Proofs.Taint.Growth
import TaintFlow.Proofs.Taint.Sensitivity

namespace TaintFlow

namespace Pass

variable {α β : Type} {s : Setup} {p q m : Progress}

namespace Stretch

theorem Leads.unique {x : Stretch α} {res res' : Except Halt α} {q' : Progress}
    (h : Leads x p res q) (h' : Leads x p res' q') : res = res' ∧ q = q' := by
  have he := h.symm.trans h'
  cases he
  exact ⟨rfl, rfl⟩

/-- How two stretches may end that keep in step: in the same way, unless the first is interrupted
for a cause in `P` or the second for one in `Q`. What that one has recorded, the other has recorded
before anything else. -/
inductive Abreast (P Q : Interruption → Prop) :
    Except Halt α → Progress → Except Halt α → Progress → Prop
  | same {res : Except Halt α} {q : Progress} : Abreast P Q res q res q
  | first {cause : Interruption} {res' : Except Halt α} {q q' : Progress} (hP : P cause)
      (hle : q.Precedes q') : Abreast P Q (.error (.interrupted cause)) q res' q'
  | second {cause : Interruption} {res : Except Halt α} {q q' : Progress} (hQ : Q cause)
      (hle : q'.Precedes q) : Abreast P Q res q (.error (.interrupted cause)) q'

def Lockstep (P Q : Interruption → Prop) (x x' : Stretch α) : Prop :=
  ∀ p res q res' q', Leads x p res q → Leads x' p res' q' → Abreast P Q res q res' q'

namespace Lockstep

variable {P Q : Interruption → Prop} {x x' : Stretch α} {f f' : α → Stretch β}

theorem self (x : Stretch α) : Lockstep P Q x x := by
  intro p res q res' q' h h'
  obtain ⟨rfl, rfl⟩ := h.unique h'
  exact .same

theorem throw_left {cause : Interruption} (hP : P cause) (hg : Grows x') :
    Lockstep P Q (throw (.interrupted cause)) x' := by
  intro p res q res' q' h h'
  obtain ⟨rfl, rfl⟩ := leads_throw.mp h
  exact .first hP (hg _ _ _ h')

theorem throw_right {cause : Interruption} (hQ : Q cause) (hg : Grows x) :
    Lockstep P Q x (throw (.interrupted cause)) := by
  intro p res q res' q' h h'
  obtain ⟨rfl, rfl⟩ := leads_throw.mp h'
  exact .second hQ (hg _ _ _ h)

theorem get_bind {g g' : Progress → Stretch α} (hg : ∀ p, Lockstep P Q (g p) (g' p)) :
    Lockstep P Q (get >>= g) (get >>= g') :=
  fun p _ _ _ _ h h' ↦ hg p p _ _ _ _ (leads_get_bind.mp h) (leads_get_bind.mp h')

theorem after (x : Stretch α) (hf : ∀ a, Lockstep P Q (f a) (f' a)) :
    Lockstep P Q (x >>= f) (x >>= f') := by
  intro p res q res' q' h h'
  rcases leads_bind.mp h with ⟨a, m, hm, hrest⟩ | ⟨halt, hm, rfl⟩ <;>
    rcases leads_bind.mp h' with ⟨a', m', hm', hrest'⟩ | ⟨halt', hm', rfl⟩ <;>
    obtain ⟨he, rfl⟩ := hm.unique hm' <;> cases he
  · exact hf a _ _ _ _ _ hrest hrest'
  · exact .same

theorem bind (hx : Lockstep P Q x x') (hf : ∀ a, Lockstep P Q (f a) (f' a))
    (hg : ∀ a, Grows (f a)) (hg' : ∀ a, Grows (f' a)) : Lockstep P Q (x >>= f) (x' >>= f') := by
  intro p res q res' q' h h'
  rcases leads_bind.mp h with ⟨a, m, hm, hrest⟩ | ⟨halt, hm, rfl⟩ <;>
    rcases leads_bind.mp h' with ⟨a', m', hm', hrest'⟩ | ⟨halt', hm', rfl⟩
  · cases hx _ _ _ _ _ hm hm' with
    | same => exact hf a _ _ _ _ _ hrest hrest'
  · cases hx _ _ _ _ _ hm hm' with
    | second hQ hle => exact .second hQ (hle.trans (hg a _ _ _ hrest))
  · cases hx _ _ _ _ _ hm hm' with
    | first hP hle => exact .first hP (hle.trans (hg' a' _ _ _ hrest'))
  · cases hx _ _ _ _ _ hm hm' with
    | same => exact .same
    | first hP hle => exact .first hP hle
    | second hQ hle => exact .second hQ hle

end Lockstep

end Stretch

def Setup.limited (s : Setup) (maxStates : Nat) (budget : Budget) : Setup :=
  { s with knobs := { s.knobs with maxStates }, budget }

/-- Where only `s.limited limit b` is interrupted, the cause is in `P`, and where only `s` is, it is
in `Q`. -/
structure Setup.Differs (s : Setup) (limit : Nat) (b : Budget) (P Q : Interruption → Prop) :
    Prop where
  reached : P (.stateLimit limit)
  exceeded : s.knobs.maxStates < limit → Q (.stateLimit s.knobs.maxStates)
  limited : ∀ n cause, b.interruption? n = some cause →
    s.budget.interruption? n = some cause ∨ P cause
  full : ∀ n cause, s.budget.interruption? n = some cause →
    b.interruption? n = some cause ∨ Q cause

namespace Stretch

variable {limit : Nat} {b : Budget} {P Q : Interruption → Prop} {id : StateId} {key : TaintKey}

theorem lockstep_check {n : Nat} (hd : s.Differs limit b P Q) :
    Lockstep P Q (check (s.limited limit b) n) (check s n) := by
  have hb : (s.limited limit b).budget = b := rfl
  unfold check
  rw [hb]
  cases hl : b.interruption? n with
  | none =>
    cases hf : s.budget.interruption? n with
    | none => exact .self _
    | some cause =>
      have hQ : Q cause := by simpa [hl] using hd.full n cause hf
      exact .throw_right hQ within_pure
  | some cause =>
    rcases hd.limited n cause hl with hf | hP
    · rw [hf]
      exact .self _
    · refine .throw_left hP ?_
      split
      · exact within_throw
      · exact within_pure

theorem lockstep_limit {n : Nat} {x : Stretch Unit} {f f' : Unit → Stretch Unit}
    (hd : s.Differs limit b P Q) (hg : Grows x) :
    Lockstep P Q (if limit ≤ n then throw (.interrupted (.stateLimit limit)) >>= f else x)
      (if s.knobs.maxStates ≤ n then
        throw (.interrupted (.stateLimit s.knobs.maxStates)) >>= f' else x) := by
  by_cases hl : limit ≤ n
  · rw [if_pos hl]
    refine .throw_left hd.reached ?_
    split
    · exact within_throw_bind
    · exact hg
  · rw [if_neg hl]
    by_cases hf : s.knobs.maxStates ≤ n
    · rw [if_pos hf]
      exact .throw_right (hd.exceeded (by omega)) hg
    · rw [if_neg hf]
      exact .self _

theorem lockstep_take {edge : FlowEdge} (hd : s.Differs limit b P Q) :
    Lockstep P Q (take (s.limited limit b) id key edge) (take s id key edge) := by
  refine .after _ fun _ ↦ ?_
  have ht : (s.limited limit b).knobs.transfer (s.limited limit b).graph key edge.target edge.kind =
    s.knobs.transfer s.graph key edge.target edge.kind := rfl
  rw [ht]
  cases s.knobs.transfer s.graph key edge.target edge.kind with
  | none => exact .self _
  | some next =>
    refine .get_bind fun p ↦ ?_
    cases p.visited.contains next with
    | true => exact .self _
    | false =>
      refine .after (isBlocked s edge.target) fun blocked ↦ ?_
      cases blocked with
      | true => exact .self _
      | false =>
        refine .get_bind fun p ↦ lockstep_limit hd ?_
        split
        · exact stays_record.grows
        · exact within_pure

theorem lockstep_takeStep {target : FlowNode} (hd : s.Differs limit b P Q) :
    Lockstep P Q (takeStep (s.limited limit b) id key target) (takeStep s id key target) := by
  unfold takeStep
  have hc : (s.limited limit b).graph.contains target = s.graph.contains target := rfl
  rw [hc]
  cases s.graph.contains target with
  | true => exact lockstep_take hd
  | false => exact .self _

theorem lockstep_forM {moves : List β} {f f' : β → Stretch Unit}
    (hf : ∀ move, Lockstep P Q (f move) (f' move)) (hg : ∀ move, Grows (f move))
    (hg' : ∀ move, Grows (f' move)) : Lockstep P Q (moves.forM f) (moves.forM f') := by
  induction moves with
  | nil => exact .self _
  | cons move rest ih =>
    exact (hf move).bind (fun _ ↦ ih) (fun _ ↦ within_forM hg) fun _ ↦ within_forM hg'

theorem lockstep_expand (hd : s.Differs limit b P Q) :
    Lockstep P Q (expand (s.limited limit b) id key) (expand s id key) := by
  refine .after _ fun _ ↦ ?_
  have hgraph : (s.limited limit b).graph = s.graph := rfl
  have hrule : (s.limited limit b).rule = s.rule := rfl
  rw [hgraph, hrule]
  refine .bind (lockstep_forM (fun _ ↦ lockstep_take hd) (fun _ ↦ stays_take.grows)
    fun _ ↦ stays_take.grows) (fun _ ↦ .after _ fun _ ↦ ?_) (fun _ ↦ ?_) fun _ ↦ ?_
  · exact lockstep_forM (fun _ ↦ lockstep_takeStep hd) (fun _ ↦ stays_takeStep.grows)
      fun _ ↦ stays_takeStep.grows
  · exact within_ask.bind fun _ ↦ within_forM fun _ ↦ stays_takeStep.grows
  · exact within_ask.bind fun _ ↦ within_forM fun _ ↦ stays_takeStep.grows

theorem lockstep_expandAll {fuel : Nat} (hd : s.Differs limit b P Q) :
    Lockstep P Q (expandAll (s.limited limit b) fuel) (expandAll s fuel) := by
  induction fuel with
  | zero => exact .self _
  | succ fuel ih =>
    rw [expandAll_succ, expandAll_succ]
    refine .get_bind fun p ↦ ?_
    dsimp only
    split
    · split
      · exact (lockstep_check hd).bind (fun _ ↦ (lockstep_expand hd).bind (fun _ ↦ ih)
          (fun _ ↦ grows_expandAll) fun _ ↦ grows_expandAll)
          (fun _ ↦ grows_expand.bind fun _ ↦ grows_expandAll)
          fun _ ↦ grows_expand.bind fun _ ↦ grows_expandAll
      · exact (lockstep_expand hd).bind (fun _ ↦ ih) (fun _ ↦ grows_expandAll)
          fun _ ↦ grows_expandAll
    · exact .self _

theorem Leads.bind_of {x : Stretch α} {f g : α → Stretch β} {res : Except Halt β}
    (h : Leads (x >>= f) p res q)
    (hg : ∀ a m, Leads x p (.ok a) m → Leads (f a) m res q → Leads (g a) m res q) :
    Leads (x >>= g) p res q := by
  rcases leads_bind.mp h with ⟨a, m, hm, hrest⟩ | hhalt
  · exact leads_bind.mpr (.inl ⟨a, m, hm, hg a m hm hrest⟩)
  · exact leads_bind.mpr (.inr hhalt)

theorem Leads.eq_of_check {n : Nat} (h : Leads (check s n) p (.ok ()) q) : q = p := by
  unfold check at h
  split at h
  · cases (leads_throw.mp h).1
  · exact (leads_pure.mp h).2

/-- More fuel than there can be states to expand changes nothing. -/
theorem leads_expandAll_of_le {bound fuel fuel' : Nat} {res : Except Halt Unit}
    (hmax : s.knobs.maxStates ≤ bound) (hp : p.arena.size ≤ bound)
    (hfuel : bound ≤ p.expanded + fuel) (hle : fuel ≤ fuel')
    (h : Leads (expandAll s fuel) p res q) : Leads (expandAll s fuel') p res q := by
  induction fuel generalizing p fuel' with
  | zero =>
    have hnone : p.arena.get? ⟨p.expanded⟩ = none := Array.getElem?_eq_none (hp.trans hfuel)
    cases fuel' with
    | zero => exact h
    | succ fuel' =>
      simp only [expandAll_succ, leads_get_bind, hnone]
      exact h
  | succ fuel ih =>
    obtain ⟨fuel', rfl⟩ : ∃ n, fuel' = n + 1 := ⟨fuel' - 1, by omega⟩
    simp only [expandAll_succ, leads_get_bind] at h ⊢
    cases hx : p.arena.get? ⟨p.expanded⟩ with
    | none =>
      simp only [hx] at h
      exact h
    | some x =>
      have hnext (h : Leads (expand s ⟨p.expanded⟩ x.key >>= fun _ ↦ expandAll s fuel) p res q) :
          Leads (expand s ⟨p.expanded⟩ x.key >>= fun _ ↦ expandAll s fuel') p res q := by
        refine h.bind_of fun _ m hm hrest ↦ ?_
        have hall := leads_expand answered_ok hx hm
        have hm' : m.expanded = p.expanded + 1 := hall.expanded_eq
        exact ih (hall.size_le hmax hp) (by omega) (by omega) hrest
      simp only [hx] at h
      dsimp only
      split at h
      · next hmod =>
        rw [if_pos hmod]
        refine h.bind_of fun _ m hm hrest ↦ ?_
        obtain rfl := hm.eq_of_check
        exact hnext hrest
      · next hmod =>
        rw [if_neg hmod]
        exact hnext h

theorem leads_run_of_le {sources : List FlowNode} {fuel : Nat} {res : Except Halt Unit}
    (hfuel : Pass.fuel s sources ≤ fuel) (h : Leads (Stretch.run s sources) {} res q) :
    Leads (do sources.forM (seed s); check s 0; expandAll s fuel) {} res q := by
  rw [Stretch.run, start, bind_assoc] at h
  refine h.bind_of fun _ m hm hrest ↦ ?_
  refine Leads.bind_of hrest fun _ m' hm' hgo ↦ ?_
  obtain rfl := hm'.eq_of_check
  obtain ⟨-, hseeds⟩ := leads_seeds answered_ok hm
  have hsize : m'.arena.size ≤ sources.length := by simpa [Arena.size] using hseeds.size_le
  exact leads_expandAll_of_le (Nat.le_max_left _ _) (hsize.trans (Nat.le_max_right _ _))
    (Nat.le_add_left _ _) hfuel hgo

end Stretch

/-- Two passes that differ in their limits come to the same, unless one of them is interrupted. What
that one has recorded, the other one has recorded before anything else. -/
theorem run_lockstep {limit : Nat} {b : Budget} {P Q : Interruption → Prop}
    (hd : s.Differs limit b P Q) (sources : List FlowNode) :
    run (s.limited limit b) sources = run s sources ∨
      (∃ cause, P cause ∧ (run (s.limited limit b) sources).halt = some (.interrupted cause) ∧
        (run (s.limited limit b) sources).progress.Precedes (run s sources).progress) ∨
      ∃ cause, Q cause ∧ (run s sources).halt = some (.interrupted cause) ∧
        (run s sources).progress.Precedes (run (s.limited limit b) sources).progress := by
  -- With fuel for the larger of the two limits, both passes take the same stretches.
  obtain ⟨fuel, hl, hf⟩ : ∃ fuel, Pass.fuel (s.limited limit b) sources ≤ fuel ∧
    Pass.fuel s sources ≤ fuel := ⟨_, Nat.le_max_left _ _, Nat.le_max_right _ _⟩
  have hsteps : Stretch.Lockstep P Q
      (do sources.forM (Stretch.seed s); Stretch.check (s.limited limit b) 0
          Stretch.expandAll (s.limited limit b) fuel)
      (do sources.forM (Stretch.seed s); Stretch.check s 0; Stretch.expandAll s fuel) :=
    .after _ fun _ ↦ (Stretch.lockstep_check hd).bind (fun _ ↦ Stretch.lockstep_expandAll hd)
      (fun _ ↦ Stretch.grows_expandAll) fun _ ↦ Stretch.grows_expandAll
  have hlimited := Stretch.leads_run_of_le hl leads_outcome
  have hfull := Stretch.leads_run_of_le hf leads_outcome
  have hends := hsteps _ _ _ _ _ hlimited hfull
  generalize hres : (run (s.limited limit b) sources).result = res at hends
  generalize hres' : (run s sources).result = res' at hends
  generalize hq : (run (s.limited limit b) sources).progress = q at hends ⊢
  generalize hq' : (run s sources).progress = q' at hends ⊢
  cases hends with
  | same => exact .inl (Outcome.eq_of_result (hres.trans hres'.symm) (hq.trans hq'.symm))
  | first hP hle => exact .inr (.inl ⟨_, hP, Outcome.halt_of_result hres, hle⟩)
  | second hQ hle => exact .inr (.inr ⟨_, hQ, Outcome.halt_of_result hres', hle⟩)

/-- Under a smaller limit of states a pass that concludes concludes too. It records the first of the
states and the sinks, and if it does not come to the same then because of its limit. -/
theorem run_limited_prefix {limit : Nat} {b : Budget} {sources : List FlowNode}
    (hmax : limit ≤ s.knobs.maxStates)
    (hb : ∀ n, b.interruption? n = s.budget.interruption? n)
    (hc : (run s sources).Concludes) :
    (run (s.limited limit b) sources).Concludes ∧
      (run (s.limited limit b) sources).progress.Precedes (run s sources).progress ∧
      (run (s.limited limit b) sources = run s sources ∨
        (run (s.limited limit b) sources).halt = some (.interrupted (.stateLimit limit))) := by
  have hd : s.Differs limit b (· = .stateLimit limit) (fun _ ↦ False) := by
    refine ⟨rfl, fun hlt ↦ absurd hlt (Nat.not_lt.mpr hmax), ?_, ?_⟩
    · exact fun n cause h ↦ .inl ((hb n).symm.trans h)
    · exact fun n cause h ↦ .inl ((hb n).trans h)
  rcases run_lockstep hd sources with he | ⟨cause, rfl, hhalt, hle⟩ | ⟨cause, hnever, -⟩
  · rw [he]
    exact ⟨hc, .rfl, .inl rfl⟩
  · exact ⟨.inr ⟨_, hhalt⟩, hle, .inr hhalt⟩
  · exact hnever.elim

/-- With room for nine states the pass is interrupted before it comes to the second sink. -/
theorem run_limited_prefix_relay :
    9 ≤ bluntRelaySetup.knobs.maxStates ∧
      (∀ n, Budget.unlimited.interruption? n = bluntRelaySetup.budget.interruption? n) ∧
      (run bluntRelaySetup relaySources).Concludes ∧
      (run (bluntRelaySetup.limited 9 .unlimited) relaySources).halt =
        some (.interrupted (.stateLimit 9)) ∧
      (run (bluntRelaySetup.limited 9 .unlimited) relaySources).progress.Precedes
        (run bluntRelaySetup relaySources).progress ∧
      (run (bluntRelaySetup.limited 9 .unlimited) relaySources).progress.reached.toList.map
        (·.sink) = [.expr ⟨9⟩] ∧
      (run bluntRelaySetup relaySources).progress.reached.toList.map (·.sink) =
        [.expr ⟨9⟩, .expr ⟨6⟩] := by
  have hn : (run bluntRelaySetup relaySources).halt = none := by cbv
  have hc : (run bluntRelaySetup relaySources).Concludes := .inl hn
  have hmax : 9 ≤ bluntRelaySetup.knobs.maxStates := by decide
  have hb : ∀ n, Budget.unlimited.interruption? n = bluntRelaySetup.budget.interruption? n :=
    fun _ ↦ rfl
  obtain ⟨-, hle, -⟩ := run_limited_prefix hmax hb hc
  exact ⟨hmax, hb, hc, by cbv, hle, by cbv, by cbv⟩

end Pass

end TaintFlow
