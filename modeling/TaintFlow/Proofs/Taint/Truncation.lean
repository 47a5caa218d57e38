import TaintFlow.Proofs.Taint.Limits

namespace TaintFlow

namespace Pass

def Setup.withMaxFindings (s : Setup) (maxFindings : Nat) : Setup :=
  { s with knobs := { s.knobs with maxFindings } }

theorem run_withMaxFindings {s : Setup} {m : Nat} {sources : List FlowNode} :
    run (s.withMaxFindings m) sources = run s sources := run_withKnobs rfl rfl

end Pass

namespace Collection

/-- Findings have been added to `c`, and a finding too many is not forgotten. -/
structure Extends (c d : Collection) : Prop where
  findings : c.findings.toList <+: d.findings.toList
  truncated : c.truncated = true → d.truncated = true

theorem Extends.refl (c : Collection) : c.Extends c := ⟨List.prefix_rfl, id⟩

theorem Extends.trans {c d e : Collection} (h : c.Extends d) (h' : d.Extends e) : c.Extends e where
  findings := h.findings.trans h'.findings
  truncated := h'.truncated ∘ h.truncated

theorem Extends.size_le {c d : Collection} (h : c.Extends d) : c.findings.size ≤ d.findings.size :=
  h.findings.length_le

/-- What is left of a collection under the limit `m`: all of it if there was room, or else the first
`m` findings, when there are more or their own limit has been reached. -/
inductive Limited (m : Nat) : Collection → Collection → Prop
  | whole {c : Collection} (ht : c.truncated = false) (hm : c.findings.size ≤ m) : Limited m c c
  | part {c d : Collection} (ht : c.truncated = true) (hfault : c.fault = none)
      (hm : c.findings.size = m) (hf : c.findings.toList <+: d.findings.toList)
      (hmore : m < d.findings.size ∨ d.truncated = true) : Limited m c d

variable {s : Pass.Setup} {a : Arena} {hidden : ReachedSink → Except Fault Bool}
  {c d : Collection} {rs : List ReachedSink} {p : Pass.Progress} {m : Nat}

theorem extends_push {r : ReachedSink} : c.Extends { c with
    seen := c.seen.insert (r.source, r.sink, r.kind)
    findings := c.findings.push (finding s a r) } where
  findings := by simp
  truncated := id

theorem Adds.extends (h : Adds s a hidden c rs d) : c.Extends d := by
  induction h with
  | nil c => exact .refl c
  | fault => exact ⟨List.prefix_rfl, id⟩
  | full => exact ⟨List.prefix_rfl, fun _ ↦ rfl⟩
  | hidden _ _ ih => exact ⟨ih.findings, ih.truncated⟩
  | seen _ _ _ ih => exact ih
  | found _ _ _ _ ih => exact extends_push.trans ih

theorem Limited.extends {e : Collection} (h : Limited m c d) (ht : c.truncated = true)
    (he : d.Extends e) : Limited m c e := by
  cases h with
  | whole hnot => rw [hnot] at ht; cases ht
  | part ht hfault hm hf hmore =>
    refine .part ht hfault hm (hf.trans he.findings) ?_
    rcases hmore with hlt | hd
    · exact .inl (Nat.lt_of_lt_of_le hlt he.size_le)
    · exact .inr (he.truncated hd)

theorem Adds.limited (h : Adds s a hidden c rs d) (hm : m ≤ s.knobs.maxFindings)
    (ht : c.truncated = false) (hf : c.fault = none) (hc : c.findings.size ≤ m) :
    Limited m (addAll (s.withMaxFindings m) a hidden c rs) d := by
  induction h with
  | nil => exact .whole ht hc
  | fault hr =>
    rw [addAll_of_fault hr]
    exact .whole ht hc
  | hidden hr _ ih =>
    rw [addAll_of_hidden hr]
    exact ih ht hf hc
  | seen hr hseen _ ih =>
    rw [addAll_of_seen hr hseen]
    exact ih ht hf hc
  | full hr hnew hroom =>
    have hroom' := hm.trans hroom
    rw [addAll_of_full hr hnew hroom']
    exact .part rfl hf (Nat.le_antisymm hc hroom') List.prefix_rfl (.inr rfl)
  | @found c d r rest hr hnew hroom hrest ih =>
    rcases Nat.lt_or_ge c.findings.size m with hlt | hroom'
    · rw [addAll_of_found hr hnew hlt]
      exact ih ht hf (by simpa using hlt)
    · -- The lower limit is reached here, and there is room for one more under the higher.
      rw [addAll_of_full hr hnew hroom']
      refine .part rfl hf (Nat.le_antisymm hc hroom') (extends_push.trans hrest.extends).findings ?_
      refine .inl (Nat.lt_of_lt_of_le ?_ hrest.extends.size_le)
      simpa using Nat.lt_succ_of_le hroom'

theorem Limited.fault_eq_none (h : Limited m c d) (hf : d.fault = none) : c.fault = none := by
  cases h with
  | whole => exact hf
  | part _ hfault => exact hfault

theorem Limited.eq_of_room (h : Limited m c d) (ht : c.truncated = false) :
    c = d ∧ c.findings.size ≤ m := by
  cases h with
  | whole _ hm => exact ⟨rfl, hm⟩
  | part hcut => rw [hcut] at ht; cases ht

theorem Limited.take_findings (h : Limited m c d) :
    c.findings.toList = d.findings.toList.take m := by
  cases h with
  | whole _ hm => exact (List.take_of_length_le hm).symm
  | part _ _ hm hf => rw [← hm]; exact List.prefix_iff_eq_take.mp hf

theorem Limited.truncated_eq_false_iff (h : Limited m c d) :
    c.truncated = false ↔ d.truncated = false ∧ d.findings.size ≤ m := by
  cases h with
  | whole ht hm => simp [ht, hm]
  | part ht _ _ _ hmore =>
    rw [ht]
    constructor
    · intro hcut
      cases hcut
    · rintro ⟨hd, hle⟩
      rcases hmore with hlt | hd'
      · exact absurd hle (Nat.not_le_of_lt hlt)
      · rw [hd] at hd'
        cases hd'

end Collection

namespace Engine

def withMaxFindings (e : Engine) (maxFindings : Nat) : Engine :=
  { e with knobs := { e.knobs with maxFindings } }

variable {e : Engine} {r : Rule} {s : Pass.Setup} {o : Pass.Outcome} {sources : List FlowNode}
  {lists : List (List FlowNode)} {t : Tally} {ev : Evaluation} {m : Nat}

theorem Tally.addPass_extends : t.collection.Extends (t.addPass s o).collection := by
  by_cases hc : o.Concludes
  · rw [addPass_of_concludes hc]
    exact Collection.adds_addAll.extends
  · rw [addPass_of_not_concludes hc]
    exact .refl _

theorem passes_extends : t.collection.Extends (e.passes r t lists).collection := by
  induction lists generalizing t with
  | nil => exact .refl _
  | cons sources rest ih =>
    rcases passes_cons_cases sources rest rfl rfl with ⟨-, he⟩ | ⟨-, he⟩
    · rw [he]
      exact Tally.addPass_extends
    · rw [he]
      exact Tally.addPass_extends.trans ih

theorem Tally.addPass_limited (hm : m ≤ s.knobs.maxFindings)
    (ht : t.collection.truncated = false) (hf : t.collection.fault = none)
    (hc : t.collection.findings.size ≤ m) (hh : (t.addPass s o).halt = none) :
    (t.addPass (s.withMaxFindings m) o).halt = none ∧
      Collection.Limited m (t.addPass (s.withMaxFindings m) o).collection
        (t.addPass s o).collection := by
  obtain ⟨hend, htold⟩ := halt_addPass_eq_none_iff.mp hh
  have hlimited : Collection.Limited m (t.collection.addPass (s.withMaxFindings m) o.progress)
      (t.collection.addPass s o.progress) := Collection.adds_addAll.limited hm ht hf hc
  rw [collection_addPass hend, collection_addPass hend, halt_addPass_eq_none_iff]
  exact ⟨⟨hend, hlimited.fault_eq_none htold⟩, hlimited⟩

/-- Up to the limit `m` the passes collect the same, and they stop where there is a finding more. -/
theorem passes_limited (hm : m ≤ e.knobs.maxFindings) (ht : t.collection.truncated = false)
    (hf : t.collection.fault = none) (hc : t.collection.findings.size ≤ m) (h0 : t.halt = none)
    (hh : (e.passes r t lists).halt = none) :
    ((e.withMaxFindings m).passes r t lists).halt = none ∧
      Collection.Limited m ((e.withMaxFindings m).passes r t lists).collection
        (e.passes r t lists).collection := by
  induction lists generalizing t with
  | nil => exact ⟨h0, .whole ht hc⟩
  | cons sources rest ih =>
    have hsetup : (e.withMaxFindings m).setup r t.stats.passes =
        (e.setup r t.stats.passes).withMaxFindings m := rfl
    generalize hs : e.setup r t.stats.passes = s at hsetup
    generalize ho : Pass.run s sources = o
    generalize hu : t.addPass s o = u
    generalize hv : t.addPass (s.withMaxFindings m) o = v
    have ho' : Pass.run (s.withMaxFindings m) sources = o := Pass.run_withMaxFindings.trans ho
    have hwhole := passes_cons_cases sources rest (hs ▸ ho) (hs ▸ hu)
    have hhalt : u.halt = none := by
      rcases hwhole with ⟨-, he⟩ | ⟨⟨hn, -⟩, -⟩
      · exact he ▸ hh
      · exact hn
    obtain ⟨hhalt', hlimited⟩ : v.halt = none ∧ Collection.Limited m v.collection u.collection := by
      subst hu hv hs
      exact Tally.addPass_limited hm ht hf hc hhalt
    rw [passes_cons sources rest (hsetup ▸ ho') (hsetup ▸ hv), hhalt']
    cases hcut : v.collection.truncated with
    | true =>
      -- The passes under the lower limit end here, whether or not the others go on.
      refine ⟨hhalt', ?_⟩
      rcases hwhole with ⟨-, he⟩ | ⟨-, he⟩
      · rw [he]
        exact hlimited
      · rw [he]
        exact hlimited.extends hcut passes_extends
    | false =>
      obtain ⟨hsame, hsize⟩ := hlimited.eq_of_room hcut
      obtain ⟨hend, htold⟩ := Tally.halt_addPass_eq_none_iff.mp (hu ▸ hhalt)
      have htold' : u.collection.fault = none := by
        rw [← hu, Tally.collection_addPass hend]
        exact htold
      obtain rfl : v = u := by
        subst hu hv
        rw [Tally.collection_addPass hend, Tally.collection_addPass hend] at hsame
        rw [Tally.addPass_of_concludes (.inl hend), Tally.addPass_of_concludes (.inl hend), hsame]
      rcases hwhole with ⟨hstop, -⟩ | ⟨-, he⟩
      · simp [hhalt, hcut] at hstop
      · exact he ▸ ih hcut htold' hsize hhalt (he ▸ hh)

theorem conclude_of_halt_eq_none (h : t.halt = none) :
    e.conclude r sources t = .ok
      { rule := r.name, sources, findings := t.collection.findings.toList
        complete := !t.collection.truncated, interruption := none
        stats := { t.stats with
          sources := sources.length, suppressed := t.collection.suppressed } } := by
  simp only [conclude, h]

theorem halt_eq_none_of_conclude (h : e.conclude r sources t = .ok ev)
    (hi : ev.interruption = none) : t.halt = none := by
  unfold conclude at h
  dsimp only at h
  split at h
  · next hn => exact hn
  · split at h <;> cases h
    cases hi
  · cases h
  · cases h

/-- An evaluation that is not interrupted finds the first `m` findings under the limit `m`, too, and
there it is complete unless there are more. -/
theorem evaluate_withMaxFindings (h : e.evaluate r = .ok ev) (hi : ev.interruption = none)
    (hm : m ≤ e.knobs.maxFindings) :
    ∃ part, (e.withMaxFindings m).evaluate r = .ok part ∧ part.interruption = none ∧
      part.findings = ev.findings.take m ∧
      (part.complete = true ↔ ev.complete = true ∧ ev.findings.length ≤ m) := by
  obtain ⟨sources, hs, hok⟩ := evaluate_eq_ok h
  have hhalt := halt_eq_none_of_conclude hok hi
  have hs' : (e.withMaxFindings m).sources r = .ok sources := hs
  have hlists : (e.withMaxFindings m).sourceLists sources = e.sourceLists sources := rfl
  have hempty : ({} : Collection).findings.size ≤ m := Nat.zero_le m
  obtain ⟨hhalt', hlimited⟩ :=
    passes_limited (t := {}) hm rfl rfl hempty rfl hhalt
  rw [conclude_of_halt_eq_none hhalt] at hok
  cases hok
  rw [evaluate_of_sources hs', hlists, conclude_of_halt_eq_none hhalt']
  refine ⟨_, rfl, rfl, hlimited.take_findings, ?_⟩
  simpa using hlimited.truncated_eq_false_iff

/-- The second secret is logged, which is hidden, and sent, for which there is no room. -/
theorem evaluate_withMaxFindings_negating :
    negatingEngine.evaluate negatingRule = .ok negatingEvaluation ∧
      negatingEvaluation.interruption = none ∧ 1 ≤ negatingEngine.knobs.maxFindings ∧
      (∃ part, (negatingEngine.withMaxFindings 1).evaluate negatingRule = .ok part ∧
        part.interruption = none ∧ part.complete = false ∧
        part.findings = [negatingFinding ⟨0⟩ ⟨2⟩ .logging [⟨2⟩]]) ∧
      ∃ part, (negatingEngine.withMaxFindings 2).evaluate negatingRule = .ok part ∧
        part.complete = true ∧ part.findings = negatingEvaluation.findings := by
  have h := evaluate_negating.1
  have h1 : 1 ≤ negatingEngine.knobs.maxFindings := by decide
  have h2 : 2 ≤ negatingEngine.knobs.maxFindings := by decide
  obtain ⟨short, hshort, hnone, hfirst, hcut⟩ := evaluate_withMaxFindings h rfl h1
  obtain ⟨part, hpart, -, hall, hroom⟩ := evaluate_withMaxFindings h rfl h2
  refine ⟨h, rfl, h1, ⟨short, hshort, hnone, ?_, hfirst⟩, part, hpart, ?_, hall⟩
  · rw [← Bool.not_eq_true, hcut]
    decide
  · rw [hroom]
    decide

end Engine

end TaintFlow
