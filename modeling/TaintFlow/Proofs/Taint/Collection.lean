import TaintFlow.Proofs.Taint.Course
import TaintFlow.Proofs.Taint.Queries

namespace TaintFlow

def Finding.pair (f : Finding) : FlowPair := (f.source, f.sink, f.sinkKind)

def ReachedSink.pair (r : ReachedSink) : FlowPair := (r.source, r.sink, r.kind)

/-- The sink is among those reached, and no kind reached from its root hides its kind. -/
def Pass.Progress.Shows (p : Pass.Progress) (r : Rule) (reached : ReachedSink) : Prop :=
  reached ∈ p.reached.toList ∧
    ∀ other ∈ p.reached.toList, other.root = reached.root →
      r.suppresses other.kind reached.kind = false

namespace Collection

variable {s : Pass.Setup} {p : Pass.Progress} {a : Arena}
  {hidden : ReachedSink → Except Fault Bool} {c : Collection} {rs : List ReachedSink}
  {r : ReachedSink} {pair : FlowPair}

theorem pair_finding : (finding s a r).pair = r.pair := by
  cases h : s.graph.pathTo a s.knobs.validatePaths r.state with
  | ok path => rw [finding_of_ok h, Finding.pair, ReachedSink.pair]
  | error broken => rw [finding_of_error h, Finding.pair, ReachedSink.pair]

def pairs (c : Collection) : List FlowPair := c.findings.toList.map Finding.pair

/-- Nothing was left out for want of room. -/
structure Exact (c : Collection) : Prop where
  seen : ∀ pair, c.seen.contains pair = true ↔ pair ∈ c.pairs
  nodup : c.pairs.Nodup

theorem Exact.empty : Exact {} where
  seen := by simp [pairs]
  nodup := by simp [pairs]

theorem pairs_push {seen : Std.HashSet FlowPair} :
    pairs { c with seen, findings := c.findings.push (finding s a r) } = c.pairs ++ [r.pair] := by
  simp [pairs, pair_finding]

theorem Exact.push (h : c.Exact) (hr : c.seen.contains r.pair = false) :
    Exact { c with
      seen := c.seen.insert r.pair
      findings := c.findings.push (finding s a r) } where
  seen pair := by
    rw [pairs_push, List.mem_append, List.mem_singleton, Std.HashSet.contains_insert,
      Bool.or_eq_true, beq_iff_eq, h.seen, or_comm, eq_comm (a := pair)]
  nodup := by
    have hnew : r.pair ∉ c.pairs := fun hm ↦ by
      rw [(h.seen _).mpr hm] at hr
      cases hr
    rw [pairs_push]
    refine List.nodup_append.mpr ⟨h.nodup, by simp, fun x hx y hy hxy ↦ hnew ?_⟩
    rw [List.mem_singleton.mp hy] at hxy
    exact hxy ▸ hx

section

variable {rest : List ReachedSink}

theorem addAll_of_seen (h : hidden r = .ok false) (hseen : c.seen.contains r.pair = true) :
    addAll s a hidden c (r :: rest) = addAll s a hidden c rest := by
  rw [addAll_of_shown h, if_pos (by exact hseen)]

theorem addAll_of_full (h : hidden r = .ok false) (hnew : c.seen.contains r.pair = false)
    (hroom : s.knobs.maxFindings ≤ c.findings.size) : addAll s a hidden c (r :: rest) =
      { c with seen := c.seen.insert r.pair, truncated := true } := by
  rw [addAll_of_shown h, if_neg (by exact Bool.eq_false_iff.mp hnew), if_pos hroom]
  rfl

theorem addAll_of_found (h : hidden r = .ok false) (hnew : c.seen.contains r.pair = false)
    (hroom : c.findings.size < s.knobs.maxFindings) : addAll s a hidden c (r :: rest) =
      addAll s a hidden
        { c with
          seen := c.seen.insert r.pair
          findings := c.findings.push (finding s a r) } rest := by
  rw [addAll_of_shown h, if_neg (by exact Bool.eq_false_iff.mp hnew),
    if_neg (Nat.not_le_of_lt hroom)]
  rfl

end

/-- What becomes of a collection when sinks are added to it, one after the other. -/
inductive Adds (s : Pass.Setup) (a : Arena) (hidden : ReachedSink → Except Fault Bool) :
    Collection → List ReachedSink → Collection → Prop
  | nil (c : Collection) : Adds s a hidden c [] c
  | fault {c : Collection} {r : ReachedSink} {rest : List ReachedSink} {f : Fault}
      (h : hidden r = .error f) : Adds s a hidden c (r :: rest) { c with fault := some f }
  | hidden {c d : Collection} {r : ReachedSink} {rest : List ReachedSink}
      (h : hidden r = .ok true) :
      Adds s a hidden { c with suppressed := c.suppressed + 1 } rest d →
      Adds s a hidden c (r :: rest) d
  | seen {c d : Collection} {r : ReachedSink} {rest : List ReachedSink} (h : hidden r = .ok false)
      (hseen : c.seen.contains r.pair = true) :
      Adds s a hidden c rest d → Adds s a hidden c (r :: rest) d
  | full {c : Collection} {r : ReachedSink} {rest : List ReachedSink} (h : hidden r = .ok false)
      (hnew : c.seen.contains r.pair = false) (hroom : s.knobs.maxFindings ≤ c.findings.size) :
      Adds s a hidden c (r :: rest) { c with seen := c.seen.insert r.pair, truncated := true }
  | found {c d : Collection} {r : ReachedSink} {rest : List ReachedSink} (h : hidden r = .ok false)
      (hnew : c.seen.contains r.pair = false) (hroom : c.findings.size < s.knobs.maxFindings) :
      Adds s a hidden
        { c with
          seen := c.seen.insert r.pair
          findings := c.findings.push (finding s a r) } rest d →
      Adds s a hidden c (r :: rest) d

theorem adds_addAll : Adds s a hidden c rs (addAll s a hidden c rs) := by
  induction rs generalizing c with
  | nil => exact .nil c
  | cons r rest ih =>
    cases hr : hidden r with
    | error f =>
      rw [addAll_of_fault hr]
      exact .fault hr
    | ok b =>
      cases b with
      | true =>
        rw [addAll_of_hidden hr]
        exact .hidden hr ih
      | false =>
        cases hseen : c.seen.contains r.pair with
        | true =>
          rw [addAll_of_seen hr hseen]
          exact .seen hr hseen ih
        | false =>
          rcases Nat.lt_or_ge c.findings.size s.knobs.maxFindings with hroom | hroom
          · rw [addAll_of_found hr hseen hroom]
            exact .found hr hseen hroom ih
          · rw [addAll_of_full hr hseen hroom]
            exact .full hr hseen hroom

/-- Unless there is a finding too many or the rule broke off, the pairs added are those of the sinks
not hidden, and the rule has told of each sink whether it is. -/
theorem Adds.exact {d : Collection} (had : Adds s a hidden c rs d) (h : c.Exact)
    (ht : d.truncated = false) (hf : d.fault = none) :
    d.Exact ∧ (∀ r ∈ rs, ∃ b, hidden r = .ok b) ∧
      ∀ pair, pair ∈ d.pairs ↔
        pair ∈ c.pairs ∨ ∃ r ∈ rs, hidden r = .ok false ∧ r.pair = pair := by
  induction had with
  | nil => exact ⟨h, by simp, by simp⟩
  | fault => cases hf
  | full => cases ht
  | hidden hr _ ih =>
    obtain ⟨hexact, htold, hmem⟩ := ih ⟨h.seen, h.nodup⟩ ht hf
    refine ⟨hexact, by simpa [hr] using htold, fun pair ↦ (hmem pair).trans ?_⟩
    simp [pairs, hr]
  | @seen c d r rest hr hseen _ ih =>
    obtain ⟨hexact, htold, hmem⟩ := ih h ht hf
    have hold : r.pair ∈ c.pairs := (h.seen _).mp hseen
    refine ⟨hexact, by simpa [hr] using htold, fun pair ↦ (hmem pair).trans ?_⟩
    simp only [List.mem_cons, exists_eq_or_imp, hr, true_and]
    refine ⟨Or.imp_right .inr, ?_⟩
    rintro (hc | rfl | hrest)
    · exact .inl hc
    · exact .inl hold
    · exact .inr hrest
  | @found c d r rest hr hnew _ _ ih =>
    obtain ⟨hexact, htold, hmem⟩ := ih (h.push hnew) ht hf
    refine ⟨hexact, by simpa [hr] using htold, fun pair ↦ (hmem pair).trans ?_⟩
    rw [pairs_push, List.mem_append, List.mem_singleton, or_assoc, eq_comm (a := pair)]
    simp [hr]

theorem addPass_exact (h : c.Exact) (ht : (c.addPass s p).truncated = false)
    (hf : (c.addPass s p).fault = none) :
    (c.addPass s p).Exact ∧ ∀ pair, pair ∈ (c.addPass s p).pairs ↔
      pair ∈ c.pairs ∨ ∃ r, p.Shows s.rule r ∧ r.pair = pair := by
  obtain ⟨hexact, htold, hmem⟩ := adds_addAll.exact h ht hf
  refine ⟨hexact, fun pair ↦ (hmem pair).trans (or_congr_right (exists_congr fun r ↦ ?_))⟩
  rw [Pass.Progress.Shows, and_assoc]
  refine and_congr_right fun hr ↦ and_congr_left fun _ ↦ ?_
  obtain ⟨b, hb⟩ := htold r hr
  have hany := Rule.any_of_hides hb
  rw [hb, Except.ok.injEq, ← hany]
  simp only [List.any_eq_false, Grouping.mem_get_ofList, List.mem_map, Prod.mk.injEq,
    Bool.not_eq_true]
  constructor
  · intro hall other ho hroot
    exact hall other.kind ⟨other, ho, hroot, rfl⟩
  · rintro hall _ ⟨other, ho, hroot, rfl⟩
    exact hall other ho hroot

theorem Adds.forall_mem {d : Collection} {P : Finding → Prop} (had : Adds s a hidden c rs d)
    (hc : ∀ f ∈ c.findings.toList, P f) (hr : ∀ r ∈ rs, P (finding s a r)) :
    ∀ f ∈ d.findings.toList, P f := by
  induction had with
  | nil => exact hc
  | fault => exact hc
  | full => exact hc
  | hidden _ _ ih => exact ih hc fun r hmem ↦ hr r (List.mem_cons_of_mem _ hmem)
  | seen _ _ _ ih => exact ih hc fun r hmem ↦ hr r (List.mem_cons_of_mem _ hmem)
  | found _ _ _ _ ih =>
    refine ih (fun f hf ↦ ?_) fun r hmem ↦ hr r (List.mem_cons_of_mem _ hmem)
    simp only [Array.toList_push, List.mem_append, List.mem_singleton] at hf
    rcases hf with hf | rfl
    · exact hc f hf
    · exact hr _ List.mem_cons_self

def mapFindings (f : Finding → Finding) (c : Collection) : Collection :=
  { c with findings := c.findings.map f }

theorem Adds.map {s' : Pass.Setup} {d : Collection} {f : Finding → Finding}
    (had : Adds s a hidden c rs d) (hm : s'.knobs.maxFindings = s.knobs.maxFindings)
    (hr : ∀ r ∈ rs, finding s' a r = f (finding s a r)) :
    addAll s' a hidden (c.mapFindings f) rs = d.mapFindings f := by
  induction had with
  | nil => rfl
  | fault h => exact addAll_of_fault h
  | hidden h _ ih =>
    rw [addAll_of_hidden h]
    exact ih fun r hmem ↦ hr r (List.mem_cons_of_mem _ hmem)
  | @seen c d r rest h hseen _ ih =>
    rw [addAll_of_seen (c := c.mapFindings f) h hseen]
    exact ih fun r hmem ↦ hr r (List.mem_cons_of_mem _ hmem)
  | @full c r rest h hnew hroom =>
    have hroom' : s'.knobs.maxFindings ≤ (c.mapFindings f).findings.size := by
      simpa [mapFindings, hm] using hroom
    exact addAll_of_full h hnew hroom'
  | @found c d r rest h hnew hroom _ ih =>
    have hroom' : (c.mapFindings f).findings.size < s'.knobs.maxFindings := by
      simpa [mapFindings, hm] using hroom
    have hrest := ih fun r hmem ↦ hr r (List.mem_cons_of_mem _ hmem)
    rw [addAll_of_found (c := c.mapFindings f) h hnew hroom', hr r List.mem_cons_self]
    simp only [mapFindings, Array.map_push] at hrest ⊢
    exact hrest

end Collection

namespace Engine

variable {e e' : Engine} {r : Rule} {t : Tally} {lists : List (List FlowNode)} {s : Pass.Setup}
  {o : Pass.Outcome}

theorem Tally.addPass_of_concludes (h : o.Concludes) : t.addPass s o = {
    collection := t.collection.addPass s o.progress
    stats := t.stats.addPass o.progress
    expanded := t.expanded ++ o.expandedNodes
    halt := ((t.collection.addPass s o.progress).fault.map .fault).or o.halt } := by
  unfold addPass addPassQuery
  rcases h with h | ⟨cause, h⟩ <;>
    · rw [h]
      simp only [Query.onGraph_bind, Query.onGraph_pure]
      rfl

theorem Tally.addPass_of_not_concludes (h : ¬ o.Concludes) : t.addPass s o = { t with
    stats := t.stats.addPass o.progress
    expanded := t.expanded ++ o.expandedNodes
    halt := o.halt } := by
  unfold addPass addPassQuery
  cases hh : o.halt with
  | none => exact absurd (.inl hh) h
  | some halt =>
    cases halt with
    | interrupted cause => exact absurd (.inr ⟨cause, hh⟩) h
    | foreignStep source target => rfl
    | fault f => rfl

theorem Tally.halt_addPass_eq_none_iff : (t.addPass s o).halt = none ↔
    o.halt = none ∧ (t.collection.addPass s o.progress).fault = none := by
  by_cases hc : o.Concludes
  · rw [addPass_of_concludes hc, Option.or_eq_none_iff, Option.map_eq_none_iff, and_comm]
  · rw [addPass_of_not_concludes hc]
    exact iff_of_false (fun h ↦ hc (.inl h)) fun h ↦ hc (.inl h.1)

theorem Tally.collection_addPass (h : o.halt = none) :
    (t.addPass s o).collection = t.collection.addPass s o.progress := by
  rw [addPass_of_concludes (.inl h)]

theorem passes_nil : e.passes r t [] = t := rfl

theorem passes_cons (sources : List FlowNode) (rest : List (List FlowNode)) {u : Tally}
    (ho : Pass.run (e.setup r t.stats.passes) sources = o)
    (hu : t.addPass (e.setup r t.stats.passes) o = u) : e.passes r t (sources :: rest) =
      if u.halt.isSome || u.collection.truncated then u else e.passes r u rest := by
  have hadd : (t.addPassQuery (e.setup r t.stats.passes)
      ((Pass.query (e.setup r t.stats.passes) sources).onGraph e.graph)).onGraph e.graph = u := by
    rw [← hu, ← ho]
    rfl
  simp only [passes, passesQuery, Query.onGraph_bind, hadd]
  cases u.halt.isSome || u.collection.truncated <;> rfl

theorem passes_cons_cases (sources : List FlowNode) (rest : List (List FlowNode)) {u : Tally}
    (ho : Pass.run (e.setup r t.stats.passes) sources = o)
    (hu : t.addPass (e.setup r t.stats.passes) o = u) :
    (u.halt.isSome = true ∨ u.collection.truncated = true) ∧
        e.passes r t (sources :: rest) = u ∨
      (u.halt = none ∧ u.collection.truncated = false) ∧
        e.passes r t (sources :: rest) = e.passes r u rest := by
  rw [passes_cons sources rest ho hu]
  split
  · next hstop => exact .inl ⟨by simpa using hstop, rfl⟩
  · next hgo => exact .inr ⟨by simpa using hgo, rfl⟩

/-- If every pass was run to its end and there was room for every finding, the pairs collected are
those that some pass shows. -/
theorem passes_exact {P : List FlowNode → FlowPair → Prop}
    (hP : ∀ i, ∀ sources ∈ lists, (Pass.run (e.setup r i) sources).halt = none → ∀ pair,
      (∃ reached, (Pass.run (e.setup r i) sources).progress.Shows r reached ∧
        reached.pair = pair) ↔ P sources pair)
    (h : t.collection.Exact) (hh : (e.passes r t lists).halt = none)
    (ht : (e.passes r t lists).collection.truncated = false) :
    (e.passes r t lists).collection.Exact ∧
      ∀ pair, pair ∈ (e.passes r t lists).collection.pairs ↔
        pair ∈ t.collection.pairs ∨ ∃ sources ∈ lists, P sources pair := by
  induction lists generalizing t with
  | nil => exact ⟨h, by simp [passes_nil]⟩
  | cons sources rest ih =>
    rcases passes_cons_cases sources rest rfl rfl with ⟨hstop, he⟩ | ⟨⟨hhalt, hroom⟩, he⟩
    · rw [he] at hh ht
      simp [hh, ht] at hstop
    · rw [he] at hh ht ⊢
      obtain ⟨hend, htold⟩ := Tally.halt_addPass_eq_none_iff.mp hhalt
      have hcollection := Tally.collection_addPass (t := t) (s := e.setup r t.stats.passes) hend
      obtain ⟨hexact, hmem⟩ := Collection.addPass_exact h (hcollection ▸ hroom) htold
      rw [← hcollection] at hexact hmem
      obtain ⟨hexact', hmem'⟩ :=
        ih (fun i l hl ↦ hP i l (List.mem_cons_of_mem _ hl)) hexact hh ht
      refine ⟨hexact', fun pair ↦ ?_⟩
      simp only [List.mem_cons, exists_eq_or_imp]
      rw [hmem', ← hP _ sources List.mem_cons_self hend pair, ← or_assoc]
      exact or_congr_left (hmem pair)

theorem Tally.forall_mem_addPass {P : Finding → Prop}
    (hP : (∀ f, o.halt ≠ some (.fault f)) → ∀ reached ∈ o.progress.reached.toList,
      P (Collection.finding s o.progress.arena reached))
    (ht : ∀ f ∈ t.collection.findings.toList, P f) :
    ∀ f ∈ (t.addPass s o).collection.findings.toList, P f := by
  by_cases hc : o.Concludes
  · rw [addPass_of_concludes hc]
    exact Collection.adds_addAll.forall_mem ht (hP hc.ne_fault)
  · rw [addPass_of_not_concludes hc]
    exact ht

theorem forall_mem_passes {P : Finding → Prop}
    (hP : ∀ i, ∀ sources ∈ lists, (∀ f, (Pass.run (e.setup r i) sources).halt ≠ some (.fault f)) →
      ∀ reached ∈ (Pass.run (e.setup r i) sources).progress.reached.toList,
        P (Collection.finding (e.setup r i)
          (Pass.run (e.setup r i) sources).progress.arena reached))
    (ht : ∀ f ∈ t.collection.findings.toList, P f) :
    ∀ f ∈ (e.passes r t lists).collection.findings.toList, P f := by
  induction lists generalizing t with
  | nil => exact ht
  | cons sources rest ih =>
    have hadd := Tally.forall_mem_addPass (hP t.stats.passes sources List.mem_cons_self) ht
    rcases passes_cons_cases sources rest rfl rfl with ⟨-, he⟩ | ⟨-, he⟩
    · rw [he]
      exact hadd
    · rw [he]
      exact ih (fun i l hl ↦ hP i l (List.mem_cons_of_mem _ hl)) hadd

def Tally.mapFindings (f : Finding → Finding) (t : Tally) : Tally :=
  { t with collection := t.collection.mapFindings f }

theorem Tally.addPass_mapFindings {s' : Pass.Setup} {f : Finding → Finding}
    (hgraph : s'.graph = s.graph) (hrule : s'.rule = s.rule)
    (hmax : s'.knobs.maxFindings = s.knobs.maxFindings)
    (hfinding : (∀ fault, o.halt ≠ some (.fault fault)) →
      ∀ reached ∈ o.progress.reached.toList, Collection.finding s' o.progress.arena reached =
        f (Collection.finding s o.progress.arena reached)) :
    (t.mapFindings f).addPass s' o = (t.addPass s o).mapFindings f := by
  by_cases hc : o.Concludes
  · have hadd : (t.collection.mapFindings f).addPass s' o.progress =
        (t.collection.addPass s o.progress).mapFindings f := by
      rw [Collection.addPass_eq, Collection.addPass_eq, hgraph, hrule,
        Collection.adds_addAll.map hmax (hfinding hc.ne_fault)]
    rw [addPass_of_concludes hc, addPass_of_concludes hc]
    simp only [mapFindings, hadd]
    rfl
  · rw [addPass_of_not_concludes hc, addPass_of_not_concludes hc]
    rfl

theorem passes_mapFindings {f : Finding → Finding} (hgraph : e'.graph = e.graph)
    (hrun : ∀ i sources, Pass.run (e'.setup r i) sources = Pass.run (e.setup r i) sources)
    (hmax : e'.knobs.maxFindings = e.knobs.maxFindings)
    (hfinding : ∀ i, ∀ sources ∈ lists,
      (∀ fault, (Pass.run (e.setup r i) sources).halt ≠ some (.fault fault)) →
      ∀ reached ∈ (Pass.run (e.setup r i) sources).progress.reached.toList,
        Collection.finding (e'.setup r i) (Pass.run (e.setup r i) sources).progress.arena reached =
          f (Collection.finding (e.setup r i) (Pass.run (e.setup r i) sources).progress.arena
            reached)) :
    e'.passes r (t.mapFindings f) lists = (e.passes r t lists).mapFindings f := by
  induction lists generalizing t with
  | nil => rfl
  | cons sources rest ih =>
    have hadd : (t.mapFindings f).addPass (e'.setup r t.stats.passes)
        (Pass.run (e.setup r t.stats.passes) sources) =
        (t.addPass (e.setup r t.stats.passes)
          (Pass.run (e.setup r t.stats.passes) sources)).mapFindings f :=
      Tally.addPass_mapFindings hgraph rfl hmax
        (hfinding t.stats.passes sources List.mem_cons_self)
    have hrest (u : Tally) := ih (t := u) fun i l hl ↦ hfinding i l (List.mem_cons_of_mem _ hl)
    generalize hu : t.addPass (e.setup r t.stats.passes)
      (Pass.run (e.setup r t.stats.passes) sources) = u at hadd
    have hpasses := passes_cons (e := e') (t := t.mapFindings f) sources rest (hrun _ _) hadd
    rw [hpasses, passes_cons sources rest rfl hu]
    by_cases hstop : (u.halt.isSome || u.collection.truncated) = true
    · rw [if_pos hstop]
      exact if_pos hstop
    · rw [if_neg hstop]
      exact (if_neg hstop).trans (hrest u)

theorem passes_congr (hgraph : e'.graph = e.graph)
    (hrun : ∀ i sources, Pass.run (e'.setup r i) sources = Pass.run (e.setup r i) sources)
    (hmax : e'.knobs.maxFindings = e.knobs.maxFindings)
    (hfinding : ∀ i, ∀ sources ∈ lists,
      (∀ f, (Pass.run (e.setup r i) sources).halt ≠ some (.fault f)) →
      ∀ reached ∈ (Pass.run (e.setup r i) sources).progress.reached.toList,
        Collection.finding (e'.setup r i) (Pass.run (e.setup r i) sources).progress.arena reached =
          Collection.finding (e.setup r i)
            (Pass.run (e.setup r i) sources).progress.arena reached) :
    e'.passes r t lists = e.passes r t lists := by
  have hid (u : Tally) : u.mapFindings id = u := by
    simp [Tally.mapFindings, Collection.mapFindings]
  have hsame := passes_mapFindings (t := t) (f := id) hgraph hrun hmax hfinding
  rwa [hid, hid] at hsame

section

variable {sources : List FlowNode} {ev : Evaluation}

theorem sources_eq_ok (h : e.sources r = .ok sources) :
    sources = e.graph.nodes.filter (r.isSource e.graph) := by
  unfold Engine.sources at h
  split at h <;> cases h
  rfl

theorem conclude_eq_ok (h : e.conclude r sources t = .ok ev) :
    ev.findings = t.collection.findings.toList ∧
      (t.halt = none ∨ ∃ cause, t.halt = some (.interrupted cause)) ∧
      (ev.complete = true → t.halt = none ∧ t.collection.truncated = false) := by
  unfold conclude at h
  dsimp only at h
  split at h
  · next hh =>
    cases h
    exact ⟨rfl, .inl hh, fun hc ↦ ⟨hh, by simpa using hc⟩⟩
  · next cause hh =>
    split at h <;> cases h
    exact ⟨rfl, .inr ⟨cause, hh⟩, fun hc ↦ by cases hc⟩
  · cases h
  · cases h

theorem run_of_fault {f : Fault} (hs : e.sources r = .error f) :
    e.run r = ⟨.error (.configuration r.name f.describe), []⟩ := by
  rw [Engine.run, query, hs]
  rfl

theorem run_of_sources (hs : e.sources r = .ok sources) :
    e.run r = ⟨e.conclude r sources (e.passes r {} (e.sourceLists sources)),
      (e.passes r {} (e.sourceLists sources)).expanded⟩ := by
  rw [Engine.run, query, hs]
  simp only [Query.onGraph_bind, Query.onGraph_pure]
  rfl

theorem evaluate_of_sources (hs : e.sources r = .ok sources) : e.evaluate r =
    e.conclude r sources (e.passes r {} (e.sourceLists sources)) := by
  rw [evaluate, run_of_sources hs]

theorem evaluate_eq_ok (h : e.evaluate r = .ok ev) : ∃ sources, e.sources r = .ok sources ∧
    e.conclude r sources (e.passes r {} (e.sourceLists sources)) = .ok ev := by
  cases hs : e.sources r with
  | error f => simp [evaluate, run_of_fault hs] at h
  | ok sources => exact ⟨sources, rfl, evaluate_of_sources hs ▸ h⟩

end

end Engine

end TaintFlow
