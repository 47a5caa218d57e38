import TaintFlow.Proofs.Taint.Collection
import TaintFlow.Proofs.Taint.Growth

namespace TaintFlow

def Arena.IsParent (a : Arena) (n : FlowNode) : Prop :=
  ∃ id x parent y, a.get? id = some x ∧ x.parent = some parent ∧ a.get? parent = some y ∧
    y.key.node = n

namespace FlowGraph

variable {g : FlowGraph} {a : Arena} {validate : Bool} {start id : StateId} {n m target : FlowNode}
  {path : List PathStep} {fuel : Nat}

theorem eq_of_mem_asked_hopQuery {kind : EdgeKind} (h : m ∈ (g.hopQuery n target kind).asked g) :
    m = n := by
  cases kind with
  | additionalStep => simp [hopQuery] at h
  | _ => simpa [hopQuery, Query.hasEdge] using h

theorem eq_of_mem_asked_checkQuery (h : m ∈ (g.checkQuery validate n path).asked g) :
    m = n ∧ path ≠ [] := by
  cases validate with
  | false => simp [checkQuery] at h
  | true =>
    rcases path with _ | ⟨⟨target, _ | kind⟩, path⟩
    · simp [checkQuery, intoQuery] at h
    · simp [checkQuery, intoQuery] at h
    · rw [checkQuery, if_pos rfl, intoQuery, Query.asked_bind, List.mem_append] at h
      rcases h with h | h
      · exact ⟨eq_of_mem_asked_hopQuery h, List.cons_ne_nil _ _⟩
      · split at h <;> simp at h

theorem isParent_of_mem_asked_pathBackQuery
    (hid : path ≠ [] → ∀ x, a.get? id = some x → a.IsParent x.key.node)
    (h : n ∈ (g.pathBackQuery a validate start fuel id path).asked g) : a.IsParent n := by
  induction fuel generalizing id path with
  | zero => simp [pathBackQuery] at h
  | succ fuel ih =>
    unfold pathBackQuery at h
    cases hx : a.get? id with
    | none => simp [hx] at h
    | some x =>
      simp only [hx] at h
      split at h
      · simp at h
      · rw [Query.asked_bind, List.mem_append] at h
        rcases h with h | h
        · obtain ⟨rfl, hpath⟩ := eq_of_mem_asked_checkQuery h
          exact hid hpath x hx
        · split at h
          · simp at h
          · cases hp : x.parent with
            | none => simp [hp] at h
            | some parent =>
              simp only [hp] at h
              exact ih (fun _ y hy ↦ ⟨id, x, parent, y, hx, hp, hy, rfl⟩) h

theorem isParent_of_mem_asked_pathQuery (h : n ∈ (g.pathQuery a validate id).asked g) :
    a.IsParent n :=
  isParent_of_mem_asked_pathBackQuery (fun hnil ↦ absurd rfl hnil) h

end FlowGraph

namespace Collection

variable {s : Pass.Setup} {a : Arena} {p : Pass.Progress} {c : Collection} {rs : List ReachedSink}
  {hidden : ReachedSink → Except Fault Bool} {n : FlowNode}

theorem isParent_of_mem_asked_findingQuery {r : ReachedSink}
    (h : n ∈ (findingQuery s a r).asked s.graph) : a.IsParent n := by
  rw [findingQuery, Query.asked_bind, List.mem_append] at h
  rcases h with h | h
  · exact FlowGraph.isParent_of_mem_asked_pathQuery h
  · simp at h

theorem isParent_of_mem_asked_addAllQuery (h : n ∈ (addAllQuery s a hidden c rs).asked s.graph) :
    a.IsParent n := by
  induction rs generalizing c with
  | nil => simp [addAllQuery] at h
  | cons r rest ih =>
    unfold addAllQuery at h
    split at h
    · simp at h
    · exact ih h
    · split at h
      · exact ih h
      · split at h
        · simp at h
        · rw [Query.asked_bind, List.mem_append] at h
          rcases h with h | h
          · exact isParent_of_mem_asked_findingQuery h
          · exact ih h

theorem isParent_of_mem_asked_addPassQuery (h : n ∈ (c.addPassQuery s p).asked s.graph) :
    p.arena.IsParent n :=
  isParent_of_mem_asked_addAllQuery h

end Collection

namespace Pass

variable {s : Setup} {sources : List FlowNode} {p q : Progress} {id : StateId} {source : TaintKey}
  {edge : FlowEdge} {edges : List FlowEdge} {res : Except Halt Unit} {n : FlowNode}

def Progress.takenUp (p : Progress) : List FlowNode :=
  (p.arena.states.toList.take p.expanded).map (·.key.node)

theorem Outcome.expandedNodes_eq {o : Outcome} : o.expandedNodes = o.progress.takenUp := by
  simp [expandedNodes, Progress.takenUp]

theorem Progress.mem_takenUp {parent : StateId} {x : PathState}
    (hx : p.arena.get? parent = some x) (h : parent.val < p.expanded) : x.key.node ∈ p.takenUp := by
  refine List.mem_map.mpr ⟨x, List.mem_iff_getElem?.mpr ⟨parent.val, ?_⟩, rfl⟩
  rw [List.getElem?_take_of_lt h, Array.getElem?_toList]
  exact hx

theorem Progress.takenUp_of_continues {x : PathState} (hx : p.arena.get? ⟨p.expanded⟩ = some x)
    (h : p.takeUp.Continues q) : q.takenUp = p.takenUp ++ [x.key.node] := by
  have hx' : p.arena.states.toList[p.expanded]? = some x := by
    rw [Array.getElem?_toList]
    exact hx
  have hnew : q.expanded = p.expanded + 1 := h.expanded
  have hstates : p.arena.states.toList <+: q.arena.states.toList := h.states
  rw [takenUp, takenUp, hnew, take_add_one_of_prefix hstates hx', List.map_append]
  rfl

theorem Stretch.leads_of_outcome {x : Stretch Unit} :
    Leads x p (x.outcome p).result (x.outcome p).progress := apply_eq

theorem Outcome.takenUp_append_asked {o : Outcome} {g : FlowGraph} {q : Query Outcome}
    (h : o.progress.takenUp ++ q.asked g = (q.onGraph g).progress.takenUp) :
    o.progress.takenUp ++ (if o.halt.isSome then return o else q : Query Outcome).asked g =
      ((if o.halt.isSome then return o else q : Query Outcome).onGraph g).progress.takenUp := by
  split
  · exact List.append_nil _
  · exact h

theorem takenUp_append_asked (fuel : Nat) : p.takenUp ++ (expandAllQuery s fuel p).asked s.graph =
    ((expandAllQuery s fuel p).onGraph s.graph).progress.takenUp := by
  induction fuel generalizing p with
  | zero => simp [expandAllQuery]
  | succ fuel ih =>
    unfold expandAllQuery
    cases hx : p.arena.get? ⟨p.expanded⟩ with
    | none => simp
    | some x =>
      cases hc : s.check? (p.expanded + 1) with
      | some cause => simp
      | none =>
        simp only [Query.asked_bind, Query.asked_successors, Query.onGraph_bind,
          Query.onGraph_successors, ← List.append_assoc]
        -- However the stretch ends, the state is taken up by then, and no other.
        have htaken := Progress.takenUp_of_continues hx
          (Stretch.continues_of_expandAlong (Stretch.leads_of_outcome (p := p)
            (x := Stretch.expandAlong s ⟨p.expanded⟩ x.key (s.graph.successors x.key.node))))
        rw [← htaken]
        exact Outcome.takenUp_append_asked ih

/-- A pass asks for the edges of the nodes that it has expanded, in order. -/
theorem asked_query : (query s sources).asked s.graph = (run s sources).expandedNodes := by
  have hstart : Progress.Continues {} ((Stretch.start s sources).outcome {}).progress :=
    Stretch.stays_start _ _ _ Stretch.leads_of_outcome
  have hexpanded : ((Stretch.start s sources).outcome {}).progress.expanded = 0 := hstart.expanded
  have hnone : ((Stretch.start s sources).outcome {}).progress.takenUp = [] := by
    rw [Progress.takenUp, hexpanded, List.take_zero, List.map_nil]
  have hall := Outcome.takenUp_append_asked
    (takenUp_append_asked (s := s) (p := ((Stretch.start s sources).outcome {}).progress)
      (fuel s sources))
  rw [Outcome.expandedNodes_eq]
  rwa [hnone, List.nil_append] at hall

/-- The parent of a state has been taken up. -/
def Progress.ParentsTakenUp (p : Progress) : Prop :=
  ∀ id x parent, p.arena.get? id = some x → x.parent = some parent → parent.val < p.expanded

theorem Taken.parentsTakenUp (h : Taken s id source edge p res q) (hid : id.val < p.expanded)
    (hp : p.ParentsTakenUp) : q.ParentsTakenUp := by
  cases h with
  | known => exact hp
  | blocked => exact hp
  | full => exact hp
  | foreign => exact hp
  | recorded =>
    intro j x parent hx hparent
    rcases Arena.of_get?_push hx with hx | ⟨-, rfl⟩
    · exact hp j x parent hx hparent
    · cases hparent
      exact hid

theorem TakesAll.parentsTakenUp (h : TakesAll s id source edges p res q) (hid : id.val < p.expanded)
    (hp : p.ParentsTakenUp) : q.ParentsTakenUp := by
  induction h with
  | nil => exact hp
  | cons ht _ ih => exact ih (ht.expanded_eq ▸ hid) (ht.parentsTakenUp hid hp)
  | halted ht => exact ht.parentsTakenUp hid hp

theorem Expands.parentsTakenUp (h : Expands s p res q) (hp : p.ParentsTakenUp) :
    q.ParentsTakenUp := by
  have htakeUp {p : Progress} (hp : p.ParentsTakenUp) : p.takeUp.ParentsTakenUp :=
    fun j x parent hx hparent ↦ Nat.lt_succ_of_lt (hp j x parent hx hparent)
  induction h with
  | done => exact hp
  | interrupted => exact hp
  | halted _ _ ht => exact ht.parentsTakenUp (Nat.lt_succ_self _) (htakeUp hp)
  | next _ _ ht _ ih => exact ih (ht.parentsTakenUp (Nat.lt_succ_self _) (htakeUp hp))

theorem SeedsAll.parentsTakenUp (h : SeedsAll s sources p q) (hp : p.ParentsTakenUp) :
    q.ParentsTakenUp := by
  induction h with
  | nil => exact hp
  | cons hn _ ih =>
    refine ih ?_
    cases hn with
    | blocked => exact hp
    | known => exact hp
    | recorded =>
      intro j x parent hx hparent
      rcases Arena.of_get?_push hx with hx | ⟨-, rfl⟩
      · exact hp j x parent hx hparent
      · cases hparent

/-- What a pass has not expanded, no path looks at. -/
theorem mem_expandedNodes_of_isParent (ha : ∀ f, (run s sources).halt ≠ some (.fault f))
    (h : (run s sources).progress.arena.IsParent n) : n ∈ (run s sources).expandedNodes := by
  obtain ⟨m, hseeds, hend⟩ := Stretch.leads_run (Outcome.answered ha) leads_outcome
  have hempty : Progress.ParentsTakenUp {} := fun j x parent hx ↦ by simp [Arena.get?] at hx
  have hm := hseeds.parentsTakenUp hempty
  have hparents : (run s sources).progress.ParentsTakenUp := by
    rcases hend with ⟨cause, -, -, hq⟩ | ⟨-, hexp⟩
    · exact hq ▸ hm
    · exact hexp.parentsTakenUp hm
  obtain ⟨id, x, parent, y, hx, hparent, hy, rfl⟩ := h
  rw [Outcome.expandedNodes_eq]
  exact Progress.mem_takenUp hy (hparents id x parent hx hparent)

end Pass

namespace Engine

variable {e : Engine} {r : Rule} {t : Tally} {s : Pass.Setup} {sources : List FlowNode}
  {lists : List (List FlowNode)} {o : Pass.Outcome} {n : FlowNode}

theorem Tally.expanded_addPass : (t.addPass s o).expanded = t.expanded ++ o.expandedNodes := by
  by_cases hc : o.Concludes
  · rw [addPass_of_concludes hc]
  · rw [addPass_of_not_concludes hc]

theorem Tally.isParent_of_mem_asked_addPassQuery (h : n ∈ (t.addPassQuery s o).asked s.graph) :
    o.Concludes ∧ o.progress.arena.IsParent n := by
  unfold addPassQuery at h
  split at h
  · simp at h
  · simp at h
  · next hh => exact ⟨.inl hh, Collection.isParent_of_mem_asked_addPassQuery (by simpa using h)⟩
  · next cause hh =>
    exact ⟨.inr ⟨cause, hh⟩, Collection.isParent_of_mem_asked_addPassQuery (by simpa using h)⟩

theorem Tally.mem_expanded_addPass_iff (sources : List FlowNode) :
    n ∈ (t.addPass s (Pass.run s sources)).expanded ↔
      n ∈ t.expanded ∨ n ∈ (Pass.query s sources).asked s.graph ∨
        n ∈ (t.addPassQuery s (Pass.run s sources)).asked s.graph := by
  rw [expanded_addPass, List.mem_append, Pass.asked_query]
  refine or_congr_right ⟨Or.inl, ?_⟩
  rintro (h | h)
  · exact h
  · obtain ⟨hc, hparent⟩ := isParent_of_mem_asked_addPassQuery h
    exact Pass.mem_expandedNodes_of_isParent hc.ne_fault hparent

theorem asked_passesQuery_cons (rest : List (List FlowNode)) {u : Tally}
    (ho : Pass.run (e.setup r t.stats.passes) sources = o)
    (hu : t.addPass (e.setup r t.stats.passes) o = u) :
    (e.passesQuery r t (sources :: rest)).asked e.graph =
      (Pass.query (e.setup r t.stats.passes) sources).asked e.graph ++
        ((t.addPassQuery (e.setup r t.stats.passes) o).asked e.graph ++
          if u.halt.isSome || u.collection.truncated then []
          else (e.passesQuery r u rest).asked e.graph) := by
  have hrun : (Pass.query (e.setup r t.stats.passes) sources).onGraph e.graph = o := ho
  have hadd : (t.addPassQuery (e.setup r t.stats.passes) o).onGraph e.graph = u := hu
  simp only [passesQuery, Query.asked_bind, hrun, hadd]
  cases u.halt.isSome || u.collection.truncated <;> rfl

theorem mem_expanded_passes_iff : n ∈ (e.passes r t lists).expanded ↔
    n ∈ t.expanded ∨ n ∈ (e.passesQuery r t lists).asked e.graph := by
  induction lists generalizing t with
  | nil => simp [passes_nil, passesQuery]
  | cons sources rest ih =>
    rw [asked_passesQuery_cons rest rfl rfl, passes_cons sources rest rfl rfl]
    have hfirst := Tally.mem_expanded_addPass_iff (t := t) (s := e.setup r t.stats.passes)
      (n := n) sources
    generalize t.addPass _ _ = u at hfirst ⊢
    have hgraph : (e.setup r t.stats.passes).graph = e.graph := rfl
    rw [hgraph] at hfirst
    cases u.halt.isSome || u.collection.truncated with
    | true => simpa using hfirst
    | false =>
      have hrest := @ih u
      simp only [Bool.false_eq_true, if_false, List.mem_append]
      rw [hrest, hfirst, or_assoc, or_assoc]

/-- The nodes whose edges an evaluation asks for, along its passes and for the checks of its paths,
are those that it has expanded. -/
theorem mem_asked_query_iff : n ∈ (e.query r).asked e.graph ↔ n ∈ (e.run r).expanded := by
  cases hs : e.sources r with
  | error f => simp [query, hs, run_of_fault hs]
  | ok sources =>
    rw [run_of_sources hs, mem_expanded_passes_iff]
    simp [query, hs]

end Engine

end TaintFlow
