import TaintFlow.Proofs.Taint.Course
import Mathlib.Data.List.Basic

namespace TaintFlow

namespace Pass

variable {s : Setup} {sources : List FlowNode} {p q : Progress}

def arrivals (s : Setup) (a : Arena) : List ReachedSink :=
  a.states.toList.zipIdx.filterMap fun (x, i) ↦ arrival? s a ⟨i⟩ x

theorem mem_arrivals {a : Arena} {reached : ReachedSink} :
    reached ∈ arrivals s a ↔ ∃ id x, a.get? id = some x ∧ arrival? s a id x = some reached := by
  simp only [arrivals, List.mem_filterMap, Prod.exists, List.mem_zipIdx_iff_getElem?]
  constructor
  · rintro ⟨x, i, hx, hr⟩
    exact ⟨⟨i⟩, x, by simpa [Arena.get?] using hx, hr⟩
  · rintro ⟨⟨i⟩, x, hx, hr⟩
    exact ⟨x, i, by simpa [Arena.get?] using hx, hr⟩

theorem arrival?_push {a : Arena} {id : StateId} {x y root : PathState}
    (hr : a.get? x.root = some root) : arrival? s (a.push y) id x = arrival? s a id x := by
  simp only [arrival?, Arena.get?_push_old hr, hr]

theorem arrivals_push {a : Arena} {y : PathState}
    (h : a.BreadthFirst s.rule s.graph s.knobs sources) :
    arrivals s (a.push y) = arrivals s a ++ (arrival? s (a.push y) a.nextId y).toList := by
  have hold : ∀ xi ∈ a.states.toList.zipIdx,
      arrival? s (a.push y) ⟨xi.2⟩ xi.1 = arrival? s a ⟨xi.2⟩ xi.1 := by
    rintro ⟨x, i⟩ hx
    have hx' : a.get? ⟨i⟩ = some x := by
      simpa [Arena.get?] using List.mem_zipIdx_iff_getElem?.mp hx
    obtain ⟨_, -, -, hroot, -⟩ := h.exists_root hx'
    exact arrival?_push hroot
  have hnew : arrivals s (a.push y) =
      a.states.toList.zipIdx.filterMap (fun (x, i) ↦ arrival? s (a.push y) ⟨i⟩ x) ++
        (arrival? s (a.push y) a.nextId y).toList := by
    unfold arrivals
    rw [show (a.push y).states.toList = a.states.toList ++ [y] from Array.toList_push,
      List.zipIdx_append, List.filterMap_append]
    congr 1
    simp only [List.zipIdx_cons, List.zipIdx_nil, Array.length_toList, Nat.zero_add,
      Arena.nextId, Arena.size]
    cases ha : arrival? s (a.push y) ⟨a.states.size⟩ y <;> simp [ha]
  rw [hnew, List.filterMap_congr hold, arrivals]

/-- What a pass knows at any point of its course. -/
structure Progress.Sound (s : Setup) (sources : List FlowNode) (p : Progress) : Prop where
  forest : p.arena.BreadthFirst s.rule s.graph s.knobs sources
  visited : ∀ key, p.visited.contains key = true ↔ p.arena.Holds key
  reached : p.reached.toList = arrivals s p.arena

namespace Progress.Sound

theorem empty : Sound s sources {} where
  forest := .empty
  visited key := by simp [Arena.Holds, Arena.get?]
  reached := rfl

theorem not_holds (h : p.Sound s sources) {key : TaintKey}
    (hk : p.visited.contains key = false) : ¬ p.arena.Holds key := by
  intro hh
  rw [(h.visited key).mpr hh] at hk
  cases hk

theorem count (h : p.Sound s sources) (via : EdgeKind) : (p.count via).Sound s sources :=
  ⟨h.forest, h.visited, h.reached⟩

theorem refuse (h : p.Sound s sources) : p.refuse.Sound s sources :=
  ⟨h.forest, h.visited, h.reached⟩

theorem takeUp (h : p.Sound s sources) : p.takeUp.Sound s sources :=
  ⟨h.forest, h.visited, h.reached⟩

theorem withState {x : PathState} (h : p.Sound s sources)
    (hx : (p.arena.push x).BreadthFirst s.rule s.graph s.knobs sources) :
    (p.withState s x).Sound s sources where
  forest := hx
  visited key := by
    simp only [Progress.withState, Std.HashSet.contains_insert, Bool.or_eq_true, beq_iff_eq,
      h.visited]
    constructor
    · rintro (rfl | hk)
      · exact ⟨p.arena.nextId, x, Arena.get?_push_new, rfl⟩
      · exact hk.push
    · rintro ⟨j, y, hy, hk⟩
      rcases Arena.of_get?_push hy with hy | ⟨-, rfl⟩
      · exact .inr ⟨j, y, hy, hk⟩
      · exact .inl hk
  reached := by
    simp only [Progress.withState, Array.toList_append, h.reached, arrivals_push h.forest]
    cases arrival? s (p.arena.push x) p.arena.nextId x <;> rfl

end Progress.Sound

variable {id : StateId} {source : TaintKey} {res : Except Halt Unit} {edge : FlowEdge}
  {edges : List FlowEdge} {key : TaintKey}

theorem Taken.holds (h : Taken s id source edge p res q) (hk : p.arena.Holds key) :
    q.arena.Holds key := by
  obtain ⟨j, x, hx, hk⟩ := hk
  exact ⟨j, x, h.get? hx, hk⟩

theorem TakesAll.holds (h : TakesAll s id source edges p res q) (hk : p.arena.Holds key) :
    q.arena.Holds key := by
  induction h with
  | nil => exact hk
  | cons ht _ ih => exact ih (ht.holds hk)
  | halted ht => exact ht.holds hk

theorem Taken.expanded {j : StateId} (h : Taken s id source edge p res q)
    (hj : j.val < p.arena.size) (he : p.arena.Expanded s.rule s.graph s.knobs j) :
    q.arena.Expanded s.rule s.graph s.knobs j := by
  intro x via key hx hp
  obtain ⟨y, hy⟩ := Arena.get?_of_lt_size hj
  rw [h.get? hy] at hx
  cases hx
  exact h.holds (he _ via key hy hp)

/-- What holds while moves are taken from the state `id`, whose key is `source`. -/
structure Progress.Expanding (s : Setup) (sources : List FlowNode) (id : StateId)
    (source : TaintKey) (p : Progress) : Prop extends p.Sound s sources where
  seeded : p.arena.Seeded s.rule s.graph sources
  before : ∀ j : StateId, j.val < id.val → p.arena.Expanded s.rule s.graph s.knobs j
  current : ∃ x, p.arena.get? id = some x ∧ x.key = source

theorem Taken.sound (ht : Taken s id source edge p res q) (h : p.Expanding s sources id source)
    (he : edge ∈ s.rule.moves s.graph source.node) : q.Sound s sources := by
  cases ht with
  | known hknown => exact h.count _
  | blocked ht hnew hb => exact (h.count _).refuse
  | full ht hnew hf hsize => exact h.count _
  | @recorded key parent ht hnew hf hsize hp =>
    obtain ⟨x, hx, rfl⟩ := h.current
    rw [hp] at hx
    cases hx
    have hpass := Rule.Passes.of_transfer he ht hf
    exact (h.count _).withState
      (h.forest.push_child h.seeded h.before hp hpass (h.not_holds hnew))
  | foreign hkind hc => exact h.toSound

theorem Taken.expanding (ht : Taken s id source edge p res q)
    (h : p.Expanding s sources id source) (he : edge ∈ s.rule.moves s.graph source.node) :
    q.Expanding s sources id source where
  toSound := ht.sound h he
  seeded n hn hf := ht.holds (h.seeded n hn hf)
  before j hj := by
    obtain ⟨x, hx, -⟩ := h.current
    exact ht.expanded (hj.trans (Arena.lt_size_of_get? hx)) (h.before j hj)
  current := by
    obtain ⟨x, hx, hk⟩ := h.current
    exact ⟨x, ht.get? hx, hk⟩

theorem TakesAll.expanding (ht : TakesAll s id source edges p res q)
    (h : p.Expanding s sources id source)
    (he : ∀ edge ∈ edges, edge ∈ s.rule.moves s.graph source.node) :
    q.Expanding s sources id source := by
  induction ht with
  | nil => exact h
  | cons hfirst _ ih =>
    exact ih (hfirst.expanding h (he _ List.mem_cons_self)) fun edge hedge ↦
      he edge (List.mem_cons_of_mem _ hedge)
  | halted hfirst => exact hfirst.expanding h (he _ List.mem_cons_self)

theorem Taken.covered (ht : Taken s id source edge p (.ok ()) q) (h : p.Sound s sources)
    (htr : s.knobs.transfer s.graph source edge.target edge.kind = some key)
    (hf : s.rule.isBlocked s.graph edge.target = false) : q.arena.Holds key := by
  cases ht with
  | known hknown => exact (h.visited key).mp (hknown key htr)
  | blocked ht hnew hb => rw [hb] at hf; cases hf
  | @recorded key' parent ht hnew hf' hsize hp =>
    rw [ht] at htr
    cases htr
    exact ⟨p.arena.nextId, _, Arena.get?_push_new, rfl⟩

theorem TakesAll.covered (ht : TakesAll s id source edges p (.ok ()) q)
    (h : p.Expanding s sources id source)
    (he : ∀ edge ∈ edges, edge ∈ s.rule.moves s.graph source.node) (hedge : edge ∈ edges)
    (htr : s.knobs.transfer s.graph source edge.target edge.kind = some key)
    (hf : s.rule.isBlocked s.graph edge.target = false) : q.arena.Holds key := by
  generalize hok : Except.ok () = done at ht
  induction ht with
  | nil => cases hedge
  | @cons first rest p m q res hfirst hrest ih =>
    rcases List.mem_cons.mp hedge with rfl | hedge
    · exact hrest.holds (hfirst.covered h.toSound htr hf)
    · exact ih (hfirst.expanding h (he first List.mem_cons_self))
        (fun edge' he' ↦ he edge' (List.mem_cons_of_mem _ he')) hedge hok
  | halted => cases hok

/-- What holds each time a pass takes up its next state: the states before it are expanded. -/
structure Progress.Ready (s : Setup) (sources : List FlowNode) (p : Progress) : Prop
    extends p.Sound s sources where
  seeded : p.arena.Seeded s.rule s.graph sources
  expanded : ∀ j : StateId, j.val < p.expanded → p.arena.Expanded s.rule s.graph s.knobs j

theorem Progress.Ready.complete (h : p.Ready s sources)
    (hend : p.arena.get? ⟨p.expanded⟩ = none) :
    p.arena.Complete s.rule s.graph s.knobs sources where
  toBreadthFirst := h.forest
  seeded := h.seeded
  expanded j x via key hx := by
    refine h.expanded j ?_ x via key hx
    have hsize : p.arena.size ≤ p.expanded := Array.getElem?_eq_none_iff.mp hend
    exact (Arena.lt_size_of_get? hx).trans_le hsize

theorem Progress.Ready.expanding {x : PathState} (h : p.Ready s sources)
    (hx : p.arena.get? ⟨p.expanded⟩ = some x) :
    p.takeUp.Expanding s sources ⟨p.expanded⟩ x.key where
  toSound := h.takeUp
  seeded := h.seeded
  before := h.expanded
  current := ⟨x, hx, rfl⟩

theorem Progress.Ready.next {x : PathState} (h : p.Ready s sources)
    (hx : p.arena.get? ⟨p.expanded⟩ = some x)
    (ht : TakesAll s ⟨p.expanded⟩ x.key (s.rule.moves s.graph x.key.node) p.takeUp (.ok ()) q) :
    q.Ready s sources := by
  have hq := ht.expanding (h.expanding hx) fun _ he ↦ he
  refine ⟨hq.toSound, hq.seeded, fun j hj ↦ ?_⟩
  have hexpanded : q.expanded = p.takeUp.expanded := ht.expanded_eq
  have hle : j.val ≤ (⟨p.expanded⟩ : StateId).val := Nat.le_of_lt_succ (hj.trans_eq hexpanded)
  rcases StateId.eq_or_lt_of_le hle with rfl | hlt
  · intro y via key hy hpass
    have hy' := ht.get? (p := p.takeUp) hx
    rw [hy] at hy'
    cases hy'
    exact ht.covered (h.expanding hx) (fun _ he ↦ he) hpass.move hpass.transfer hpass.free
  · exact hq.before j hlt

/-- The forest grows as long as states are expanded. If the pass is not halted, it is complete. -/
theorem Expands.sound (he : Expands s p res q) (h : p.Ready s sources) :
    q.Sound s sources ∧ q.arena.Seeded s.rule s.graph sources ∧
      (res = .ok () → q.arena.Complete s.rule s.graph s.knobs sources) := by
  induction he with
  | done hend => exact ⟨h.toSound, h.seeded, fun _ ↦ h.complete hend⟩
  | interrupted _ => exact ⟨h.toSound, h.seeded, fun hok ↦ by cases hok⟩
  | halted hx _ ht =>
    have hq := ht.expanding (h.expanding hx) fun _ he ↦ he
    exact ⟨hq.toSound, hq.seeded, fun hok ↦ by cases hok⟩
  | next hx _ ht _ ih => exact ih (h.next hx ht)

theorem SeedsAll.sound {done rest : List FlowNode} (hs : SeedsAll s rest p q)
    (hsources : sources = done ++ rest) (h : p.Sound s sources)
    (hroots : ∀ j x, p.arena.get? j = some x → x.parent = none ∧ x.key.node ∈ done)
    (hseeded : p.arena.Seeded s.rule s.graph done) :
    q.Sound s sources ∧ q.arena.Seeded s.rule s.graph sources := by
  induction hs generalizing done with
  | nil => exact ⟨h, by simpa [hsources] using hseeded⟩
  | @cons n rest p m q hn _ ih =>
    have hsources' : sources = (done ++ [n]) ++ rest := by simpa using hsources
    have hroots' : ∀ j x, p.arena.get? j = some x → x.parent = none ∧ x.key.node ∈ done ++ [n] :=
      fun j x hx ↦ ⟨(hroots j x hx).1, List.mem_append_left _ (hroots j x hx).2⟩
    cases hn with
    | blocked hb =>
      refine ih hsources' h.refuse hroots' fun n' hn' hf ↦ ?_
      rcases List.mem_append.mp hn' with hn' | hn'
      · exact hseeded n' hn' hf
      · rw [List.mem_singleton.mp hn', hb] at hf
        cases hf
    | known hf hv =>
      refine ih hsources' h hroots' fun n' hn' hf ↦ ?_
      rcases List.mem_append.mp hn' with hn' | hn'
      · exact hseeded n' hn' hf
      · rw [List.mem_singleton.mp hn']
        exact (h.visited _).mp hv
    | recorded hf hv =>
      have hfresh : n ∉ done := fun hmem ↦ h.not_holds hv (hseeded n hmem hf)
      have hlater : ∀ j x, p.arena.get? j = some x →
          x.parent = none ∧ sources.idxOf x.key.node < sources.idxOf n := by
        intro j x hx
        obtain ⟨hparent, hmem⟩ := hroots j x hx
        rw [hsources, List.idxOf_append_of_mem hmem, List.idxOf_append_of_notMem hfresh]
        exact ⟨hparent, (List.idxOf_lt_length_of_mem hmem).trans_le (Nat.le_add_right _ _)⟩
      have hmem : n ∈ sources := by simp [hsources]
      refine ih hsources' (h.withState (h.forest.push_source hmem hf hlater)) ?_ ?_
      · intro j x hx
        rcases Arena.of_get?_push hx with hx | ⟨-, rfl⟩
        · exact hroots' j x hx
        · exact ⟨rfl, List.mem_append_right _ (List.mem_singleton_self n)⟩
      · intro n' hn' hf'
        rcases List.mem_append.mp hn' with hn' | hn'
        · exact (hseeded n' hn' hf').push
        · rw [List.mem_singleton.mp hn']
          exact ⟨p.arena.nextId, _, Arena.get?_push_new, rfl⟩

theorem SeedsAll.ready (h : SeedsAll s sources {} q) : q.Ready s sources := by
  obtain ⟨hsound, hseeded⟩ := h.sound (List.nil_append _).symm .empty (by simp [Arena.get?])
    (by simp [Arena.Seeded])
  refine ⟨hsound, hseeded, fun j hj ↦ ?_⟩
  rw [h.expanded_eq] at hj
  cases hj

theorem Progress.Sound.mem_reached_iff (h : p.Sound s sources) {reached : ReachedSink} :
    reached ∈ p.reached.toList ↔ ∃ id x source kind, p.arena.get? id = some x ∧
      p.arena.get? x.root = some ⟨.plain source, none, none, x.root⟩ ∧
      s.rule.sinkKind? s.graph x.key.node = some kind ∧
      reached = ⟨id, x.root, source, x.key.node, kind⟩ := by
  rw [h.reached, mem_arrivals]
  constructor
  · rintro ⟨id, x, hx, ha⟩
    obtain ⟨source, -, -, hroot, -⟩ := h.forest.exists_root hx
    obtain ⟨kind, hk, rfl⟩ := Option.map_eq_some_iff.mp ha
    refine ⟨id, x, source, kind, hx, hroot, hk, ?_⟩
    simp [hroot, TaintKey.plain]
  · rintro ⟨id, x, source, kind, hx, hroot, hk, rfl⟩
    exact ⟨id, x, hx, by simp [arrival?, hk, hroot, TaintKey.plain]⟩

/-- A pass that its rule answers, halted or not. -/
theorem run_sound (hr : Stretch.Answered (run s sources).result) :
    (run s sources).progress.Sound s sources ∧
      (run s sources).progress.arena.Seeded s.rule s.graph sources ∧
      ((run s sources).halt = none →
        (run s sources).progress.arena.Complete s.rule s.graph s.knobs sources) := by
  obtain ⟨m, hseeds, hend⟩ := Stretch.leads_run hr leads_outcome
  have hready := hseeds.ready
  rcases hend with ⟨cause, -, he, hq⟩ | ⟨-, hexp⟩
  · rw [hq]
    exact ⟨hready.toSound, hready.seeded,
      fun hn ↦ by rw [Outcome.result_eq_ok hn] at he; cases he⟩
  · obtain ⟨hq, hqs, hc⟩ := hexp.sound hready
    exact ⟨hq, hqs, fun hn ↦ hc (Outcome.result_eq_ok hn)⟩

end Pass

end TaintFlow
