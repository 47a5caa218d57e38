import TaintFlow.Proofs.Taint.Forest
import TaintFlow.Proofs.Taint.Queries

namespace TaintFlow

namespace Pass

variable {α β : Type} {p q : Progress}

namespace Stretch

/-- Begun at `p`, the stretch ends at `q` with the given result. -/
def Leads (x : Stretch α) (p : Progress) (res : Except Halt α) (q : Progress) : Prop :=
  StateT.run (ExceptT.run x) p = (res, q)

theorem leads_pure {a : α} {res : Except Halt α} :
    Leads (pure a) p res q ↔ res = .ok a ∧ q = p := by
  constructor
  · intro h; cases h; exact ⟨rfl, rfl⟩
  · rintro ⟨rfl, rfl⟩; rfl

theorem leads_throw {h : Halt} {res : Except Halt α} :
    Leads (throw h) p res q ↔ res = .error h ∧ q = p := by
  constructor
  · intro h; cases h; exact ⟨rfl, rfl⟩
  · rintro ⟨rfl, rfl⟩; rfl

theorem leads_modify {f : Progress → Progress} {res : Except Halt Unit} :
    Leads (modify f) p res q ↔ res = .ok () ∧ q = f p := by
  constructor
  · intro h; cases h; exact ⟨rfl, rfl⟩
  · rintro ⟨rfl, rfl⟩; rfl

theorem leads_get_bind {f : Progress → Stretch α} {res : Except Halt α} :
    Leads (get >>= f) p res q ↔ Leads (f p) p res q := Iff.rfl

theorem leads_modify_bind {f : Progress → Progress} {x : Unit → Stretch α} {res : Except Halt α} :
    Leads (modify f >>= x) p res q ↔ Leads (x ()) (f p) res q := Iff.rfl

theorem leads_throw_bind {h : Halt} {f : β → Stretch α} {res : Except Halt α} :
    Leads (throw h >>= f) p res q ↔ res = .error h ∧ q = p := leads_throw

theorem leads_bind {x : Stretch α} {f : α → Stretch β} {res : Except Halt β} :
    Leads (x >>= f) p res q ↔
      (∃ a m, Leads x p (.ok a) m ∧ Leads (f a) m res q) ∨
        ∃ h, Leads x p (.error h) q ∧ res = .error h := by
  have hrun : StateT.run (ExceptT.run (x >>= f)) p = match StateT.run (ExceptT.run x) p with
      | (.ok a, m) => StateT.run (ExceptT.run (f a)) m
      | (.error h, m) => (.error h, m) := by
    rw [ExceptT.run_bind, StateT.run_bind]
    rcases StateT.run (ExceptT.run x) p with ⟨_ | _, m⟩ <;> rfl
  unfold Leads
  rw [hrun]
  rcases StateT.run (ExceptT.run x) p with ⟨h | a, m⟩
  · constructor
    · intro he; cases he; exact .inr ⟨h, rfl, rfl⟩
    · rintro (⟨a, l, he, -⟩ | ⟨_, he, rfl⟩) <;> cases he
      rfl
  · constructor
    · intro he; exact .inl ⟨a, m, rfl, he⟩
    · rintro (⟨_, _, he, hr⟩ | ⟨_, he, -⟩) <;> cases he
      exact hr

end Stretch

namespace Progress

variable (s : Setup) (p : Progress)

def count (via : EdgeKind) : Progress :=
  { p with
    edges := p.edges + 1
    additional := p.additional + if via = .additionalStep then 1 else 0 }

def refuse : Progress := { p with sanitized := p.sanitized + 1 }

def takeUp : Progress := { p with expanded := p.expanded + 1 }

end Progress

def arrival? (s : Setup) (a : Arena) (id : StateId) (x : PathState) : Option ReachedSink :=
  (s.rule.sinkKind? s.graph x.key.node).map fun kind ↦
    { state := id, root := x.root, sink := x.key.node, kind
      source := ((a.get? x.root).map (·.key.node)).getD x.key.node }

def Progress.withState (s : Setup) (x : PathState) (p : Progress) : Progress :=
  { p with
    arena := p.arena.push x
    visited := p.visited.insert x.key
    reached := p.reached ++ (arrival? s (p.arena.push x) p.arena.nextId x).toArray }

/-- What becomes of a move from the state `id` with key `source`. -/
inductive Taken (s : Setup) (id : StateId) (source : TaintKey) (edge : FlowEdge) (p : Progress) :
    Except Halt Unit → Progress → Prop
  | known (h : ∀ key, s.knobs.transfer s.graph source edge.target edge.kind = some key →
      p.visited.contains key = true) : Taken s id source edge p (.ok ()) (p.count edge.kind)
  | blocked {key : TaintKey}
      (ht : s.knobs.transfer s.graph source edge.target edge.kind = some key)
      (hnew : p.visited.contains key = false)
      (h : s.rule.isBlocked s.graph edge.target = true) :
      Taken s id source edge p (.ok ()) (p.count edge.kind).refuse
  | full {key : TaintKey}
      (ht : s.knobs.transfer s.graph source edge.target edge.kind = some key)
      (hnew : p.visited.contains key = false) (hf : s.rule.isBlocked s.graph edge.target = false)
      (h : s.knobs.maxStates ≤ p.arena.size) :
      Taken s id source edge p (.error (.interrupted (.stateLimit s.knobs.maxStates)))
        (p.count edge.kind)
  | recorded {key : TaintKey} {parent : PathState}
      (ht : s.knobs.transfer s.graph source edge.target edge.kind = some key)
      (hnew : p.visited.contains key = false) (hf : s.rule.isBlocked s.graph edge.target = false)
      (h : p.arena.size < s.knobs.maxStates) (hp : p.arena.get? id = some parent) :
      Taken s id source edge p (.ok ())
        ((p.count edge.kind).withState s ⟨key, some id, some edge.kind, parent.root⟩)
  | foreign (hk : edge.kind = .additionalStep) (h : s.graph.contains edge.target = false) :
      Taken s id source edge p (.error (.foreignStep source.node edge.target)) p

inductive TakesAll (s : Setup) (id : StateId) (source : TaintKey) :
    List FlowEdge → Progress → Except Halt Unit → Progress → Prop
  | nil (p : Progress) : TakesAll s id source [] p (.ok ()) p
  | cons {edge : FlowEdge} {rest : List FlowEdge} {p m q : Progress} {res : Except Halt Unit} :
      Taken s id source edge p (.ok ()) m → TakesAll s id source rest m res q →
      TakesAll s id source (edge :: rest) p res q
  | halted {edge : FlowEdge} {rest : List FlowEdge} {p q : Progress} {h : Halt} :
      Taken s id source edge p (.error h) q →
      TakesAll s id source (edge :: rest) p (.error h) q

inductive Expands (s : Setup) : Progress → Except Halt Unit → Progress → Prop
  | done {p : Progress} : p.arena.get? ⟨p.expanded⟩ = none → Expands s p (.ok ()) p
  | interrupted {p : Progress} {cause : Interruption} :
      s.check? (p.expanded + 1) = some cause → Expands s p (.error (.interrupted cause)) p
  | halted {p q : Progress} {x : PathState} {h : Halt} :
      p.arena.get? ⟨p.expanded⟩ = some x → s.check? (p.expanded + 1) = none →
      TakesAll s ⟨p.expanded⟩ x.key (s.rule.moves s.graph x.key.node) p.takeUp (.error h) q →
      Expands s p (.error h) q
  | next {p m q : Progress} {x : PathState} {res : Except Halt Unit} :
      p.arena.get? ⟨p.expanded⟩ = some x → s.check? (p.expanded + 1) = none →
      TakesAll s ⟨p.expanded⟩ x.key (s.rule.moves s.graph x.key.node) p.takeUp (.ok ()) m →
      Expands s m res q → Expands s p res q

inductive Seeded (s : Setup) (n : FlowNode) (p : Progress) : Progress → Prop
  | blocked (h : s.rule.isBlocked s.graph n = true) : Seeded s n p p.refuse
  | known (hf : s.rule.isBlocked s.graph n = false)
      (h : p.visited.contains (.plain n) = true) : Seeded s n p p
  | recorded (hf : s.rule.isBlocked s.graph n = false)
      (h : p.visited.contains (.plain n) = false) :
      Seeded s n p (p.withState s (p.arena.rootState (.plain n)))

inductive SeedsAll (s : Setup) : List FlowNode → Progress → Progress → Prop
  | nil (p : Progress) : SeedsAll s [] p p
  | cons {n : FlowNode} {rest : List FlowNode} {p m q : Progress} :
      Seeded s n p m → SeedsAll s rest m q → SeedsAll s (n :: rest) p q

namespace Stretch

variable {s : Setup} {id : StateId} {source : TaintKey} {res : Except Halt Unit}

/-- The result is not that the rule failed to answer. -/
def Answered (res : Except Halt α) : Prop := ∀ f, res ≠ .error (.fault f)

theorem answered_ok {a : α} : Answered (.ok a) := by
  intro f h
  cases h

theorem leads_ask_bind {fault : Option Fault} {x : Unit → Stretch α} {res : Except Halt α}
    (hr : Answered res) (h : Leads (ask fault >>= x) p res q) : Leads (x ()) p res q := by
  cases fault with
  | none => exact h
  | some f => exact absurd (leads_throw_bind.mp h).1 (hr f)

theorem leads_isBlocked_bind {n : FlowNode} {x : Bool → Stretch Unit} (hr : Answered res)
    (h : Leads (isBlocked s n >>= x) p res q) : Leads (x (s.rule.isBlocked s.graph n)) p res q := by
  unfold isBlocked at h
  rw [bind_assoc] at h
  exact leads_ask_bind hr h

theorem leads_record {x : PathState} (hr : Answered res) (h : Leads (record s x) p res q) :
    res = .ok () ∧ q = p.withState s x := by
  simp only [record, leads_get_bind, leads_modify_bind] at h
  have h' := leads_ask_bind hr h
  cases hk : s.rule.sinkKind? s.graph x.key.node with
  | none =>
    simp only [hk, leads_pure] at h'
    simpa [Progress.withState, arrival?, hk] using h'
  | some kind =>
    simp only [hk, leads_get_bind, leads_modify] at h'
    simpa [Progress.withState, arrival?, hk] using h'

theorem leads_seed {n : FlowNode} (hr : Answered res) (h : Leads (seed s n) p res q) :
    res = .ok () ∧ Seeded s n p q := by
  have h' := leads_isBlocked_bind hr h
  cases hb : s.rule.isBlocked s.graph n with
  | true =>
    simp only [hb, if_true, countSanitized, leads_modify] at h'
    obtain ⟨rfl, rfl⟩ := h'
    exact ⟨rfl, .blocked hb⟩
  | false =>
    simp only [hb, Bool.false_eq_true, if_false, leads_get_bind] at h'
    cases hv : p.visited.contains (.plain n) with
    | true =>
      simp only [hv, if_true, leads_pure] at h'
      obtain ⟨rfl, rfl⟩ := h'
      exact ⟨rfl, .known hb hv⟩
    | false =>
      simp only [hv, Bool.false_eq_true, if_false] at h'
      obtain ⟨rfl, rfl⟩ := leads_record hr h'
      exact ⟨rfl, .recorded hb hv⟩

theorem leads_seeds {sources : List FlowNode} (hr : Answered res)
    (h : Leads (sources.forM (seed s)) p res q) : res = .ok () ∧ SeedsAll s sources p q := by
  induction sources generalizing p with
  | nil =>
    obtain ⟨rfl, rfl⟩ := leads_pure.mp h
    exact ⟨rfl, .nil _⟩
  | cons n rest ih =>
    rw [List.forM, leads_bind] at h
    rcases h with ⟨_, m, hn, hrest⟩ | ⟨e, hn, rfl⟩
    · obtain ⟨-, hm⟩ := leads_seed answered_ok hn
      obtain ⟨hres, hall⟩ := ih hrest
      exact ⟨hres, .cons hm hall⟩
    · cases (leads_seed hr hn).1

theorem leads_take {edge : FlowEdge} {parent : PathState} (hr : Answered res)
    (hp : p.arena.get? id = some parent) (h : Leads (take s id source edge) p res q) :
    Taken s id source edge p res q := by
  simp only [take, leads_modify_bind] at h
  cases ht : s.knobs.transfer s.graph source edge.target edge.kind with
  | none =>
    simp only [ht, leads_pure] at h
    obtain ⟨rfl, rfl⟩ := h
    exact .known (by simp [ht])
  | some key =>
    simp only [ht, leads_get_bind] at h
    cases hv : p.visited.contains key with
    | true =>
      simp only [hv, if_true, leads_pure] at h
      obtain ⟨rfl, rfl⟩ := h
      exact .known (by simpa [ht] using hv)
    | false =>
      simp only [hv, Bool.false_eq_true, if_false] at h
      have h' := leads_isBlocked_bind hr h
      cases hb : s.rule.isBlocked s.graph edge.target with
      | true =>
        simp only [hb, if_true, countSanitized, leads_modify] at h'
        obtain ⟨rfl, rfl⟩ := h'
        exact .blocked ht hv hb
      | false =>
        simp only [hb, Bool.false_eq_true, if_false, leads_get_bind] at h'
        by_cases hm : s.knobs.maxStates ≤ p.arena.size
        · simp only [hm, if_true, leads_throw_bind] at h'
          obtain ⟨rfl, rfl⟩ := h'
          exact .full ht hv hb hm
        · simp only [hm, if_false, Arena.childState?, hp, Option.map_some] at h'
          obtain ⟨rfl, rfl⟩ := leads_record hr h'
          exact .recorded ht hv hb (Nat.lt_of_not_le hm) hp

end Stretch

section

variable {s : Setup} {id : StateId} {source : TaintKey} {res : Except Halt Unit}

theorem Taken.arena_cases {edge : FlowEdge} (h : Taken s id source edge p res q) :
    q.arena = p.arena ∨ p.arena.size < s.knobs.maxStates ∧ ∃ x, q.arena = p.arena.push x := by
  cases h with
  | known h => exact .inl rfl
  | blocked ht hnew h => exact .inl rfl
  | full ht hnew hf h => exact .inl rfl
  | recorded ht hnew hf h hp => exact .inr ⟨h, _, rfl⟩
  | foreign hk h => exact .inl rfl

theorem Taken.get? {edge : FlowEdge} {j : StateId} {x : PathState}
    (h : Taken s id source edge p res q) (hx : p.arena.get? j = some x) :
    q.arena.get? j = some x := by
  rcases h.arena_cases with he | ⟨-, y, he⟩
  · rw [he, hx]
  · rw [he, Arena.get?_push_old hx]

theorem Taken.size_le {edge : FlowEdge} {bound : Nat} (h : Taken s id source edge p res q)
    (hmax : s.knobs.maxStates ≤ bound) (hp : p.arena.size ≤ bound) : q.arena.size ≤ bound := by
  rcases h.arena_cases with he | ⟨hlt, y, he⟩
  · rw [he]; exact hp
  · rw [he]
    simp only [Arena.size, Arena.push, Array.size_push] at hlt ⊢
    omega

theorem Taken.expanded_eq {edge : FlowEdge} (h : Taken s id source edge p res q) :
    q.expanded = p.expanded := by
  cases h <;> rfl

theorem TakesAll.get? {edges : List FlowEdge} {j : StateId} {x : PathState}
    (h : TakesAll s id source edges p res q) (hx : p.arena.get? j = some x) :
    q.arena.get? j = some x := by
  induction h with
  | nil => exact hx
  | cons ht _ ih => exact ih (ht.get? hx)
  | halted ht => exact ht.get? hx

theorem TakesAll.size_le {edges : List FlowEdge} {bound : Nat}
    (h : TakesAll s id source edges p res q) (hmax : s.knobs.maxStates ≤ bound)
    (hp : p.arena.size ≤ bound) : q.arena.size ≤ bound := by
  induction h with
  | nil => exact hp
  | cons ht _ ih => exact ih (ht.size_le hmax hp)
  | halted ht => exact ht.size_le hmax hp

theorem TakesAll.expanded_eq {edges : List FlowEdge} (h : TakesAll s id source edges p res q) :
    q.expanded = p.expanded := by
  induction h with
  | nil => rfl
  | cons ht _ ih => exact ih.trans ht.expanded_eq
  | halted ht => exact ht.expanded_eq

theorem TakesAll.interrupted {edges : List FlowEdge} {halt : Halt}
    (h : TakesAll s id source edges p (.error halt) q)
    (hs : ∀ edge ∈ edges, edge.kind = .additionalStep → s.graph.contains edge.target = true) :
    ∃ cause, halt = .interrupted cause := by
  generalize herr : Except.error halt = res at h
  induction h with
  | nil => cases herr
  | cons _ _ ih => exact ih (fun edge he ↦ hs edge (List.mem_cons_of_mem _ he)) herr
  | halted ht =>
    cases herr
    cases ht with
    | full => exact ⟨_, rfl⟩
    | foreign hk hc => rw [hs _ List.mem_cons_self hk] at hc; cases hc

theorem TakesAll.append {edges rest : List FlowEdge} {m : Progress}
    (h : TakesAll s id source edges p (.ok ()) m) (hrest : TakesAll s id source rest m res q) :
    TakesAll s id source (edges ++ rest) p res q := by
  generalize hok : Except.ok () = done at h
  induction h with
  | nil => exact hrest
  | cons ht _ ih => exact .cons ht (ih hrest hok)
  | halted => cases hok

theorem TakesAll.append_halted {edges rest : List FlowEdge} {halt : Halt}
    (h : TakesAll s id source edges p (.error halt) q) :
    TakesAll s id source (edges ++ rest) p (.error halt) q := by
  generalize herr : Except.error halt = done at h
  induction h with
  | nil => cases herr
  | cons ht _ ih => exact .cons ht (ih herr)
  | halted ht => exact .halted ht

end

namespace Stretch

variable {s : Setup} {id : StateId} {source : TaintKey} {res : Except Halt Unit}

theorem leads_takeStep {target : FlowNode} {parent : PathState} (hr : Answered res)
    (hp : p.arena.get? id = some parent) (h : Leads (takeStep s id source target) p res q) :
    Taken s id source ⟨target, .additionalStep⟩ p res q := by
  simp only [takeStep] at h
  cases hc : s.graph.contains target with
  | true =>
    simp only [hc, if_true] at h
    exact leads_take hr hp h
  | false =>
    simp only [hc, Bool.false_eq_true, if_false, leads_throw_bind] at h
    obtain ⟨rfl, rfl⟩ := h
    exact .foreign rfl hc

theorem leads_forM (edge : β → FlowEdge) {moves : List β} {f : β → Stretch Unit}
    {parent : PathState} (hr : Answered res) (hp : p.arena.get? id = some parent)
    (hf : ∀ move p q res, Answered res → p.arena.get? id = some parent →
      Leads (f move) p res q → Taken s id source (edge move) p res q)
    (h : Leads (moves.forM f) p res q) : TakesAll s id source (moves.map edge) p res q := by
  induction moves generalizing p with
  | nil =>
    obtain ⟨rfl, rfl⟩ := leads_pure.mp h
    exact .nil _
  | cons move rest ih =>
    rw [List.forM, leads_bind] at h
    rcases h with ⟨_, m, hm, hrest⟩ | ⟨e, hm, rfl⟩
    · have ht := hf move p m (.ok ()) answered_ok hp hm
      exact .cons ht (ih (ht.get? hp) hrest)
    · exact .halted (hf move p q (.error e) hr hp hm)

theorem leads_expand {x : PathState} (hr : Answered res) (hx : p.arena.get? id = some x)
    (h : Leads (expand s id source) p res q) :
    TakesAll s id source (s.rule.moves s.graph source.node) p.takeUp res q := by
  have hx' : p.takeUp.arena.get? id = some x := hx
  simp only [expand, expandAlong, leads_modify_bind] at h
  change Leads _ p.takeUp res q at h
  rw [leads_bind] at h
  have hedges {res m} (hr : Answered res)
      (hm : Leads ((s.graph.successors source.node).forM (take s id source)) p.takeUp res m) :
      TakesAll s id source (s.graph.successors source.node) p.takeUp res m := by
    simpa only [List.map_id'] using leads_forM (fun edge ↦ edge) hr hx'
      (fun _ _ _ _ hr hp ht ↦ leads_take hr hp ht) hm
  rcases h with ⟨_, m, hm, hrest⟩ | ⟨e, hm, rfl⟩
  · have hfirst := hedges answered_ok hm
    exact hfirst.append (leads_forM _ hr (hfirst.get? hx')
      (fun _ _ _ _ hr hp ht ↦ leads_takeStep hr hp ht) (leads_ask_bind hr hrest))
  · exact (hedges hr hm).append_halted

theorem leads_check_bind {n : Nat} {x : Unit → Stretch Unit}
    (h : Leads (check s n >>= x) p res q) :
    (∃ cause, s.budget.interruption? n = some cause ∧ res = .error (.interrupted cause) ∧ q = p) ∨
      s.budget.interruption? n = none ∧ Leads (x ()) p res q := by
  unfold check at h
  cases hc : s.budget.interruption? n with
  | none =>
    simp only [hc] at h
    exact .inr ⟨rfl, h⟩
  | some cause =>
    simp only [hc, leads_throw_bind] at h
    exact .inl ⟨cause, rfl, h⟩

theorem leads_expandAll {bound fuel : Nat} (hr : Answered res)
    (hmax : s.knobs.maxStates ≤ bound) (hp : p.arena.size ≤ bound)
    (hfuel : bound ≤ p.expanded + fuel) (h : Leads (expandAll s fuel) p res q) :
    Expands s p res q := by
  induction fuel generalizing p with
  | zero =>
    obtain ⟨rfl, rfl⟩ := leads_pure.mp h
    exact .done (Array.getElem?_eq_none (hp.trans hfuel))
  | succ fuel ih =>
    simp only [expandAll_succ, leads_get_bind] at h
    cases hx : p.arena.get? ⟨p.expanded⟩ with
    | none =>
      simp only [hx] at h
      obtain ⟨rfl, rfl⟩ := leads_pure.mp h
      exact .done hx
    | some x =>
      have hnext (hc : s.check? (p.expanded + 1) = none)
          (hgo : Leads (expand s ⟨p.expanded⟩ x.key >>= fun _ ↦ expandAll s fuel) p res q) :
          Expands s p res q := by
        rcases leads_bind.mp hgo with ⟨_, m, hm, hrest⟩ | ⟨e, hm, rfl⟩
        · have hall := leads_expand answered_ok hx hm
          have hm' : m.expanded = p.expanded + 1 := hall.expanded_eq
          exact .next hx hc hall (ih (hall.size_le hmax hp) (by omega) hrest)
        · exact .halted hx hc (leads_expand hr hx hm)
      simp only [hx] at h
      split at h
      · next hmod =>
        rcases leads_check_bind h with ⟨cause, hc, rfl, rfl⟩ | ⟨hc, hgo⟩
        · exact .interrupted (by rw [Setup.check?, if_pos hmod, hc])
        · exact hnext (by rw [Setup.check?, if_pos hmod, hc]) hgo
      · next hmod => exact hnext (by rw [Setup.check?, if_neg hmod]) h

end Stretch

section

variable {s : Setup} {sources : List FlowNode}

theorem Expands.interrupted_of_staysIn {halt : Halt} (h : Expands s p (.error halt) q)
    (hs : s.rule.StaysIn s.graph) : ∃ cause, halt = .interrupted cause := by
  generalize herr : Except.error halt = res at h
  induction h with
  | done => cases herr
  | interrupted => cases herr; exact ⟨_, rfl⟩
  | halted _ _ ht =>
    cases herr
    exact ht.interrupted fun edge he hk ↦ hs _ _ (Rule.mem_additionalSteps_of_mem_moves he hk)
  | next _ _ _ _ ih => exact ih herr

theorem SeedsAll.size_le (h : SeedsAll s sources p q) :
    q.arena.size ≤ p.arena.size + sources.length := by
  induction h with
  | nil => exact Nat.le_refl _
  | @cons n rest p m q hs _ ih =>
    have hm : m.arena.size ≤ p.arena.size + 1 := by
      cases hs with
      | blocked => exact Nat.le_succ _
      | known => exact Nat.le_succ _
      | recorded => simp [Progress.withState, Arena.push, Arena.size]
    simp only [List.length_cons]
    omega

theorem SeedsAll.expanded_eq (h : SeedsAll s sources p q) : q.expanded = p.expanded := by
  induction h with
  | nil => rfl
  | cons hs _ ih => exact ih.trans (by cases hs <;> rfl)

/-- A pass records its sources, looks at its budget, and expands its states. -/
theorem Stretch.leads_run {res : Except Halt Unit} (hr : Answered res)
    (h : Leads (Stretch.run s sources) {} res q) :
    ∃ m, SeedsAll s sources {} m ∧
      ((∃ cause, s.budget.interruption? 0 = some cause ∧
          res = .error (.interrupted cause) ∧ q = m) ∨
        s.budget.interruption? 0 = none ∧ Expands s m res q) := by
  rw [Stretch.run, start, bind_assoc] at h
  rcases leads_bind.mp h with ⟨_, m, hm, hrest⟩ | ⟨e, hm, rfl⟩
  · obtain ⟨-, hseeds⟩ := leads_seeds answered_ok hm
    have hsize : m.arena.size ≤ sources.length := by simpa [Arena.size] using hseeds.size_le
    refine ⟨m, hseeds, ?_⟩
    rcases leads_check_bind hrest with hstop | ⟨hc, hgo⟩
    · exact .inl hstop
    · exact .inr ⟨hc, leads_expandAll hr (Nat.le_max_left _ _)
        (hsize.trans (Nat.le_max_right _ _)) (Nat.le_add_left _ _) hgo⟩
  · cases (leads_seeds hr hm).1

theorem Outcome.result_eq_ok {o : Outcome} (h : o.halt = none) : o.result = .ok () := by
  rw [result, h]

theorem Outcome.halt_of_result {o : Outcome} {halt : Halt} (h : o.result = .error halt) :
    o.halt = some halt := by
  unfold result at h
  split at h <;> simp_all

theorem Outcome.answered {o : Outcome} (h : ∀ f, o.halt ≠ some (.fault f)) :
    Stretch.Answered o.result :=
  fun f hf ↦ h f (halt_of_result hf)

/-- The pass breaks off neither for want of an answer nor at a step out of the graph. -/
def Outcome.Concludes (o : Outcome) : Prop :=
  o.halt = none ∨ ∃ cause, o.halt = some (.interrupted cause)

theorem Outcome.Concludes.ne_fault {o : Outcome} (h : o.Concludes) (f : Fault) :
    o.halt ≠ some (.fault f) := by
  rcases h with h | ⟨cause, h⟩ <;> rw [h] <;> simp

theorem leads_outcome : Stretch.Leads (Stretch.run s sources) {} (Pass.run s sources).result
    (Pass.run s sources).progress := by
  exact apply_run

theorem halt_eq_none (ha : Stretch.Answered (run s sources).result)
    (hs : s.rule.StaysIn s.graph)
    (h : (run s sources).interruption? = none) : (run s sources).halt = none := by
  cases hh : (run s sources).halt with
  | none => rfl
  | some halt =>
    have hres : (run s sources).result = .error halt := by rw [Outcome.result, hh]
    have hcause : ∃ cause, halt = .interrupted cause := by
      obtain ⟨m, -, hend⟩ := Stretch.leads_run ha leads_outcome
      rw [hres] at hend
      rcases hend with ⟨cause, -, he, -⟩ | ⟨-, hexp⟩
      · cases he
        exact ⟨cause, rfl⟩
      · exact hexp.interrupted_of_staysIn hs
    obtain ⟨cause, rfl⟩ := hcause
    simp [Outcome.interruption?, hh] at h

end

section

variable {s : Setup} {k : Knobs} {sources : List FlowNode}

theorem Stretch.expand_withKnobs (hmax : k.maxStates = s.knobs.maxStates)
    (ht : k.transfer = s.knobs.transfer) : expand { s with knobs := k } = expand s := by
  have htake : take { s with knobs := k } = take s := by
    funext id source edge
    simp only [take, hmax, ht]
    rfl
  have hstep : takeStep { s with knobs := k } = takeStep s := by
    funext id source target
    simp only [takeStep, htake]
  funext id key
  simp only [expand, expandAlong, htake, hstep]

/-- Of the knobs a pass depends on the limit of states, and on what becomes of a key. -/
theorem run_withKnobs (hmax : k.maxStates = s.knobs.maxStates)
    (ht : k.transfer = s.knobs.transfer) : run { s with knobs := k } sources = run s sources := by
  have hall (fuel : Nat) :
      Stretch.expandAll { s with knobs := k } fuel = Stretch.expandAll s fuel := by
    induction fuel with
    | zero => rfl
    | succ fuel ih =>
      simp only [Stretch.expandAll_succ, ih, Stretch.expand_withKnobs hmax ht]
      rfl
  have hrun : Stretch.run { s with knobs := k } sources = Stretch.run s sources := by
    rw [Stretch.run, Stretch.run, hall, fuel, fuel, hmax]
    rfl
  have hends := (apply_run (s := { s with knobs := k })).symm.trans (hrun ▸ apply_run (s := s))
  exact Outcome.eq_of_result (congrArg Prod.fst hends) (congrArg Prod.snd hends)

end

end Pass

end TaintFlow
