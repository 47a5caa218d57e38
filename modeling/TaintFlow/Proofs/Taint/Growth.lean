import TaintFlow.Proofs.Taint.Course
import Mathlib.Order.Defs.Unbundled

namespace TaintFlow

theorem take_add_one_of_prefix {α : Type} {xs ys : List α} {n : Nat} {x : α} (h : xs <+: ys)
    (hx : xs[n]? = some x) : ys.take (n + 1) = xs.take n ++ [x] := by
  obtain ⟨rest, rfl⟩ := h
  have hlt : n < xs.length := (List.getElem?_eq_some_iff.mp hx).1
  rw [List.take_append_of_le_length hlt, List.take_add_one, hx, Option.toList_some]

namespace Pass

/-- The states and the sinks at `p` are the first of those at `q`. -/
structure Progress.Precedes (p q : Progress) : Prop where
  states : p.arena.states.toList <+: q.arena.states.toList
  reached : p.reached.toList <+: q.reached.toList

structure Progress.Continues (p q : Progress) : Prop extends p.Precedes q where
  expanded : q.expanded = p.expanded

variable {α β : Type} {s : Setup} {p q m : Progress}

theorem Progress.Precedes.rfl : p.Precedes p := ⟨List.prefix_rfl, List.prefix_rfl⟩

theorem Progress.Precedes.trans (h : p.Precedes m) (h' : m.Precedes q) : p.Precedes q :=
  ⟨h.states.trans h'.states, h.reached.trans h'.reached⟩

instance : IsPreorder Progress Progress.Precedes where
  refl _ := .rfl
  trans _ _ _ := .trans

instance : IsPreorder Progress Progress.Continues where
  refl _ := ⟨.rfl, rfl⟩
  trans _ _ _ h h' := ⟨h.toPrecedes.trans h'.toPrecedes, h'.expanded.trans h.expanded⟩

theorem Progress.Precedes.get? {id : StateId} {x : PathState} (h : p.Precedes q)
    (hx : p.arena.get? id = some x) : q.arena.get? id = some x := by
  obtain ⟨rest, hrest⟩ := h.states
  rw [Arena.get?, ← Array.getElem?_toList] at hx ⊢
  rw [← hrest, List.getElem?_append_left (List.getElem?_eq_some_iff.mp hx).1, hx]

namespace Stretch

variable {R R' : Progress → Progress → Prop} {x : Stretch α} {f : α → Stretch β}

/-- However the stretch ends, `R` holds between its ends. -/
def Within (R : Progress → Progress → Prop) (x : Stretch α) : Prop :=
  ∀ p res q, Leads x p res q → R p q

theorem Within.mono (h : Within R x) (hR : ∀ p q, R p q → R' p q) : Within R' x :=
  fun p res q hl ↦ hR p q (h p res q hl)

theorem within_modify {f : Progress → Progress} (hf : ∀ p : Progress, R p (f p)) :
    Within R (modify f) := by
  intro p res q h
  rw [(leads_modify.mp h).2]
  exact hf p

theorem within_get_bind {f : Progress → Stretch α} (hf : ∀ p, Within R (f p)) :
    Within R (get >>= f) := by
  intro p res q h
  exact hf p _ _ _ (leads_get_bind.mp h)

section

variable [IsPreorder Progress R]

theorem within_pure {a : α} : Within R (pure a) := by
  intro p res q h
  rw [(leads_pure.mp h).2]
  exact refl_of R p

theorem within_throw {halt : Halt} : Within R (throw halt : Stretch α) := by
  intro p res q h
  rw [(leads_throw.mp h).2]
  exact refl_of R p

theorem within_throw_bind {halt : Halt} : Within R (throw halt >>= f) := by
  intro p res q h
  rw [(leads_throw_bind.mp h).2]
  exact refl_of R p

theorem Within.bind (hx : Within R x) (hf : ∀ a, Within R (f a)) : Within R (x >>= f) := by
  intro p res q h
  rcases leads_bind.mp h with ⟨a, m, hm, hrest⟩ | ⟨halt, hm, -⟩
  · exact trans_of R (hx _ _ _ hm) (hf a _ _ _ hrest)
  · exact hx _ _ _ hm

theorem within_forM {moves : List β} {f : β → Stretch Unit} (hf : ∀ move, Within R (f move)) :
    Within R (moves.forM f) := by
  induction moves with
  | nil => exact within_pure
  | cons move rest ih => exact (hf move).bind fun _ ↦ ih

theorem within_ask {fault : Option Fault} : Within R (ask fault) := by
  cases fault with
  | none => exact within_pure
  | some f => exact within_throw

theorem within_check {n : Nat} : Within R (check s n) := by
  unfold check
  split
  · exact within_throw
  · exact within_pure

end

abbrev Grows (x : Stretch α) : Prop := Within Progress.Precedes x

abbrev Stays (x : Stretch α) : Prop := Within Progress.Continues x

theorem Within.grows (h : Stays x) : Grows x := h.mono fun _ _ ↦ Progress.Continues.toPrecedes

theorem stays_isBlocked {n : FlowNode} : Stays (isBlocked s n) :=
  within_ask.bind fun _ ↦ within_pure

theorem stays_countSanitized : Stays countSanitized :=
  within_modify fun _ ↦ ⟨⟨List.prefix_rfl, List.prefix_rfl⟩, rfl⟩

theorem stays_record {x : PathState} : Stays (record s x) := by
  refine within_get_bind fun p ↦ (within_modify fun p ↦ ?_).bind fun _ ↦
    within_ask.bind fun _ ↦ ?_
  · exact ⟨⟨by simp [Arena.push], List.prefix_rfl⟩, rfl⟩
  · split
    · refine within_get_bind fun p ↦ within_modify fun p ↦ ⟨⟨List.prefix_rfl, ?_⟩, rfl⟩
      simp
    · exact within_pure

theorem stays_seed {n : FlowNode} : Stays (seed s n) := by
  refine stays_isBlocked.bind fun blocked ↦ ?_
  split
  · exact stays_countSanitized
  · refine within_get_bind fun p ↦ ?_
    dsimp only
    split
    · exact within_pure
    · exact stays_record

theorem stays_start {sources : List FlowNode} : Stays (start s sources) :=
  (within_forM fun _ ↦ stays_seed).bind fun _ ↦ within_check

theorem stays_take {id : StateId} {source : TaintKey} {edge : FlowEdge} :
    Stays (take s id source edge) := by
  unfold take
  refine Within.bind (within_modify fun p ↦ ⟨⟨List.prefix_rfl, List.prefix_rfl⟩, rfl⟩) fun _ ↦ ?_
  split
  · refine within_get_bind fun p ↦ ?_
    split
    · exact within_pure
    · refine stays_isBlocked.bind fun blocked ↦ ?_
      split
      · exact stays_countSanitized
      · refine within_get_bind fun p ↦ ?_
        dsimp only
        split
        · exact within_throw_bind
        · split
          · exact stays_record
          · exact within_pure
  · exact within_pure

theorem stays_takeStep {id : StateId} {source : TaintKey} {target : FlowNode} :
    Stays (takeStep s id source target) := by
  unfold takeStep
  dsimp only
  split
  · exact stays_take
  · exact within_throw_bind

theorem continues_of_expandAlong {id : StateId} {key : TaintKey} {edges : List FlowEdge}
    {res : Except Halt Unit} (h : Leads (expandAlong s id key edges) p res q) :
    p.takeUp.Continues q := by
  have hstays : Stays (do
      edges.forM (take s id key)
      ask (s.rule.stepsFault? s.graph key.node)
      (s.rule.additionalSteps s.graph key.node).forM (takeStep s id key)) :=
    (within_forM fun _ ↦ stays_take).bind fun _ ↦
      within_ask.bind fun _ ↦ within_forM fun _ ↦ stays_takeStep
  exact hstays _ _ _ (leads_modify_bind.mp h)

theorem grows_expand {id : StateId} {key : TaintKey} : Grows (expand s id key) := by
  intro p res q h
  have hcontinues := continues_of_expandAlong h
  exact ⟨hcontinues.states, hcontinues.reached⟩

theorem grows_expandAll {fuel : Nat} : Grows (expandAll s fuel) := by
  induction fuel with
  | zero => exact within_pure
  | succ fuel ih =>
    rw [expandAll_succ]
    refine within_get_bind fun p ↦ ?_
    dsimp only
    split
    · split
      · exact within_check.bind fun _ ↦ grows_expand.bind fun _ ↦ ih
      · exact grows_expand.bind fun _ ↦ ih
    · exact within_pure

end Stretch

end Pass

end TaintFlow
