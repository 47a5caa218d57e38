import TaintFlow.Proofs.Taint.Forest
import TaintFlow.Proofs.Taint.Queries
import Mathlib.Data.List.Chain

namespace TaintFlow

/-- The key at the end of a path that begins at `key`, if taint survives every step. -/
def Knobs.replay (k : Knobs) (g : FlowGraph) : TaintKey → List PathStep → Option TaintKey
  | key, [] => some key
  | key, ⟨node, some via⟩ :: rest => (k.transfer g key node via).bind (Knobs.replay k g · rest)
  | _, ⟨_, none⟩ :: _ => none

theorem Knobs.replay_append {k : Knobs} {g : FlowGraph} {key : TaintKey} {xs ys : List PathStep} :
    k.replay g key (xs ++ ys) = (k.replay g key xs).bind (k.replay g · ys) := by
  induction xs generalizing key with
  | nil => rfl
  | cons x xs ih =>
    obtain ⟨node, _ | via⟩ := x
    · rfl
    · simp only [List.cons_append, Knobs.replay, Option.bind_assoc, ih]

namespace FlowGraph

def Hop (g : FlowGraph) (source target : FlowNode) (kind : EdgeKind) : Prop :=
  ⟨target, kind⟩ ∈ g.successors source ∨
    kind = .additionalStep ∧ target ∈ g.stepCandidates source

theorem allowsHop_iff {g : FlowGraph} {source target : FlowNode} {kind : EdgeKind} :
    g.allowsHop source target kind = true ↔ g.Hop source target kind := by
  by_cases hk : kind = .additionalStep
  · subst hk
    constructor
    · intro h
      exact .inr ⟨rfl, List.contains_iff_mem.mp h⟩
    · rintro (h | ⟨-, h⟩)
      · exact absurd rfl (kind_ne_additionalStep_of_mem_successors h)
      · exact List.contains_iff_mem.mpr h
  · rw [allowsHop_of_ne hk]
    constructor
    · intro h
      exact .inl (List.contains_iff_mem.mp h)
    · rintro (h | ⟨h, -⟩)
      · exact List.contains_iff_mem.mpr h
      · exact absurd h hk

end FlowGraph

namespace Rule

variable (r : Rule) (g : FlowGraph) (k : Knobs)

def Hop (n m : FlowNode) (via : EdgeKind) : Prop :=
  ⟨m, via⟩ ∈ g.successors n ∨
    via = .additionalStep ∧ m ∈ g.stepCandidates n ∧ r.isAdditionalStep g n m = true

/-- A path along which taint is passed on, with the key at its end. -/
inductive Trail (source : FlowNode) : List PathStep → TaintKey → Prop
  | source : r.isBlocked g source = false → Trail source [⟨source, none⟩] (.plain source)
  | step {steps : List PathStep} {a b : TaintKey} {via : EdgeKind} :
      Trail source steps a → r.Passes g k via a b →
      Trail source (steps ++ [⟨b.node, some via⟩]) b

variable {r g k} {source : FlowNode} {steps : List PathStep} {a b key : TaintKey} {via : EdgeKind}

theorem Passes.hop (h : r.Passes g k via a b) (ho : r.ownSteps = none) :
    r.Hop g a.node b.node via := by
  rcases mem_moves_iff.mp h.move with hedge | ⟨hvia, hm⟩
  · exact .inl hedge
  · simp only [additionalSteps, ho, List.mem_filter] at hm
    exact .inr ⟨hvia, hm⟩

theorem Hop.allowsHop {n m : FlowNode} (h : r.Hop g n m via) : g.allowsHop n m via = true := by
  apply FlowGraph.allowsHop_iff.mpr
  rcases h with h | ⟨hvia, h, -⟩
  · exact .inl h
  · exact .inr ⟨hvia, h⟩

theorem Hop.contains {n m : FlowNode} (h : r.Hop g n m via)
    (hv : g.program.validate = .ok ()) (hp : g.program.ListsParameters) :
    g.contains m = true := by
  rcases h with h | ⟨-, h, -⟩
  · exact FlowGraph.contains_of_mem_successors hv hp h
  · exact FlowGraph.contains_of_mem_stepCandidates hv h

namespace Trail

variable (h : r.Trail g k source steps key)
include h

theorem free : ∀ step ∈ steps, r.isBlocked g step.node = false := by
  induction h with
  | source hf => simpa using hf
  | step _ hp ih =>
    intro step hs
    rcases List.mem_append.mp hs with hs | hs
    · exact ih step hs
    · rw [List.mem_singleton.mp hs]
      exact hp.free

theorem getLast? : ∃ edge, steps.getLast? = some ⟨key.node, edge⟩ := by
  cases h with
  | source => exact ⟨none, rfl⟩
  | step => exact ⟨_, List.getLast?_concat⟩

theorem isChain (ho : r.ownSteps = none) : steps.IsChain fun x y ↦
    ∃ via, y.edge = some via ∧ r.Hop g x.node y.node via := by
  induction h with
  | source => exact .singleton _
  | step ht hp ih =>
    refine List.isChain_append.mpr ⟨ih, .singleton _, fun x hx y hy ↦ ?_⟩
    obtain ⟨edge, hlast⟩ := ht.getLast?
    rw [hlast] at hx
    cases hx
    cases hy
    exact ⟨_, rfl, hp.hop ho⟩

theorem exists_replay : ∃ rest, steps = ⟨source, none⟩ :: rest ∧
    (∀ step ∈ rest, step.edge ≠ none) ∧ k.replay g (.plain source) rest = some key := by
  induction h with
  | source => exact ⟨[], rfl, by simp, rfl⟩
  | @step steps a b via _ hp ih =>
    obtain ⟨rest, rfl, hedges, hr⟩ := ih
    refine ⟨rest ++ [⟨b.node, some via⟩], rfl, ?_, ?_⟩
    · intro step hs
      rcases List.mem_append.mp hs with hs | hs
      · exact hedges step hs
      · rw [List.mem_singleton.mp hs]
        simp
    · simp [Knobs.replay_append, hr, Knobs.replay, hp.transfer]

end Trail

end Rule

namespace Arena.BreadthFirst

variable {r : Rule} {g : FlowGraph} {k : Knobs} {sources : List FlowNode} {a : Arena}
  {start id root : StateId} {x : PathState} {n : Nat}

theorem pathBack_of_links (h : a.BreadthFirst r g k sources) (hl : a.Links n id root)
    (hx : a.get? id = some x) (ho : r.ownSteps = none) (hv : g.program.validate = .ok ())
    (hp : g.program.ListsParameters) (hs : ∀ source ∈ sources, g.contains source = true) :
    ∃ source ∈ sources, a.get? x.root = some ⟨.plain source, none, none, x.root⟩ ∧
      ∃ steps, r.Trail g k source steps x.key ∧ g.contains x.key.node = true ∧
        ∀ fuel > n, ∀ validate path, g.allowsInto x.key.node path = none →
          g.pathBack a validate start fuel id path = .ok (steps ++ path) := by
  induction hl generalizing x with
  | @root id y hy hpar =>
    rw [hy] at hx
    cases hx
    obtain ⟨source, hmem, hf, rfl, -⟩ := h.source_of_parent hy hpar
    refine ⟨source, hmem, hy, _, .source hf, hs source hmem, ?_⟩
    rintro (_ | fuel) hfuel validate path hinto
    · cases hfuel
    · have hc : g.contains (TaintKey.plain source).node = true := hs source hmem
      simp only [TaintKey.plain] at hinto hc
      simp [FlowGraph.pathBack_succ, hy, TaintKey.plain, hc, hinto]
  | @link n id pid root y hy hpar hl ih =>
    rw [hy] at hx
    cases hx
    obtain ⟨parent, via, hget, -, hvia, hroot, hpass⟩ := h.passes_of_parent hy hpar
    obtain ⟨source, hmem, hsource, steps, ht, hc, hback⟩ := ih hget
    have hhop := hpass.hop ho
    have hc' := hhop.contains hv hp
    refine ⟨source, hmem, hroot ▸ hsource, _, ht.step hpass, hc', ?_⟩
    rintro (_ | fuel) hfuel validate path hinto
    · cases hfuel
    · have hinto' : g.allowsInto parent.key.node (⟨y.key.node, some via⟩ :: path) = none := by
        rw [FlowGraph.allowsInto_step, if_pos hhop.allowsHop]
      have hparent := hback fuel (Nat.lt_of_succ_lt_succ hfuel) validate _ hinto'
      simp [FlowGraph.pathBack_succ, hy, hc', hinto, hpar, hvia, hparent]

theorem pathTo_eq_ok (h : a.BreadthFirst r g k sources) (hx : a.get? id = some x)
    (ho : r.ownSteps = none) (hv : g.program.validate = .ok ()) (hp : g.program.ListsParameters)
    (hs : ∀ source ∈ sources, g.contains source = true) :
    ∃ source ∈ sources, a.get? x.root = some ⟨.plain source, none, none, x.root⟩ ∧
      ∃ steps, r.Trail g k source steps x.key ∧
        ∀ validate, g.pathTo a validate id = .ok steps := by
  obtain ⟨n, hn, hl⟩ := h.exists_links hx
  obtain ⟨source, hmem, hroot, steps, ht, -, hback⟩ := h.pathBack_of_links hl hx ho hv hp hs
  refine ⟨source, hmem, hroot, steps, ht, fun validate ↦ ?_⟩
  have hfuel : a.size + 1 > n := by
    have := lt_size_of_get? hx
    omega
  rw [FlowGraph.pathTo_eq, hback _ hfuel validate [] rfl, List.append_nil]

end Arena.BreadthFirst

end TaintFlow
