import TaintFlow.Flow.Cache
import Mathlib.Data.Set.Insert
import Mathlib.Data.List.Dedup

namespace TaintFlow

open Std (HashMap)

namespace Query

variable {g : FlowGraph}

theorem onGraph_reversedEdges (nodes : List FlowNode) : (reversedEdges nodes).onGraph g =
    nodes.flatMap fun n ↦ (g.successors n).map fun e ↦ (e.target, ⟨n, e.kind⟩) := by
  induction nodes with
  | nil => rfl
  | cons n nodes ih => simp [reversedEdges, ih]

theorem asked_reversedEdges (nodes : List FlowNode) : (reversedEdges nodes).asked g = nodes := by
  induction nodes with
  | nil => rfl
  | cons n nodes ih => simp [reversedEdges, ih]

end Query

/-- The memory of `g` after the nodes `asked` have been asked for. Edges are collected in reverse
only once every node has been asked for. -/
structure SuccessorCache.Remembers (c : SuccessorCache) (g : FlowGraph) (asked : Set FlowNode) :
    Prop where
  graph_eq : c.graph = g
  known_iff : ∀ n es, c.known[n]? = some es ↔ n ∈ asked ∧ es = g.successors n
  reversed : ∀ r, c.reversed = some r → r = g.reverse ∧ ∀ n ∈ g.nodes, n ∈ asked

namespace SuccessorCache

variable {α : Type} {c : SuccessorCache} {g : FlowGraph} {asked : Set FlowNode} {n : FlowNode}

theorem remembers_ofGraph (g : FlowGraph) : (ofGraph g).Remembers g ∅ where
  graph_eq := rfl
  known_iff n es := by simp [ofGraph]
  reversed r hr := by cases hr

namespace Remembers

theorem known_eq_none_iff (h : c.Remembers g asked) : c.known[n]? = none ↔ n ∉ asked := by
  constructor
  · intro hnone hn
    have hsome := (h.known_iff n (g.successors n)).mpr ⟨hn, rfl⟩
    rw [hnone] at hsome
    cases hsome
  · intro hn
    cases hk : c.known[n]? with
    | none => rfl
    | some es => exact absurd ((h.known_iff n es).mp hk).1 hn

theorem congr {asked' : Set FlowNode} (h : c.Remembers g asked)
    (hasked : ∀ n, n ∈ asked ↔ n ∈ asked') : c.Remembers g asked' :=
  Set.ext hasked ▸ h

theorem of_mem (h : c.Remembers g asked) (hn : n ∈ asked) : c.Remembers g (insert n asked) := by
  rwa [Set.insert_eq_of_mem hn]

theorem insert_known (h : c.Remembers g asked) :
    Remembers { c with known := c.known.insert n (g.successors n) } g (insert n asked) where
  graph_eq := h.graph_eq
  known_iff m es := by
    rw [HashMap.getElem?_insert, Set.mem_insert_iff]
    by_cases hm : n = m
    · subst hm
      simp [eq_comm]
    · simp [hm, Ne.symm hm, h.known_iff]
  reversed r hr := by
    obtain ⟨heq, hall⟩ := h.reversed r hr
    exact ⟨heq, fun m hm ↦ Set.mem_insert_of_mem n (hall m hm)⟩

theorem keep (h : c.Remembers g asked) (n : FlowNode) :
    (c.keep n (g.successors n)).1 = g.successors n ∧
      (c.keep n (g.successors n)).2.Remembers g (insert n asked) := by
  unfold SuccessorCache.keep
  cases hk : c.known[n]? with
  | none => exact ⟨rfl, h.insert_known⟩
  | some es =>
    obtain ⟨hn, rfl⟩ := (h.known_iff n es).mp hk
    exact ⟨rfl, h.of_mem hn⟩

theorem successors (h : c.Remembers g asked) (n : FlowNode) :
    (c.successors n).1 = g.successors n ∧ (c.successors n).2.Remembers g (insert n asked) := by
  unfold SuccessorCache.successors
  cases hk : c.known[n]? with
  | none =>
    rw [h.graph_eq]
    exact h.keep n
  | some es =>
    obtain ⟨hn, rfl⟩ := (h.known_iff n es).mp hk
    exact ⟨rfl, h.of_mem hn⟩

theorem run (h : c.Remembers g asked) (q : Query α) :
    (c.run q).1 = q.onGraph g ∧ (c.run q).2.Remembers g (asked ∪ {n | n ∈ q.asked g}) := by
  induction q generalizing c asked with
  | answer a => exact ⟨rfl, h.congr fun m ↦ by simp [Query.asked]⟩
  | edges n next ih =>
    obtain ⟨hedges, hnext⟩ := h.successors n
    obtain ⟨hanswer, hrest⟩ := ih (g.successors n) hnext
    simp only [SuccessorCache.run, hedges, Query.onGraph]
    refine ⟨hanswer, hrest.congr fun m ↦ ?_⟩
    simp only [Query.asked, List.mem_cons, Set.mem_union, Set.mem_ofPred_eq, Set.mem_insert_iff]
    tauto

theorem size_eq (h : c.Remembers g asked) {nodes : List FlowNode}
    (hasked : ∀ n, n ∈ asked ↔ n ∈ nodes) : c.size = nodes.dedup.length := by
  have hmem (n : FlowNode) : n ∈ c.known.keys ↔ n ∈ nodes.dedup := by
    rw [HashMap.mem_keys, List.mem_dedup, ← hasked, HashMap.mem_iff_isSome_getElem?,
      Option.isSome_iff_ne_none, Ne, h.known_eq_none_iff, not_not]
  have hperm : c.known.keys.Perm nodes.dedup :=
    (List.perm_ext_iff_of_nodup HashMap.nodup_keys (List.nodup_dedup nodes)).mpr hmem
  rw [SuccessorCache.size, ← HashMap.length_keys, hperm.length_eq]

theorem reverseEdges (h : c.Remembers g asked) : c.reverseEdges.1 = g.reverse ∧
    c.reverseEdges.2.Remembers g (asked ∪ {n | n ∈ g.nodes}) := by
  unfold SuccessorCache.reverseEdges
  cases hr : c.reversed with
  | some r =>
    obtain ⟨rfl, hall⟩ := h.reversed r hr
    exact ⟨rfl, h.congr fun n ↦ by simpa using hall n⟩
  | none =>
    obtain ⟨hedges, hafter⟩ := h.run (Query.reversedEdges g.nodes)
    rw [Query.asked_reversedEdges] at hafter
    rw [h.graph_eq]
    have hrev : Grouping.ofList (c.run (.reversedEdges g.nodes)).1 = g.reverse := by
      rw [hedges, Query.onGraph_reversedEdges]
      rfl
    refine ⟨hrev, hafter.graph_eq, hafter.known_iff, ?_⟩
    intro r hr'
    cases hr'
    exact ⟨hrev, fun n hn ↦ .inr hn⟩

theorem predecessors (h : c.Remembers g asked) (n : FlowNode) :
    (c.predecessors n).1 = g.predecessors n ∧
      (c.predecessors n).2.Remembers g (asked ∪ {n | n ∈ g.nodes}) := by
  obtain ⟨hedges, hafter⟩ := h.reverseEdges
  refine ⟨?_, hafter⟩
  rw [SuccessorCache.predecessors, FlowGraph.predecessors, ← hedges]

theorem hasEdge (h : c.Remembers g asked) (source target : FlowNode) (kind : EdgeKind) :
    (c.hasEdge source target kind).1 = g.hasEdge source target kind ∧
      (c.hasEdge source target kind).2.Remembers g (insert source asked) := by
  obtain ⟨hanswer, hafter⟩ := h.run (.hasEdge source target kind)
  refine ⟨hanswer, hafter.congr fun n ↦ ?_⟩
  simp [Query.hasEdge, or_comm]

end Remembers

end SuccessorCache

namespace Task

variable {α : Type} {c : SuccessorCache} {g : FlowGraph} {asked : Set FlowNode}

def onGraph (g : FlowGraph) : Task α → α
  | running q => q.onGraph g
  | missed n next => (next (g.successors n)).onGraph g

def pending (g : FlowGraph) : Task α → List FlowNode
  | running q => q.asked g
  | missed n next => n :: (next (g.successors n)).asked g

/-- A step leaves the answer as it is, and moves at most one node from those pending to those asked
for. -/
theorem step_remembers (h : c.Remembers g asked) (t : Task α) :
    (t.step c).1.onGraph g = t.onGraph g ∧ ∃ asked', (t.step c).2.Remembers g asked' ∧
      ∀ n, n ∈ asked' ∨ n ∈ (t.step c).1.pending g ↔ n ∈ asked ∨ n ∈ t.pending g := by
  rcases t with (_ | ⟨n, next⟩) | ⟨n, next⟩
  · exact ⟨rfl, asked, h, fun n ↦ Iff.rfl⟩
  · cases hk : c.known[n]? with
    | none =>
      simp only [step, hk]
      exact ⟨rfl, asked, h, fun m ↦ Iff.rfl⟩
    | some es =>
      obtain ⟨hn, rfl⟩ := (h.known_iff n es).mp hk
      simp only [step, hk]
      refine ⟨rfl, asked, h, fun m ↦ ?_⟩
      simp only [pending, Query.asked, List.mem_cons]
      constructor
      · rintro (hm | hm)
        · exact .inl hm
        · exact .inr (.inr hm)
      · rintro (hm | rfl | hm)
        · exact .inl hm
        · exact .inl hn
        · exact .inr hm
  · obtain ⟨hedges, hafter⟩ := h.keep n
    simp only [step, h.graph_eq, hedges]
    refine ⟨rfl, insert n asked, hafter, fun m ↦ ?_⟩
    simp only [pending, Set.mem_insert_iff, List.mem_cons]
    tauto

theorem turn_remembers (h : c.Remembers g asked) (i : Nat) (tasks : List (Task α)) :
    (turn i tasks c).1.map (·.onGraph g) = tasks.map (·.onGraph g) ∧
      ∃ asked', (turn i tasks c).2.Remembers g asked' ∧
        ∀ n, n ∈ asked' ∨ n ∈ (turn i tasks c).1.flatMap (·.pending g) ↔
          n ∈ asked ∨ n ∈ tasks.flatMap (·.pending g) := by
  induction tasks generalizing i with
  | nil =>
    rw [turn]
    exact ⟨rfl, asked, h, fun n ↦ Iff.rfl⟩
  | cons t tasks ih =>
    cases i with
    | zero =>
      obtain ⟨hanswer, asked', hafter, hmem⟩ := step_remembers h t
      refine ⟨?_, asked', hafter, fun n ↦ ?_⟩
      · simp only [turn, List.map_cons, hanswer]
      · have hn := hmem n
        simp only [turn, List.flatMap_cons, List.mem_append]
        tauto
    | succ i =>
      obtain ⟨hanswers, asked', hafter, hmem⟩ := ih i
      refine ⟨?_, asked', hafter, fun n ↦ ?_⟩
      · simp only [turn, List.map_cons, hanswers]
      · have hn := hmem n
        simp only [turn, List.flatMap_cons, List.mem_append]
        tauto

theorem finish_remembers (h : c.Remembers g asked) (t : Task α) :
    (t.finish c).1 = t.onGraph g ∧
      (t.finish c).2.Remembers g (asked ∪ {n | n ∈ t.pending g}) := by
  cases t with
  | running q => exact h.run q
  | missed n next =>
    obtain ⟨hedges, hafter⟩ := h.keep n
    obtain ⟨hanswer, hrest⟩ := hafter.run (next (g.successors n))
    simp only [finish, h.graph_eq, hedges]
    refine ⟨hanswer, hrest.congr fun m ↦ ?_⟩
    simp only [pending, Set.mem_union, Set.mem_insert_iff, Set.mem_ofPred_eq, List.mem_cons]
    tauto

theorem finishAll_remembers (h : c.Remembers g asked) (tasks : List (Task α)) :
    (finishAll tasks c).1 = tasks.map (·.onGraph g) ∧
      (finishAll tasks c).2.Remembers g (asked ∪ {n | n ∈ tasks.flatMap (·.pending g)}) := by
  induction tasks generalizing c asked with
  | nil => exact ⟨rfl, h.congr fun n ↦ by simp⟩
  | cons t tasks ih =>
    obtain ⟨hanswer, hafter⟩ := finish_remembers h t
    obtain ⟨hanswers, hrest⟩ := ih hafter
    refine ⟨by simp only [finishAll, List.map_cons, hanswer, hanswers], hrest.congr fun n ↦ ?_⟩
    simp only [Set.mem_union, Set.mem_ofPred_eq, List.flatMap_cons, List.mem_append]
    tauto

/-- Whatever turns tasks take, each has the answer that it has on the graph, and what is remembered
in the end is the same. -/
theorem runAll_remembers (h : c.Remembers g asked) (turns : List Nat) (tasks : List (Task α)) :
    (runAll turns tasks c).1 = tasks.map (·.onGraph g) ∧
      (runAll turns tasks c).2.Remembers g (asked ∪ {n | n ∈ tasks.flatMap (·.pending g)}) := by
  induction turns generalizing tasks c asked with
  | nil => exact finishAll_remembers h tasks
  | cons i turns ih =>
    obtain ⟨hanswers, asked', hafter, hmem⟩ := turn_remembers h i tasks
    obtain ⟨hrest, hend⟩ := ih hafter (turn i tasks c).1
    exact ⟨hrest.trans hanswers, hend.congr hmem⟩

end Task

end TaintFlow
