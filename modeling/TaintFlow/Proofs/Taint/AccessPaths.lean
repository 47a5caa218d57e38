import TaintFlow.Proofs.Taint.Ways

namespace TaintFlow

/-- What an edge does to the fields that taint is stored under. -/
inductive Access where
  | push (field : Option FieldId)
  | load (field : Option FieldId)
  | clear
  | keep
deriving DecidableEq

namespace Access

/-- With every field kept, the last one first. What lies under a key that is not known can be loaded
from any field. -/
def nested : Access → List (Option FieldId) → Option (List (Option FieldId))
  | push f, stack => some (f :: stack)
  | load none, stack => some stack.tail
  | load (some _), [] => some []
  | load (some f), top :: stack => if top = some f ∨ top = none then some stack else none
  | clear, _ => some []
  | keep, stack => some stack

def shallow : Access → Option FieldId → Option (Option FieldId)
  | push (some f), _ => some (some f)
  | push none, field => some field
  | load none, _ => some none
  | load (some f), field => if field.any (· ≠ f) then none else some none
  | clear, _ => some none
  | keep, field => some field

def nested? (stack : List (Option FieldId)) (accesses : List Access) :
    Option (List (Option FieldId)) :=
  accesses.foldlM (fun stack a ↦ a.nested stack) stack

def Allowed (accesses : List Access) : Prop := ∃ stack, nested? [] accesses = some stack

def shallow? (field : Option FieldId) (accesses : List Access) : Option (Option FieldId) :=
  accesses.foldlM (fun field a ↦ a.shallow field) field

def Quiet (a : Access) : Prop := a = keep ∨ a = push none

def slot : Access → Slot FieldId
  | push (some f) => .store f
  | load (some f) => .demand f
  | load none | clear => .clear
  | push none | keep => .keep

/-- After a store under `g`, and nothing but `between` since, `f` is loaded. -/
def Mismatch (g f : FieldId) (between accesses : List Access) : Prop :=
  f ≠ g ∧ (∀ a ∈ between, a.Quiet) ∧
    ∃ before after, accesses = before ++ push (some g) :: (between ++ load (some f) :: after)

variable {accesses between xs : List Access} {a : Access} {f g : FieldId} {field : Option FieldId}

theorem Mismatch.append (h : Mismatch g f between accesses) (rest : List Access) :
    Mismatch g f between (accesses ++ rest) := by
  obtain ⟨hne, hq, before, after, rfl⟩ := h
  exact ⟨hne, hq, before, after ++ rest, by simp⟩

theorem shallow_eq_run : a.shallow field = a.slot.run field := by
  rcases a with (_ | f) | (_ | f) | _ | _ <;> rfl

theorem shallow?_eq_run? : shallow? field accesses = Slot.run? slot field accesses := by
  simp only [shallow?, Slot.run?, shallow_eq_run]

theorem slot_eq_store : a.slot = .store f ↔ a = push (some f) := by
  rcases a with (_ | g) | (_ | g) | _ | _ <;> simp [slot]

theorem slot_eq_demand : a.slot = .demand f ↔ a = load (some f) := by
  rcases a with (_ | g) | (_ | g) | _ | _ <;> simp [slot]

theorem slot_eq_keep : a.slot = .keep ↔ a.Quiet := by
  rcases a with (_ | g) | (_ | g) | _ | _ <;> simp [slot, Quiet]

theorem shallow?_eq_none_iff :
    shallow? none accesses = none ↔ ∃ g f between, Mismatch g f between accesses := by
  simp only [shallow?_eq_run?, Slot.run?_eq_none_iff, Slot.Clash, slot_eq_store, slot_eq_demand,
    slot_eq_keep]
  constructor
  · rintro ⟨g, f, between, hne, hq, before, _, _, after, rfl, rfl, rfl⟩
    exact ⟨g, f, between, hne, hq, before, after, rfl⟩
  · rintro ⟨g, f, between, hne, hq, before, after, rfl⟩
    exact ⟨g, f, between, hne, hq, before, _, _, after, rfl, rfl, rfl⟩

theorem nested?_append {stack : List (Option FieldId)} {ys : List Access} :
    nested? stack (xs ++ ys) = (nested? stack xs).bind (nested? · ys) :=
  List.foldlM_append ..

theorem nested?_keep {stack : List (Option FieldId)} (hk : ∀ a ∈ between, a = keep) :
    nested? stack between = some stack := by
  induction between with
  | nil => rfl
  | cons a rest ih =>
    rw [hk a List.mem_cons_self]
    exact ih fun b hb ↦ hk b (List.mem_cons_of_mem _ hb)

/-- In accesses that can be made with every field kept, a load that does not match the store before
it comes after an entry under a key that is not known. -/
theorem Allowed.push_none_mem (h : Allowed accesses) (hm : Mismatch g f between accesses) :
    push none ∈ between := by
  obtain ⟨hne, hq, before, after, rfl⟩ := hm
  by_contra hnot
  have hk : ∀ a ∈ between, a = keep := fun a ha ↦
    (hq a ha).resolve_right fun he ↦ hnot (he ▸ ha)
  obtain ⟨stack, hs⟩ := h
  rw [nested?_append] at hs
  obtain ⟨below, -, hs⟩ := Option.bind_eq_some_iff.mp hs
  change nested? (some g :: below) (between ++ load (some f) :: after) = some stack at hs
  rw [nested?_append, nested?_keep hk, Option.bind_some, nested?, List.foldlM_cons] at hs
  simp [nested, hne.symm] at hs

end Access

namespace FlowGraph

def isUnknownEntry (g : FlowGraph) : FlowNode → FlowNode → Bool
  | .expr value, .expr hash =>
    match g.program.kind? hash with
    | some (.hash entries) => entries.any fun entry ↦ entry.value = value && entry.field.isNone
    | _ => false
  | _, _ => false

def access (g : FlowGraph) (n : FlowNode) (edge : FlowEdge) : Access :=
  match edge.kind with
  | .fieldStore f => .push (some f)
  | .fieldLoad f => .load f
  | .taintStep | .additionalStep => .clear
  | .localAssign => if g.isUnknownEntry n edge.target then .push none else .keep
  | .callToParameter _ | .returnToCallResult _ => .keep

def accesses (g : FlowGraph) (steps : List (FlowNode × FlowEdge)) : List Access :=
  steps.map fun step ↦ g.access step.1 step.2

end FlowGraph

namespace Knobs

variable {k : Knobs} {g : FlowGraph} {content : Option FieldId}

theorem content?_eq (hf : k.fieldSensitive = true) (n : FlowNode) (edge : FlowEdge) :
    k.content? content edge.kind = (g.access n edge).shallow content := by
  obtain ⟨target, kind⟩ := edge
  cases kind with
  | localAssign =>
    simp only [content?, FlowGraph.access]
    split <;> rfl
  | fieldLoad field => cases field <;> simp [content?, FlowGraph.access, Access.shallow, hf]
  | _ => rfl

theorem transfer_eq (hf : k.fieldSensitive = true) (hc : k.contextSensitive = false) (n : FlowNode)
    (edge : FlowEdge) :
    k.transfer g ⟨n, content, none⟩ edge.target edge.kind =
      ((g.access n edge).shallow content).map (⟨edge.target, ·, none⟩) := by
  have hcontext : ∃ context, k.context? none edge.kind = some context := by
    cases edge.kind <;> simp [context?, hc]
  obtain ⟨context, hcontext⟩ := hcontext
  rw [← content?_eq hf n edge]
  simp only [transfer, hcontext, hf, hc]
  cases k.content? content edge.kind <;> rfl

theorem keeps_content (hf : k.fieldSensitive = true) (hc : k.contextSensitive = false) :
    k.Keeps g (⟨·, ·, none⟩) fun step ↦ (g.access step.1 step.2).slot where
  node _ _ := rfl
  plain _ := rfl
  transfer n edge content := by rw [transfer_eq hf hc, Access.shallow_eq_run]

end Knobs

namespace Rule

inductive Route (r : Rule) (g : FlowGraph) (source : FlowNode) :
    List FlowNode → List Access → FlowNode → Prop
  | source : r.isBlocked g source = false → Route r g source [source] [] source
  | move {nodes : List FlowNode} {accesses : List Access} {n : FlowNode} {edge : FlowEdge} :
      Route r g source nodes accesses n → edge ∈ r.moves g n →
      r.isBlocked g edge.target = false →
      Route r g source (nodes ++ [edge.target]) (accesses ++ [g.access n edge]) edge.target

variable {r : Rule} {g : FlowGraph} {source : FlowNode} {nodes : List FlowNode}
  {accesses : List Access} {n : FlowNode}

theorem route_iff_way : r.Route g source nodes accesses n ↔ ∃ steps,
    r.Way g source steps n ∧ nodes = nodesOf source steps ∧ accesses = g.accesses steps := by
  constructor
  · intro h
    induction h with
    | source hfree => exact ⟨[], .source hfree, rfl, rfl⟩
    | move _ hmove hfree ih =>
      obtain ⟨steps, hway, rfl, rfl⟩ := ih
      exact ⟨_, hway.move hmove hfree, by simp [nodesOf], by simp [FlowGraph.accesses]⟩
  · rintro ⟨steps, hway, rfl, rfl⟩
    induction hway with
    | source hfree => exact .source hfree
    | move _ hmove hfree ih =>
      have hroute := ih.move hmove hfree
      simpa [nodesOf, FlowGraph.accesses] using hroute

theorem Route.exists_of_mem (h : r.Route g source nodes accesses n) {m : FlowNode}
    (hm : m ∈ nodes) : ∃ nodes' before rest,
      r.Route g source nodes' before m ∧ accesses = before ++ rest := by
  obtain ⟨steps, hway, rfl, rfl⟩ := route_iff_way.mp h
  obtain ⟨before, rest, hbefore, rfl⟩ := hway.exists_of_mem hm
  exact ⟨_, _, _, route_iff_way.mpr ⟨before, hbefore, rfl, rfl⟩, List.map_append ..⟩

end Rule

namespace Pass

variable {s : Setup} {sources : List FlowNode}

theorem admits_iff (hf : s.knobs.fieldSensitive = true)
    (hc : s.knobs.contextSensitive = false) (hn : (run s sources).halt = none) {n : FlowNode} :
    (run s sources).progress.Admits n ↔ ∃ source ∈ sources, ∃ nodes accesses,
      s.rule.Route s.graph source nodes accesses n ∧
        ¬ ∃ g f between, Access.Mismatch g f between accesses := by
  simp only [admits_iff_way (Knobs.keeps_content hf hc) hn, Rule.route_iff_way,
    ← Access.shallow?_eq_none_iff, Access.shallow?_eq_run?, FlowGraph.accesses]
  constructor
  · rintro ⟨source, hs, steps, hway, hrun⟩
    exact ⟨source, hs, _, _, ⟨steps, hway, rfl, rfl⟩, by rwa [Slot.run?_map]⟩
  · rintro ⟨source, hs, _, _, ⟨steps, hway, rfl, rfl⟩, hrun⟩
    exact ⟨source, hs, steps, hway, by rwa [Slot.run?_map] at hrun⟩

/-- Where fields are told apart and calls are not, a finished pass admits every node on a route that
is allowed with every field kept, unless a load on it does not match the store before it because an
entry under a key that is not known comes between. Such a node is missed exactly if there is a
mismatch on every route to it. -/
theorem admits_of_allowed (hf : s.knobs.fieldSensitive = true)
    (hc : s.knobs.contextSensitive = false) (hn : (run s sources).halt = none) :
    (∀ source ∈ sources, ∀ nodes accesses n, s.rule.Route s.graph source nodes accesses n →
      Access.Allowed accesses → (∀ m ∈ nodes, (run s sources).progress.Admits m) ∨
        ∃ g f between, Access.Mismatch g f between accesses ∧ .push none ∈ between) ∧
      ∀ n, (run s sources).progress.Admits n ↔ ∃ source ∈ sources, ∃ nodes accesses,
        s.rule.Route s.graph source nodes accesses n ∧
          ¬ ∃ g f between, Access.Mismatch g f between accesses := by
  refine ⟨fun source hs nodes accesses n hroute ha ↦ ?_, fun n ↦ admits_iff hf hc hn⟩
  by_cases hm : ∃ g f between, Access.Mismatch g f between accesses
  · obtain ⟨g, f, between, hm⟩ := hm
    exact .inr ⟨g, f, between, hm, ha.push_none_mem hm⟩
  · refine .inl fun m hmem ↦ (admits_iff hf hc hn).mpr ?_
    obtain ⟨nodes', before, rest, hbefore, rfl⟩ := hroute.exists_of_mem hmem
    refine ⟨source, hs, nodes', before, hbefore, fun ⟨g, f, between, hb⟩ ↦ hm ?_⟩
    exact ⟨g, f, between, hb.append rest⟩

def entryProgram : Program where
  functions := #[⟨⟨0⟩, "main", "entry.rb", [], none, [], default⟩]
  vars := #[⟨⟨0⟩, "obj", some ⟨0⟩, none, .localVar, none, default⟩]
  fields := #[⟨⟨0⟩, "a"⟩, ⟨⟨1⟩, "b"⟩]
  exprs := #[⟨⟨0⟩, ⟨0⟩, default, "obj", .read ⟨0⟩ [], []⟩,
    ⟨⟨1⟩, ⟨0⟩, default, "secret()", .call { name := "secret" }, []⟩,
    ⟨⟨2⟩, ⟨0⟩, default, "obj.a = secret()", .fieldStore ⟨0⟩ ⟨0⟩ ⟨1⟩, []⟩,
    ⟨⟨3⟩, ⟨0⟩, default, "obj", .read ⟨0⟩ [.mutation ⟨0⟩], []⟩,
    ⟨⟨4⟩, ⟨0⟩, default, "key()", .call { name := "key" }, []⟩,
    ⟨⟨5⟩, ⟨0⟩, default, "hash", .hash [⟨⟨4⟩, ⟨3⟩, none⟩], []⟩,
    ⟨⟨6⟩, ⟨0⟩, default, ":b", .literal (.symbol "b"), []⟩,
    ⟨⟨7⟩, ⟨0⟩, default, "hash[:b]", .index ⟨5⟩ ⟨6⟩ (some ⟨1⟩), []⟩,
    ⟨⟨8⟩, ⟨0⟩, default, "hash[:b].a", .fieldLoad ⟨7⟩ ⟨0⟩, []⟩,
    ⟨⟨9⟩, ⟨0⟩, default, "sink(hash[:b].a)", .call { name := "sink", args := [⟨8⟩] }, []⟩]

def entrySources : List FlowNode := [.expr ⟨1⟩]

def entrySetup : Setup where
  graph := .ofProgram entryProgram
  rule := {
    name := "entry"
    isSource := fun _ n ↦ entrySources.contains n
    sinkKind? := fun _ _ ↦ none }
  knobs := { Knobs.ofPreset .balanced with fieldSensitive := true, contextSensitive := false }
  budget := .unlimited

theorem nodes_entry : (run entrySetup entrySources).progress.arena.states.toList.map (·.key.node) =
    [.expr ⟨1⟩, .expr ⟨2⟩, .postUpdate ⟨0⟩, .expr ⟨3⟩, .expr ⟨5⟩] := by
  cbv

theorem route_entry : entrySetup.rule.Route entrySetup.graph (.expr ⟨1⟩)
    [.expr ⟨1⟩, .postUpdate ⟨0⟩, .expr ⟨3⟩, .expr ⟨5⟩, .expr ⟨7⟩]
    [.push (some ⟨0⟩), .keep, .push none, .load (some ⟨1⟩)] (.expr ⟨7⟩) := by
  have h1 : ⟨.postUpdate ⟨0⟩, .fieldStore ⟨0⟩⟩ ∈
      entrySetup.rule.moves entrySetup.graph (.expr ⟨1⟩) := List.contains_iff_mem.mp (by cbv)
  have h2 : ⟨.expr ⟨3⟩, .localAssign⟩ ∈
      entrySetup.rule.moves entrySetup.graph (.postUpdate ⟨0⟩) := List.contains_iff_mem.mp (by cbv)
  have h3 : ⟨.expr ⟨5⟩, .localAssign⟩ ∈
      entrySetup.rule.moves entrySetup.graph (.expr ⟨3⟩) := List.contains_iff_mem.mp (by cbv)
  have h4 : ⟨.expr ⟨7⟩, .fieldLoad (some ⟨1⟩)⟩ ∈
      entrySetup.rule.moves entrySetup.graph (.expr ⟨5⟩) := List.contains_iff_mem.mp (by cbv)
  exact .move (.move (.move (.move (.source rfl) h1 rfl) h2 rfl) h3 rfl) h4 rfl

theorem not_admits_entry : ¬ (run entrySetup entrySources).progress.Admits (.expr ⟨7⟩) := by
  intro h
  have hmem := h.mem_nodes
  rw [nodes_entry] at hmem
  simp at hmem

theorem halt_entry : (run entrySetup entrySources).halt = none := by cbv

/-- Not every node on an allowed route is admitted: what is read from the hash is not. -/
theorem not_forall_allowed_admits : ¬ ∀ s sources, s.graph.program.validate = .ok () →
    s.knobs.fieldSensitive = true → s.knobs.contextSensitive = false →
    (run s sources).halt = none → ∀ source ∈ sources, ∀ nodes accesses n,
      s.rule.Route s.graph source nodes accesses n → Access.Allowed accesses →
        ∀ m ∈ nodes, (run s sources).progress.Admits m := by
  intro h
  have hv : entryProgram.validate = .ok () := by cbv
  exact not_admits_entry (h entrySetup entrySources hv rfl rfl halt_entry _
    (List.mem_singleton_self _) _ _ _ route_entry ⟨[some ⟨0⟩], by decide⟩ _ (by simp))

theorem admits_of_allowed_entry :
    entrySetup.knobs.fieldSensitive = true ∧ entrySetup.knobs.contextSensitive = false ∧
      (run entrySetup entrySources).halt = none ∧
      (∃ g f between, Access.Mismatch g f between
        [.push (some ⟨0⟩), .keep, .push none, .load (some ⟨1⟩)] ∧ .push none ∈ between) ∧
      ∀ nodes accesses,
        entrySetup.rule.Route entrySetup.graph (.expr ⟨1⟩) nodes accesses (.expr ⟨7⟩) →
          ∃ g f between, Access.Mismatch g f between accesses := by
  obtain ⟨hallowed, hiff⟩ := admits_of_allowed (s := entrySetup) rfl rfl halt_entry
  refine ⟨rfl, rfl, halt_entry, ?_, fun nodes accesses hroute ↦ ?_⟩
  · refine (hallowed _ (List.mem_singleton_self _) _ _ _ route_entry
      ⟨[some ⟨0⟩], by decide⟩).resolve_left fun hall ↦ ?_
    exact not_admits_entry (hall _ (by simp))
  · by_contra hm
    exact not_admits_entry ((hiff _).mpr ⟨_, List.mem_singleton_self _, _, _, hroute, hm⟩)

end Pass

end TaintFlow
