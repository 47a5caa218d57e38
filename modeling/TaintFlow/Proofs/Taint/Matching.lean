import TaintFlow.Proofs.Taint.AccessPaths
import TaintFlow.Proofs.Taint.CallStrings
import TaintFlow.Proofs.Taint.Sensitivity

namespace TaintFlow

namespace Rule

variable {r : Rule} {g : FlowGraph} {k : Knobs} {a b : TaintKey} {via : EdgeKind}

theorem Passes.run_access (h : r.Passes g k via a b) (hf : k.fieldSensitive = true) :
    (g.access a.node ⟨b.node, via⟩).slot.run a.content = some b.content := by
  have ht := h.transfer
  rw [Knobs.transfer_eq_blur] at ht
  obtain ⟨content, hcontent, ht⟩ := Option.bind_eq_some_iff.mp ht
  obtain ⟨context, -, hb⟩ := Option.map_eq_some_iff.mp ht
  have hkept : b.content = content := by
    rw [← hb]
    exact if_pos hf
  rw [← Access.shallow_eq_run, ← Knobs.content?_eq hf, hcontent, hkept]

theorem Passes.run_crossing (h : r.Passes g k via a b) (hc : k.contextSensitive = true) :
    (g.crossing a.node ⟨b.node, via⟩).slot.run a.context = some b.context := by
  have ht := h.transfer
  rw [Knobs.transfer_eq_crossing hc ⟨b.node, via⟩] at ht
  obtain ⟨content, -, ht⟩ := Option.bind_eq_some_iff.mp ht
  obtain ⟨context, hcontext, hb⟩ := Option.map_eq_some_iff.mp ht
  rw [hcontext, ← hb]

end Rule

namespace Arena

/-- From the state `start` to the state `id`, each the parent of the next: the edges taken, each
with the node that it is taken from. -/
inductive Chain (a : Arena) (start : StateId) : List (FlowNode × FlowEdge) → StateId → Prop
  | start {x : PathState} : a.get? start = some x → Chain a start [] start
  | child {steps : List (FlowNode × FlowEdge)} {parent id : StateId} {x y : PathState}
      {via : EdgeKind} :
      Chain a start steps parent → a.get? parent = some x → a.get? id = some y →
      y.parent = some parent → y.via = some via →
      Chain a start (steps ++ [(x.key.node, ⟨y.key.node, via⟩)]) id

variable {r : Rule} {g : FlowGraph} {k : Knobs} {sources : List FlowNode} {a : Arena}
  {start id : StateId} {steps : List (FlowNode × FlowEdge)} {x y : PathState}

theorem Chain.exists_start (h : a.Chain start steps id) : ∃ x, a.get? start = some x := by
  induction h with
  | start hx => exact ⟨_, hx⟩
  | child _ _ _ _ _ ih => exact ih

theorem Chain.exists_end (h : a.Chain start steps id) : ∃ x, a.get? id = some x := by
  cases h with
  | start hx => exact ⟨_, hx⟩
  | child _ _ hy => exact ⟨_, hy⟩

section

variable {β : Type} [DecidableEq β] (slot : FlowNode × FlowEdge → Slot β)
  (held : TaintKey → Option β) (hb : a.BreadthFirst r g k sources)
  (hstep : ∀ via b c, r.Passes g k via b c →
    (slot (b.node, ⟨c.node, via⟩)).run (held b) = some (held c))
include hb hstep

/-- A memory that each step of taint acts on is acted on by the steps of a chain in order. -/
theorem Chain.run? (h : a.Chain start steps id) (hx : a.get? start = some x)
    (hy : a.get? id = some y) :
    Slot.run? slot (held x.key) steps = some (held y.key) := by
  induction h generalizing y with
  | start _ =>
    rw [hx] at hy
    cases hy
    rfl
  | child hchain hparent hchild hlink hvia ih =>
    rw [hchild] at hy
    cases hy
    obtain ⟨parent, via, hget, -, hvia', -, hpass⟩ := hb.passes_of_parent hchild hlink
    rw [hparent] at hget
    cases hget
    rw [hvia] at hvia'
    cases hvia'
    rw [Slot.run?_concat, ih hparent, Option.bind_some]
    exact hstep _ _ _ hpass

theorem Chain.eq_of_between {stored demanded : β}
    {before between after : List (FlowNode × FlowEdge)} {store demand : FlowNode × FlowEdge}
    (h : a.Chain start (before ++ store :: (between ++ demand :: after)) id)
    (hs : slot store = .store stored) (hd : slot demand = .demand demanded)
    (hk : ∀ step ∈ between, slot step = .keep) : demanded = stored := by
  by_contra hne
  obtain ⟨x, hx⟩ := h.exists_start
  obtain ⟨y, hy⟩ := h.exists_end
  have hclash : Slot.Clash slot stored demanded between
      (before ++ store :: (between ++ demand :: after)) :=
    ⟨hne, hk, before, store, demand, after, hs, hd, rfl⟩
  have hrun := h.run? slot held hb hstep hx hy
  rw [hclash.run?_eq_none] at hrun
  cases hrun

end

end Arena

def EdgeKind.keepsField : EdgeKind → Bool
  | .localAssign | .callToParameter _ | .returnToCallResult _ => true
  | _ => false

def FlowGraph.StaysInside (g : FlowGraph) (step : FlowNode × FlowEdge) : Prop :=
  step.2.kind.isInterprocedural = false ∧ g.functionOf step.1 = g.functionOf step.2.target

instance (g : FlowGraph) (step : FlowNode × FlowEdge) : Decidable (g.StaysInside step) :=
  inferInstanceAs (Decidable (_ ∧ _))

namespace FlowGraph

variable {g : FlowGraph} {step : FlowNode × FlowEdge}

theorem slot_access_of_keepsField (h : step.2.kind.keepsField = true) :
    (g.access step.1 step.2).slot = .keep := by
  obtain ⟨n, target, kind⟩ := step
  cases kind with
  | localAssign =>
    simp only [access]
    split <;> rfl
  | callToParameter | returnToCallResult => rfl
  | fieldStore | fieldLoad | additionalStep | taintStep => cases h

theorem slot_crossing_of_staysInside (h : g.StaysInside step) :
    (g.crossing step.1 step.2).slot = .keep := by
  obtain ⟨n, target, kind⟩ := step
  obtain ⟨hkind, hsame⟩ := h
  have hstay : g.crossing n ⟨target, kind⟩ = .stay := by
    cases kind with
    | callToParameter | returnToCallResult => cases hkind
    | _ => exact if_pos hsame
  rw [hstay, Crossing.slot]

end FlowGraph

namespace Pass

variable {s : Setup} {sources : List FlowNode}

/-- On a chain of states that a pass has recorded, halted or not, taint stored under a field is not
loaded from another as long as assignments, calls and returns only come in between. Taint that has
entered a function by a call does not return to another as long as it has stayed in the function. -/
theorem chain_matched (ha : ∀ f, (run s sources).halt ≠ some (.fault f))
    {start id : StateId} {steps before between after : List (FlowNode × FlowEdge)}
    {first last : FlowNode × FlowEdge}
    (h : (run s sources).progress.arena.Chain start steps id)
    (hsteps : steps = before ++ first :: (between ++ last :: after)) :
    (s.knobs.fieldSensitive = true → ∀ stored loaded, first.2.kind = .fieldStore stored →
      last.2.kind = .fieldLoad (some loaded) → (∀ step ∈ between, step.2.kind.keepsField = true) →
        stored = loaded) ∧
      (s.knobs.contextSensitive = true → ∀ entered left,
        first.2.kind = .callToParameter entered → last.2.kind = .returnToCallResult left →
          (∀ step ∈ between, s.graph.StaysInside step) → entered = left) := by
  obtain ⟨hsound, -, -⟩ := run_sound (Outcome.answered ha)
  rw [hsteps] at h
  constructor
  · intro hf stored loaded hfirst hlast hkeep
    have hloaded : loaded = stored :=
      h.eq_of_between (fun step ↦ (s.graph.access step.1 step.2).slot) (·.content)
        hsound.forest (fun _ _ _ hp ↦ hp.run_access hf)
        (by simp only [FlowGraph.access, hfirst, Access.slot])
        (by simp only [FlowGraph.access, hlast, Access.slot])
        (fun step hs ↦ FlowGraph.slot_access_of_keepsField (hkeep step hs))
    exact hloaded.symm
  · intro hc entered left hfirst hlast hstay
    have hleft : left = entered :=
      h.eq_of_between (fun step ↦ (s.graph.crossing step.1 step.2).slot) (·.context)
        hsound.forest (fun _ _ _ hp ↦ hp.run_crossing hc)
        (by simp only [FlowGraph.crossing, hfirst, Crossing.slot])
        (by simp only [FlowGraph.crossing, hlast, Crossing.slot])
        (fun step hs ↦ FlowGraph.slot_crossing_of_staysInside (hstay step hs))
    exact hleft.symm

def relaySteps : List (FlowNode × FlowEdge) :=
  [(.expr ⟨1⟩, ⟨.postUpdate ⟨0⟩, .fieldStore ⟨0⟩⟩), (.postUpdate ⟨0⟩, ⟨.expr ⟨3⟩, .localAssign⟩),
    (.expr ⟨3⟩, ⟨.param ⟨1⟩, .callToParameter ⟨4⟩⟩), (.param ⟨1⟩, ⟨.expr ⟨5⟩, .localAssign⟩),
    (.expr ⟨5⟩, ⟨.returned ⟨1⟩, .localAssign⟩),
    (.returned ⟨1⟩, ⟨.expr ⟨4⟩, .returnToCallResult ⟨4⟩⟩),
    (.expr ⟨4⟩, ⟨.expr ⟨6⟩, .fieldLoad (some ⟨0⟩)⟩)]

def relayArena : Arena where
  states := #[⟨⟨.expr ⟨1⟩, none, none⟩, none, none, ⟨0⟩⟩,
    ⟨⟨.expr ⟨2⟩, none, none⟩, some ⟨0⟩, some .localAssign, ⟨0⟩⟩,
    ⟨⟨.postUpdate ⟨0⟩, some ⟨0⟩, none⟩, some ⟨0⟩, some (.fieldStore ⟨0⟩), ⟨0⟩⟩,
    ⟨⟨.expr ⟨3⟩, some ⟨0⟩, none⟩, some ⟨2⟩, some .localAssign, ⟨0⟩⟩,
    ⟨⟨.param ⟨1⟩, some ⟨0⟩, some ⟨4⟩⟩, some ⟨3⟩, some (.callToParameter ⟨4⟩), ⟨0⟩⟩,
    ⟨⟨.expr ⟨5⟩, some ⟨0⟩, some ⟨4⟩⟩, some ⟨4⟩, some .localAssign, ⟨0⟩⟩,
    ⟨⟨.returned ⟨1⟩, some ⟨0⟩, some ⟨4⟩⟩, some ⟨5⟩, some .localAssign, ⟨0⟩⟩,
    ⟨⟨.expr ⟨4⟩, some ⟨0⟩, none⟩, some ⟨6⟩, some (.returnToCallResult ⟨4⟩), ⟨0⟩⟩,
    ⟨⟨.expr ⟨6⟩, none, none⟩, some ⟨7⟩, some (.fieldLoad (some ⟨0⟩)), ⟨0⟩⟩]

theorem arena_relay : (run relaySetup relaySources).progress.arena = relayArena := by
  have hstates : (run relaySetup relaySources).progress.arena.states = relayArena.states :=
    Array.ext' (by cbv)
  exact congrArg Arena.mk hstates

theorem chain_relay : relayArena.Chain ⟨0⟩ relaySteps ⟨8⟩ := by
  have hstored := (Arena.Chain.start rfl : relayArena.Chain ⟨0⟩ [] ⟨0⟩).child rfl
    (rfl : relayArena.get? ⟨2⟩ = some _) rfl rfl
  have hread := hstored.child rfl (rfl : relayArena.get? ⟨3⟩ = some _) rfl rfl
  have hcalled := hread.child rfl (rfl : relayArena.get? ⟨4⟩ = some _) rfl rfl
  have hinside := hcalled.child rfl (rfl : relayArena.get? ⟨5⟩ = some _) rfl rfl
  have hreturned := hinside.child rfl (rfl : relayArena.get? ⟨6⟩ = some _) rfl rfl
  have hback := hreturned.child rfl (rfl : relayArena.get? ⟨7⟩ = some _) rfl rfl
  exact hback.child rfl (rfl : relayArena.get? ⟨8⟩ = some _) rfl rfl

/-- Between the store and the load there are a call and a return, and between these only steps
inside the function called. -/
theorem chain_matched_relay :
    relaySetup.knobs.fieldSensitive = true ∧ relaySetup.knobs.contextSensitive = true ∧
      (∀ f, (run relaySetup relaySources).halt ≠ some (.fault f)) ∧
      (run relaySetup relaySources).progress.arena.Chain ⟨0⟩ relaySteps ⟨8⟩ ∧
      (∀ stored loaded, (relaySteps[0]?).map (·.2.kind) = some (.fieldStore stored) →
        (relaySteps[6]?).map (·.2.kind) = some (.fieldLoad (some loaded)) → stored = loaded) ∧
      ∀ entered left, (relaySteps[2]?).map (·.2.kind) = some (.callToParameter entered) →
        (relaySteps[5]?).map (·.2.kind) = some (.returnToCallResult left) → entered = left := by
  have ha : ∀ f, (run relaySetup relaySources).halt ≠ some (.fault f) := by simp [halt_relay]
  have hchain : (run relaySetup relaySources).progress.arena.Chain ⟨0⟩ relaySteps ⟨8⟩ := by
    rw [arena_relay]
    exact chain_relay
  refine ⟨rfl, rfl, ha, hchain, fun stored loaded hs hl ↦ ?_, fun entered left he hl ↦ ?_⟩
  · have hsteps : relaySteps = [] ++ relaySteps[0] ::
        ((relaySteps.drop 1).take 5 ++ relaySteps[6] :: []) := rfl
    exact (chain_matched ha hchain hsteps).1 rfl stored loaded (Option.some.inj hs)
      (Option.some.inj hl) (by decide)
  · have hsteps : relaySteps = relaySteps.take 2 ++ relaySteps[2] ::
        ((relaySteps.drop 3).take 2 ++ relaySteps[5] :: relaySteps.drop 6) := rfl
    exact (chain_matched ha hchain hsteps).2 rfl entered left (Option.some.inj he)
      (Option.some.inj hl) (by decide)

end Pass

end TaintFlow
