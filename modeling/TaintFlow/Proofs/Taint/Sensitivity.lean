import TaintFlow.Proofs.Taint.Ways

namespace TaintFlow

namespace Knobs

def blur (k : Knobs) (key : TaintKey) : TaintKey where
  node := key.node
  content := if k.fieldSensitive then key.content else none
  context := if k.contextSensitive then key.context else none

/-- What `k` tells apart, `fine` tells apart too. -/
structure Coarser (k fine : Knobs) : Prop where
  fields : k.fieldSensitive = true → fine.fieldSensitive = true
  calls : k.contextSensitive = true → fine.contextSensitive = true

variable {k fine : Knobs} {g : FlowGraph} {a b : TaintKey} {target : FlowNode} {via : EdgeKind}
  {content next : Option FieldId} {context entered : Option ExprId}

theorem blur_plain {n : FlowNode} : k.blur (.plain n) = .plain n := by
  simp [blur, TaintKey.plain]

theorem transfer_eq_blur : k.transfer g a target via =
    (k.content? a.content via).bind fun content ↦ (k.context? a.context via).map fun context ↦
      k.blur ⟨target, content,
        if !via.isInterprocedural && g.functionOf a.node != g.functionOf target then none
        else context⟩ := by
  unfold transfer blur
  cases k.content? a.content via with
  | none => rfl
  | some content =>
    cases k.context? a.context via with
    | none => rfl
    | some context =>
      generalize (!via.isInterprocedural && g.functionOf a.node != g.functionOf target) = leaves
      cases leaves <;> simp

theorem exists_content? (content : Option FieldId) (via : EdgeKind)
    (h : k.fieldSensitive = false) :
    ∃ next, k.content? content via = some next := by
  cases via with
  | fieldLoad field => cases field <;> simp [content?, h]
  | _ => exact ⟨_, rfl⟩

theorem exists_context? (context : Option ExprId) (via : EdgeKind)
    (h : k.contextSensitive = false) :
    ∃ entered, k.context? context via = some entered := by
  cases via with
  | returnToCallResult call => simp [context?, h]
  | _ => exact ⟨_, rfl⟩

theorem content?_congr (h : k.fieldSensitive = fine.fieldSensitive) :
    k.content? content via = fine.content? content via := by
  unfold content?
  rw [h]

theorem context?_congr (h : k.contextSensitive = fine.contextSensitive) :
    k.context? context via = fine.context? context via := by
  unfold context?
  rw [h]

theorem blur_congr (hn : a.node = b.node) (hf : k.fieldSensitive = true → a.content = b.content)
    (hc : k.contextSensitive = true → a.context = b.context) : k.blur a = k.blur b := by
  cases hkf : k.fieldSensitive <;> cases hkc : k.contextSensitive <;> simp_all [blur]

namespace Coarser

variable (h : k.Coarser fine)
include h

theorem blur_blur : k.blur (fine.blur a) = k.blur a := by
  refine blur_congr rfl (fun hf ↦ ?_) fun hc ↦ ?_
  · exact if_pos (h.fields hf)
  · exact if_pos (h.calls hc)

theorem content?_blur (hfine : fine.content? a.content via = some content) :
    ∃ next, k.content? (k.blur a).content via = some next ∧
      (k.fieldSensitive = true → next = content) := by
  cases hf : k.fieldSensitive with
  | false =>
    obtain ⟨next, hnext⟩ := exists_content? (k.blur a).content via hf
    exact ⟨next, hnext, by simp⟩
  | true =>
    refine ⟨content, ?_, fun _ ↦ rfl⟩
    rw [content?_congr (hf.trans (h.fields hf).symm), blur, if_pos hf, hfine]

theorem context?_blur (hfine : fine.context? a.context via = some context) :
    ∃ entered, k.context? (k.blur a).context via = some entered ∧
      (k.contextSensitive = true → entered = context) := by
  cases hc : k.contextSensitive with
  | false =>
    obtain ⟨entered, hentered⟩ := exists_context? (k.blur a).context via hc
    exact ⟨entered, hentered, by simp⟩
  | true =>
    refine ⟨context, ?_, fun _ ↦ rfl⟩
    rw [context?_congr (hc.trans (h.calls hc).symm), blur, if_pos hc, hfine]

/-- Taint that survives an edge under the finer knobs survives it under the coarser. -/
theorem transfer_blur (ht : fine.transfer g a target via = some b) :
    k.transfer g (k.blur a) target via = some (k.blur b) := by
  rw [transfer_eq_blur] at ht
  obtain ⟨content, hcontent, ht⟩ := Option.bind_eq_some_iff.mp ht
  obtain ⟨context, hcontext, rfl⟩ := Option.map_eq_some_iff.mp ht
  obtain ⟨next, hnext, hfield⟩ := h.content?_blur hcontent
  obtain ⟨entered, hentered, hcall⟩ := h.context?_blur hcontext
  rw [transfer_eq_blur, hnext, hentered, h.blur_blur]
  refine congrArg some (blur_congr rfl hfield fun hc ↦ ?_)
  rw [hcall hc]
  rfl

end Coarser

end Knobs

namespace Rule

variable {r : Rule} {g : FlowGraph} {k fine : Knobs} {a b : TaintKey} {via : EdgeKind} {n : Nat}

theorem Passes.blur (h : r.Passes g fine via a b) (hk : k.Coarser fine) :
    r.Passes g k via (k.blur a) (k.blur b) where
  move := h.move
  transfer := hk.transfer_blur h.transfer
  free := h.free

theorem Walk.blur (h : r.Walk g fine n a b) (hk : k.Coarser fine) :
    r.Walk g k n (k.blur a) (k.blur b) := by
  induction h with
  | nil => exact .nil _
  | snoc _ hp ih => exact ih.snoc (hp.blur hk)

end Rule

namespace Pass

def Progress.Reaches (p : Progress) (sink : FlowNode) (kind : SinkKind) : Prop :=
  ∃ reached ∈ p.reached.toList, reached.sink = sink ∧ reached.kind = kind

def Setup.tuned (s : Setup) (knobs : Knobs) (budget : Budget) : Setup :=
  { s with knobs, budget }

variable {s : Setup} {sources : List FlowNode} {p : Progress} {k : Knobs} {b : Budget}

theorem Progress.Sound.reaches_iff (h : p.Sound s sources) {sink : FlowNode} {kind : SinkKind} :
    p.Reaches sink kind ↔ p.Admits sink ∧ s.rule.sinkKind? s.graph sink = some kind := by
  constructor
  · rintro ⟨reached, hr, rfl, rfl⟩
    obtain ⟨id, x, source, kind, hx, -, hkind, rfl⟩ := h.mem_reached_iff.mp hr
    exact ⟨⟨x.key, ⟨id, x, hx, rfl⟩, rfl⟩, hkind⟩
  · rintro ⟨⟨_, ⟨id, x, hx, rfl⟩, rfl⟩, hkind⟩
    obtain ⟨source, -, -, hroot, -⟩ := h.forest.exists_root hx
    exact ⟨_, h.mem_reached_iff.mpr ⟨id, x, source, kind, hx, hroot, hkind, rfl⟩, rfl, rfl⟩

theorem holds_blur (hk : k.Coarser s.knobs)
    (ha : ∀ f, (run s sources).halt ≠ some (.fault f))
    (hn : (run (s.tuned k b) sources).halt = none) {key : TaintKey}
    (h : (run s sources).progress.arena.Holds key) :
    (run (s.tuned k b) sources).progress.arena.Holds (k.blur key) := by
  obtain ⟨id, x, hx, rfl⟩ := h
  obtain ⟨hsound, -, -⟩ := run_sound (Outcome.answered ha)
  obtain ⟨source, hs, hfree, -, d, hw⟩ := hsound.forest.exists_root hx
  have hw' := hw.blur hk
  rw [Knobs.blur_plain] at hw'
  exact (complete_of_halt hn).holds_of_walk hs hfree hw'

/-- Whatever node a pass admits, and whatever sink it reaches, a finished pass admits and reaches it
too if it tells apart no fields or calls that the first one does not. -/
theorem admits_of_coarser (hk : k.Coarser s.knobs)
    (ha : ∀ f, (run s sources).halt ≠ some (.fault f))
    (hn : (run (s.tuned k b) sources).halt = none) :
    (∀ n, (run s sources).progress.Admits n →
      (run (s.tuned k b) sources).progress.Admits n) ∧
      ∀ sink kind, (run s sources).progress.Reaches sink kind →
        (run (s.tuned k b) sources).progress.Reaches sink kind := by
  have hadmits : ∀ n, (run s sources).progress.Admits n →
      (run (s.tuned k b) sources).progress.Admits n := by
    rintro _ ⟨key, hkey, rfl⟩
    exact ⟨k.blur key, holds_blur hk ha hn hkey, rfl⟩
  refine ⟨hadmits, fun sink kind hreached ↦ ?_⟩
  have ha' : ∀ f, (run (s.tuned k b) sources).halt ≠ some (.fault f) := by simp [hn]
  obtain ⟨hsound, -, -⟩ := run_sound (Outcome.answered ha)
  obtain ⟨hsound', -, -⟩ := run_sound (Outcome.answered ha')
  obtain ⟨hadmitted, hkind⟩ := hsound.reaches_iff.mp hreached
  exact hsound'.reaches_iff.mpr ⟨hadmits sink hadmitted, hkind⟩

def relayProgram : Program where
  functions := #[⟨⟨0⟩, "main", "relay.rb", [], none, [], default⟩,
    ⟨⟨1⟩, "relay", "relay.rb", [⟨1⟩], none, [⟨5⟩], default⟩]
  vars := #[⟨⟨0⟩, "obj", some ⟨0⟩, none, .localVar, none, default⟩,
    ⟨⟨1⟩, "x", some ⟨1⟩, none, .parameter 0, none, default⟩]
  fields := #[⟨⟨0⟩, "a"⟩, ⟨⟨1⟩, "b"⟩]
  exprs := #[⟨⟨0⟩, ⟨0⟩, default, "obj", .read ⟨0⟩ [], []⟩,
    ⟨⟨1⟩, ⟨0⟩, default, "secret()", .call { name := "secret" }, []⟩,
    ⟨⟨2⟩, ⟨0⟩, default, "obj.a = secret()", .fieldStore ⟨0⟩ ⟨0⟩ ⟨1⟩, []⟩,
    ⟨⟨3⟩, ⟨0⟩, default, "obj", .read ⟨0⟩ [.mutation ⟨0⟩], []⟩,
    ⟨⟨4⟩, ⟨0⟩, default, "relay(obj)",
      .call { name := "relay", args := [⟨3⟩], target := some ⟨1⟩ }, []⟩,
    ⟨⟨5⟩, ⟨1⟩, default, "x", .read ⟨1⟩ [.param ⟨1⟩], []⟩,
    ⟨⟨6⟩, ⟨0⟩, default, "relay(obj).a", .fieldLoad ⟨4⟩ ⟨0⟩, []⟩,
    ⟨⟨7⟩, ⟨0⟩, default, "relay(obj).b", .fieldLoad ⟨4⟩ ⟨1⟩, []⟩,
    ⟨⟨8⟩, ⟨0⟩, default, "1", .literal (.number "1"), []⟩,
    ⟨⟨9⟩, ⟨0⟩, default, "relay(1)",
      .call { name := "relay", args := [⟨8⟩], target := some ⟨1⟩ }, []⟩]

def relaySources : List FlowNode := [.expr ⟨1⟩]

def relaySetup : Setup where
  graph := .ofProgram relayProgram
  rule := {
    name := "relay"
    isSource := fun _ n ↦ relaySources.contains n
    sinkKind? := fun _ n ↦ if n = .expr ⟨6⟩ || n = .expr ⟨9⟩ then some .logging else none }
  knobs := .ofPreset .balanced
  budget := .unlimited

def bluntRelaySetup : Setup :=
  relaySetup.tuned (.ofPreset .fast) .unlimited

theorem nodes_relay :
    (run relaySetup relaySources).progress.arena.states.toList.map (·.key.node) =
      [.expr ⟨1⟩, .expr ⟨2⟩, .postUpdate ⟨0⟩, .expr ⟨3⟩, .param ⟨1⟩, .expr ⟨5⟩, .returned ⟨1⟩,
        .expr ⟨4⟩, .expr ⟨6⟩] := by
  cbv

theorem nodes_bluntRelay :
    (run bluntRelaySetup relaySources).progress.arena.states.toList.map (·.key.node) =
      [.expr ⟨1⟩, .expr ⟨2⟩, .postUpdate ⟨0⟩, .expr ⟨3⟩, .param ⟨1⟩, .expr ⟨5⟩, .returned ⟨1⟩,
        .expr ⟨4⟩, .expr ⟨9⟩, .expr ⟨6⟩, .expr ⟨7⟩] := by
  cbv

theorem halt_relay : (run relaySetup relaySources).halt = none := by cbv

/-- Without telling fields and calls apart, a pass finds again that the secret is read from its
field. It also finds it in the other field, and in what the other call returns. -/
theorem admits_of_coarser_relay :
    (Knobs.ofPreset .fast).Coarser relaySetup.knobs ∧
      (∀ f, (run relaySetup relaySources).halt ≠ some (.fault f)) ∧
      (run bluntRelaySetup relaySources).halt = none ∧
      (run bluntRelaySetup relaySources).progress.Admits (.expr ⟨6⟩) ∧
      (run bluntRelaySetup relaySources).progress.Reaches (.expr ⟨6⟩) .logging ∧
      ∀ e : ExprId, e = ⟨7⟩ ∨ e = ⟨9⟩ →
        (run bluntRelaySetup relaySources).progress.Admits (.expr e) ∧
          ¬ (run relaySetup relaySources).progress.Admits (.expr e) := by
  have hk : (Knobs.ofPreset .fast).Coarser relaySetup.knobs := ⟨fun _ ↦ rfl, fun _ ↦ rfl⟩
  have ha : ∀ f, (run relaySetup relaySources).halt ≠ some (.fault f) := by simp [halt_relay]
  have hn : (run bluntRelaySetup relaySources).halt = none := by cbv
  obtain ⟨hadmits, hreaches⟩ := admits_of_coarser hk ha hn
  have hfield : (run relaySetup relaySources).progress.Admits (.expr ⟨6⟩) :=
    Progress.admits_of_mem_nodes (by rw [nodes_relay]; simp)
  have hsound := (run_sound (Outcome.answered ha)).1
  have hlogged : (run relaySetup relaySources).progress.Reaches (.expr ⟨6⟩) .logging :=
    hsound.reaches_iff.mpr ⟨hfield, rfl⟩
  refine ⟨hk, ha, hn, hadmits _ hfield, hreaches _ _ hlogged, fun e he ↦ ⟨?_, fun hfound ↦ ?_⟩⟩
  · apply Progress.admits_of_mem_nodes
    rw [nodes_bluntRelay]
    rcases he with rfl | rfl <;> simp
  · have hmem := hfound.mem_nodes
    rw [nodes_relay] at hmem
    rcases he with rfl | rfl <;> simp at hmem

end Pass

end TaintFlow
