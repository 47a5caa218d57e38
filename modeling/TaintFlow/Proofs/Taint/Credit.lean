import TaintFlow.Proofs.Taint.Chains
import TaintFlow.Proofs.Taint.Collection

namespace TaintFlow

namespace Rule

section

variable (r : Rule) (g : FlowGraph) (k : Knobs) (sources : List FlowNode)

/-- Taint gets from `source` to a key. From no other source does it get there in fewer steps, and
from none that is earlier in the list in as many. -/
structure Credits (source : FlowNode) (key : TaintKey) : Prop where
  mem : source ∈ sources
  free : r.isBlocked g source = false
  nearest : ∃ n, r.Walk g k n (.plain source) key ∧ ∀ m, ∀ other ∈ sources,
    r.isBlocked g other = false → r.Walk g k m (.plain other) key →
      n ≤ m ∧ (m = n → sources.idxOf source ≤ sources.idxOf other)

/-- A sink of kind `kind` at `sink` is credited to `source`, and no sink that hides it is. -/
structure Attributes (source sink : FlowNode) (kind : SinkKind) : Prop where
  credited : ∃ key, r.Credits g k sources source key ∧ key.node = sink
  isSink : r.sinkKind? g sink = some kind
  shown : ∀ key other, r.Credits g k sources source key →
    r.sinkKind? g key.node = some other → r.suppresses other kind = false

def Hides (key : TaintKey) (kind : SinkKind) : Prop :=
  ∃ other, r.sinkKind? g key.node = some other ∧ r.suppresses other kind = true

end

variable {r : Rule} {g : FlowGraph} {k : Knobs} {sources : List FlowNode}
  {source other sink : FlowNode} {key : TaintKey} {kind : SinkKind}

theorem Credits.reaches (h : r.Credits g k sources source key) :
    r.Reaches g k (.plain source) key := by
  obtain ⟨n, hw, -⟩ := h.nearest
  exact ⟨n, hw⟩

theorem Credits.unique (h : r.Credits g k sources source key)
    (ho : r.Credits g k sources other key) : source = other := by
  obtain ⟨n, hw, hn⟩ := h.nearest
  obtain ⟨m, hwo, hm⟩ := ho.nearest
  obtain ⟨hnm, hle⟩ := hn m other ho.mem ho.free hwo
  obtain ⟨hmn, hge⟩ := hm n source h.mem h.free hw
  have he : m = n := Nat.le_antisymm hmn hnm
  have hidx := Nat.le_antisymm (hle he) (hge he.symm)
  exact (List.idxOf_inj h.mem).mp hidx

theorem exists_credits (hs : source ∈ sources) (hf : r.isBlocked g source = false)
    (hr : r.Reaches g k (.plain source) key) : ∃ first, r.Credits g k sources first key := by
  classical
  -- First the least distance from a source, then the first source at that distance.
  have hwalk : ∃ n, r.WalkFrom g k sources n key := hr.imp fun n hw ↦ ⟨source, hs, hf, hw⟩
  have hfirst : ∃ i, ∃ first ∈ sources, r.isBlocked g first = false ∧
      r.Walk g k (Nat.find hwalk) (.plain first) key ∧ sources.idxOf first = i := by
    obtain ⟨first, hmem, hfree, hw⟩ := Nat.find_spec hwalk
    exact ⟨_, first, hmem, hfree, hw, rfl⟩
  obtain ⟨first, hmem, hfree, hw, hi⟩ := Nat.find_spec hfirst
  refine ⟨first, hmem, hfree, _, hw, fun m other ho hof hwo ↦ ⟨?_, ?_⟩⟩
  · exact Nat.find_min' hwalk ⟨other, ho, hof, hwo⟩
  · rintro rfl
    rw [hi]
    exact Nat.find_min' hfirst ⟨other, ho, hof, hwo, rfl⟩

theorem credits_singleton : r.Credits g k [other] source key ↔
    source = other ∧ r.isBlocked g other = false ∧ r.Reaches g k (.plain other) key := by
  constructor
  · intro h
    obtain rfl := List.mem_singleton.mp h.mem
    exact ⟨rfl, h.free, h.reaches⟩
  · rintro ⟨rfl, hf, hr⟩
    obtain ⟨first, hc⟩ := exists_credits (List.mem_singleton_self source) hf hr
    rwa [List.mem_singleton.mp hc.mem] at hc

theorem attributes_singleton : r.Attributes g k [other] source sink kind ↔
    source = other ∧ r.Exposes g k source sink kind := by
  constructor
  · rintro ⟨⟨key, hc, hn⟩, hk, hshown⟩
    obtain ⟨rfl, hf, hr⟩ := credits_singleton.mp hc
    exact ⟨rfl, hf, ⟨key, hr, hn⟩, hk, fun key kind' hr' ↦
      hshown key kind' (credits_singleton.mpr ⟨rfl, hf, hr'⟩)⟩
  · rintro ⟨rfl, hf, ⟨key, hr, hn⟩, hk, hshown⟩
    exact ⟨⟨key, credits_singleton.mpr ⟨rfl, hf, hr⟩, hn⟩, hk, fun key kind' hc ↦
      hshown key kind' hc.reaches⟩

theorem exposes_iff : r.Exposes g k source sink kind ↔ r.isBlocked g source = false ∧
    (∃ key, r.Reaches g k (.plain source) key ∧ key.node = sink) ∧
      r.sinkKind? g sink = some kind ∧
      ∀ key, r.Reaches g k (.plain source) key → ¬ r.Hides g key kind := by
  constructor
  · rintro ⟨hf, hr, hk, hshown⟩
    refine ⟨hf, hr, hk, fun key hkey ⟨other, ho, hhides⟩ ↦ ?_⟩
    rw [hshown key other hkey ho] at hhides
    cases hhides
  · rintro ⟨hf, hr, hk, hshown⟩
    refine ⟨hf, hr, hk, fun key other hkey ho ↦ ?_⟩
    exact Bool.eq_false_iff.mpr fun hhides ↦ hshown key hkey ⟨other, ho, hhides⟩

theorem Attributes.not_hides {key : TaintKey} (h : r.Attributes g k sources source sink kind)
    (hc : r.Credits g k sources source key) : ¬ r.Hides g key kind := by
  rintro ⟨other, ho, hhides⟩
  rw [h.shown key other hc ho] at hhides
  cases hhides

end Rule

namespace Arena.Complete

variable {r : Rule} {g : FlowGraph} {k : Knobs} {sources : List FlowNode} {a : Arena}
  {source : FlowNode} {key : TaintKey} {id : StateId} {x : PathState}

theorem exists_credits (h : a.Complete r g k sources) (hx : a.get? id = some x) :
    ∃ source, r.Credits g k sources source x.key ∧
      a.get? x.root = some ⟨.plain source, none, none, x.root⟩ := by
  obtain ⟨n, -, hleast, source, hs, hf, hroot, hw, hfirst⟩ := h.exists_shortestChain hx
  refine ⟨source, ⟨hs, hf, n, hw, fun m other ho hof hwo ↦ ⟨?_, ?_⟩⟩, hroot⟩
  · exact hleast.2 ⟨other, ho, hof, hwo⟩
  · rintro rfl
    exact hfirst other ho hof hwo

theorem exists_state (h : a.Complete r g k sources) (hc : r.Credits g k sources source key) :
    ∃ id x, a.get? id = some x ∧ x.key = key ∧
      a.get? x.root = some ⟨.plain source, none, none, x.root⟩ := by
  obtain ⟨n, hw, -⟩ := hc.nearest
  obtain ⟨id, x, hx, rfl⟩ := h.holds_of_walk hc.mem hc.free hw
  obtain ⟨first, hfirst, hroot⟩ := h.exists_credits hx
  obtain rfl := hc.unique hfirst
  exact ⟨id, x, hx, rfl, hroot⟩

end Arena.Complete

namespace Pass.Progress.Sound

variable {s : Setup} {sources : List FlowNode} {p : Progress} {reached other : ReachedSink}
  {source : FlowNode} {key : TaintKey} {kind : SinkKind}

section

variable (h : p.Sound s sources)
include h

theorem get?_root_of_mem_reached (hr : reached ∈ p.reached.toList) :
    p.arena.get? reached.root = some ⟨.plain reached.source, none, none, reached.root⟩ := by
  obtain ⟨id, x, source, kind, -, hroot, -, rfl⟩ := h.mem_reached_iff.mp hr
  exact hroot

theorem root_eq_iff (hr : reached ∈ p.reached.toList) (ho : other ∈ p.reached.toList) :
    other.root = reached.root ↔ other.source = reached.source := by
  have hroot := h.get?_root_of_mem_reached hr
  have hroot' := h.get?_root_of_mem_reached ho
  constructor
  · intro he
    rw [he, hroot] at hroot'
    simp only [TaintKey.plain, Option.some.injEq, PathState.mk.injEq, TaintKey.mk.injEq] at hroot'
    exact hroot'.1.1.symm
  · intro he
    exact h.forest.distinct _ _ _ _ hroot' hroot (congrArg TaintKey.plain he)

end

variable (h : p.Sound s sources) (hc : p.arena.Complete s.rule s.graph s.knobs sources)
include h hc

theorem exists_credits_of_mem_reached (hr : reached ∈ p.reached.toList) :
    ∃ key, s.rule.Credits s.graph s.knobs sources reached.source key ∧
      key.node = reached.sink ∧ s.rule.sinkKind? s.graph reached.sink = some reached.kind := by
  obtain ⟨id, x, source, kind, hx, hroot, hk, rfl⟩ := h.mem_reached_iff.mp hr
  obtain ⟨first, hfirst, hroot'⟩ := hc.exists_credits hx
  rw [hroot] at hroot'
  cases hroot'
  exact ⟨x.key, hfirst, rfl, hk⟩

theorem mem_reached_of_credits (hcredits : s.rule.Credits s.graph s.knobs sources source key)
    (hk : s.rule.sinkKind? s.graph key.node = some kind) :
    ∃ reached ∈ p.reached.toList,
      reached.source = source ∧ reached.sink = key.node ∧ reached.kind = kind := by
  obtain ⟨id, x, hx, rfl, hroot⟩ := hc.exists_state hcredits
  exact ⟨_, h.mem_reached_iff.mpr ⟨id, x, source, kind, hx, hroot, hk, rfl⟩, rfl, rfl, rfl⟩

/-- A pass run to its end shows the sinks that are attributed to a source. -/
theorem exists_shows_iff_attributes {pair : FlowPair} :
    (∃ reached, p.Shows s.rule reached ∧ reached.pair = pair) ↔
      s.rule.Attributes s.graph s.knobs sources pair.1 pair.2.1 pair.2.2 := by
  constructor
  · rintro ⟨reached, ⟨hr, hshown⟩, rfl⟩
    obtain ⟨key, hcredits, hn, hk⟩ := h.exists_credits_of_mem_reached hc hr
    refine ⟨⟨key, hcredits, hn⟩, hk, fun key' kind' hcredits' hk' ↦ ?_⟩
    obtain ⟨other, ho, hsource, -, rfl⟩ := h.mem_reached_of_credits hc hcredits' hk'
    exact hshown other ho ((h.root_eq_iff hr ho).mpr hsource)
  · obtain ⟨source, sink, kind⟩ := pair
    rintro ⟨⟨key, hcredits, rfl⟩, hk, hshown⟩
    obtain ⟨reached, hr, rfl, hsink, rfl⟩ := h.mem_reached_of_credits hc hcredits hk
    refine ⟨reached, ⟨hr, fun other ho hroot ↦ ?_⟩, by rw [ReachedSink.pair, hsink]⟩
    obtain ⟨key', hcredits', hn', hk'⟩ := h.exists_credits_of_mem_reached hc ho
    rw [(h.root_eq_iff hr ho).mp hroot] at hcredits'
    exact hshown key' other.kind hcredits' (hn' ▸ hk')

end Pass.Progress.Sound

def Evaluation.Reports (ev : Evaluation) (source sink : FlowNode) (kind : SinkKind) : Prop :=
  (source, sink, kind) ∈ ev.findings.map Finding.pair
deriving Decidable

namespace Engine

def ruleSources (e : Engine) (r : Rule) : List FlowNode :=
  e.graph.nodes.filter (r.isSource e.graph)

variable {e : Engine} {r : Rule} {ev : Evaluation} {source sink : FlowNode} {kind : SinkKind}

/-- An evaluation run to its end reports what one of its passes attributes to a source. -/
theorem reports_iff (h : e.evaluate r = .ok ev) (hc : ev.complete = true) :
    ev.Reports source sink kind ↔ ∃ list ∈ e.sourceLists (e.ruleSources r),
      r.Attributes e.graph e.knobs list source sink kind := by
  obtain ⟨sources, hs, hok⟩ := evaluate_eq_ok h
  obtain ⟨hfindings, -, hcomplete⟩ := conclude_eq_ok hok
  obtain ⟨hhalt, hroom⟩ := hcomplete hc
  have hP : ∀ i, ∀ list ∈ e.sourceLists sources, (Pass.run (e.setup r i) list).halt = none →
      ∀ pair : FlowPair, (∃ reached, (Pass.run (e.setup r i) list).progress.Shows
        r reached ∧ reached.pair = pair) ↔
          r.Attributes e.graph e.knobs list pair.1 pair.2.1 pair.2.2 := by
    intro i list _ hn pair
    have hanswered : ∀ f, (Pass.run (e.setup r i) list).halt ≠ some (.fault f) := by simp [hn]
    obtain ⟨hsound, -, hcomplete⟩ := Pass.run_sound (Pass.Outcome.answered hanswered)
    exact hsound.exists_shows_iff_attributes (hcomplete hn)
  obtain ⟨-, hmem⟩ := passes_exact hP .empty hhalt hroom
  rw [Evaluation.Reports, hfindings, ruleSources, ← sources_eq_ok hs]
  exact (hmem _).trans (or_iff_right (by simp [Collection.pairs]))

theorem reports_perSource_iff (ha : e.knobs.attribution = .perSource)
    (h : e.evaluate r = .ok ev) (hc : ev.complete = true) : ev.Reports source sink kind ↔
      source ∈ e.ruleSources r ∧ r.Exposes e.graph e.knobs source sink kind := by
  simp [reports_iff h hc, sourceLists, ha, Rule.attributes_singleton]

theorem reports_shared_iff (ha : e.knobs.attribution = .shared)
    (h : e.evaluate r = .ok ev) (hc : ev.complete = true) : ev.Reports source sink kind ↔
      r.Attributes e.graph e.knobs (e.ruleSources r) source sink kind := by
  simp [reports_iff h hc, sourceLists, ha]

end Engine

end TaintFlow
