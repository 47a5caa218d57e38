import TaintFlow.Proofs.Program.Tables
import TaintFlow.Proofs.Taint.Credit
import TaintFlow.Rules.Builtin

namespace TaintFlow

namespace Transmission

variable (t : NameTables) (p : Program) (e : ExprId)

def Sends : Prop :=
  ∃ call site socket, p.call? call = some site ∧ isNetworkCall t site = true ∧
    p.isConstant socket = false ∧
      (site.receiver = some socket ∧ site.args[0]? = some e ∨
        site.receiver = none ∧ site.args[0]? = some socket ∧ site.args[1]? = some e)

def Encrypts : Prop :=
  ∃ call site, p.call? call = some site ∧ isEncryptionCall t site = true ∧
    (e = call ∨ e ∈ site.operands)

variable {t p e}

theorem any_isNetworkData_iff (hv : p.validate = .ok ()) :
    (p.index.uses.get e).any (isNetworkData t p) = true ↔ Sends t p e := by
  rw [List.any_eq_true]
  constructor
  · rintro ⟨⟨call, role⟩, hu, hdata⟩
    obtain ⟨site, hsite, hdata⟩ := (Option.any_eq_true _ _).mp hdata
    obtain ⟨hnet, hdata⟩ := Bool.and_eq_true_iff.mp hdata
    cases hr : site.receiver with
    | some socket =>
      simp only [hr, Bool.and_eq_true, decide_eq_true_eq, Bool.not_eq_true'] at hdata
      obtain ⟨rfl, hsocket⟩ := hdata
      obtain ⟨site', hsite', harg⟩ := (Program.mem_uses_argument hv).mp hu
      cases hsite.symm.trans hsite'
      exact ⟨call, site, socket, hsite, hnet, hsocket, .inl ⟨hr, harg⟩⟩
    | none =>
      simp only [hr, Bool.and_eq_true, decide_eq_true_eq, Option.any_eq_true, Bool.not_eq_true',
        List.head?_eq_getElem?] at hdata
      obtain ⟨rfl, socket, hhead, hsocket⟩ := hdata
      obtain ⟨site', hsite', harg⟩ := (Program.mem_uses_argument hv).mp hu
      cases hsite.symm.trans hsite'
      exact ⟨call, site, socket, hsite, hnet, hsocket, .inr ⟨hr, hhead, harg⟩⟩
  · rintro ⟨call, site, socket, hsite, hnet, hsocket, ⟨hr, harg⟩ | ⟨hr, hhead, harg⟩⟩
    · exact ⟨_, (Program.mem_uses_argument hv).mpr ⟨site, hsite, harg⟩, by
        simp [isNetworkData, hsite, hnet, hr, hsocket]⟩
    · exact ⟨_, (Program.mem_uses_argument hv).mpr ⟨site, hsite, harg⟩, by
        simp [isNetworkData, hsite, hnet, hr, hsocket, List.head?_eq_getElem?, hhead]⟩

theorem mem_uses_operand_iff (hv : p.validate = .ok ()) {call : ExprId} {site : CallSite}
    (hsite : p.call? call = some site) :
    (∃ u ∈ p.index.uses.get e, isOperandUse u = true ∧ u.user = call) ↔ e ∈ site.operands := by
  rw [CallSite.operands, List.mem_append, Option.mem_toList, List.mem_iff_getElem?]
  constructor
  · rintro ⟨⟨user, role⟩, hu, hrole, rfl⟩
    cases role with
    | argument i =>
      obtain ⟨site', hsite', harg⟩ := (Program.mem_uses_argument hv).mp hu
      cases hsite.symm.trans hsite'
      exact .inr ⟨i, harg⟩
    | receiver =>
      obtain ⟨site', hsite', hr⟩ := (Program.mem_uses_receiver hv).mp hu
      cases hsite.symm.trans hsite'
      exact .inl hr
    | _ => cases hrole
  · rintro (hr | ⟨i, harg⟩)
    · exact ⟨_, (Program.mem_uses_receiver hv).mpr ⟨site, hsite, hr⟩, rfl, rfl⟩
    · exact ⟨_, (Program.mem_uses_argument hv).mpr ⟨site, hsite, harg⟩, rfl, rfl⟩

theorem any_isEncryptionCall_iff (hv : p.validate = .ok ()) :
    ((p.call? e).any (isEncryptionCall t) || (p.index.uses.get e).any fun u ↦
      isOperandUse u && (p.call? u.user).any (isEncryptionCall t)) = true ↔ Encrypts t p e := by
  simp only [Bool.or_eq_true, Option.any_eq_true, List.any_eq_true, Bool.and_eq_true]
  constructor
  · rintro (⟨site, hsite, henc⟩ | ⟨u, hu, hop, site, hsite, henc⟩)
    · exact ⟨e, site, hsite, henc, .inl rfl⟩
    · exact ⟨u.user, site, hsite, henc,
        .inr ((mem_uses_operand_iff hv hsite).mp ⟨u, hu, hop, rfl⟩)⟩
  · rintro ⟨call, site, hsite, henc, rfl | hmem⟩
    · exact .inl ⟨site, hsite, henc⟩
    · obtain ⟨u, hu, hop, rfl⟩ := (mem_uses_operand_iff hv hsite).mpr hmem
      exact .inr ⟨u, hu, hop, site, hsite, henc⟩

section

variable {g : FlowGraph} {n : FlowNode} {kind : SinkKind} (hv : g.program.validate = .ok ())
include hv

/-- Only expressions are sinks, and what is sent is never an encryption sink. -/
theorem sinkKind?_eq_some_iff : sinkKind? t g n = some kind ↔ ∃ e, n = .expr e ∧
    (kind = .network ∧ Sends t g.program e ∨
      kind = .encryption ∧ Encrypts t g.program e ∧ ¬ Sends t g.program e) := by
  cases n with
  | expr e =>
    simp only [sinkKind?, FlowNode.expr.injEq, exists_eq_left']
    rw [g.index_eq]
    -- The tests become statements after splitting, for the statements are not decided.
    split
    · next hs => simp [(any_isNetworkData_iff hv).mp hs, eq_comm]
    · next hs =>
      rw [any_isNetworkData_iff hv] at hs
      split
      · next he => simp [hs, (any_isEncryptionCall_iff hv).mp he, eq_comm]
      · next he =>
        rw [any_isEncryptionCall_iff hv] at he
        simp [hs, he]
  | _ => simp [sinkKind?]

theorem hides_network_iff {key : TaintKey} : (rule t).Hides g key .network ↔
    ∃ e, key.node = .expr e ∧ Encrypts t g.program e ∧ ¬ Sends t g.program e := by
  constructor
  · rintro ⟨kind, hk, hhides⟩
    obtain ⟨e, hn, ⟨rfl, -⟩ | ⟨rfl, he, hs⟩⟩ := (sinkKind?_eq_some_iff hv).mp hk
    · cases hhides
    · exact ⟨e, hn, he, hs⟩
  · rintro ⟨e, hn, he, hs⟩
    exact ⟨.encryption, (sinkKind?_eq_some_iff hv).mpr ⟨e, hn, .inr ⟨rfl, he, hs⟩⟩, rfl⟩

theorem exists_passes_of_mem_operands {k : Knobs} {a : TaintKey} {x call : ExprId}
    {site : CallSite} (hn : a.node = .expr x) (hsite : g.program.call? call = some site)
    (henc : isEncryptionCall t site = true) (hx : x ∈ site.operands)
    (hf : (rule t).isBlocked g (.expr call) = false) :
    ∃ b, b.node = .expr call ∧ (rule t).Passes g k .additionalStep a b := by
  have hcand : .expr call ∈ g.stepCandidates a.node := by
    obtain ⟨⟨user, role⟩, hu, hop, rfl⟩ := (mem_uses_operand_iff hv hsite).mpr hx
    have hstep : role.isStep = true := by cases role <;> first | rfl | cases hop
    rw [hn, FlowGraph.stepCandidates, g.index_eq]
    exact List.mem_map.mpr ⟨_, List.mem_filter.mpr ⟨hu, hstep⟩, rfl⟩
  have hadd : isAdditionalStep t g a.node (.expr call) = true := by
    simp [isAdditionalStep, hn, FlowNode.expr?, hsite, henc, hx]
  have hmem : .expr call ∈ (rule t).additionalSteps g a.node :=
    List.mem_filter.mpr ⟨hcand, hadd⟩
  have hmove : ⟨.expr call, .additionalStep⟩ ∈ (rule t).moves g a.node :=
    List.mem_append_right _ (List.mem_map_of_mem hmem)
  obtain ⟨b, hb⟩ : ∃ b, k.transfer g a (.expr call) .additionalStep = some b := ⟨_, rfl⟩
  exact ⟨b, Knobs.node_of_transfer hb, .of_transfer hmove hb hf⟩

theorem exposes_network_iff {k : Knobs} {source sink : FlowNode} :
    (rule t).Exposes g k source sink .network ↔ (rule t).isBlocked g source = false ∧
      (∃ key, (rule t).Reaches g k (.plain source) key ∧ key.node = sink) ∧
      (∃ x, sink = .expr x ∧ Sends t g.program x) ∧
      ∀ key x, (rule t).Reaches g k (.plain source) key → key.node = .expr x →
        Encrypts t g.program x → Sends t g.program x := by
  have hsink : (rule t).sinkKind? g sink = some .network ↔
      ∃ x, sink = .expr x ∧ Sends t g.program x := by
    refine (sinkKind?_eq_some_iff hv).trans (exists_congr fun x ↦ ?_)
    simp
  rw [Rule.exposes_iff, hsink]
  refine and_congr_right' (and_congr_right' (and_congr_right' ?_))
  simp only [hides_network_iff hv, not_exists, not_and, not_not]
  exact ⟨fun h key x hr ↦ h key hr x, fun h key hr x ↦ h key x hr⟩

theorem exposes_encryption_iff {k : Knobs} {source sink : FlowNode} :
    (rule t).Exposes g k source sink .encryption ↔ (rule t).isBlocked g source = false ∧
      (∃ key, (rule t).Reaches g k (.plain source) key ∧ key.node = sink) ∧
      ∃ x, sink = .expr x ∧ Encrypts t g.program x ∧ ¬ Sends t g.program x := by
  have hsink : (rule t).sinkKind? g sink = some .encryption ↔
      ∃ x, sink = .expr x ∧ Encrypts t g.program x ∧ ¬ Sends t g.program x := by
    refine (sinkKind?_eq_some_iff hv).trans (exists_congr fun x ↦ ?_)
    simp
  have hhides (key : TaintKey) : ¬ (rule t).Hides g key .encryption := by
    simp [Rule.Hides, rule]
  rw [Rule.exposes_iff, hsink]
  simp only [hhides, not_false_eq_true, implies_true, and_true]

end

/-- Run to its end with a pass for each source, the rule reports a source as sent exactly if it gets
to something that is sent, and if all encryption it gets to is sent too. What gets to an operand of
an encryption call gets to the result, which hides that it is sent unless the result is sent itself
or blocked. Encryption that is not sent is reported in place of what it hides. -/
theorem reports_network_iff {engine : Engine} {ev : Evaluation}
    (hv : engine.graph.program.validate = .ok ()) (ha : engine.knobs.attribution = .perSource)
    (h : engine.evaluate (rule t) = .ok ev) (hc : ev.complete = true) :
    (∀ source sink, ev.Reports source sink .network ↔
      source ∈ engine.ruleSources (rule t) ∧ (rule t).isBlocked engine.graph source = false ∧
        (∃ key, (rule t).Reaches engine.graph engine.knobs (.plain source) key ∧
          key.node = sink) ∧
        (∃ x, sink = .expr x ∧ Sends t engine.graph.program x) ∧
        ∀ key x, (rule t).Reaches engine.graph engine.knobs (.plain source) key →
          key.node = .expr x → Encrypts t engine.graph.program x →
            Sends t engine.graph.program x) ∧
    (∀ source sink key x call site,
      (rule t).Reaches engine.graph engine.knobs (.plain source) key → key.node = .expr x →
        engine.graph.program.call? call = some site → isEncryptionCall t site = true →
        x ∈ site.operands → (rule t).isBlocked engine.graph (.expr call) = false →
        ¬ Sends t engine.graph.program call → ¬ ev.Reports source sink .network) ∧
    ∀ source sink, ev.Reports source sink .encryption ↔
      source ∈ engine.ruleSources (rule t) ∧ (rule t).isBlocked engine.graph source = false ∧
        (∃ key, (rule t).Reaches engine.graph engine.knobs (.plain source) key ∧
          key.node = sink) ∧
        ∃ x, sink = .expr x ∧ Encrypts t engine.graph.program x ∧
          ¬ Sends t engine.graph.program x := by
  have hreports {source sink : FlowNode} {kind : SinkKind} : ev.Reports source sink kind ↔
      source ∈ engine.ruleSources (rule t) ∧
        (rule t).Exposes engine.graph engine.knobs source sink kind :=
    Engine.reports_perSource_iff ha h hc
  refine ⟨?network, ?operand, ?encryption⟩
  case network =>
    intro source sink
    rw [hreports, exposes_network_iff hv]
  case operand =>
    intro source sink key x call site hr hn hsite henc hx hf hsends hreport
    obtain ⟨-, hexp⟩ := hreports.mp hreport
    obtain ⟨-, -, -, hall⟩ := (exposes_network_iff hv).mp hexp
    obtain ⟨n, hw⟩ := hr
    obtain ⟨b, hb, hpass⟩ := exists_passes_of_mem_operands hv hn hsite henc hx hf
    have hsent := hall b call ⟨n + 1, hw.snoc hpass⟩ hb ⟨call, site, hsite, henc, .inl rfl⟩
    exact hsends hsent
  case encryption =>
    intro source sink
    rw [hreports, exposes_encryption_iff hv]

def word (w : String) : Pattern :=
  w.toList.foldr (fun c rest ↦ .concat (.set (· = c)) rest) .empty

def digestTables : NameTables where
  password := word "password"
  passwordExclusion := .set fun _ ↦ false
  credential := .set fun _ ↦ false
  notSensitive := .set fun _ ↦ false
  crypto := word "digest"
  cryptoExclusion := .set fun _ ↦ false
  loggerReceiver := .set fun _ ↦ false
  log := []
  networkSend := ["send"]
  networkReceive := []
  singleReplace := []
  globalReplace := []

def digestProgram : Program where
  functions := #[⟨⟨0⟩, "deliver", "digest.rb", [⟨0⟩], none, [], default⟩]
  vars := #[⟨⟨0⟩, "socket", some ⟨0⟩, none, .parameter 0, none, default⟩]
  exprs := #[⟨⟨0⟩, ⟨0⟩, default, "socket", .read ⟨0⟩ [.param ⟨0⟩], []⟩,
    ⟨⟨1⟩, ⟨0⟩, default, "password_digest()", .call { name := "password_digest" }, []⟩,
    ⟨⟨2⟩, ⟨0⟩, default, "socket.send(password_digest())",
      .call { name := "send", receiver := some ⟨0⟩, args := [⟨1⟩] }, []⟩,
    ⟨⟨3⟩, ⟨0⟩, default, "password()", .call { name := "password" }, []⟩,
    ⟨⟨4⟩, ⟨0⟩, default, "socket.send(password())",
      .call { name := "send", receiver := some ⟨0⟩, args := [⟨3⟩] }, []⟩,
    ⟨⟨5⟩, ⟨0⟩, default, "digest(password())", .call { name := "digest", args := [⟨3⟩] }, []⟩]

def digestEngine : Engine where
  graph := .ofProgram digestProgram
  knobs := { Knobs.ofPreset .balanced with attribution := .perSource }

def digestEvaluation : Evaluation where
  rule := "cleartext-transmission"
  sources := [.expr ⟨1⟩, .expr ⟨3⟩]
  findings := [
    { rule := "cleartext-transmission", source := .expr ⟨1⟩, sink := .expr ⟨1⟩
      sinkKind := .network, path := [⟨.expr ⟨1⟩, none⟩], pathComplete := true },
    { rule := "cleartext-transmission", source := .expr ⟨3⟩, sink := .expr ⟨5⟩
      sinkKind := .encryption
      path := [⟨.expr ⟨3⟩, none⟩, ⟨.expr ⟨5⟩, some .additionalStep⟩], pathComplete := true }]
  complete := true
  interruption := none
  stats := { sources := 2, passes := 2, states := 3, edges := 1, additionalSteps := 1
             suppressed := 1 }

theorem evaluate_digest : digestEngine.evaluate (rule digestTables) = .ok digestEvaluation := by
  have hnodes : digestEngine.graph.nodes =
      [.expr ⟨0⟩, .expr ⟨1⟩, .expr ⟨2⟩, .expr ⟨3⟩, .expr ⟨4⟩, .expr ⟨5⟩, .param ⟨0⟩,
        .returned ⟨0⟩] :=
    FlowGraph.nodes_of_empty rfl rfl
  have hs : digestEngine.sources (rule digestTables) = .ok [.expr ⟨1⟩, .expr ⟨3⟩] := by
    rw [Engine.sources, hnodes]
    cbv
  rw [Engine.evaluate_of_sources hs]
  cbv

/-- The first source is the digest that is sent. -/
theorem not_forall_encryption_hides :
    ¬ ∀ (t : NameTables) (engine : Engine) (ev : Evaluation),
      engine.graph.program.validate = .ok () → engine.knobs.attribution = .perSource →
      engine.evaluate (rule t) = .ok ev → ev.complete = true →
      ∀ source sink key x, (rule t).isBlocked engine.graph source = false →
        (rule t).Reaches engine.graph engine.knobs (.plain source) key → key.node = .expr x →
        Encrypts t engine.graph.program x → ¬ ev.Reports source sink .network := by
  intro hhides
  have hv : digestEngine.graph.program.validate = .ok () := by cbv
  have hfree : (rule digestTables).isBlocked digestEngine.graph (.expr ⟨1⟩) = false := by cbv
  have hcrypto : isEncryptionCall digestTables { name := "password_digest" } = true := by cbv
  exact hhides digestTables digestEngine digestEvaluation hv rfl evaluate_digest rfl
    (.expr ⟨1⟩) (.expr ⟨1⟩) (.plain (.expr ⟨1⟩)) ⟨1⟩ hfree ⟨0, .nil _⟩ rfl
    ⟨⟨1⟩, _, rfl, hcrypto, .inl rfl⟩ (by decide)

/-- All encryption that the first source gets to is sent. The second is hidden by its digest, and
reported there. -/
theorem reports_network_iff_digest :
    digestEngine.graph.program.validate = .ok () ∧
      digestEngine.knobs.attribution = .perSource ∧
      digestEngine.evaluate (rule digestTables) = .ok digestEvaluation ∧
      digestEvaluation.complete = true ∧
      digestEvaluation.Reports (.expr ⟨1⟩) (.expr ⟨1⟩) .network ∧
      Sends digestTables digestProgram ⟨1⟩ ∧
      ¬ digestEvaluation.Reports (.expr ⟨3⟩) (.expr ⟨3⟩) .network ∧
      Encrypts digestTables digestProgram ⟨5⟩ ∧ ¬ Sends digestTables digestProgram ⟨5⟩ := by
  have hv : digestEngine.graph.program.validate = .ok () := by cbv
  obtain ⟨hnetwork, hhidden, hencryption⟩ := reports_network_iff hv rfl evaluate_digest rfl
  obtain ⟨-, -, -, ⟨_, hdigest, hsent⟩, -⟩ :=
    (hnetwork (.expr ⟨1⟩) (.expr ⟨1⟩)).mp (by decide)
  cases hdigest
  obtain ⟨-, -, -, _, hdigest, henc, hkept⟩ :=
    (hencryption (.expr ⟨3⟩) (.expr ⟨5⟩)).mp (by decide)
  cases hdigest
  have hcrypto : isEncryptionCall digestTables { name := "digest", args := [⟨3⟩] } = true := by cbv
  have hfree : (rule digestTables).isBlocked digestEngine.graph (.expr ⟨5⟩) = false := by cbv
  have hnone := hhidden (.expr ⟨3⟩) (.expr ⟨3⟩) _ ⟨3⟩ ⟨5⟩ _ ⟨0, .nil _⟩ rfl rfl hcrypto
    List.mem_cons_self hfree hkept
  exact ⟨hv, rfl, evaluate_digest, rfl, by decide, hsent, hnone, henc, hkept⟩

end Transmission

end TaintFlow
