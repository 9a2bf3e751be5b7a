import EdgeSensor.Sensor.Phases

/-!
# What the detectors hold

The policy side of the pipeline: the policy store, the dicts, and the policy and rule
set of each detector (`holdings`). Only `reload_detection_policy` changes it, so a
call of `process` does to it what its reload does (`feed_policySide`), and the
invariant `PolicyOk` (every policy object anybody holds is backed by the heap, and
the profile store is in step with its file) holds in every reachable state.
-/

namespace EdgeSensor.Sensor.PacketPipeline

open EdgeSensor.Lib EdgeSensor.Py EdgeSensor.Parser

/-- The policy and the rule set of each detector. -/
def holdings (s : PacketPipeline) : List (PolicyObj × Finset String) :=
  (s.mvp.policy, s.mvp.rulesEnabled) :: (s.detector.policy, s.detector.rulesEnabled)
    :: (s.ioc.map IocMatcher.config).toList

/-- The policy side of the pipeline. -/
def policySide (s : PacketPipeline) :
    DetectionPolicyStore × Heap × List (PolicyObj × Finset String) :=
  (s.policyStore, s.heap, s.holdings)

/-- Installing gives every detector the policy, and the rules unless there are none. -/
theorem holdings_installPolicy (s : PacketPipeline) (policy : PolicyObj) (rules : Finset String) :
    (s.installPolicy policy rules).holdings
      = s.holdings.map fun held => (policy, if rules = ∅ then held.2 else rules) := by
  unfold installPolicy holdings
  cases s.ioc with
  | none => rfl
  | some m => rfl

/-! ## A call changes the policy side by its reload only -/

theorem prologue_policySide (env : PacketEnv) (packet : Packet) (s : PacketPipeline) :
    (prologue env packet s).policySide = (reloadDetectionPolicy env.reload s).policySide := by
  unfold prologue
  rw [reloadOperationalMode_frame]
  rfl

theorem iocPhase_policySide (env : PacketEnv) (packet : Packet) (s : PacketPipeline) :
    (iocPhase env packet s).policySide = s.policySide := by
  unfold iocPhase
  cases hioc : s.ioc with
  | none => rfl
  | some m =>
    have hm := IocMatcher.evaluate_preserves (m.policy.resolve s.heap) env.whitelisted env.clock
      env.ioc ⟨(observation packet).srcIp, (observation packet).dstIp, (observation packet).dstPort,
        (observation packet).protocol⟩ m
    simp only [policySide, holdings, emit, hioc, Option.map_some, hm]

theorem observationPhase_policySide (env : PacketEnv) (packet : Packet) (s : PacketPipeline) :
    (observationPhase env packet s).policySide = s.policySide := by
  have hmvp := MvpDetector.evaluateObservation_preserves (s.mvpView env) (observation packet)
    (s.observed env packet)
  have hpolicy : (observationPhase env packet s).mvp.policy = s.mvp.policy := congrArg (·.1) hmvp
  have hrules : (observationPhase env packet s).mvp.rulesEnabled = s.mvp.rulesEnabled :=
    congrArg (·.2.1) hmvp
  unfold policySide holdings
  rw [hpolicy, hrules]
  rfl

theorem modbusPhase_policySide (env : PacketEnv) (packet : Packet) (s : PacketPipeline) :
    (modbusPhase env packet s).policySide = s.policySide := by
  unfold modbusPhase
  cases Modbus.parseModbusTcp packet with
  | none => rfl
  | some frame =>
    have hmvp := MvpDetector.evaluateModbus_preserves (s.mvpView env) frame s.mvp
    have hpolicy : (MvpDetector.evaluateModbus (s.mvpView env) frame s.mvp).1.policy
        = s.mvp.policy := congrArg (·.1.1) hmvp
    have hrules : (MvpDetector.evaluateModbus (s.mvpView env) frame s.mvp).1.rulesEnabled
        = s.mvp.rulesEnabled := congrArg (·.1.2.1) hmvp
    simp only [policySide, holdings, emit, hpolicy, hrules]

theorem goosePhase_policySide (env : PacketEnv) (frame : Option Goose.GooseFrame)
    (s : PacketPipeline) : (goosePhase env frame s).policySide = s.policySide := by
  cases frame with
  | none => rfl
  | some frame =>
    have hdet := Iec61850Detector.evaluateGoose_preserves (s.detector.policy.resolve s.heap)
      env.clock frame s.detector
    have hpolicy : (goosePhase env (some frame) s).detector.policy = s.detector.policy :=
      congrArg (·.1) hdet
    have hrules : (goosePhase env (some frame) s).detector.rulesEnabled = s.detector.rulesEnabled :=
      congrArg (·.2.1) hdet
    unfold policySide holdings
    rw [hpolicy, hrules]
    rfl

theorem mmsPhase_policySide (env : PacketEnv) (packet : Packet) (s : PacketPipeline) :
    (mmsPhase env packet s).policySide = s.policySide := by
  unfold mmsPhase
  cases Mms.parseMmsPacket packet with
  | none => rfl
  | some obs =>
    have hdet := Iec61850Detector.evaluateMms_preserves (s.detector.policy.resolve s.heap)
      env.clock obs s.detector
    have hpolicy : (Iec61850Detector.evaluateMms (s.detector.policy.resolve s.heap) env.clock obs
        s.detector).1.policy = s.detector.policy := congrArg (·.1) hdet
    have hrules : (Iec61850Detector.evaluateMms (s.detector.policy.resolve s.heap) env.clock obs
        s.detector).1.rulesEnabled = s.detector.rulesEnabled := congrArg (·.2) hdet
    simp only [policySide, holdings, emit, hpolicy, hrules]

/-- **Only the reload touches the policy side.** -/
theorem feed_policySide (s : PacketPipeline) (input : PacketEnv × Packet) :
    (feed s input).policySide = (reloadDetectionPolicy input.1.reload s).policySide := by
  have hbefore : (beforeGoose input.1 input.2 s).policySide
      = (reloadDetectionPolicy input.1.reload s).policySide := by
    unfold beforeGoose
    rw [modbusPhase_policySide, observationPhase_policySide, iocPhase_policySide,
      prologue_policySide]
  unfold feed process
  cases Goose.parseGoosePacket input.2 with
  | error e => exact hbefore
  | ok frame =>
    simp only
    rw [mmsPhase_policySide, goosePhase_policySide, hbefore]

/-! ## The invariant -/

/-- Every policy object anybody holds is backed by the heap, and the profile store is
in step with its file. -/
structure PolicyOk (s : PacketPipeline) : Prop where
  store : s.policyStore.Ok s.heap
  held : ∀ held ∈ s.holdings, held.1.Valid s.heap

/-- The invariant reads the policy side only. -/
theorem PolicyOk.congr {s s' : PacketPipeline} (h : s.PolicyOk) (heq : s'.policySide = s.policySide) :
    s'.PolicyOk := by
  have hstore : s'.policyStore = s.policyStore := congrArg (·.1) heq
  have hheap : s'.heap = s.heap := congrArg (·.2.1) heq
  have hheld : s'.holdings = s.holdings := congrArg (·.2.2) heq
  exact ⟨by rw [hstore, hheap]; exact h.store, by rw [hheld, hheap]; exact h.held⟩

/-- A reload keeps the invariant, and overlays dicts at most. -/
theorem PolicyOk.reload {s : PacketPipeline} (h : s.PolicyOk) (r : ReloadReading) :
    (reloadDetectionPolicy r s).PolicyOk ∧ s.heap.Overlaid (reloadDetectionPolicy r s).heap := by
  obtain ⟨hpoll, hle⟩ := DetectionPolicyStore.maybeReload_spec h.store false r.poll
  unfold reloadDetectionPolicy
  simp only
  split
  · obtain ⟨hpolicy, hle'⟩ := DetectionPolicyStore.maybeReload_spec hpoll false r.policy
    obtain ⟨hrules, hle''⟩ := DetectionPolicyStore.maybeReload_spec hpolicy false r.rules
    refine ⟨⟨hrules, fun held hheld => ?_⟩, (hle.trans hle').trans hle''⟩
    rw [holdings_installPolicy] at hheld
    obtain ⟨_, -, rfl⟩ := List.mem_map.mp hheld
    exact hpolicy.baseline.mono hle''.1
  · exact ⟨⟨hpoll, fun held hheld => (h.held held hheld).mono hle.1⟩, hle⟩

theorem PolicyOk.feed {s : PacketPipeline} (h : s.PolicyOk) (input : PacketEnv × Packet) :
    (feed s input).PolicyOk :=
  (h.reload input.1.reload).1.congr (feed_policySide s input)

/-- A new pipeline gives every detector the same policy and the same rules. -/
theorem mem_holdings_init {env : InitEnv} {held : PolicyObj × Finset String}
    (h : held ∈ (init env).holdings) : held = (env.forPolicy.1.baseline, env.enabled) := by
  unfold holdings init at h
  cases hioc : env.iocEnabled with
  | true =>
    simp only [hioc, if_true, Option.map_some, Option.toList_some, List.mem_cons, List.not_mem_nil,
      or_false] at h
    rcases h with rfl | rfl | rfl <;> rfl
  | false =>
    simp only [hioc, Bool.false_eq_true, if_false, Option.map_none, Option.toList_none,
      List.mem_cons, List.not_mem_nil, or_false] at h
    rcases h with rfl | rfl <;> rfl

theorem policyOk_init (env : InitEnv) : (init env).PolicyOk := by
  have hbuilt : env.built.1.Ok env.built.2 :=
    DetectionPolicyStore.init_ok env.policyReloadSec env.profile env.store []
  obtain ⟨hpolicy, -⟩ := DetectionPolicyStore.maybeReload_spec hbuilt false env.policy
  obtain ⟨hrules, hle⟩ := DetectionPolicyStore.maybeReload_spec hpolicy false env.rules
  refine ⟨hrules, fun held hheld => ?_⟩
  rw [mem_holdings_init hheld]
  exact hpolicy.baseline.mono hle.1

/-- Every reachable pipeline satisfies the invariant. -/
theorem policyOk_feedAll (env : InitEnv) (inputs : List (PacketEnv × Packet)) :
    (feedAll (init env) inputs).PolicyOk := by
  induction inputs using List.reverseRecOn with
  | nil => exact policyOk_init env
  | append_singleton inputs input ih =>
    rw [feedAll, List.foldl_append]
    exact ih.feed input

end EdgeSensor.Sensor.PacketPipeline
