import EdgeSensor.Sensor.Pipeline

/-!
# What each phase of `process` can do

Each phase reports only its own rules and leaves the memory of the other phases
alone, so a statement about one rule over a whole run comes down to one phase: the
rule's events in a packet are those of its own phase (`mem_newEvents_observation`,
`mem_newEvents_mms`), run on a state whose memory is the one the previous packet
left (`beforeObservation_mvp`, `beforeMms_detector`).

`newEvents` are the events one call appends to the event file.
-/

namespace EdgeSensor.Sensor.PacketPipeline

open EdgeSensor.Lib EdgeSensor.Py EdgeSensor.Parser

/-- What `_emit` lets through. -/
def passed (access : ModeAccess) (env : PacketEnv) (events : List SecurityEvent)
    (s : PacketPipeline) : List SecurityEvent :=
  if s.modeAt access env = .detect then events.map (·.withRef s.ringRef) else []

theorem emit_events (access : ModeAccess) (env : PacketEnv) (events : List SecurityEvent)
    (s : PacketPipeline) : (s.emit access env events).events = s.events ++ passed access env events s := by
  unfold emit passed
  split
  next h => rfl
  next h => exact (List.append_nil _).symm

/-- An event passes with everything the rule put into it: any property of events
that the capture reference does not touch carries over. -/
theorem exists_passed {access : ModeAccess} {env : PacketEnv} {events : List SecurityEvent}
    {s : PacketPipeline} {p : SecurityEvent → Prop} (hp : ∀ e ref, p (e.withRef ref) ↔ p e) :
    (∃ e ∈ passed access env events s, p e)
      ↔ s.modeAt access env = .detect ∧ ∃ e ∈ events, p e := by
  unfold passed
  split
  next h => simp [hp, h]
  next h => simp [h]

/-- Every event that passes keeps its rule. -/
theorem passed_ruleId {access : ModeAccess} {env : PacketEnv} {events : List SecurityEvent}
    {s : PacketPipeline} {p : RuleId → Prop} (hp : ∀ e ∈ events, p e.ruleId) :
    ∀ e ∈ passed access env events s, p e.ruleId := by
  intro e he
  unfold passed at he
  split at he
  · obtain ⟨e', he', rfl⟩ := List.mem_map.mp he
    rw [SecurityEvent.withRef_ruleId]
    exact hp e' he'
  · cases he

/-- A phase appends events whose rules satisfy `p`, and nothing else happens to the file. -/
def Appends (s s' : PacketPipeline) (p : RuleId → Prop) : Prop :=
  ∃ new, s'.events = s.events ++ new ∧ ∀ e ∈ new, p e.ruleId

theorem Appends.refl (s : PacketPipeline) (p : RuleId → Prop) : Appends s s p :=
  ⟨[], (List.append_nil _).symm, fun _ he => absurd he List.not_mem_nil⟩

theorem Appends.trans {s₁ s₂ s₃ : PacketPipeline} {p : RuleId → Prop} (h₁ : Appends s₁ s₂ p)
    (h₂ : Appends s₂ s₃ p) : Appends s₁ s₃ p := by
  obtain ⟨new₁, he₁, hp₁⟩ := h₁
  obtain ⟨new₂, he₂, hp₂⟩ := h₂
  refine ⟨new₁ ++ new₂, by rw [he₂, he₁, List.append_assoc], fun e he => ?_⟩
  rcases List.mem_append.mp he with h | h
  · exact hp₁ e h
  · exact hp₂ e h

theorem Appends.mono {s s' : PacketPipeline} {p q : RuleId → Prop} (h : Appends s s' p)
    (hpq : ∀ r, p r → q r) : Appends s s' q := by
  obtain ⟨new, he, hp⟩ := h
  exact ⟨new, he, fun e hmem => hpq _ (hp e hmem)⟩

/-! ## The prologue -/

theorem reloadDetectionPolicy_frame (r : ReloadReading) (s : PacketPipeline) :
    (reloadDetectionPolicy r s).mvp.inventory = s.mvp.inventory
      ∧ (reloadDetectionPolicy r s).mvp.alertedPortScan = s.mvp.alertedPortScan
      ∧ (reloadDetectionPolicy r s).mvp.alertedUnauthorized = s.mvp.alertedUnauthorized
      ∧ (reloadDetectionPolicy r s).detector.alertedUnauthorizedMms
        = s.detector.alertedUnauthorizedMms
      ∧ (reloadDetectionPolicy r s).events = s.events := by
  unfold reloadDetectionPolicy
  simp only
  split <;> exact ⟨rfl, rfl, rfl, rfl, rfl⟩

theorem reloadOperationalMode_frame (mode : ModeAccess → Reading ModeArtifact)
    (s : PacketPipeline) :
    reloadOperationalMode mode s = { s with modeStore := (reloadOperationalMode mode s).modeStore } := by
  unfold reloadOperationalMode
  simp only
  split <;> rfl

/-- The memory of the rules and the event file are as the previous packet left them. -/
theorem prologue_frame (env : PacketEnv) (packet : Packet) (s : PacketPipeline) :
    (prologue env packet s).mvp.inventory = s.mvp.inventory
      ∧ (prologue env packet s).mvp.alertedPortScan = s.mvp.alertedPortScan
      ∧ (prologue env packet s).mvp.alertedUnauthorized = s.mvp.alertedUnauthorized
      ∧ (prologue env packet s).detector.alertedUnauthorizedMms = s.detector.alertedUnauthorizedMms
      ∧ (prologue env packet s).events = s.events := by
  unfold prologue
  simp only
  rw [reloadOperationalMode_frame]
  exact reloadDetectionPolicy_frame env.reload s

/-! ## The phases -/

/-- IoC matching touches neither of the other detectors, nor the policy dicts. -/
theorem iocPhase_frame (env : PacketEnv) (packet : Packet) (s : PacketPipeline) :
    (iocPhase env packet s).mvp = s.mvp ∧ (iocPhase env packet s).detector = s.detector
      ∧ (iocPhase env packet s).heap = s.heap := by
  unfold iocPhase
  split <;> exact ⟨rfl, rfl, rfl⟩

theorem iocPhase_appends (env : PacketEnv) (packet : Packet) (s : PacketPipeline) :
    Appends s (iocPhase env packet s) (·.phase = .ioc) := by
  unfold iocPhase
  split
  · exact .refl s _
  · exact ⟨_, emit_events _ _ _ _, passed_ruleId (p := (·.phase = .ioc)) (IocMatcher.evaluate_emitsOnly _ _ _ _ _ _)⟩

/-- The events the observation rules report. -/
def observationEvents (env : PacketEnv) (packet : Packet) (s : PacketPipeline) :
    List SecurityEvent :=
  (MvpDetector.evaluateObservation (s.mvpView env) (observation packet) (s.observed env packet)).2

theorem observationPhase_frame (env : PacketEnv) (packet : Packet) (s : PacketPipeline) :
    (observationPhase env packet s).detector = s.detector
      ∧ (observationPhase env packet s).heap = s.heap := ⟨rfl, rfl⟩

theorem observationPhase_events (env : PacketEnv) (packet : Packet) (s : PacketPipeline) :
    (observationPhase env packet s).events
      = s.events ++ passed .emitObservation env (observationEvents env packet s) s :=
  emit_events _ _ _ _

theorem modbusPhase_frame (env : PacketEnv) (packet : Packet) (s : PacketPipeline) :
    (modbusPhase env packet s).mvp.latchState = s.mvp.latchState
      ∧ (modbusPhase env packet s).detector = s.detector
      ∧ (modbusPhase env packet s).heap = s.heap := by
  unfold modbusPhase
  split
  · exact ⟨rfl, rfl, rfl⟩
  · exact ⟨MvpDetector.evaluateModbus_preserves _ _ _, rfl, rfl⟩

theorem modbusPhase_appends (env : PacketEnv) (packet : Packet) (s : PacketPipeline) :
    Appends s (modbusPhase env packet s) (·.phase = .modbus) := by
  unfold modbusPhase
  split
  · exact .refl s _
  · exact ⟨_, emit_events _ _ _ _, passed_ruleId (p := (·.phase = .modbus))
      fun e he => congrArg RuleId.phase (MvpDetector.evaluateModbus_emitsOnly _ _ _ e he)⟩

theorem goosePhase_frame (env : PacketEnv) (frame : Option Goose.GooseFrame) (s : PacketPipeline) :
    (goosePhase env frame s).mvp = s.mvp
      ∧ (goosePhase env frame s).detector.latchState = s.detector.latchState
      ∧ (goosePhase env frame s).heap = s.heap := by
  unfold goosePhase
  split
  · exact ⟨rfl, rfl, rfl⟩
  · exact ⟨rfl, Iec61850Detector.evaluateGoose_preserves _ _ _ _, rfl⟩

theorem goosePhase_appends (env : PacketEnv) (frame : Option Goose.GooseFrame)
    (s : PacketPipeline) : Appends s (goosePhase env frame s) (·.phase = .goose) := by
  unfold goosePhase
  split
  · exact .refl s _
  · exact ⟨_, emit_events _ _ _ _, passed_ruleId (p := (·.phase = .goose))
      (Iec61850Detector.evaluateGoose_emitsOnly _ _ _ _)⟩

/-- The events the MMS rules report. -/
def mmsEvents (env : PacketEnv) (packet : Packet) (s : PacketPipeline) : List SecurityEvent :=
  match Mms.parseMmsPacket packet with
  | none => []
  | some obs => (Iec61850Detector.evaluateMms (s.detector.policy.resolve s.heap) env.clock obs
      s.detector).2

theorem mmsPhase_mvp (env : PacketEnv) (packet : Packet) (s : PacketPipeline) :
    (mmsPhase env packet s).mvp = s.mvp := by
  unfold mmsPhase
  split <;> rfl

theorem mmsPhase_events (env : PacketEnv) (packet : Packet) (s : PacketPipeline) :
    (mmsPhase env packet s).events = s.events ++ passed .emitMms env (mmsEvents env packet s) s := by
  unfold mmsPhase mmsEvents
  cases Mms.parseMmsPacket packet with
  | none => simp [passed]
  | some obs => exact emit_events _ _ _ _

/-- What the MMS phase adds to the latch of OT-018: the pair of the packet, when the
pair is unauthorized. -/
theorem mem_alerted_mmsPhase (env : PacketEnv) (packet : Packet) (s : PacketPipeline)
    (pair : String) :
    pair ∈ (mmsPhase env packet s).detector.alertedUnauthorizedMms
      ↔ pair ∈ s.detector.alertedUnauthorizedMms ∨ ∃ obs, Mms.parseMmsPacket packet = some obs
        ∧ Iec61850Detector.Unauthorized (s.detector.policy.resolve s.heap)
          (Iec61850Detector.mmsRoles obs).1 (Iec61850Detector.mmsRoles obs).2
        ∧ Iec61850Detector.mmsPair (Iec61850Detector.mmsRoles obs).1
          (Iec61850Detector.mmsRoles obs).2 = pair := by
  unfold mmsPhase
  cases Mms.parseMmsPacket packet with
  | none => simp
  | some obs =>
    simp only [Option.some.injEq, exists_eq_left']
    exact Iec61850Detector.mem_alerted_evaluateMms _ _ _ _ _

/-! ## One rule over a whole call -/

/-- The events one call appends. -/
def newEvents (s : PacketPipeline) (input : PacketEnv × Packet) : List SecurityEvent :=
  (feed s input).events.drop s.events.length

/-- The state the observation rules find. -/
def beforeObservation (s : PacketPipeline) (input : PacketEnv × Packet) : PacketPipeline :=
  iocPhase input.1 input.2 (prologue input.1 input.2 s)

/-- The state the MMS rules find, when the call gets that far. -/
def beforeMms (frame : Option Goose.GooseFrame) (s : PacketPipeline)
    (input : PacketEnv × Packet) : PacketPipeline :=
  goosePhase input.1 frame (beforeGoose input.1 input.2 s)

/-- The observation rules find their memory as the previous packet left it. -/
theorem beforeObservation_mvp (s : PacketPipeline) (input : PacketEnv × Packet) :
    (beforeObservation s input).mvp = (prologue input.1 input.2 s).mvp :=
  (iocPhase_frame _ _ _).1

/-- The events of the phases before GOOSE: the observation rules' own, between
those of the IoC matcher and of the Modbus rule. -/
theorem beforeGoose_events (s : PacketPipeline) (input : PacketEnv × Packet) :
    ∃ ioc modbus : List SecurityEvent,
      (beforeGoose input.1 input.2 s).events = s.events ++ (ioc
        ++ passed .emitObservation input.1
            (observationEvents input.1 input.2 (beforeObservation s input))
            (beforeObservation s input) ++ modbus)
      ∧ (∀ e ∈ ioc, e.ruleId.phase = .ioc) ∧ ∀ e ∈ modbus, e.ruleId.phase = .modbus := by
  obtain ⟨ioc, hioc, hpioc⟩ := iocPhase_appends input.1 input.2 (prologue input.1 input.2 s)
  obtain ⟨modbus, hmod, hpmod⟩ := modbusPhase_appends input.1 input.2
    (observationPhase input.1 input.2 (beforeObservation s input))
  refine ⟨ioc, modbus, ?_, hpioc, hpmod⟩
  have hstart := (prologue_frame input.1 input.2 s).2.2.2.2
  rw [beforeGoose, ← beforeObservation, hmod, observationPhase_events, beforeObservation, hioc,
    hstart]
  simp only [List.append_assoc]

/-- The events of a whole call: what the phases before GOOSE append, and, unless the
GOOSE parser raised, what the last two do. -/
theorem newEvents_eq (s : PacketPipeline) (input : PacketEnv × Packet) :
    ∃ ioc modbus goose mms : List SecurityEvent,
      newEvents s input = ioc
        ++ passed .emitObservation input.1
            (observationEvents input.1 input.2 (beforeObservation s input))
            (beforeObservation s input) ++ modbus ++ goose ++ mms
      ∧ (∀ e ∈ ioc, e.ruleId.phase = .ioc) ∧ (∀ e ∈ modbus, e.ruleId.phase = .modbus)
      ∧ (∀ e ∈ goose, e.ruleId.phase = .goose)
      ∧ mms = match Goose.parseGoosePacket input.2 with
        | .error _ => []
        | .ok frame => passed .emitMms input.1 (mmsEvents input.1 input.2 (beforeMms frame s input))
            (beforeMms frame s input) := by
  obtain ⟨ioc, modbus, hbefore, hpioc, hpmod⟩ := beforeGoose_events s input
  unfold newEvents feed process
  cases hparse : Goose.parseGoosePacket input.2 with
  | error e =>
    refine ⟨ioc, modbus, [], [], ?_, hpioc, hpmod, fun e he => absurd he List.not_mem_nil, rfl⟩
    simp only
    rw [hbefore, List.drop_left]
    simp only [List.append_nil]
  | ok frame =>
    obtain ⟨goose, hgoose, hpgoose⟩ := goosePhase_appends input.1 frame
      (beforeGoose input.1 input.2 s)
    refine ⟨ioc, modbus, goose, _, ?_, hpioc, hpmod, hpgoose, rfl⟩
    simp only
    rw [mmsPhase_events, hgoose, hbefore, List.append_assoc, List.append_assoc, List.drop_left]
    simp only [List.append_assoc]
    rfl

theorem mmsEvents_phase (env : PacketEnv) (packet : Packet) (s : PacketPipeline) :
    ∀ e ∈ mmsEvents env packet s, e.ruleId.phase = .mms := by
  unfold mmsEvents
  cases Mms.parseMmsPacket packet with
  | none => exact fun e he => absurd he List.not_mem_nil
  | some obs => exact Iec61850Detector.evaluateMms_emitsOnly _ _ _ _

/-- An event of one phase is not among those of another. -/
theorem not_mem_of_phase {events : List SecurityEvent} {phase phase' : Phase} {e : SecurityEvent}
    (h : ∀ e ∈ events, e.ruleId.phase = phase') (he : e.ruleId.phase = phase)
    (hne : phase' ≠ phase) : e ∉ events := by
  intro hmem
  exact hne ((h e hmem).symm.trans he)

/-- **The events of an observation rule** in a call are those its own phase lets through. -/
theorem mem_newEvents_observation (s : PacketPipeline) (input : PacketEnv × Packet)
    {e : SecurityEvent} (he : e.ruleId.phase = .observation) :
    e ∈ newEvents s input ↔ e ∈ passed .emitObservation input.1
      (observationEvents input.1 input.2 (beforeObservation s input)) (beforeObservation s input) := by
  obtain ⟨ioc, modbus, goose, mms, heq, hioc, hmod, hgoose, hmms⟩ := newEvents_eq s input
  have hmms' : ∀ e ∈ mms, e.ruleId.phase = .mms := by
    intro e h
    rw [hmms] at h
    split at h
    · cases h
    · exact passed_ruleId (p := (·.phase = .mms)) (mmsEvents_phase _ _ _) e h
  have hother : e ∉ ioc ∧ e ∉ modbus ∧ e ∉ goose ∧ e ∉ mms :=
    ⟨not_mem_of_phase hioc he (by decide), not_mem_of_phase hmod he (by decide),
      not_mem_of_phase hgoose he (by decide), not_mem_of_phase hmms' he (by decide)⟩
  simp [heq, hother]

/-- **The events of an MMS rule** in a call are those its own phase lets through, if
the call gets that far. -/
theorem mem_newEvents_mms (s : PacketPipeline) (input : PacketEnv × Packet)
    {e : SecurityEvent} (he : e.ruleId.phase = .mms) :
    e ∈ newEvents s input ↔ ∃ frame, Goose.parseGoosePacket input.2 = .ok frame
      ∧ e ∈ passed .emitMms input.1 (mmsEvents input.1 input.2 (beforeMms frame s input))
        (beforeMms frame s input) := by
  obtain ⟨ioc, modbus, goose, mms, heq, hioc, hmod, hgoose, hmms⟩ := newEvents_eq s input
  have hobs : ∀ e ∈ passed .emitObservation input.1
      (observationEvents input.1 input.2 (beforeObservation s input)) (beforeObservation s input),
      e.ruleId.phase = .observation :=
    passed_ruleId (p := (·.phase = .observation)) (MvpDetector.evaluateObservation_emitsOnly _ _ _)
  have hother : e ∉ ioc ∧ e ∉ modbus ∧ e ∉ goose
      ∧ e ∉ passed .emitObservation input.1
        (observationEvents input.1 input.2 (beforeObservation s input))
        (beforeObservation s input) :=
    ⟨not_mem_of_phase hioc he (by decide), not_mem_of_phase hmod he (by decide),
      not_mem_of_phase hgoose he (by decide), not_mem_of_phase hobs he (by decide)⟩
  rw [heq, hmms]
  simp only [List.mem_append, hother, false_or]
  cases Goose.parseGoosePacket input.2 with
  | error err => simp
  | ok frame => simp

/-- A call reports something about an observation rule exactly when the rule does and
the mode lets it out. -/
theorem exists_newEvents_observation (s : PacketPipeline) (input : PacketEnv × Packet)
    {p : SecurityEvent → Prop} (hphase : ∀ e, p e → e.ruleId.phase = .observation)
    (hp : ∀ e ref, p (e.withRef ref) ↔ p e) :
    (∃ e ∈ newEvents s input, p e)
      ↔ (beforeObservation s input).modeAt .emitObservation input.1 = .detect
        ∧ ∃ e ∈ observationEvents input.1 input.2 (beforeObservation s input), p e := by
  rw [← exists_passed hp]
  constructor
  · intro ⟨e, he, hpe⟩
    exact ⟨e, (mem_newEvents_observation s input (hphase e hpe)).mp he, hpe⟩
  · intro ⟨e, he, hpe⟩
    exact ⟨e, (mem_newEvents_observation s input (hphase e hpe)).mpr he, hpe⟩

/-- The same for an MMS rule. -/
theorem exists_newEvents_mms (s : PacketPipeline) (input : PacketEnv × Packet)
    {p : SecurityEvent → Prop} (hphase : ∀ e, p e → e.ruleId.phase = .mms)
    (hp : ∀ e ref, p (e.withRef ref) ↔ p e) :
    (∃ e ∈ newEvents s input, p e)
      ↔ ∃ frame, Goose.parseGoosePacket input.2 = .ok frame
        ∧ (beforeMms frame s input).modeAt .emitMms input.1 = .detect
        ∧ ∃ e ∈ mmsEvents input.1 input.2 (beforeMms frame s input), p e := by
  constructor
  · intro ⟨e, he, hpe⟩
    obtain ⟨frame, hframe, hin⟩ := (mem_newEvents_mms s input (hphase e hpe)).mp he
    exact ⟨frame, hframe, (exists_passed hp).mp ⟨e, hin, hpe⟩⟩
  · intro ⟨frame, hframe, hpass⟩
    obtain ⟨e, he, hpe⟩ := (exists_passed hp).mpr hpass
    exact ⟨e, (mem_newEvents_mms s input (hphase e hpe)).mpr ⟨frame, hframe, he⟩, hpe⟩

/-! ## What a whole call does to the memory of the rules -/

/-- After the observation phase, nothing in the call touches the MVP detector's memory. -/
theorem feed_mvp_latchState (s : PacketPipeline) (input : PacketEnv × Packet) :
    (feed s input).mvp.latchState
      = (observationPhase input.1 input.2 (beforeObservation s input)).mvp.latchState := by
  have hbefore : (beforeGoose input.1 input.2 s).mvp.latchState
      = (observationPhase input.1 input.2 (beforeObservation s input)).mvp.latchState :=
    (modbusPhase_frame _ _ _).1
  unfold feed process
  cases Goose.parseGoosePacket input.2 with
  | error e => exact hbefore
  | ok frame =>
    simp only
    rw [mmsPhase_mvp, (goosePhase_frame _ _ _).1, hbefore]

/-- Only the MMS phase touches the latch of OT-018. -/
theorem beforeGoose_alertedUnauthorizedMms (s : PacketPipeline) (input : PacketEnv × Packet) :
    (beforeGoose input.1 input.2 s).detector.alertedUnauthorizedMms
      = s.detector.alertedUnauthorizedMms := by
  rw [beforeGoose, (modbusPhase_frame _ _ _).2.1, (observationPhase_frame _ _ _).1,
    (iocPhase_frame _ _ _).2.1, (prologue_frame _ _ _).2.2.2.1]

/-- GOOSE leaves the MMS rules their policy and their rule set. -/
theorem beforeMms_detector (frame : Option Goose.GooseFrame) (s : PacketPipeline)
    (input : PacketEnv × Packet) :
    (beforeMms frame s input).detector.policy.resolve (beforeMms frame s input).heap
        = (beforeGoose input.1 input.2 s).detector.policy.resolve (beforeGoose input.1 input.2 s).heap
      ∧ (beforeMms frame s input).detector.rulesEnabled
        = (beforeGoose input.1 input.2 s).detector.rulesEnabled := by
  obtain ⟨-, hlatch, hheap⟩ := goosePhase_frame input.1 frame (beforeGoose input.1 input.2 s)
  have hpolicy : (beforeMms frame s input).detector.policy
      = (beforeGoose input.1 input.2 s).detector.policy := congrArg (·.1) hlatch
  refine ⟨?_, congrArg (·.2.1) hlatch⟩
  rw [hpolicy, beforeMms, hheap]

theorem beforeMms_alertedUnauthorizedMms (frame : Option Goose.GooseFrame) (s : PacketPipeline)
    (input : PacketEnv × Packet) :
    (beforeMms frame s input).detector.alertedUnauthorizedMms
      = s.detector.alertedUnauthorizedMms := by
  have hlatch := (goosePhase_frame input.1 frame (beforeGoose input.1 input.2 s)).2.1
  exact (congrArg (·.2.2) hlatch).trans (beforeGoose_alertedUnauthorizedMms s input)

end EdgeSensor.Sensor.PacketPipeline
