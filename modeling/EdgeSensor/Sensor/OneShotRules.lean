import EdgeSensor.Lib.Latch
import EdgeSensor.Sensor.Phases

/-!
# One-shot alerts and the mode gate

OT-006, OT-010 and OT-018 alert once per key: they latch the key when they act, and
`_emit` decides afterwards whether the event gets out. The rules run in every mode, so
each of them is a `Latch` whose gate is the mode, and the law of the gated latch is
the law of the three rules: a key whose first trigger falls outside `detect` has used
up its alert.

`Triggered` is the rule's own condition on the key, without the latch;
`persisted_iff` and `latched_feed` are what one call of `process` does about it.
-/

namespace EdgeSensor.Sensor.PacketPipeline

open EdgeSensor.Lib EdgeSensor.Py EdgeSensor.Parser

/-- The rules that alert once per key. -/
inductive OneShotRule where
  | portScan
  | unauthorizedRelay
  | unauthorizedMms
  deriving DecidableEq, Repr

namespace OneShotRule

def ruleId : OneShotRule → RuleId
  | portScan => .ot006
  | unauthorizedRelay => .ot010
  | unauthorizedMms => .ot018

/-- The key an event of the rule is about. -/
def keyOf : OneShotRule → SecurityEvent → String
  | portScan, e => e.srcIp
  | unauthorizedRelay, e => MvpDetector.pairKey e.srcIp e.dstIp
  | unauthorizedMms, e => Iec61850Detector.mmsPair e.srcIp e.dstIp

/-- The latch of the rule. -/
def latched : OneShotRule → PacketPipeline → Finset String
  | portScan, s => s.mvp.alertedPortScan
  | unauthorizedRelay, s => s.mvp.alertedUnauthorized
  | unauthorizedMms, s => s.detector.alertedUnauthorizedMms

/-- The rule is enabled when the call reaches it. -/
def RuleEnabled : OneShotRule → PacketPipeline → PacketEnv × Packet → Prop
  | portScan, s, input => enabled (beforeObservation s input).mvp.rulesEnabled .ot006
  | unauthorizedRelay, s, input => enabled (beforeObservation s input).mvp.rulesEnabled .ot010
  | unauthorizedMms, s, input =>
    enabled (beforeGoose input.1 input.2 s).detector.rulesEnabled .ot018

/-- The rule's condition on a key, in a call that gets as far as the rule. -/
def Triggered (k : String) : OneShotRule → PacketPipeline → PacketEnv × Packet → Prop
  | portScan, s, input =>
    MvpDetector.PortScanned ((beforeObservation s input).mvpView input.1) (observation input.2)
      s.mvp k
  | unauthorizedRelay, s, input =>
    MvpDetector.Unauthorized ((beforeObservation s input).mvpView input.1) (observation input.2) k
  | unauthorizedMms, s, input =>
    Goose.ReadablePacket input.2 ∧ ∃ obs, Mms.parseMmsPacket input.2 = some obs
      ∧ Iec61850Detector.Unauthorized
        ((beforeGoose input.1 input.2 s).detector.policy.resolve (beforeGoose input.1 input.2 s).heap)
        (Iec61850Detector.mmsRoles obs).1 (Iec61850Detector.mmsRoles obs).2
      ∧ Iec61850Detector.mmsPair (Iec61850Detector.mmsRoles obs).1
        (Iec61850Detector.mmsRoles obs).2 = k

/-- The mode is `detect` when the rule's events reach `_emit`. -/
def InDetect : OneShotRule → PacketPipeline → PacketEnv × Packet → Prop
  | portScan, s, input | unauthorizedRelay, s, input =>
    (beforeObservation s input).modeAt .emitObservation input.1 = .detect
  | unauthorizedMms, s, input => ∃ frame, Goose.parseGoosePacket input.2 = .ok frame
      ∧ (beforeMms frame s input).modeAt .emitMms input.1 = .detect

/-- The call persists an event of the rule about the key. -/
def Persisted (k : String) (rule : OneShotRule) (s : PacketPipeline) (input : PacketEnv × Packet) :
    Prop :=
  ∃ e ∈ newEvents s input, e.ruleId = rule.ruleId ∧ rule.keyOf e = k

/-- The rule acts on the key, and latches it: the two MVP rules only when enabled,
OT-018 in any case. -/
def Acts (k : String) (rule : OneShotRule) (s : PacketPipeline) (input : PacketEnv × Packet) :
    Prop :=
  (rule ≠ unauthorizedMms → rule.RuleEnabled s input) ∧ rule.Triggered k s input

/-- The key of an event survives the append. -/
theorem about_withRef (rule : OneShotRule) (k : String) (e : SecurityEvent) (ref : String) :
    ((e.withRef ref).ruleId = rule.ruleId ∧ rule.keyOf (e.withRef ref) = k)
      ↔ (e.ruleId = rule.ruleId ∧ rule.keyOf e = k) := by
  cases rule <;> simp only [ruleId, keyOf, SecurityEvent.withRef_ruleId,
    SecurityEvent.withRef_srcIp, SecurityEvent.withRef_dstIp]

/-! ## What one call does about a key -/

/-- The port samples that `observe` leaves are those of the previous packet. -/
theorem observed_portScanEvents (s : PacketPipeline) (input : PacketEnv × Packet) :
    ((beforeObservation s input).observed input.1 input.2).inventory.portScanEvents
      = s.mvp.inventory.portScanEvents := by
  have hinv : (beforeObservation s input).mvp.inventory = s.mvp.inventory := by
    rw [beforeObservation_mvp]
    exact (prologue_frame _ _ _).1
  unfold observed AssetInventory.observe
  simp only
  rw [hinv]

theorem observed_alertedPortScan (s : PacketPipeline) (input : PacketEnv × Packet) :
    ((beforeObservation s input).observed input.1 input.2).alertedPortScan
      = s.mvp.alertedPortScan := by
  have hmvp := beforeObservation_mvp s input
  exact (congrArg (·.alertedPortScan) hmvp).trans (prologue_frame _ _ _).2.1

theorem observed_alertedUnauthorized (s : PacketPipeline) (input : PacketEnv × Packet) :
    ((beforeObservation s input).observed input.1 input.2).alertedUnauthorized
      = s.mvp.alertedUnauthorized := by
  have hmvp := beforeObservation_mvp s input
  exact (congrArg (·.alertedUnauthorized) hmvp).trans (prologue_frame _ _ _).2.2.1

/-- A call adds a key to the latch exactly when the rule acts on it, in any mode. -/
theorem latched_feed (k : String) (rule : OneShotRule) (s : PacketPipeline)
    (input : PacketEnv × Packet) :
    k ∈ rule.latched (feed s input) ↔ k ∈ rule.latched s ∨ rule.Acts k s input := by
  cases rule with
  | portScan =>
    obtain ⟨d', hrules, hscan, hlatch, -⟩ := MvpDetector.evaluateObservation_portScan
      ((beforeObservation s input).mvpView input.1) (observation input.2)
      ((beforeObservation s input).observed input.1 input.2)
    have hfeed : (feed s input).mvp.alertedPortScan
        = (MvpDetector.portScan ((beforeObservation s input).mvpView input.1)
          (observation input.2) d').1.alertedPortScan :=
      (congrArg (·.2.1.2) (feed_mvp_latchState s input)).trans (congrArg (·.2) hlatch)
    have hset : d'.alertedPortScan = s.mvp.alertedPortScan :=
      (congrArg (·.2) hscan).trans (observed_alertedPortScan s input)
    have hsamples : d'.inventory.portScanEvents = s.mvp.inventory.portScanEvents :=
      (congrArg (·.1) hscan).trans (observed_portScanEvents s input)
    simp only [latched, Acts, RuleEnabled, Triggered, hfeed]
    rw [(MvpDetector.portScan_latches _ _ d').mem_iff, hset, hrules, MvpDetector.portScanned_congr hsamples]
    simp [observed]
  | unauthorizedRelay =>
    obtain ⟨d', hrules, hset, hlatch, -⟩ := MvpDetector.evaluateObservation_unauthorizedAccess
      ((beforeObservation s input).mvpView input.1) (observation input.2)
      ((beforeObservation s input).observed input.1 input.2)
    have hfeed : (feed s input).mvp.alertedUnauthorized = _ :=
      (congrArg (·.2.2) (feed_mvp_latchState s input)).trans hlatch
    simp only [latched, Acts, RuleEnabled, Triggered, hfeed]
    rw [(MvpDetector.unauthorizedAccess_latches _ _ d').mem_iff, hset, hrules, observed_alertedUnauthorized]
    simp [observed]
  | unauthorizedMms =>
    simp only [latched, Acts, Triggered, ne_eq, not_true_eq_false, false_implies, true_and]
    rw [← Goose.parseGoosePacket_ok_iff]
    unfold feed process
    cases hparse : Goose.parseGoosePacket input.2 with
    | error e =>
      simp only
      rw [beforeGoose_alertedUnauthorizedMms]
      simp
    | ok frame =>
      have hpolicy := (beforeMms_detector frame s input).1
      have hset := beforeMms_alertedUnauthorizedMms frame s input
      unfold beforeMms at hpolicy hset
      simp only
      rw [mem_alerted_mmsPhase, hpolicy, hset]
      simp

/-- The existence of an event carries over between two lists that agree on its rule. -/
theorem exists_about_congr {rule : RuleId} {key : SecurityEvent → String} {k : String}
    {events events' : List SecurityEvent} (h : ∀ e, e.ruleId = rule → (e ∈ events ↔ e ∈ events')) :
    (∃ e ∈ events, e.ruleId = rule ∧ key e = k) ↔ ∃ e ∈ events', e.ruleId = rule ∧ key e = k := by
  constructor
  · intro ⟨e, he, hrule, hkey⟩
    exact ⟨e, (h e hrule).mp he, hrule, hkey⟩
  · intro ⟨e, he, hrule, hkey⟩
    exact ⟨e, (h e hrule).mpr he, hrule, hkey⟩

/-- What the MMS phase reports about a key. -/
theorem exists_mmsEvents (env : PacketEnv) (packet : Packet) (s : PacketPipeline) (k : String) :
    (∃ e ∈ mmsEvents env packet s, e.ruleId = .ot018
        ∧ Iec61850Detector.mmsPair e.srcIp e.dstIp = k)
      ↔ enabled s.detector.rulesEnabled .ot018 ∧ k ∉ s.detector.alertedUnauthorizedMms
        ∧ ∃ obs, Mms.parseMmsPacket packet = some obs
          ∧ Iec61850Detector.Unauthorized (s.detector.policy.resolve s.heap)
            (Iec61850Detector.mmsRoles obs).1 (Iec61850Detector.mmsRoles obs).2
          ∧ Iec61850Detector.mmsPair (Iec61850Detector.mmsRoles obs).1
            (Iec61850Detector.mmsRoles obs).2 = k := by
  unfold mmsEvents
  cases Mms.parseMmsPacket packet with
  | none => simp
  | some obs =>
    simp only [Option.some.injEq, exists_eq_left']
    rw [Iec61850Detector.exists_evaluateMms, and_comm (a := k ∉ _)]

/-- A call persists an event about a key exactly when the rule is enabled and its
condition holds, the mode lets the event out, and the key was not latched. -/
theorem persisted_iff (k : String) (rule : OneShotRule) (s : PacketPipeline)
    (input : PacketEnv × Packet) :
    rule.Persisted k s input
      ↔ rule.RuleEnabled s input ∧ rule.Triggered k s input ∧ rule.InDetect s input
        ∧ k ∉ rule.latched s := by
  have hphase : ∀ e : SecurityEvent, e.ruleId = rule.ruleId ∧ rule.keyOf e = k →
      e.ruleId.phase = rule.ruleId.phase := fun e h => congrArg RuleId.phase h.1
  cases rule with
  | portScan =>
    obtain ⟨d', hrules, hscan, -, hmem⟩ := MvpDetector.evaluateObservation_portScan
      ((beforeObservation s input).mvpView input.1) (observation input.2)
      ((beforeObservation s input).observed input.1 input.2)
    have hset : d'.alertedPortScan = s.mvp.alertedPortScan :=
      (congrArg (·.2) hscan).trans (observed_alertedPortScan s input)
    have hsamples : d'.inventory.portScanEvents = s.mvp.inventory.portScanEvents :=
      (congrArg (·.1) hscan).trans (observed_portScanEvents s input)
    rw [Persisted, exists_newEvents_observation s input hphase (about_withRef portScan k)]
    simp only [ruleId, keyOf, RuleEnabled, Triggered, InDetect, latched]
    rw [observationEvents, exists_about_congr hmem,
      (MvpDetector.portScan_latches _ _ d').reported_iff, hset, hrules,
      MvpDetector.portScanned_congr hsamples]
    simp only [observed]
    tauto
  | unauthorizedRelay =>
    obtain ⟨d', hrules, hset, -, hmem⟩ := MvpDetector.evaluateObservation_unauthorizedAccess
      ((beforeObservation s input).mvpView input.1) (observation input.2)
      ((beforeObservation s input).observed input.1 input.2)
    rw [Persisted, exists_newEvents_observation s input hphase (about_withRef unauthorizedRelay k)]
    simp only [ruleId, keyOf, RuleEnabled, Triggered, InDetect, latched]
    rw [observationEvents, exists_about_congr hmem,
      (MvpDetector.unauthorizedAccess_latches _ _ d').reported_iff, hset, hrules,
      observed_alertedUnauthorized]
    simp only [observed]
    tauto
  | unauthorizedMms =>
    rw [Persisted, exists_newEvents_mms s input hphase (about_withRef unauthorizedMms k)]
    simp only [ruleId, keyOf, RuleEnabled, Triggered, InDetect, latched]
    rw [← Goose.parseGoosePacket_ok_iff]
    constructor
    · intro ⟨frame, hframe, hdetect, hevent⟩
      rw [exists_mmsEvents, (beforeMms_detector frame s input).1,
        (beforeMms_detector frame s input).2, beforeMms_alertedUnauthorizedMms] at hevent
      exact ⟨hevent.1, ⟨⟨frame, hframe⟩, hevent.2.2⟩, ⟨frame, hframe, hdetect⟩, hevent.2.1⟩
    · intro ⟨henabled, ⟨_, htrigger⟩, ⟨frame, hframe, hdetect⟩, hset⟩
      refine ⟨frame, hframe, hdetect, ?_⟩
      rw [exists_mmsEvents, (beforeMms_detector frame s input).1,
        (beforeMms_detector frame s input).2, beforeMms_alertedUnauthorizedMms]
      exact ⟨henabled, hset, htrigger⟩

/-! ## A whole run -/

/-- The rule as a latch whose gate is the mode. -/
def latch (k : String) (rule : OneShotRule) : Latch PacketPipeline (PacketEnv × Packet) where
  step := feed
  set := fun s => k ∈ rule.latched s
  trigger := rule.Acts k
  gate := fun s input => rule.RuleEnabled s input ∧ rule.InDetect s input
  set_step := latched_feed k rule

/-- **When the mode gate costs no alert.** In any run in which the rule stays enabled,
whatever the policies and modes do: every key whose trigger falls in `detect` has
been reported by then, if and only if the key's first trigger falls in `detect`, or
none does. -/
theorem oneShot_reported_iff (rule : OneShotRule) (k : String) (env : InitEnv)
    (inputs : List (PacketEnv × Packet))
    (henabled : ∀ i input, inputs[i]? = some input →
      rule.RuleEnabled (stateAt feed (init env) inputs i) input) :
    (∀ i, At feed (init env) inputs (fun s input => rule.Triggered k s input ∧ rule.InDetect s input) i →
      ∃ j ≤ i, At feed (init env) inputs
        (fun s input => rule.Persisted k s input ∧ rule.InDetect s input) j)
    ↔ (∀ i, FirstAt feed (init env) inputs (rule.Triggered k) i →
        At feed (init env) inputs rule.InDetect i)
      ∨ ∀ i, ¬ At feed (init env) inputs
        (fun s input => rule.Triggered k s input ∧ rule.InDetect s input) i := by
  have hunset : ¬ (latch k rule).set (init env) := by
    cases rule <;> exact Finset.notMem_empty k
  have htrigger : ∀ i, At feed (init env) inputs (rule.Acts k) i
      ↔ At feed (init env) inputs (rule.Triggered k) i :=
    at_congr fun i input hi => and_iff_right fun _ => henabled i input hi
  have hgate : ∀ i, At feed (init env) inputs (latch k rule).gate i
      ↔ At feed (init env) inputs rule.InDetect i :=
    at_congr fun i input hi => and_iff_right (henabled i input hi)
  have hboth : ∀ i, At feed (init env) inputs
        (fun s input => (latch k rule).trigger s input ∧ (latch k rule).gate s input) i
      ↔ At feed (init env) inputs (fun s input => rule.Triggered k s input ∧ rule.InDetect s input) i :=
    at_congr fun i input hi => and_congr (and_iff_right fun _ => henabled i input hi)
      (and_iff_right (henabled i input hi))
  have hfires : ∀ i, At feed (init env) inputs (latch k rule).fires i
      ↔ At feed (init env) inputs
        (fun s input => rule.Persisted k s input ∧ rule.InDetect s input) i := by
    refine at_congr fun i input hi => ?_
    have hen := henabled i input hi
    rw [persisted_iff]
    unfold Latch.fires latch Acts
    simp only
    tauto
  have hfirst : ∀ i, FirstAt feed (init env) inputs (latch k rule).trigger i
      ↔ FirstAt feed (init env) inputs (rule.Triggered k) i := by
    intro i
    unfold FirstAt
    exact and_congr (htrigger i) (forall₂_congr fun j _ => not_congr (htrigger j))
  have hlaw := @Latch.gated_iff _ _ (latch k rule) (init env) inputs hunset
  have hstep : (latch k rule).step = feed := rfl
  rw [hstep] at hlaw
  simpa only [hboth, hfires, hfirst, hgate] using hlaw

/-- A policy with one relay and one peer allowed to talk to it. -/
def relayPolicy : PolicyDoc where
  body := { assets := some [{ assetId := some "relay-1", addresses := ["10.0.0.1"]
                              allowedPeers := ["10.0.0.2"] }] }

/-- The mode file at a time, with a stamp of its own for each mode. -/
def modeFile (now : Rat) (mode : String) : Reading ModeArtifact := ⟨now, mode, some (.ofMode mode)⟩

/-- A host that is not a peer talks to the relay at time `now`, the mode file saying `mode`. -/
def strangerAt (now : Rat) (mode : String) : PacketEnv × Packet :=
  (.bare now (modeFile now mode) (some relayPolicy),
   { raw := [0], ip := some { src := "10.0.0.66", dst := "10.0.0.1" } })

/-- The sensor of the two runs below, started in `listen`. -/
def relaySensor : InitEnv := .bare 0 (modeFile 0 "listen") (some relayPolicy)

/-- The pair of the stranger and the relay. -/
def strangerPair : String := "10.0.0.66->10.0.0.1"

/-- A stranger first seen in `detect` is reported: the law at a run of one packet. -/
theorem oneShot_reported_in_detect :
    (∀ i, At feed (init relaySensor) [strangerAt 10 "detect"] (fun s input =>
        unauthorizedRelay.Triggered strangerPair s input ∧ unauthorizedRelay.InDetect s input) i →
      ∃ j ≤ i, At feed (init relaySensor) [strangerAt 10 "detect"] (fun s input =>
        unauthorizedRelay.Persisted strangerPair s input ∧ unauthorizedRelay.InDetect s input) j)
    ↔ (∀ i, FirstAt feed (init relaySensor) [strangerAt 10 "detect"]
          (unauthorizedRelay.Triggered strangerPair) i →
        At feed (init relaySensor) [strangerAt 10 "detect"] unauthorizedRelay.InDetect i)
      ∨ ∀ i, ¬ At feed (init relaySensor) [strangerAt 10 "detect"] (fun s input =>
        unauthorizedRelay.Triggered strangerPair s input ∧ unauthorizedRelay.InDetect s input) i :=
  oneShot_reported_iff unauthorizedRelay strangerPair relaySensor [strangerAt 10 "detect"] (by
    intro i input hi
    cases i with
    | zero =>
      cases hi
      unfold RuleEnabled
      decide +kernel
    | succ i => cases hi)

/-- A stranger first seen in `listen`, and again in `detect`, is never reported. -/
theorem oneShot_lost_in_listen :
    ¬ ∀ i, At feed (init relaySensor) [strangerAt 10 "listen", strangerAt 20 "detect"]
        (fun s input => unauthorizedRelay.Triggered strangerPair s input
          ∧ unauthorizedRelay.InDetect s input) i →
      ∃ j ≤ i, At feed (init relaySensor) [strangerAt 10 "listen", strangerAt 20 "detect"]
        (fun s input => unauthorizedRelay.Persisted strangerPair s input
          ∧ unauthorizedRelay.InDetect s input) j := by
  intro h
  have htrigger : unauthorizedRelay.Triggered strangerPair
      (stateAt feed (init relaySensor) [strangerAt 10 "listen", strangerAt 20 "detect"] 1)
      (strangerAt 20 "detect") :=
    ⟨"10.0.0.66", "10.0.0.1", _, by decide +kernel, by decide +kernel, by decide +kernel,
      (by decide +kernel : _ = some { assetId := some "relay-1", addresses := ["10.0.0.1"]
                                      allowedPeers := ["10.0.0.2"] }), by decide +kernel⟩
  have hdetect : unauthorizedRelay.InDetect
      (stateAt feed (init relaySensor) [strangerAt 10 "listen", strangerAt 20 "detect"] 1)
      (strangerAt 20 "detect") := by
    unfold InDetect
    decide +kernel
  obtain ⟨j, hj, input, hinput, hpersisted, hmode⟩ := h 1 ⟨_, rfl, htrigger, hdetect⟩
  rw [persisted_iff] at hpersisted
  have hcases : j = 0 ∨ j = 1 := by omega
  rcases hcases with rfl | rfl
  · cases hinput
    unfold InDetect at hmode
    revert hmode
    decide +kernel
  · cases hinput
    refine hpersisted.2.2.2 ?_
    unfold latched
    decide +kernel

end OneShotRule

end EdgeSensor.Sensor.PacketPipeline
