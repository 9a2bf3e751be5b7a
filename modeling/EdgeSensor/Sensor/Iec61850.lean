import EdgeSensor.Lib.Emitter
import EdgeSensor.Parser.Goose
import EdgeSensor.Parser.Mms
import EdgeSensor.Sensor.Mvp

/-!
# The IEC 61850 detector

`src/detection/iec61850.py`. Unlike the MVP rules, these rules run whether or not
they are enabled: an event is built, numbered and, where the rule latches, latched
first, and only the returned list is filtered (`filterEnabled`).

Mirroring notes:
- The dict keys are the source's formatted strings.
- `abs(st - prev) > max` and `st < prev` are on unbounded integers, as in Python.
-/

namespace EdgeSensor.Sensor

open EdgeSensor.Lib EdgeSensor.Py EdgeSensor.Parser

/-- `Iec61850Detector`. -/
structure Iec61850Detector where
  siteId : String
  sensorId : String
  policy : PolicyObj
  rulesEnabled : Finset String := ∅
  knownGoose : Finset String := ∅
  knownMmsPairs : Finset String := ∅
  alertedUnauthorizedMms : Finset String := ∅
  lastStnum : Dict String Int := []
  eventSeq : Nat := 0

/-- `policy.get("iec61850", {})`. -/
def PolicyDoc.iec (doc : PolicyDoc) : Iec61850Policy := doc.body.iec61850.getD {}

/-- `_match_goose_baseline`: every filter an entry sets must match. -/
def PolicyDoc.matchGooseBaseline (doc : PolicyDoc) (frame : Goose.GooseFrame) :
    Option GoosePublisher :=
  doc.iec.goosePublishers.find? fun entry =>
    (lower entry.publisherMac = "" ∨ lower entry.publisherMac = lower frame.publisherMac)
      ∧ (entry.appid < 0 ∨ entry.appid = frame.appid)
      ∧ (entry.gocbRef = "" ∨ entry.gocbRef = frame.gocbRef)

/-- `_ied_in_baseline`. -/
def PolicyDoc.iedInBaseline (doc : PolicyDoc) (iedIp : String) : Prop :=
  ∃ entry ∈ doc.iec.mmsIeds, entry.iedIp = some iedIp

/-- `_is_known_mms_pair`: some entry of the IED allows the client. -/
def PolicyDoc.isKnownMmsPair (doc : PolicyDoc) (clientIp iedIp : String) : Prop :=
  ∃ entry ∈ doc.iec.mmsIeds, entry.iedIp = some iedIp ∧ clientIp ∈ entry.allowedMmsClients

/-- `_is_allowed_mms_client`: the first entry of the IED decides. -/
def PolicyDoc.isAllowedMmsClient (doc : PolicyDoc) (clientIp iedIp : String) : Prop :=
  clientIp ∈ ((doc.iec.mmsIeds.find? (·.iedIp = some iedIp)).map (·.allowedMmsClients)).getD []

instance (doc : PolicyDoc) (iedIp : String) : Decidable (doc.iedInBaseline iedIp) :=
  inferInstanceAs (Decidable (∃ entry ∈ doc.iec.mmsIeds, entry.iedIp = some iedIp))

instance (doc : PolicyDoc) (clientIp iedIp : String) :
    Decidable (doc.isKnownMmsPair clientIp iedIp) :=
  inferInstanceAs (Decidable (∃ entry ∈ doc.iec.mmsIeds,
    entry.iedIp = some iedIp ∧ clientIp ∈ entry.allowedMmsClients))

instance (doc : PolicyDoc) (clientIp iedIp : String) :
    Decidable (doc.isAllowedMmsClient clientIp iedIp) :=
  inferInstanceAs (Decidable (_ ∈ _))

namespace Iec61850Detector

/-- Number, build and report one event. -/
def event (clock : Clock) (rule : RuleId) (protocol : String) (fields : EventFields) :
    Emitter Iec61850Detector SecurityEvent := fun d =>
  ({ d with eventSeq := d.eventSeq + 1 },
   [{ eventId := s!"evt-{clock.day}-61850-{pad5 (d.eventSeq + 1)}"
      siteId := d.siteId
      sensorId := d.sensorId
      eventType := rule.meta.1
      severity := rule.meta.2.1
      ruleId := rule
      protocol := protocol
      description := rule.meta.2.2
      assetId := fields.assetId
      srcIp := fields.srcIp
      dstIp := fields.dstIp
      dstPort := fields.dstPort
      riskScore := fields.riskScore
      evidence := fields.evidence
      timestamp := clock.timestamp }])

/-- `[e for e in events if self._enabled(e.rule_id)]`. -/
def filterEnabled (f : Emitter Iec61850Detector SecurityEvent) :
    Emitter Iec61850Detector SecurityEvent := fun d =>
  let r := f d
  (r.1, r.2.filter fun e => enabled d.rulesEnabled e.ruleId)

/-- The key of a GOOSE publisher. -/
def gooseKey (frame : Goose.GooseFrame) : String :=
  s!"{frame.publisherMac}|{frame.appid}|{frame.gocbRef}"

/-- OT-011. -/
def gooseNewPublisher (doc : PolicyDoc) (clock : Clock) (frame : Goose.GooseFrame) :
    Emitter Iec61850Detector SecurityEvent := fun d =>
  if gooseKey frame ∈ d.knownGoose then (d, [])
  else
    let known : Iec61850Detector := { d with knownGoose := insert (gooseKey frame) d.knownGoose }
    match doc.matchGooseBaseline frame with
    | some _ => (known, [])
    | none => event clock .ot011 "iec61850-goose"
        { evidence := [("goose_appid", .int frame.appid), ("goose_gocb_ref", .text frame.gocbRef),
            ("goose_publisher_mac", .text frame.publisherMac), ("goose_stnum", .int frame.stNum),
            ("goose_sqnum", .int frame.sqNum)] } known

/-- OT-012. -/
def gooseTestMode (doc : PolicyDoc) (clock : Clock) (frame : Goose.GooseFrame) :
    Emitter Iec61850Detector SecurityEvent := fun d =>
  let baseline := doc.matchGooseBaseline frame
  if frame.test ∧ (baseline.map (·.production)).getD true then
    event clock .ot012 "iec61850-goose"
      { assetId := (baseline.map (·.assetId)).getD ""
        riskScore := 86
        evidence := [("goose_appid", .int frame.appid), ("goose_gocb_ref", .text frame.gocbRef),
          ("goose_test", .flag true), ("goose_stnum", .int frame.stNum)] } d
  else (d, [])

/-- OT-013, against the last state number of the publisher. -/
def gooseStnumAnomaly (doc : PolicyDoc) (clock : Clock) (frame : Goose.GooseFrame) :
    Emitter Iec61850Detector SecurityEvent := fun d =>
  let r := match d.lastStnum.get? (gooseKey frame) with
    | none => (d, [])
    | some prev =>
      if frame.stNum < prev
          ∨ truncate ((doc.iec.thresholds.get? "goose_stnum_jump_max").getD 100)
            < (frame.stNum - prev).natAbs then
        event clock .ot013 "iec61850-goose"
          { evidence := [("goose_appid", .int frame.appid), ("goose_gocb_ref", .text frame.gocbRef),
              ("goose_stnum", .int frame.stNum), ("previous_stnum", .int prev)] } d
      else (d, [])
  ({ r.1 with lastStnum := r.1.lastStnum.set (gooseKey frame) frame.stNum }, r.2)

/-- `evaluate_goose`. -/
def evaluateGoose (doc : PolicyDoc) (clock : Clock) (frame : Goose.GooseFrame) :
    Emitter Iec61850Detector SecurityEvent :=
  filterEnabled ((gooseNewPublisher doc clock frame).andThen <|
    (gooseTestMode doc clock frame).andThen <| gooseStnumAnomaly doc clock frame)

/-- Client and IED of an observation: the IED is the side on port 102. -/
def mmsRoles (obs : Mms.MmsObservation) : String × String :=
  if obs.dstPort = 102 then (obs.srcIp, obs.dstIp) else (obs.dstIp, obs.srcIp)

/-- The key of a client and an IED. -/
def mmsPair (client ied : String) : String := s!"{client}->{ied}:102"

/-- The event fields the MMS rules share. -/
def mmsFields (client ied : String) (pduType : Mms.PduType) (riskScore : Int) : EventFields where
  srcIp := client
  dstIp := ied
  dstPort := some 102
  riskScore := riskScore
  evidence := [("ied_ip", .text ied), ("mms_pdu_type", .text pduType.name)]

/-- OT-014. -/
def mmsNewClient (doc : PolicyDoc) (clock : Clock) (client ied : String) (pduType : Mms.PduType) :
    Emitter Iec61850Detector SecurityEvent := fun d =>
  if mmsPair client ied ∈ d.knownMmsPairs then (d, [])
  else
    let known : Iec61850Detector :=
      { d with knownMmsPairs := insert (mmsPair client ied) d.knownMmsPairs }
    if doc.isKnownMmsPair client ied then (known, [])
    else event clock .ot014 "iec61850-mms" (mmsFields client ied pduType 70) known

/-- OT-016. -/
def mmsWriteAnomaly (doc : PolicyDoc) (clock : Clock) (client ied : String)
    (pduType : Mms.PduType) : Emitter Iec61850Detector SecurityEvent := fun d =>
  if pduType = .write ∧ ¬ doc.isAllowedMmsClient client ied then
    event clock .ot016 "iec61850-mms" (mmsFields client ied .write 88) d
  else (d, [])

/-- OT-018: alert once per client and IED. -/
def mmsUnauthorized (doc : PolicyDoc) (clock : Clock) (client ied : String)
    (pduType : Mms.PduType) : Emitter Iec61850Detector SecurityEvent := fun d =>
  if ¬ doc.isAllowedMmsClient client ied ∧ doc.iedInBaseline ied
      ∧ mmsPair client ied ∉ d.alertedUnauthorizedMms then
    event clock .ot018 "iec61850-mms" (mmsFields client ied pduType 90)
      { d with alertedUnauthorizedMms := insert (mmsPair client ied) d.alertedUnauthorizedMms }
  else (d, [])

/-- `evaluate_mms`. -/
def evaluateMms (doc : PolicyDoc) (clock : Clock) (obs : Mms.MmsObservation) :
    Emitter Iec61850Detector SecurityEvent :=
  let client := (mmsRoles obs).1
  let ied := (mmsRoles obs).2
  filterEnabled ((mmsNewClient doc clock client ied obs.pduType).andThen <|
    (mmsWriteAnomaly doc clock client ied obs.pduType).andThen <|
    mmsUnauthorized doc clock client ied obs.pduType)

/-! ## What the rules leave alone, and what they report -/

/-- What only OT-018 changes, and what no rule does. -/
def latchState (d : Iec61850Detector) : PolicyObj × Finset String × Finset String :=
  (d.policy, d.rulesEnabled, d.alertedUnauthorizedMms)

theorem event_preserves (clock : Clock) (rule : RuleId) (protocol : String)
    (fields : EventFields) : (event clock rule protocol fields).Preserves latchState := fun _ => rfl

theorem event_emitsOnly (clock : Clock) (rule : RuleId) (protocol : String)
    (fields : EventFields) : (event clock rule protocol fields).EmitsOnly (·.ruleId = rule) := by
  intro d e he
  rw [List.mem_singleton.mp he]

theorem filterEnabled_preserves {β : Type} {f : Emitter Iec61850Detector SecurityEvent}
    {proj : Iec61850Detector → β} (hf : f.Preserves proj) : (filterEnabled f).Preserves proj := hf

theorem mem_filterEnabled {f : Emitter Iec61850Detector SecurityEvent} {d : Iec61850Detector}
    {e : SecurityEvent} :
    e ∈ (filterEnabled f d).2 ↔ e ∈ (f d).2 ∧ enabled d.rulesEnabled e.ruleId := by
  simp [filterEnabled]

theorem filterEnabled_emitsOnly {f : Emitter Iec61850Detector SecurityEvent}
    {p : SecurityEvent → Prop} (hf : f.EmitsOnly p) : (filterEnabled f).EmitsOnly p := by
  intro d e he
  exact hf d e (mem_filterEnabled.mp he).1

theorem gooseNewPublisher_spec (doc : PolicyDoc) (clock : Clock) (frame : Goose.GooseFrame) :
    (gooseNewPublisher doc clock frame).Preserves latchState
      ∧ (gooseNewPublisher doc clock frame).EmitsOnly (·.ruleId = .ot011) := by
  refine ⟨fun d => ?_, fun d e he => ?_⟩
  · unfold gooseNewPublisher
    split
    · rfl
    · simp only
      split <;> rfl
  · unfold gooseNewPublisher at he
    split at he
    · cases he
    · simp only at he
      split at he
      · cases he
      · exact event_emitsOnly _ _ _ _ _ e he

theorem gooseTestMode_spec (doc : PolicyDoc) (clock : Clock) (frame : Goose.GooseFrame) :
    (gooseTestMode doc clock frame).Preserves latchState
      ∧ (gooseTestMode doc clock frame).EmitsOnly (·.ruleId = .ot012) := by
  refine ⟨fun d => ?_, fun d e he => ?_⟩
  · unfold gooseTestMode
    simp only
    split <;> rfl
  · unfold gooseTestMode at he
    simp only at he
    split at he
    · exact event_emitsOnly _ _ _ _ _ e he
    · cases he

theorem gooseStnumAnomaly_spec (doc : PolicyDoc) (clock : Clock) (frame : Goose.GooseFrame) :
    (gooseStnumAnomaly doc clock frame).Preserves latchState
      ∧ (gooseStnumAnomaly doc clock frame).EmitsOnly (·.ruleId = .ot013) := by
  refine ⟨fun d => ?_, fun d e he => ?_⟩
  · unfold gooseStnumAnomaly
    simp only
    split
    · rfl
    · split <;> rfl
  · unfold gooseStnumAnomaly at he
    simp only at he
    split at he
    · cases he
    · split at he
      · exact event_emitsOnly _ _ _ _ _ e he
      · cases he

theorem evaluateGoose_preserves (doc : PolicyDoc) (clock : Clock) (frame : Goose.GooseFrame) :
    (evaluateGoose doc clock frame).Preserves latchState :=
  filterEnabled_preserves <| (gooseNewPublisher_spec doc clock frame).1.andThen <|
    (gooseTestMode_spec doc clock frame).1.andThen (gooseStnumAnomaly_spec doc clock frame).1

theorem evaluateGoose_emitsOnly (doc : PolicyDoc) (clock : Clock) (frame : Goose.GooseFrame) :
    (evaluateGoose doc clock frame).EmitsOnly (·.ruleId.phase = .goose) := by
  refine filterEnabled_emitsOnly <| ((gooseNewPublisher_spec doc clock frame).2.mono ?_).andThen <|
    ((gooseTestMode_spec doc clock frame).2.mono ?_).andThen
    ((gooseStnumAnomaly_spec doc clock frame).2.mono ?_)
  all_goals
    intro e he
    rw [he]
    rfl

section Mms

variable (doc : PolicyDoc) (clock : Clock) (client ied : String) (pduType : Mms.PduType)

theorem mmsNewClient_spec :
    (mmsNewClient doc clock client ied pduType).Preserves latchState
      ∧ (mmsNewClient doc clock client ied pduType).EmitsOnly (·.ruleId = .ot014) := by
  refine ⟨fun d => ?_, fun d e he => ?_⟩
  · unfold mmsNewClient
    split
    · rfl
    · simp only
      split <;> rfl
  · unfold mmsNewClient at he
    split at he
    · cases he
    · simp only at he
      split at he
      · cases he
      · exact event_emitsOnly _ _ _ _ _ e he

theorem mmsWriteAnomaly_spec :
    (mmsWriteAnomaly doc clock client ied pduType).Preserves latchState
      ∧ (mmsWriteAnomaly doc clock client ied pduType).EmitsOnly (·.ruleId = .ot016) := by
  refine ⟨fun d => ?_, fun d e he => ?_⟩
  · unfold mmsWriteAnomaly
    split <;> rfl
  · unfold mmsWriteAnomaly at he
    split at he
    · exact event_emitsOnly _ _ _ _ _ e he
    · cases he

theorem mmsUnauthorized_preserves :
    (mmsUnauthorized doc clock client ied pduType).Preserves
      (fun d => (d.policy, d.rulesEnabled)) := by
  intro d
  unfold mmsUnauthorized
  split <;> rfl

theorem mmsUnauthorized_emitsOnly :
    (mmsUnauthorized doc clock client ied pduType).EmitsOnly (·.ruleId = .ot018) := by
  intro d e he
  unfold mmsUnauthorized at he
  split at he
  · exact event_emitsOnly _ _ _ _ _ e he
  · cases he

theorem mmsPhase_emitsOnly :
    ((mmsNewClient doc clock client ied pduType).andThen <|
      (mmsWriteAnomaly doc clock client ied pduType).andThen <|
      mmsUnauthorized doc clock client ied pduType).EmitsOnly (·.ruleId.phase = .mms) := by
  refine ((mmsNewClient_spec doc clock client ied pduType).2.mono ?_).andThen
    (((mmsWriteAnomaly_spec doc clock client ied pduType).2.mono ?_).andThen
      ((mmsUnauthorized_emitsOnly doc clock client ied pduType).mono ?_))
  all_goals
    intro e he
    rw [he]
    rfl

/-! A client the baseline allows is silent. -/

theorem mmsNewClient_known (h : doc.isKnownMmsPair client ied) (d : Iec61850Detector) :
    (mmsNewClient doc clock client ied pduType d).2 = [] := by
  unfold mmsNewClient
  by_cases hseen : mmsPair client ied ∈ d.knownMmsPairs
  · rw [if_pos hseen]
  · rw [if_neg hseen]
    exact congrArg Prod.snd (if_pos h)

theorem mmsWriteAnomaly_allowed (h : doc.isAllowedMmsClient client ied) (d : Iec61850Detector) :
    mmsWriteAnomaly doc clock client ied pduType d = (d, []) := by
  unfold mmsWriteAnomaly
  exact if_neg fun hwrite => hwrite.2 h

theorem mmsUnauthorized_allowed (h : doc.isAllowedMmsClient client ied) (d : Iec61850Detector) :
    mmsUnauthorized doc clock client ied pduType d = (d, []) := by
  unfold mmsUnauthorized
  exact if_neg fun hstranger => hstranger.1 h

/-- What makes OT-018 act on a pair: the IED is in the baseline, the client is not
among its clients. -/
def Unauthorized : Prop := ¬ doc.isAllowedMmsClient client ied ∧ doc.iedInBaseline ied

/-- OT-018 latches its pair when the pair is unauthorized, and reports a pair that was
not latched. -/
theorem mmsUnauthorized_latches (d : Iec61850Detector) :
    LatchStep d.alertedUnauthorizedMms
      (mmsUnauthorized doc clock client ied pduType d).1.alertedUnauthorizedMms
      (fun pair => Unauthorized doc client ied ∧ mmsPair client ied = pair)
      (fun pair => ∃ e ∈ (mmsUnauthorized doc clock client ied pduType d).2,
        e.ruleId = .ot018 ∧ mmsPair e.srcIp e.dstIp = pair) := by
  unfold mmsUnauthorized
  split
  next h =>
    refine .fires h.2.2 (fun pair => ?_) (fun pair => ?_)
    · constructor
      · intro hpair
        exact hpair.2.symm
      · intro hpair
        exact ⟨⟨h.1, h.2.1⟩, hpair.symm⟩
    · simp [event, mmsFields, eq_comm]
  next h =>
    refine .quiet (by simp) fun pair hpair => ?_
    obtain ⟨hun, rfl⟩ := hpair
    by_contra hfresh
    exact h ⟨hun.1, hun.2, hfresh⟩

end Mms

theorem evaluateMms_preserves (doc : PolicyDoc) (clock : Clock) (obs : Mms.MmsObservation) :
    (evaluateMms doc clock obs).Preserves (fun d => (d.policy, d.rulesEnabled)) :=
  filterEnabled_preserves <|
    ((mmsNewClient_spec doc clock _ _ obs.pduType).1.comp fun l => (l.1, l.2.1)).andThen <|
    ((mmsWriteAnomaly_spec doc clock _ _ obs.pduType).1.comp fun l => (l.1, l.2.1)).andThen
    (mmsUnauthorized_preserves doc clock _ _ obs.pduType)

theorem evaluateMms_emitsOnly (doc : PolicyDoc) (clock : Clock) (obs : Mms.MmsObservation) :
    (evaluateMms doc clock obs).EmitsOnly (·.ruleId.phase = .mms) :=
  filterEnabled_emitsOnly (mmsPhase_emitsOnly doc clock _ _ _)

/-- OT-018 runs on a detector with the latch as it was. -/
theorem evaluateMms_eq (doc : PolicyDoc) (clock : Clock) (obs : Mms.MmsObservation)
    (d : Iec61850Detector) : ∃ d' : Iec61850Detector,
      d'.latchState = d.latchState
      ∧ (evaluateMms doc clock obs d).1
        = (mmsUnauthorized doc clock (mmsRoles obs).1 (mmsRoles obs).2 obs.pduType d').1
      ∧ ∀ e, e.ruleId = .ot018 → (e ∈ (evaluateMms doc clock obs d).2
        ↔ e ∈ (mmsUnauthorized doc clock (mmsRoles obs).1 (mmsRoles obs).2 obs.pduType d').2
          ∧ enabled d.rulesEnabled .ot018) := by
  have hnew := mmsNewClient_spec doc clock (mmsRoles obs).1 (mmsRoles obs).2 obs.pduType
  have hwrite := mmsWriteAnomaly_spec doc clock (mmsRoles obs).1 (mmsRoles obs).2 obs.pduType
  refine ⟨_, (hnew.1.andThen hwrite.1) d, rfl, fun e he => ?_⟩
  unfold evaluateMms
  rw [mem_filterEnabled, he,
    Emitter.mem_andThen_skip hnew.2 he (by decide),
    Emitter.mem_andThen_skip hwrite.2 he (by decide)]
  rfl

/-- The pair an observation is about is latched by OT-018 when it is unauthorized,
enabled or not; no other pair is. -/
theorem mem_alerted_evaluateMms (doc : PolicyDoc) (clock : Clock) (obs : Mms.MmsObservation)
    (d : Iec61850Detector) (pair : String) :
    pair ∈ (evaluateMms doc clock obs d).1.alertedUnauthorizedMms
      ↔ pair ∈ d.alertedUnauthorizedMms ∨ (Unauthorized doc (mmsRoles obs).1 (mmsRoles obs).2
        ∧ mmsPair (mmsRoles obs).1 (mmsRoles obs).2 = pair) := by
  obtain ⟨d', hlatch, hstate, -⟩ := evaluateMms_eq doc clock obs d
  have hset : d'.alertedUnauthorizedMms = d.alertedUnauthorizedMms := congrArg (·.2.2) hlatch
  rw [hstate, (mmsUnauthorized_latches _ _ _ _ _ d').mem_iff, hset]

/-- The pair is reported when it is unauthorized, not latched, and the rule enabled. -/
theorem exists_evaluateMms (doc : PolicyDoc) (clock : Clock) (obs : Mms.MmsObservation)
    (d : Iec61850Detector) (pair : String) :
    (∃ e ∈ (evaluateMms doc clock obs d).2, e.ruleId = .ot018 ∧ mmsPair e.srcIp e.dstIp = pair)
      ↔ enabled d.rulesEnabled .ot018
        ∧ (Unauthorized doc (mmsRoles obs).1 (mmsRoles obs).2
          ∧ mmsPair (mmsRoles obs).1 (mmsRoles obs).2 = pair) ∧ pair ∉ d.alertedUnauthorizedMms := by
  obtain ⟨d', hlatch, -, hevents⟩ := evaluateMms_eq doc clock obs d
  have hset : d'.alertedUnauthorizedMms = d.alertedUnauthorizedMms := congrArg (·.2.2) hlatch
  have hone := (mmsUnauthorized_latches doc clock (mmsRoles obs).1 (mmsRoles obs).2 obs.pduType
    d').reported_iff pair
  rw [hset] at hone
  rw [← hone]
  constructor
  · intro ⟨e, he, hrule, hpair⟩
    obtain ⟨he, henabled⟩ := (hevents e hrule).mp he
    exact ⟨henabled, e, he, hrule, hpair⟩
  · intro ⟨henabled, e, he, hrule, hpair⟩
    exact ⟨e, (hevents e hrule).mpr ⟨he, henabled⟩, hrule, hpair⟩

end Iec61850Detector

end EdgeSensor.Sensor
