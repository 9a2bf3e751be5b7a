import EdgeSensor.Sensor.Iec61850

/-!
# One notion of an allowed MMS client

`evaluate_mms` (`src/detection/iec61850.py`) asks the policy about a client in two ways:
OT-014 asks whether *some* entry of the IED lists the client, OT-016 and OT-018 whether
the *first* one does. `mms_rules_agree_iff`: over every run from a fresh detector the
three rules speak of one notion exactly when the two answers are the same, that is when
the first entry of the IED lists the client or none does.

Mirroring notes:
- A run mixes GOOSE frames with MMS observations, under one policy and one rule set.
- A pair is known to the detector under a text; an address without a `-` can be read
  back from it (`mmsPair_inj`), and no printed address has one.
-/

namespace EdgeSensor.Sensor.Iec61850Detector

open EdgeSensor.Lib EdgeSensor.Py EdgeSensor.Parser

/-! ## The two ways to ask -/

theorem isKnownMmsPair_of_allowed {doc : PolicyDoc} {client ied : String}
    (h : doc.isAllowedMmsClient client ied) : doc.isKnownMmsPair client ied := by
  unfold PolicyDoc.isAllowedMmsClient at h
  cases hfirst : doc.iec.mmsIeds.find? (·.iedIp = some ied) with
  | none =>
    rw [hfirst] at h
    cases h
  | some entry =>
    rw [hfirst] at h
    exact ⟨entry, List.mem_of_find?_eq_some hfirst,
      of_decide_eq_true (List.find?_some (p := fun e : MmsIed => decide (e.iedIp = some ied)) hfirst), h⟩

theorem mmsPair_toList (client ied : String) :
    (mmsPair client ied).toList = client.toList ++ '-' :: '>' :: (ied.toList ++ ":102".toList) := by
  unfold mmsPair
  simp only [String.toList_append, List.append_assoc]
  rfl

/-- The key tells client and IED, as long as the separator is not in the client's address. -/
theorem mmsPair_inj {client client' ied ied' : String} (h : '-' ∉ client.toList)
    (h' : '-' ∉ client'.toList) (heq : mmsPair client ied = mmsPair client' ied') :
    client = client' ∧ ied = ied' := by
  have hlists := congrArg String.toList heq
  rw [mmsPair_toList, mmsPair_toList] at hlists
  obtain ⟨hclient, hrest⟩ := append_separator_inj h h' hlists
  have hied := List.append_cancel_right (List.cons.inj hrest).2
  exact ⟨String.toList_inj.mp hclient, String.toList_inj.mp hied⟩

/-! ## When each rule reports -/

/-- The rule reports the observation. -/
def Fires (rule : RuleId) (doc : PolicyDoc) (clock : Clock) (obs : Mms.MmsObservation)
    (d : Iec61850Detector) : Prop :=
  ∃ e ∈ (evaluateMms doc clock obs d).2, e.ruleId = rule

section Rules

variable (doc : PolicyDoc) (clock : Clock) (obs : Mms.MmsObservation) (d : Iec61850Detector)

theorem exists_mmsNewClient (client ied : String) (pduType : Mms.PduType) :
    (∃ e ∈ (mmsNewClient doc clock client ied pduType d).2, e.ruleId = .ot014)
      ↔ mmsPair client ied ∉ d.knownMmsPairs ∧ ¬ doc.isKnownMmsPair client ied := by
  unfold mmsNewClient
  by_cases hseen : mmsPair client ied ∈ d.knownMmsPairs
  · simp [hseen]
  · by_cases hknown : doc.isKnownMmsPair client ied
    · simp [hseen, hknown]
    · simp [hseen, hknown, event]

theorem exists_mmsWriteAnomaly (client ied : String) (pduType : Mms.PduType) :
    (∃ e ∈ (mmsWriteAnomaly doc clock client ied pduType d).2, e.ruleId = .ot016)
      ↔ pduType = .write ∧ ¬ doc.isAllowedMmsClient client ied := by
  unfold mmsWriteAnomaly
  by_cases hwrite : pduType = .write ∧ ¬ doc.isAllowedMmsClient client ied
  · simp [hwrite, event]
  · rw [if_neg hwrite]
    simp [hwrite]

theorem fires_newClient_iff : Fires .ot014 doc clock obs d
    ↔ enabled d.rulesEnabled .ot014
      ∧ mmsPair (mmsRoles obs).1 (mmsRoles obs).2 ∉ d.knownMmsPairs
      ∧ ¬ doc.isKnownMmsPair (mmsRoles obs).1 (mmsRoles obs).2 := by
  have hrest : ((mmsWriteAnomaly doc clock (mmsRoles obs).1 (mmsRoles obs).2 obs.pduType).andThen <|
      mmsUnauthorized doc clock (mmsRoles obs).1 (mmsRoles obs).2 obs.pduType).EmitsOnly
        (¬ ·.ruleId = .ot014) :=
    ((mmsWriteAnomaly_spec _ _ _ _ _).2.other (by decide)).andThen
      ((mmsUnauthorized_emitsOnly _ _ _ _ _).other (by decide))
  rw [← exists_mmsNewClient doc clock d _ _ obs.pduType]
  unfold Fires evaluateMms
  constructor
  · rintro ⟨e, he, hrule⟩
    obtain ⟨he, hon⟩ := mem_filterEnabled.mp he
    rw [Emitter.mem_andThen_left (p := (·.ruleId = .ot014)) hrest hrule] at he
    exact ⟨hrule ▸ hon, e, he, hrule⟩
  · rintro ⟨hon, e, he, hrule⟩
    refine ⟨e, mem_filterEnabled.mpr ⟨?_, hrule ▸ hon⟩, hrule⟩
    rw [Emitter.mem_andThen_left (p := (·.ruleId = .ot014)) hrest hrule]
    exact he

theorem fires_writeAnomaly_iff : Fires .ot016 doc clock obs d
    ↔ enabled d.rulesEnabled .ot016 ∧ obs.pduType = .write
      ∧ ¬ doc.isAllowedMmsClient (mmsRoles obs).1 (mmsRoles obs).2 := by
  have hchain : ∀ e : SecurityEvent, e.ruleId = .ot016 →
      (e ∈ (evaluateMms doc clock obs d).2
        ↔ e ∈ (mmsWriteAnomaly doc clock (mmsRoles obs).1 (mmsRoles obs).2 obs.pduType
            (mmsNewClient doc clock (mmsRoles obs).1 (mmsRoles obs).2 obs.pduType d).1).2
          ∧ enabled d.rulesEnabled .ot016) := by
    intro e hrule
    unfold evaluateMms
    rw [mem_filterEnabled, hrule,
      Emitter.mem_andThen_skip (mmsNewClient_spec _ _ _ _ _).2 hrule (by decide),
      Emitter.mem_andThen_stop (mmsUnauthorized_emitsOnly _ _ _ _ _) hrule (by decide)]
  rw [← exists_mmsWriteAnomaly doc clock
    (mmsNewClient doc clock (mmsRoles obs).1 (mmsRoles obs).2 obs.pduType d).1]
  constructor
  · rintro ⟨e, he, hrule⟩
    obtain ⟨he, hon⟩ := (hchain e hrule).mp he
    exact ⟨hon, e, he, hrule⟩
  · rintro ⟨hon, e, he, hrule⟩
    exact ⟨e, (hchain e hrule).mpr ⟨he, hon⟩, hrule⟩

theorem fires_unauthorized_iff : Fires .ot018 doc clock obs d
    ↔ enabled d.rulesEnabled .ot018
      ∧ Unauthorized doc (mmsRoles obs).1 (mmsRoles obs).2
      ∧ mmsPair (mmsRoles obs).1 (mmsRoles obs).2 ∉ d.alertedUnauthorizedMms := by
  constructor
  · rintro ⟨e, he, hrule⟩
    obtain ⟨hon, ⟨hun, hpair⟩, hfresh⟩ :=
      (exists_evaluateMms doc clock obs d _).mp ⟨e, he, hrule, rfl⟩
    exact ⟨hon, hun, hpair ▸ hfresh⟩
  · rintro ⟨hon, hun, hfresh⟩
    obtain ⟨e, he, hrule, -⟩ := (exists_evaluateMms doc clock obs d _).mpr ⟨hon, ⟨hun, rfl⟩, hfresh⟩
    exact ⟨e, he, hrule⟩

end Rules

/-! ## Runs of the detector -/

/-- What the detector is handed. -/
inductive Heard where
  | goose (frame : Goose.GooseFrame)
  | mms (obs : Mms.MmsObservation)

/-- The detector after one call. -/
def hear (doc : PolicyDoc) (d : Iec61850Detector) (x : Clock × Heard) : Iec61850Detector :=
  match x.2 with
  | .goose frame => (evaluateGoose doc x.1 frame d).1
  | .mms obs => (evaluateMms doc x.1 obs d).1

theorem evaluateGoose_known (doc : PolicyDoc) (clock : Clock) (frame : Goose.GooseFrame) :
    (evaluateGoose doc clock frame).Preserves (·.knownMmsPairs) := by
  refine filterEnabled_preserves <| Emitter.Preserves.andThen (fun d => ?_) <|
    Emitter.Preserves.andThen (fun d => ?_) (fun d => ?_)
  · unfold gooseNewPublisher
    split
    · rfl
    · simp only
      split <;> rfl
  · unfold gooseTestMode
    simp only
    split <;> rfl
  · unfold gooseStnumAnomaly
    simp only
    split
    · rfl
    · split <;> rfl

theorem mem_known_evaluateMms (doc : PolicyDoc) (clock : Clock) (obs : Mms.MmsObservation)
    (d : Iec61850Detector) (pair : String) :
    pair ∈ (evaluateMms doc clock obs d).1.knownMmsPairs
      ↔ pair ∈ d.knownMmsPairs ∨ mmsPair (mmsRoles obs).1 (mmsRoles obs).2 = pair := by
  have hrest : ((mmsWriteAnomaly doc clock (mmsRoles obs).1 (mmsRoles obs).2 obs.pduType).andThen <|
      mmsUnauthorized doc clock (mmsRoles obs).1 (mmsRoles obs).2 obs.pduType).Preserves
        (·.knownMmsPairs) := by
    refine Emitter.Preserves.andThen (fun d => ?_) (fun d => ?_)
    · unfold mmsWriteAnomaly
      split <;> rfl
    · unfold mmsUnauthorized
      split <;> rfl
  have hfirst : (evaluateMms doc clock obs d).1.knownMmsPairs
      = (mmsNewClient doc clock (mmsRoles obs).1 (mmsRoles obs).2 obs.pduType d).1.knownMmsPairs :=
    hrest _
  rw [hfirst]
  unfold mmsNewClient
  split
  next hseen =>
    constructor
    · exact .inl
    · rintro (hmem | rfl)
      · exact hmem
      · exact hseen
  next hnew =>
    have hinsert : pair ∈ insert (mmsPair (mmsRoles obs).1 (mmsRoles obs).2) d.knownMmsPairs
        ↔ pair ∈ d.knownMmsPairs ∨ mmsPair (mmsRoles obs).1 (mmsRoles obs).2 = pair := by
      rw [Finset.mem_insert, or_comm, eq_comm]
    simp only
    split
    · exact hinsert
    · exact hinsert

/-- An observation of the pair of the key. -/
def Observes (pair : String) (x : Clock × Heard) : Prop :=
  ∃ obs, x.2 = .mms obs ∧ mmsPair (mmsRoles obs).1 (mmsRoles obs).2 = pair

/-- What OT-014 knows of a pair. -/
def knownLatch (doc : PolicyDoc) (pair : String) : Latch Iec61850Detector (Clock × Heard) where
  step := hear doc
  set := fun d => pair ∈ d.knownMmsPairs
  trigger := fun _ x => Observes pair x
  gate := fun _ _ => True
  set_step := by
    rintro d ⟨clock, frame | obs⟩
    · simp [hear, Observes, show (evaluateGoose doc clock frame d).1.knownMmsPairs
        = d.knownMmsPairs from evaluateGoose_known doc clock frame d]
    · simp [hear, Observes, mem_known_evaluateMms]

/-- What OT-018 has reported of a pair, or would have with the rule on. -/
def alertedLatch (doc : PolicyDoc) (pair : String) : Latch Iec61850Detector (Clock × Heard) where
  step := hear doc
  set := fun d => pair ∈ d.alertedUnauthorizedMms
  trigger := fun _ x => ∃ obs, x.2 = .mms obs ∧ Unauthorized doc (mmsRoles obs).1 (mmsRoles obs).2
    ∧ mmsPair (mmsRoles obs).1 (mmsRoles obs).2 = pair
  gate := fun _ _ => True
  set_step := by
    rintro d ⟨clock, frame | obs⟩
    · have hkept : (evaluateGoose doc clock frame d).1.alertedUnauthorizedMms
          = d.alertedUnauthorizedMms :=
        congrArg (·.2.2) (evaluateGoose_preserves doc clock frame d)
      simp [hear, hkept]
    · simp [hear, mem_alerted_evaluateMms]

/-- The observations of a run bear printed addresses. -/
def Printed (inputs : List (Clock × Heard)) : Prop :=
  ∀ clock obs, (clock, .mms obs) ∈ inputs → '-' ∉ (mmsRoles obs).1.toList

/-- The client has been seen at the IED before position `i`. -/
def SeenBefore (inputs : List (Clock × Heard)) (i : Nat) (client ied : String) : Prop :=
  ∃ j < i, ∃ clock obs, inputs[j]? = some (clock, .mms obs) ∧ mmsRoles obs = (client, ied)

/-- A detector that has heard nothing yet. -/
def Fresh (d : Iec61850Detector) : Prop := d.knownMmsPairs = ∅ ∧ d.alertedUnauthorizedMms = ∅

/-- At position `i` the three rules speak of one notion of an allowed client, the client
that some entry of the IED lists. -/
structure OneNotion (doc : PolicyDoc) (d : Iec61850Detector) (inputs : List (Clock × Heard))
    (i : Nat) (clock : Clock) (obs : Mms.MmsObservation) (client ied : String) : Prop where
  newClient : enabled d.rulesEnabled .ot014 →
    (Fires .ot014 doc clock obs (stateAt (hear doc) d inputs i)
      ↔ ¬ SeenBefore inputs i client ied ∧ ¬ doc.isKnownMmsPair client ied)
  write : enabled d.rulesEnabled .ot016 →
    (Fires .ot016 doc clock obs (stateAt (hear doc) d inputs i)
      ↔ obs.pduType = .write ∧ ¬ doc.isKnownMmsPair client ied)
  unauthorized : enabled d.rulesEnabled .ot018 →
    (Fires .ot018 doc clock obs (stateAt (hear doc) d inputs i)
      ↔ ¬ SeenBefore inputs i client ied ∧ doc.iedInBaseline ied
        ∧ ¬ doc.isKnownMmsPair client ied)
  listed : doc.isKnownMmsPair client ied → ∀ rule, rule = .ot014 ∨ rule = .ot016 ∨ rule = .ot018 →
    ¬ Fires rule doc clock obs (stateAt (hear doc) d inputs i)

section Run

variable {doc : PolicyDoc} {d : Iec61850Detector} {inputs : List (Clock × Heard)} {i : Nat}

theorem stateAt_rulesEnabled :
    (stateAt (hear doc) d inputs i).rulesEnabled = d.rulesEnabled := by
  refine stateAt_inv (p := fun s : Iec61850Detector => s.rulesEnabled = d.rulesEnabled) rfl ?_ i
  rintro j ⟨clock, frame | obs⟩ - hkept
  · exact (congrArg (·.2.1) (evaluateGoose_preserves doc clock frame _)).trans hkept
  · exact (congrArg (·.2) (evaluateMms_preserves doc clock obs _)).trans hkept

/-- On printed addresses, the key of a pair was observed when the pair was. -/
theorem observed_iff (hprinted : Printed inputs) {client ied : String}
    (hclient : '-' ∉ client.toList) :
    (∃ j < i, At (hear doc) d inputs (fun _ x => Observes (mmsPair client ied) x) j)
      ↔ SeenBefore inputs i client ied := by
  constructor
  · rintro ⟨j, hj, ⟨clock, heard⟩, hx, obs, rfl, hpair⟩
    obtain ⟨h1, h2⟩ := mmsPair_inj (hprinted clock obs (List.mem_of_getElem? hx)) hclient hpair
    exact ⟨j, hj, clock, obs, hx, Prod.ext h1 h2⟩
  · rintro ⟨j, hj, clock, obs, hx, hroles⟩
    exact ⟨j, hj, _, hx, obs, rfl, by rw [hroles]⟩

theorem mem_known_iff (hfresh : Fresh d) (hprinted : Printed inputs) {client ied : String}
    (hclient : '-' ∉ client.toList) :
    mmsPair client ied ∈ (stateAt (hear doc) d inputs i).knownMmsPairs
      ↔ SeenBefore inputs i client ied := by
  rw [← @observed_iff doc d inputs i hprinted client ied hclient]
  have hlatch := @Latch.set_stateAt _ _ (knownLatch doc (mmsPair client ied)) d inputs i
  have hunset : mmsPair client ied ∉ d.knownMmsPairs := by
    rw [hfresh.1]
    exact Finset.notMem_empty _
  exact hlatch.trans (or_iff_right hunset)

theorem mem_alerted_iff (hfresh : Fresh d) (hprinted : Printed inputs) {client ied : String}
    (hclient : '-' ∉ client.toList) :
    mmsPair client ied ∈ (stateAt (hear doc) d inputs i).alertedUnauthorizedMms
      ↔ Unauthorized doc client ied ∧ SeenBefore inputs i client ied := by
  have hlatch := @Latch.set_stateAt _ _ (alertedLatch doc (mmsPair client ied)) d inputs i
  have hunset : mmsPair client ied ∉ d.alertedUnauthorizedMms := by
    rw [hfresh.2]
    exact Finset.notMem_empty _
  refine (hlatch.trans (or_iff_right hunset)).trans ?_
  constructor
  · rintro ⟨j, hj, ⟨clock, heard⟩, hx, obs, rfl, hun, hpair⟩
    obtain ⟨h1, h2⟩ := mmsPair_inj (hprinted clock obs (List.mem_of_getElem? hx)) hclient hpair
    rw [h1, h2] at hun
    exact ⟨hun, j, hj, clock, obs, hx, Prod.ext h1 h2⟩
  · rintro ⟨hun, j, hj, clock, obs, hx, hroles⟩
    exact ⟨j, hj, _, hx, obs, rfl, by rwa [hroles], by rw [hroles]⟩

/-- Where both ways to ask give one answer, the rules speak of one notion. -/
theorem oneNotion (hfresh : Fresh d) (hprinted : Printed inputs) {clock : Clock}
    {obs : Mms.MmsObservation} (hx : inputs[i]? = some (clock, .mms obs)) {client ied : String}
    (hroles : mmsRoles obs = (client, ied))
    (hsame : doc.isAllowedMmsClient client ied ↔ doc.isKnownMmsPair client ied) :
    OneNotion doc d inputs i clock obs client ied := by
  have hclient : '-' ∉ client.toList := by
    have hp := hprinted clock obs (List.mem_of_getElem? hx)
    rwa [hroles] at hp
  have hnew := fires_newClient_iff doc clock obs (stateAt (hear doc) d inputs i)
  have hwrite := fires_writeAnomaly_iff doc clock obs (stateAt (hear doc) d inputs i)
  have hun := fires_unauthorized_iff doc clock obs (stateAt (hear doc) d inputs i)
  rw [stateAt_rulesEnabled, hroles] at hnew hwrite hun
  simp only at hnew hwrite hun
  rw [mem_known_iff hfresh hprinted hclient] at hnew
  rw [hsame] at hwrite
  rw [mem_alerted_iff hfresh hprinted hclient, Unauthorized, hsame] at hun
  refine ⟨fun hon => ?_, fun hon => ?_, fun hon => ?_, ?_⟩
  · rw [hnew]
    exact and_iff_right hon
  · rw [hwrite]
    exact and_iff_right hon
  · rw [hun, and_iff_right hon]
    constructor
    · rintro ⟨⟨hnot, hied⟩, hfirst⟩
      exact ⟨fun hseen => hfirst ⟨⟨hnot, hied⟩, hseen⟩, hied, hnot⟩
    · rintro ⟨hunseen, hied, hnot⟩
      exact ⟨⟨hnot, hied⟩, fun hfirst => hunseen hfirst.2⟩
  · rintro hlisted rule (rfl | rfl | rfl)
    · exact fun hfires => (hnew.mp hfires).2.2 hlisted
    · exact fun hfires => (hwrite.mp hfires).2.2 hlisted
    · exact fun hfires => (hun.mp hfires).2.1.1 hlisted

end Run

/-- A detector with all rules on that has heard nothing yet. -/
def bareDetector : Iec61850Detector := { siteId := "site", sensorId := "sensor", policy := {} }

def stoppedClock : Clock :=
  ⟨0, 0, 0, fun _ => 0, fun _ => 0, "20260101", "2026-01-01T00:00:00+00:00"⟩

/-- The client writes to the IED. -/
def writeRequest (client ied : String) : Mms.MmsObservation := ⟨client, ied, 40000, 102, .write, 1⟩

/-- Over every run from a fresh detector the three rules speak of one notion of an allowed
client, exactly when the first entry of the IED lists the client or no entry does. -/
theorem mms_rules_agree_iff (doc : PolicyDoc) (client ied : String)
    (hclient : '-' ∉ client.toList) :
    (∀ d inputs, Fresh d → Printed inputs → ∀ i clock obs,
        inputs[i]? = some (clock, .mms obs) → mmsRoles obs = (client, ied) →
        OneNotion doc d inputs i clock obs client ied)
      ↔ doc.isAllowedMmsClient client ied ∨ ¬ doc.isKnownMmsPair client ied := by
  constructor
  · intro h
    -- one write tells
    have hprinted : Printed [(stoppedClock, .mms (writeRequest client ied))] := by
      intro clock obs hmem
      rw [List.mem_singleton, Prod.mk.injEq, Heard.mms.injEq] at hmem
      rw [hmem.2]
      exact hclient
    have hone := (h bareDetector _ ⟨rfl, rfl⟩ hprinted 0 stoppedClock (writeRequest client ied)
      rfl rfl).write (.inl rfl)
    rw [stateAt_zero, fires_writeAnomaly_iff] at hone
    by_contra hboth
    rw [not_or, not_not] at hboth
    exact (hone.mp ⟨.inl rfl, rfl, hboth.1⟩).2 hboth.2
  · intro h d inputs hfresh hprinted i clock obs hx hroles
    refine oneNotion hfresh hprinted hx hroles ⟨isKnownMmsPair_of_allowed, fun hknown => ?_⟩
    exact h.resolve_right (not_not_intro hknown)

/-- A relay with two entries, of which the second lists the engineering station. -/
def twoEntries : PolicyDoc where
  body := { iec61850 := some { mmsIeds := [
    { iedIp := some "10.0.0.1", allowedMmsClients := ["10.0.0.2"] },
    { iedIp := some "10.0.0.1", allowedMmsClients := ["10.0.0.3"] }] } }

/-- The client of the first entry. -/
theorem mms_rules_agree_first :
    '-' ∉ "10.0.0.2".toList ∧ ((∀ d inputs, Fresh d → Printed inputs → ∀ i clock obs,
        inputs[i]? = some (clock, .mms obs) → mmsRoles obs = ("10.0.0.2", "10.0.0.1") →
        OneNotion twoEntries d inputs i clock obs "10.0.0.2" "10.0.0.1")
      ↔ twoEntries.isAllowedMmsClient "10.0.0.2" "10.0.0.1"
        ∨ ¬ twoEntries.isKnownMmsPair "10.0.0.2" "10.0.0.1") :=
  ⟨by decide, mms_rules_agree_iff twoEntries "10.0.0.2" "10.0.0.1" (by decide)⟩

/-- The client of the second entry is a known one to OT-014, and its write is reported. -/
theorem mms_rules_disagree :
    ¬ OneNotion twoEntries bareDetector [(stoppedClock, .mms (writeRequest "10.0.0.3" "10.0.0.1"))] 0
      stoppedClock (writeRequest "10.0.0.3" "10.0.0.1") "10.0.0.3" "10.0.0.1" := by
  intro h
  have hwrite := h.write (.inl rfl)
  rw [stateAt_zero, fires_writeAnomaly_iff] at hwrite
  have hfires := hwrite.mp ⟨.inl rfl, rfl, by decide⟩
  exact hfires.2 (by decide)

end EdgeSensor.Sensor.Iec61850Detector
