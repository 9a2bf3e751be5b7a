import EdgeSensor.Console.BaselineService
import EdgeSensor.Sensor.Iec61850
import EdgeSensor.Sensor.TornReads

/-!
# What was learned is not reported

Three components share a baseline: the collector writes it, the console merges it into the
detection policy, the detector looks observations up in it. They agree on what identifies a
GOOSE publisher and on which endpoint of an MMS flow is the IED. So traffic that was
learned raises none of the alerts about strangers (OT-011, OT-014, OT-016, OT-018), in
whatever order and however often it comes again (`learned_traffic_is_quiet`).

The collector keys publishers by a text with separators. A MAC never has the separator in
it (`Observation.Valid`); with one that does, two publishers could share a record.
-/

namespace EdgeSensor.System

open EdgeSensor.Lib EdgeSensor.Parser EdgeSensor.Sensor EdgeSensor.Console

/-- What learner and detector are fed. -/
inductive Observation where
  | goose (frame : Goose.GooseFrame)
  | mms (obs : Mms.MmsObservation)

/-- Addresses are not empty, and one side of an MMS flow is on port 102. A MAC is hex digits
and colons; what matters is that the separator of the keys is not among them. -/
def Observation.Valid : Observation → Prop
  | .goose frame => frame.publisherMac ≠ "" ∧ '|' ∉ frame.publisherMac.toList
  | .mms obs => obs.srcIp ≠ "" ∧ obs.dstIp ≠ ""
      ∧ (obs.srcPort = Mms.MMS_PORT ∨ obs.dstPort = Mms.MMS_PORT)

/-- Feed the collector one observation. -/
def learn (c : BaselineCollector) (input : Rat × Observation) : BaselineCollector :=
  match input.2 with
  | .goose frame => c.feedGoose input.1 frame
  | .mms obs => c.feedMms input.1 obs

/-- Feed the detector one observation. -/
def detect (doc : PolicyDoc) (input : Clock × Observation) :
    Emitter Iec61850Detector SecurityEvent :=
  match input.2 with
  | .goose frame => Iec61850Detector.evaluateGoose doc input.1 frame
  | .mms obs => Iec61850Detector.evaluateMms doc input.1 obs

/-- The rules about strangers. -/
def strangerRules : List RuleId := [.ot011, .ot014, .ot016, .ot018]

/-- The two lists of the policy are those of the block. -/
def Holds (doc : PolicyDoc) (block : Iec61850Policy) : Prop :=
  doc.iec.goosePublishers = block.goosePublishers ∧ doc.iec.mmsIeds = block.mmsIeds

/-! ## The collector has learned an observation -/

/-- The publisher has a record, or the client is one of those of the IED. -/
def Learned (c : BaselineCollector) : Observation → Prop
  | .goose frame => c.HasPublisher (publisherKey frame.publisherMac frame.appid frame.gocbRef)
  | .mms obs => c.HasClient (Iec61850Detector.mmsRoles obs).1 (Iec61850Detector.mmsRoles obs).2

/-- The records of a collector that was fed valid observations. -/
structure Sound (c : BaselineCollector) : Prop where
  ok : c.Ok
  plain : c.PlainMacs

/-- **Learner and detector take the same endpoint for the IED.** -/
theorem feedMms_eq_recordMms (now : Rat) {obs : Mms.MmsObservation}
    (hport : obs.srcPort = Mms.MMS_PORT ∨ obs.dstPort = Mms.MMS_PORT) (c : BaselineCollector) :
    c.feedMms now obs = c.recordMms now (Iec61850Detector.mmsRoles obs).2
      (Iec61850Detector.mmsRoles obs).1 obs.pduType := by
  unfold BaselineCollector.feedMms Iec61850Detector.mmsRoles
  by_cases hdst : obs.dstPort = Mms.MMS_PORT
  · have hdst' : obs.dstPort = 102 := hdst
    rw [if_pos hdst, if_pos hdst']
  · have hdst' : ¬ obs.dstPort = 102 := hdst
    rw [if_neg hdst, if_neg hdst', if_pos (hport.resolve_right hdst)]

theorem Sound.learn {c : BaselineCollector} (h : Sound c) {input : Rat × Observation}
    (hvalid : input.2.Valid) : Sound (learn c input) := by
  obtain ⟨now, o⟩ := input
  cases o with
  | goose frame => exact ⟨h.ok.feedGoose now frame, h.plain.feedGoose now hvalid.2⟩
  | mms obs =>
    refine ⟨h.ok.feedMms now obs, ?_⟩
    show (c.feedMms now obs).PlainMacs
    rw [feedMms_eq_recordMms now hvalid.2.2]
    exact h.plain

/-- An observation is learned when it is fed. -/
theorem learned_learn (c : BaselineCollector) {input : Rat × Observation}
    (hvalid : input.2.Valid) : Learned (learn c input) input.2 := by
  obtain ⟨now, o⟩ := input
  cases o with
  | goose frame => exact (BaselineCollector.hasPublisher_feedGoose now frame _).mpr (.inl rfl)
  | mms obs =>
    obtain ⟨hsrc, hdst, hport⟩ := hvalid
    show (c.feedMms now obs).HasClient _ _
    rw [feedMms_eq_recordMms now hport]
    refine (BaselineCollector.hasClient_recordMms _ _ _ _ _ _).mpr (.inl ⟨rfl, rfl, ?_⟩)
    unfold Iec61850Detector.mmsRoles
    split
    next => exact hsrc
    next => exact hdst

/-- Feeding another one forgets nothing. -/
theorem Learned.learn {c : BaselineCollector} {o : Observation} (h : Learned c o)
    {input : Rat × Observation} (hvalid : input.2.Valid) : Learned (learn c input) o := by
  obtain ⟨now, new⟩ := input
  cases new with
  | goose frame =>
    cases o with
    | goose _ => exact (BaselineCollector.hasPublisher_feedGoose now frame _).mpr (.inr h)
    | mms _ => exact h
  | mms obs =>
    show Learned (c.feedMms now obs) o
    rw [feedMms_eq_recordMms now hvalid.2.2]
    cases o with
    | goose _ => exact h
    | mms _ => exact (BaselineCollector.hasClient_recordMms _ _ _ _ _ _).mpr (.inr h)

/-- After a trace, everything in it is learned, and what was before still is. -/
theorem learn_trace {c : BaselineCollector} (h : Sound c) {trace : List (Rat × Observation)}
    (hvalid : ∀ input ∈ trace, input.2.Valid) :
    Sound (trace.foldl learn c)
      ∧ ∀ o, (Learned c o ∨ o ∈ trace.map (·.2)) → Learned (trace.foldl learn c) o := by
  induction trace generalizing c with
  | nil =>
    refine ⟨h, fun o ho => ho.resolve_right ?_⟩
    exact List.not_mem_nil
  | cons input trace ih =>
    obtain ⟨hsound, hlearned⟩ := ih (h.learn (hvalid input List.mem_cons_self))
      fun later hlater => hvalid later (List.mem_cons_of_mem _ hlater)
    refine ⟨hsound, fun o ho => hlearned o ?_⟩
    have hhead : Learned (learn c input) input.2 :=
      learned_learn c (hvalid input List.mem_cons_self)
    rcases ho with ho | ho
    · exact .inl (ho.learn (hvalid input List.mem_cons_self))
    · rcases List.mem_cons.mp ho with rfl | ho
      · exact .inl hhead
      · exact .inr ho

/-! ## The detector finds what was learned -/

section Detect

variable {c : BaselineCollector} {doc : PolicyDoc}

/-- The block `to_candidate` writes without a window. -/
def learnedBlock (c : BaselineCollector) : Iec61850Policy :=
  ⟨c.goosePublishers none, c.mmsIeds none, []⟩

/-- A learned publisher has an entry that matches its frames. -/
theorem matchGooseBaseline_of_learned (hsound : Sound c) (hdoc : Holds doc (learnedBlock c))
    {frame : Goose.GooseFrame} (hvalid : (Observation.goose frame).Valid)
    (h : Learned c (.goose frame)) : (doc.matchGooseBaseline frame).isSome := by
  obtain ⟨obs, hobs⟩ := Option.isSome_iff_exists.mp h
  have hmem := Dict.mem_of_get? hobs
  obtain ⟨hmac, happid, hgocb⟩ : obs.publisherMac = frame.publisherMac
      ∧ obs.appid = frame.appid ∧ obs.gocbRef = frame.gocbRef :=
    BaselineCollector.publisherKey_inj (hsound.plain _ hmem) hvalid.2
      (hsound.ok.goose.key_of_get? hobs)
  obtain ⟨i, hentry⟩ := BaselineCollector.exists_publisherEntry hobs (fresh_none obs.lastSeen)
  unfold PolicyDoc.matchGooseBaseline
  rw [hdoc.1, List.find?_isSome]
  exact ⟨_, hentry, decide_eq_true
    ⟨.inr (congrArg Py.lower hmac), .inr (congrArg Nat.cast happid), .inr hgocb⟩⟩

/-- A learned client is among those of every entry of its IED, and there is one. -/
theorem clients_of_learned (hsound : Sound c) (hdoc : Holds doc (learnedBlock c))
    {client ied : String} (h : c.HasClient client ied) :
    (∃ entry ∈ doc.iec.mmsIeds, entry.iedIp = some ied)
      ∧ ∀ entry ∈ doc.iec.mmsIeds, entry.iedIp = some ied → client ∈ entry.allowedMmsClients := by
  obtain ⟨rec, hrec, hclient⟩ := h
  have hkey := hsound.ok.mms.key_of_get? hrec
  rw [hdoc.2]
  constructor
  · obtain ⟨i, hentry⟩ := BaselineCollector.exists_iedEntry hrec (fresh_none rec.lastSeen)
    exact ⟨_, hentry, congrArg some hkey⟩
  · intro entry hentry hied
    obtain ⟨i, rec', hrec', -, rfl⟩ := BaselineCollector.mem_mmsIeds hentry
    -- an IED has one record, so this is the entry of the one that has the client
    have hget := hsound.ok.mms.get?_key hrec'
    rw [show rec'.iedIp = ied from Option.some.inj hied, hrec] at hget
    cases hget
    exact BaselineCollector.mem_allowedMmsClients hclient

theorem isAllowedMmsClient_of_learned (hsound : Sound c) (hdoc : Holds doc (learnedBlock c))
    {client ied : String} (h : c.HasClient client ied) :
    doc.isKnownMmsPair client ied ∧ doc.isAllowedMmsClient client ied := by
  obtain ⟨⟨entry, hentry, hied⟩, hall⟩ := clients_of_learned hsound hdoc h
  refine ⟨⟨entry, hentry, hied, hall entry hentry hied⟩, ?_⟩
  unfold PolicyDoc.isAllowedMmsClient
  cases hfind : doc.iec.mmsIeds.find? (·.iedIp = some ied) with
  | none =>
    exact absurd (decide_eq_true hied) (List.find?_eq_none.mp hfind entry hentry)
  | some first =>
    have hfirst := List.find?_some hfind
    exact hall first (List.mem_of_find?_eq_some hfind) (of_decide_eq_true hfirst)

/-- A frame of a learned publisher is no stranger's. -/
theorem evaluateGoose_of_learned (hsound : Sound c) (hdoc : Holds doc (learnedBlock c))
    {frame : Goose.GooseFrame} (hvalid : (Observation.goose frame).Valid)
    (h : Learned c (.goose frame)) (clock : Clock) :
    (Iec61850Detector.evaluateGoose doc clock frame).EmitsOnly (·.ruleId ∉ strangerRules) := by
  obtain ⟨entry, hentry⟩ := Option.isSome_iff_exists.mp
    (matchGooseBaseline_of_learned hsound hdoc hvalid h)
  have hnew : (Iec61850Detector.gooseNewPublisher doc clock frame).EmitsOnly
      (·.ruleId ∉ strangerRules) := by
    intro d e he
    unfold Iec61850Detector.gooseNewPublisher at he
    rw [hentry] at he
    split at he <;> cases he
  refine Iec61850Detector.filterEnabled_emitsOnly <| hnew.andThen <|
    ((Iec61850Detector.gooseTestMode_spec doc clock frame).2.mono ?_).andThen
    ((Iec61850Detector.gooseStnumAnomaly_spec doc clock frame).2.mono ?_)
  all_goals
    intro e he
    rw [he]
    decide

/-- A learned pair raises nothing at all. -/
theorem evaluateMms_of_learned (hsound : Sound c) (hdoc : Holds doc (learnedBlock c))
    {obs : Mms.MmsObservation} (h : Learned c (.mms obs)) (clock : Clock) (d : Iec61850Detector) :
    (Iec61850Detector.evaluateMms doc clock obs d).2 = [] := by
  obtain ⟨hknown, hallowed⟩ := isAllowedMmsClient_of_learned hsound hdoc h
  unfold Iec61850Detector.evaluateMms Iec61850Detector.filterEnabled Emitter.andThen
  simp only [Iec61850Detector.mmsNewClient_known _ _ _ _ _ hknown,
    Iec61850Detector.mmsWriteAnomaly_allowed _ _ _ _ _ hallowed,
    Iec61850Detector.mmsUnauthorized_allowed _ _ _ _ _ hallowed]
  rfl

/-- Whatever was learned raises no alert about a stranger, from any state of the detector. -/
theorem detect_of_learned (hsound : Sound c) (hdoc : Holds doc (learnedBlock c))
    {input : Clock × Observation} (hvalid : input.2.Valid) (h : Learned c input.2) :
    (detect doc input).EmitsOnly (·.ruleId ∉ strangerRules) := by
  obtain ⟨clock, o⟩ := input
  cases o with
  | goose frame => exact evaluateGoose_of_learned hsound hdoc hvalid h clock
  | mms obs =>
    intro d e he
    rw [show (detect doc (clock, .mms obs) d).2 = [] from
      evaluateMms_of_learned hsound hdoc h clock d] at he
    cases he

end Detect

/-- The collector after a trace. -/
def learnAll (trace : List (Rat × Observation)) : BaselineCollector := trace.foldl learn {}

/-- A trace with something in it leaves something to approve. -/
theorem learnedBlock_nonempty {c : BaselineCollector} {o : Observation} (h : Learned c o) :
    (learnedBlock c).goosePublishers ≠ [] ∨ (learnedBlock c).mmsIeds ≠ [] := by
  cases o with
  | goose frame =>
    obtain ⟨obs, hobs⟩ := Option.isSome_iff_exists.mp h
    obtain ⟨i, hentry⟩ := BaselineCollector.exists_publisherEntry hobs
      (fresh_none obs.lastSeen)
    exact .inl (List.ne_nil_of_mem hentry)
  | mms obs =>
    obtain ⟨rec, hrec, -⟩ := h
    obtain ⟨i, hentry⟩ := BaselineCollector.exists_iedEntry hrec (fresh_none rec.lastSeen)
    exact .inr (List.ne_nil_of_mem hentry)

/-- What the sensor makes of the policy file after an approval holds the approved lists. -/
theorem holds_approved (fallback : Option PolicyDoc) {artifact : DetectionArtifact}
    {observed : Iec61850Policy} {before : PolicyDoc}
    (h : artifact.baseline = some (mergeIec observed before)) :
    Holds (policyOf none fallback (some artifact)) observed := by
  have hpolicy : policyOf none fallback (some artifact)
      = (mergeIec observed before).overlay (artifactThresholds (some artifact)) := by
    unfold policyOf profileBaseline
    simp only [Option.bind_none, Option.map_none, Option.getD_none, Option.bind_some, h,
      Option.getD_some]
  unfold Holds PolicyDoc.iec
  rw [hpolicy, PolicyDoc.overlay_body]
  exact ⟨rfl, rfl⟩

/-- **Learned traffic is quiet.** Feed a trace to the collector, build the candidate without
a window and approve it: the console takes it, the sensor's policy then holds its lists, and
under any policy that holds them the detector reports no stranger, whatever observations of
the trace it is fed, in any order and any number of times. -/
theorem learned_traffic_is_quiet (trace : List (Rat × Observation)) (hne : trace ≠ [])
    (hvalid : ∀ input ∈ trace, input.2.Valid) (now : Rat) (generatedAt source sourceRef : String)
    (clock : ServiceClock) (files : ConsoleFiles) (candidate : Candidate)
    (hcandidate : candidate = (learnAll trace).toCandidate now generatedAt ⟨source, sourceRef, none⟩) :
    ∃ applied files', approveCandidate clock (some candidate) files = (.ok applied, files')
      ∧ (∀ fallback, Holds (policyOf none fallback (some files'.policy.artifact))
        (observedIec candidate.observed))
      ∧ ∀ doc, Holds doc (observedIec candidate.observed) →
        ∀ replay : List (Clock × Observation), (∀ input ∈ replay, input.2 ∈ trace.map (·.2)) →
          ∀ (d : Iec61850Detector), ∀ e ∈ (Emitter.forEach (detect doc) replay d).2,
            e.ruleId ∉ strangerRules := by
  obtain ⟨hsound, hlearned⟩ := @learn_trace {} ⟨BaselineCollector.ok_new,
    fun _ h => absurd h List.not_mem_nil⟩ trace hvalid
  have hblock : observedIec candidate.observed = learnedBlock (learnAll trace) := by
    rw [hcandidate]
    rfl
  obtain ⟨first, hfirst⟩ := List.exists_mem_of_ne_nil trace hne
  have hsome := learnedBlock_nonempty
    (hlearned first.2 (.inr (List.mem_map.mpr ⟨first, hfirst, rfl⟩)))
  rw [show trace.foldl learn {} = learnAll trace from rfl, ← hblock] at hsome
  obtain ⟨applied, files', happroved, hbaseline⟩ :=
    approveCandidate_approved clock candidate files hsome
  refine ⟨applied, files', happroved, fun fallback => holds_approved fallback hbaseline, ?_⟩
  rw [hblock]
  intro doc hdoc replay hreplay
  have hquiet : ∀ input ∈ replay, (detect doc input).EmitsOnly (·.ruleId ∉ strangerRules) := by
    intro input hinput
    obtain ⟨learned, hmem, heq⟩ := List.mem_map.mp (hreplay input hinput)
    refine detect_of_learned hsound hdoc ?_ (hlearned _ (.inr (hreplay input hinput)))
    rw [← heq]
    exact hvalid learned hmem
  exact Emitter.forEach_emitsOnly hquiet

/-! A bay with one publisher, and one client that reads from an IED. -/

def bayFrame : Goose.GooseFrame where
  publisherMac := "00:1a:b6:00:00:01"
  appid := 3
  gocbRef := "IED1/LLN0$GO$trip"
  goId := "trip"
  stNum := 1
  sqNum := 1
  test := false
  confRev := 1
  rawLength := 120

def bayRead : Mms.MmsObservation where
  srcIp := "10.0.0.9"
  dstIp := "10.0.0.5"
  srcPort := 49152
  dstPort := 102
  pduType := .read
  payloadLen := 40

def bayTrace : List (Rat × Observation) := [(1, .goose bayFrame), (2, .mms bayRead)]

/-- The trace again, the other way round, and the frame once more. -/
def bayReplay (clock : Clock) : List (Clock × Observation) :=
  [(clock, .mms bayRead), (clock, .goose bayFrame), (clock, .goose bayFrame)]

theorem learned_traffic_is_quiet_bay :
    ∃ applied files', approveCandidate ⟨"20260101-000000", "", 0, ""⟩
        (some ((learnAll bayTrace).toCandidate 3 "" ⟨"pcap_import", "bay.pcap", none⟩)) {}
        = (.ok applied, files')
      ∧ ∀ clock d, ∀ e ∈ (Emitter.forEach
          (detect (policyOf none none (some files'.policy.artifact))) (bayReplay clock) d).2,
        e.ruleId ∉ strangerRules := by
  have hvalid : ∀ input ∈ bayTrace, input.2.Valid := by
    intro input hinput
    simp only [bayTrace, List.mem_cons, List.not_mem_nil, or_false] at hinput
    rcases hinput with rfl | rfl
    · exact ⟨by decide, by decide⟩
    · exact ⟨by decide, by decide, .inr rfl⟩
  obtain ⟨applied, files', happroved, hholds, hquiet⟩ := learned_traffic_is_quiet bayTrace
    (List.cons_ne_nil _ _) hvalid 3 "" "pcap_import" "bay.pcap" ⟨"20260101-000000", "", 0, ""⟩ {} _ rfl
  refine ⟨applied, files', happroved, fun clock d => ?_⟩
  refine hquiet _ (hholds none) (bayReplay clock) (fun input hinput => ?_) d
  simp only [bayReplay, List.mem_cons, List.not_mem_nil, or_false] at hinput
  rcases hinput with rfl | rfl | rfl
  · exact List.mem_cons_of_mem _ List.mem_cons_self
  · exact List.mem_cons_self
  · exact List.mem_cons_self

end EdgeSensor.System
