import EdgeSensor.Parser.Goose
import EdgeSensor.Parser.Mms
import EdgeSensor.Lib.Dict
import Mathlib.Data.Finset.Card
import Mathlib.Data.Finset.Image
import Mathlib.Data.List.Induction

/-!
# Feature windows

The counters a packet moves (`record_l2`, `record_goose`, `record_mms`) and the summary of
a window made of them (`publish_window` of `src/features/publisher.py`). `flush_features`
resets what belongs to the window among the L2 counters. The GOOSE and the MMS counters
have no such part: they count from the start of the process, and the summary gives them out
as the window's (`window_counts`).

Mirroring notes:
- `packet_rate` is `packet_count` over the seconds of the window, rounded in floating
  point. No rule reads it; it is left out, and so is the message to EdgeX that repeats it.
- The L3 counters are in no summary.
-/

namespace EdgeSensor.Sensor

open EdgeSensor.Lib EdgeSensor.Parser

/-- `L2Stats`. -/
structure L2Stats where
  total : Nat := 0
  macSrcCounts : Dict String Nat := []
  windowTotal : Nat := 0
  windowMacCounts : Dict String Nat := []
  deriving DecidableEq

/-- `GooseStats`. -/
structure GooseStats where
  messageCount : Nat := 0
  stnumChanges : Nat := 0
  testFlagCount : Nat := 0
  publishers : Dict String Goose.GooseFrame := []
  lastStnum : Dict String Int := []
  deriving DecidableEq

/-- `MmsStats`. -/
structure MmsStats where
  sessionKeys : Finset String := ∅
  readCount : Nat := 0
  writeCount : Nat := 0
  reportCount : Nat := 0
  otherCount : Nat := 0
  observations : List Mms.MmsObservation := []
  deriving DecidableEq

/-- `record_l2`. -/
def recordL2 (srcMac : Option String) (stats : L2Stats) : L2Stats :=
  let counted := { stats with total := stats.total + 1, windowTotal := stats.windowTotal + 1 }
  match srcMac with
  | none => counted
  | some mac =>
    if mac = "" then counted
    else { counted with
      macSrcCounts := stats.macSrcCounts.upsert mac 0 (· + 1)
      windowMacCounts := stats.windowMacCounts.upsert mac 0 (· + 1) }

/-- `reset_l2_window`. -/
def resetL2Window (stats : L2Stats) : L2Stats :=
  { stats with windowTotal := 0, windowMacCounts := [] }

/-- `record_goose`. -/
def recordGoose (frame : Goose.GooseFrame) (stats : GooseStats) : GooseStats :=
  let key := s!"{frame.publisherMac}|{frame.appid}|{frame.gocbRef}"
  { messageCount := stats.messageCount + 1
    testFlagCount := if frame.test then stats.testFlagCount + 1 else stats.testFlagCount
    stnumChanges := match stats.lastStnum.get? key with
      | some prev => if frame.stNum ≠ prev then stats.stnumChanges + 1 else stats.stnumChanges
      | none => stats.stnumChanges
    lastStnum := stats.lastStnum.set key frame.stNum
    publishers := stats.publishers.set key frame }

/-- `_session_key`. -/
def sessionKey (obs : Mms.MmsObservation) : String :=
  s!"{obs.srcIp}:{obs.srcPort}->{obs.dstIp}:{obs.dstPort}"

/-- `record_mms`. -/
def recordMms (obs : Mms.MmsObservation) (stats : MmsStats) : MmsStats :=
  let seen := { stats with
    sessionKeys := insert (sessionKey obs) stats.sessionKeys
    observations := stats.observations ++ [obs] }
  match obs.pduType with
  | .read => { seen with readCount := seen.readCount + 1 }
  | .write => { seen with writeCount := seen.writeCount + 1 }
  | .report => { seen with reportCount := seen.reportCount + 1 }
  | .getNameList | .other => { seen with otherCount := seen.otherCount + 1 }

/-! ## Publishing -/

/-- What the publisher is told of itself and of the moment. -/
structure FeatureArgs where
  sensorId : String
  siteId : String
  windowSec : Int
  timestamp : String

/-- `feature-summary.json`. A key that is absent is `none`. -/
structure FeatureSummary where
  sensorId : String
  siteId : String
  window : String
  protocol : String := "aggregate"
  packetCount : Nat
  uniqueMacCount : Nat
  timestamp : String
  gooseMessageCount : Option Nat := none
  gooseUniquePublishers : Option Nat := none
  mmsWriteCount : Option Nat := none
  mmsReadCount : Option Nat := none
  deriving DecidableEq

/-- `iec61850-goose-summary.json`. `first` holds APPID, control block and MAC of the
first publisher. -/
structure GooseSummary where
  sensorId : String
  siteId : String
  window : String
  protocol : String := "iec61850-goose"
  gooseMessageCount : Nat
  gooseStnumChanges : Nat
  gooseTestFlagCount : Nat
  gooseUniquePublishers : Nat
  timestamp : String
  first : Option (Nat × String × String)
  deriving DecidableEq

/-- `iec61850-mms-summary.json`. `last` holds the address of the IED, source and
destination of the last observation. -/
structure MmsSummary where
  sensorId : String
  siteId : String
  window : String
  protocol : String := "iec61850-mms"
  mmsSessionCount : Nat
  mmsReadCount : Nat
  mmsWriteCount : Nat
  mmsReportCount : Nat
  timestamp : String
  last : Option (String × String × String)
  deriving DecidableEq

/-- The condition under which a summary speaks of GOOSE. -/
def GooseStats.Seen (stats : GooseStats) : Prop := stats.messageCount ≠ 0

/-- The condition under which a summary speaks of MMS. -/
def MmsStats.Seen (stats : MmsStats) : Prop :=
  stats.readCount ≠ 0 ∨ stats.writeCount ≠ 0 ∨ stats.sessionKeys ≠ ∅

instance (stats : GooseStats) : Decidable stats.Seen := inferInstanceAs (Decidable (_ ≠ _))

instance (stats : MmsStats) : Decidable stats.Seen := inferInstanceAs (Decidable (_ ∨ _ ∨ _))

/-- `publish_goose`. -/
def publishGoose (args : FeatureArgs) (stats : GooseStats) : GooseSummary where
  sensorId := args.sensorId
  siteId := args.siteId
  window := s!"{args.windowSec}s"
  gooseMessageCount := stats.messageCount
  gooseStnumChanges := stats.stnumChanges
  gooseTestFlagCount := stats.testFlagCount
  gooseUniquePublishers := stats.publishers.length
  timestamp := args.timestamp
  first := stats.publishers.head?.map fun p => (p.2.appid, p.2.gocbRef, p.2.publisherMac)

/-- `publish_mms`. -/
def publishMms (args : FeatureArgs) (stats : MmsStats) : MmsSummary where
  sensorId := args.sensorId
  siteId := args.siteId
  window := s!"{args.windowSec}s"
  mmsSessionCount := stats.sessionKeys.card
  mmsReadCount := stats.readCount
  mmsWriteCount := stats.writeCount
  mmsReportCount := stats.reportCount
  timestamp := args.timestamp
  last := stats.observations.getLast?.map fun obs =>
    (if obs.dstPort = 102 then obs.dstIp else obs.srcIp, obs.srcIp, obs.dstIp)

/-- The summary `publish_window` makes of the counters. -/
def featureSummary (args : FeatureArgs) (l2 : L2Stats) (goose : GooseStats) (mms : MmsStats) :
    FeatureSummary where
  sensorId := args.sensorId
  siteId := args.siteId
  window := s!"{args.windowSec}s"
  packetCount := l2.windowTotal
  uniqueMacCount := l2.windowMacCounts.length
  timestamp := args.timestamp
  gooseMessageCount := if goose.Seen then some goose.messageCount else none
  gooseUniquePublishers := if goose.Seen then some goose.publishers.length else none
  mmsWriteCount := if mms.Seen then some mms.writeCount else none
  mmsReadCount := if mms.Seen then some mms.readCount else none

/-- What one call of `publish_window` gives out. -/
structure WindowOutput where
  summary : FeatureSummary
  goose : Option GooseSummary
  mms : Option MmsSummary
  deriving DecidableEq

/-- `publish_window`. -/
def publishWindow (args : FeatureArgs) (l2 : L2Stats) (goose : GooseStats) (mms : MmsStats) :
    WindowOutput where
  summary := featureSummary args l2 goose mms
  -- the two protocol summaries come with their counts, or not at all
  goose := if goose.Seen then some (publishGoose args goose) else none
  mms := if mms.Seen then some (publishMms args mms) else none

/-! ## The counters over a run -/

/-- `PipelineState`, and what has been published. -/
structure FeatureState where
  l2 : L2Stats := {}
  goose : GooseStats := {}
  mms : MmsStats := {}
  published : List WindowOutput := []
  deriving DecidableEq

/-- The frame `process` records of a packet. -/
def recordedGoose (packet : Packet) : Option Goose.GooseFrame :=
  match Goose.parseGoosePacket packet with
  | .error _ => none
  | .ok frame => frame

/-- The observation `process` records of a packet: none if the GOOSE parser raises first. -/
def recordedMms (packet : Packet) : Option Mms.MmsObservation :=
  match Goose.parseGoosePacket packet with
  | .error _ => none
  | .ok _ => Mms.parseMmsPacket packet

namespace FeatureState

/-- The counters `process` moves. -/
def process (packet : Packet) (s : FeatureState) : FeatureState :=
  { s with
    l2 := recordL2 (parseEthernet packet).1 s.l2
    goose := match recordedGoose packet with
      | some frame => recordGoose frame s.goose
      | none => s.goose
    mms := match recordedMms packet with
      | some obs => recordMms obs s.mms
      | none => s.mms }

/-- `flush_features`: publish, then reset. -/
def flushFeatures (args : FeatureArgs) (s : FeatureState) : FeatureState :=
  { s with
    published := s.published ++ [publishWindow args s.l2 s.goose s.mms]
    -- of the L2 counters only: the other two have no window
    l2 := resetL2Window s.l2 }

/-- What comes to the sensor: a packet, or the end of a window. -/
inductive Input where
  | packet (packet : Packet)
  | window (args : FeatureArgs)

/-- One packet, or the end of one window. -/
def step (s : FeatureState) : Input → FeatureState
  | .packet packet => s.process packet
  | .window args => s.flushFeatures args

/-- The state after a sequence of inputs. -/
def run (inputs : List Input) : FeatureState := inputs.foldl step {}

theorem run_concat (inputs : List Input) (input : Input) :
    run (inputs ++ [input]) = (run inputs).step input := by
  unfold run
  rw [List.foldl_append]
  rfl

/-- The packets before the last window ended, and those since. -/
def split (inputs : List Input) : List Packet × List Packet :=
  inputs.foldl (fun packets input =>
    match input with
    | .packet packet => (packets.1, packets.2 ++ [packet])
    | .window _ => (packets.1 ++ packets.2, [])) ([], [])

theorem split_packet (inputs : List Input) (packet : Packet) :
    split (inputs ++ [.packet packet]) = ((split inputs).1, (split inputs).2 ++ [packet]) := by
  unfold split
  rw [List.foldl_append]
  rfl

theorem split_window (inputs : List Input) (args : FeatureArgs) :
    split (inputs ++ [.window args]) = ((split inputs).1 ++ (split inputs).2, []) := by
  unfold split
  rw [List.foldl_append]
  rfl

/-- The GOOSE frames recorded of some packets. -/
def gooseCount (packets : List Packet) : Nat := packets.countP fun p => (recordedGoose p).isSome

/-- The packet is recorded as MMS of this kind. -/
def IsMms (pduType : Mms.PduType) (packet : Packet) : Prop :=
  (recordedMms packet).map (·.pduType) = some pduType

instance (pduType : Mms.PduType) (packet : Packet) : Decidable (IsMms pduType packet) :=
  inferInstanceAs (Decidable (_ = _))

/-- The MMS observations of one kind recorded of some packets. -/
def mmsCount (pduType : Mms.PduType) (packets : List Packet) : Nat :=
  packets.countP fun p => IsMms pduType p

end FeatureState

/-! What one record adds. -/

theorem recordL2_totals (srcMac : Option String) (stats : L2Stats) :
    (recordL2 srcMac stats).windowTotal = stats.windowTotal + 1
      ∧ (recordL2 srcMac stats).total = stats.total + 1 := by
  -- with or without a MAC, the packet itself is counted
  unfold recordL2
  split
  · exact ⟨rfl, rfl⟩
  · simp only
    split
    · exact ⟨rfl, rfl⟩
    · exact ⟨rfl, rfl⟩

theorem recordMms_counts (obs : Mms.MmsObservation) (stats : MmsStats) :
    (recordMms obs stats).readCount = stats.readCount + (if obs.pduType = .read then 1 else 0)
      ∧ (recordMms obs stats).writeCount
        = stats.writeCount + if obs.pduType = .write then 1 else 0 := by
  unfold recordMms
  cases obs.pduType with
  | read | write | report | getNameList | other => exact ⟨rfl, rfl⟩

namespace FeatureState

/-- Where each counter stands: the window's packets, and everything since the start. -/
structure Tally (s : FeatureState) (earlier since : List Packet) : Prop where
  window : s.l2.windowTotal = since.length
  goose : s.goose.messageCount = gooseCount earlier + gooseCount since
  reads : s.mms.readCount = mmsCount .read earlier + mmsCount .read since
  writes : s.mms.writeCount = mmsCount .write earlier + mmsCount .write since

theorem gooseCount_concat (packets : List Packet) (packet : Packet) :
    gooseCount (packets ++ [packet])
      = gooseCount packets + if (recordedGoose packet).isSome then 1 else 0 := by
  unfold gooseCount
  rw [List.countP_append, List.countP_singleton]

theorem mmsCount_concat (pduType : Mms.PduType) (packets : List Packet) (packet : Packet) :
    mmsCount pduType (packets ++ [packet])
      = mmsCount pduType packets + if IsMms pduType packet then 1 else 0 := by
  unfold mmsCount
  rw [List.countP_append, List.countP_singleton]
  simp only [decide_eq_true_eq]

theorem isMms_of_recorded {packet : Packet} {obs : Mms.MmsObservation}
    (h : recordedMms packet = some obs) (pduType : Mms.PduType) :
    IsMms pduType packet ↔ obs.pduType = pduType := by
  unfold IsMms
  rw [h, Option.map_some, Option.some.injEq]

theorem not_isMms_of_none {packet : Packet} (h : recordedMms packet = none)
    (pduType : Mms.PduType) : ¬ IsMms pduType packet := by
  unfold IsMms
  rw [h]
  simp

theorem process_messageCount (packet : Packet) (s : FeatureState) :
    (s.process packet).goose.messageCount
      = s.goose.messageCount + if (recordedGoose packet).isSome then 1 else 0 := by
  unfold FeatureState.process
  cases recordedGoose packet with
  | none => rfl
  | some frame => rfl

theorem process_mmsCounts (packet : Packet) (s : FeatureState) :
    (s.process packet).mms.readCount = s.mms.readCount + (if IsMms .read packet then 1 else 0)
      ∧ (s.process packet).mms.writeCount
        = s.mms.writeCount + if IsMms .write packet then 1 else 0 := by
  unfold FeatureState.process
  cases hobs : recordedMms packet with
  | none =>
    rw [if_neg (not_isMms_of_none hobs .read), if_neg (not_isMms_of_none hobs .write)]
    exact ⟨rfl, rfl⟩
  | some obs =>
    show (Sensor.recordMms obs s.mms).readCount = _ ∧ (Sensor.recordMms obs s.mms).writeCount = _
    simp only [recordMms_counts, isMms_of_recorded hobs, and_self]

theorem Tally.process {s : FeatureState} {earlier since : List Packet} (h : s.Tally earlier since)
    (packet : Packet) : (s.process packet).Tally earlier (since ++ [packet]) := by
  obtain ⟨hwindow, hgoose, hreads, hwrites⟩ := h
  refine ⟨?_, ?_, ?_, ?_⟩
  · show (recordL2 _ s.l2).windowTotal = _
    rw [(recordL2_totals _ _).1, hwindow, List.length_append]
    rfl
  · rw [process_messageCount, gooseCount_concat]
    omega
  · rw [(process_mmsCounts packet s).1, mmsCount_concat]
    omega
  · rw [(process_mmsCounts packet s).2, mmsCount_concat]
    omega

theorem Tally.flushFeatures {s : FeatureState} {earlier since : List Packet}
    (h : s.Tally earlier since) (args : FeatureArgs) :
    (s.flushFeatures args).Tally (earlier ++ since) [] := by
  refine ⟨rfl, ?_, ?_, ?_⟩
  · show s.goose.messageCount = (earlier ++ since).countP _ + 0
    rw [h.goose, List.countP_append]
    rfl
  · show s.mms.readCount = (earlier ++ since).countP _ + 0
    rw [h.reads, List.countP_append]
    rfl
  · show s.mms.writeCount = (earlier ++ since).countP _ + 0
    rw [h.writes, List.countP_append]
    rfl

theorem tally_run (inputs : List Input) : (run inputs).Tally (split inputs).1 (split inputs).2 := by
  induction inputs using List.reverseRecOn with
  | nil => exact ⟨rfl, rfl, rfl, rfl⟩
  | append_singleton inputs input ih =>
    rw [run_concat]
    cases input with
    | packet packet =>
      rw [split_packet]
      exact ih.process packet
    | window args =>
      rw [split_window]
      exact ih.flushFeatures args

/-! ## What a summary counts -/

/-- The counts of a summary are those of the packets given, and none is above the number of
packets. An absent count is zero. -/
structure CountsOnly (summary : FeatureSummary) (packets : List Packet) : Prop where
  goose : summary.gooseMessageCount.getD 0 = gooseCount packets
  reads : summary.mmsReadCount.getD 0 = mmsCount .read packets
  writes : summary.mmsWriteCount.getD 0 = mmsCount .write packets
  gooseBound : summary.gooseMessageCount.getD 0 ≤ summary.packetCount
  readsBound : summary.mmsReadCount.getD 0 ≤ summary.packetCount
  writesBound : summary.mmsWriteCount.getD 0 ≤ summary.packetCount

/-- The packet moves one of the counters that a summary gives out and no window resets. -/
def Sticks (packet : Packet) : Prop :=
  (recordedGoose packet).isSome ∨ IsMms .read packet ∨ IsMms .write packet

/-- A count that is left out where it is zero. -/
theorem getD_shown {shown : Prop} [Decidable shown] {n : Nat} (h : ¬ shown → n = 0) :
    (if shown then some n else none).getD 0 = n := by
  by_cases hshown : shown
  · rw [if_pos hshown]
    rfl
  · rw [if_neg hshown, h hshown]
    rfl

/-- A summary that does not speak of a protocol has nothing to say of it. -/
theorem summary_counts (args : FeatureArgs) (s : FeatureState) :
    let summary := featureSummary args s.l2 s.goose s.mms
    summary.gooseMessageCount.getD 0 = s.goose.messageCount
      ∧ summary.mmsReadCount.getD 0 = s.mms.readCount
      ∧ summary.mmsWriteCount.getD 0 = s.mms.writeCount := by
  refine ⟨getD_shown fun hgoose => ?_, getD_shown fun hmms => ?_, getD_shown fun hmms => ?_⟩
  · unfold GooseStats.Seen at hgoose
    omega
  · unfold MmsStats.Seen at hmms
    omega
  · unfold MmsStats.Seen at hmms
    omega

/-- Nothing that sticks was recorded where the three counts are zero. -/
theorem none_sticks {packets : List Packet} :
    (∀ packet ∈ packets, ¬ Sticks packet)
      ↔ gooseCount packets = 0 ∧ mmsCount .read packets = 0 ∧ mmsCount .write packets = 0 := by
  unfold gooseCount mmsCount Sticks
  simp only [List.countP_eq_zero, decide_eq_true_eq, not_or]
  constructor
  · intro h
    exact ⟨fun p hp => (h p hp).1, fun p hp => (h p hp).2.1, fun p hp => (h p hp).2.2⟩
  · intro h packet hp
    exact ⟨h.1 packet hp, h.2.1 packet hp, h.2.2 packet hp⟩

/-- The summary of a window counts the packets of that window exactly when nothing before
the window was GOOSE, an MMS read or an MMS write. -/
theorem window_counts (inputs : List Input) (args : FeatureArgs) :
    ∃ output, (run (inputs ++ [.window args])).published = (run inputs).published ++ [output]
      ∧ (CountsOnly output.summary (split inputs).2
        ↔ ∀ packet ∈ (split inputs).1, ¬ Sticks packet) := by
  refine ⟨_, by rw [run_concat]; rfl, ?_⟩
  obtain ⟨hwindow, hgoose, hreads, hwrites⟩ := tally_run inputs
  obtain ⟨hgooseShown, hreadsShown, hwritesShown⟩ := summary_counts args (run inputs)
  rw [none_sticks]
  constructor
  · intro hcounts
    -- what is shown is the tally since the start
    have hgooseEq := hgooseShown.symm.trans hcounts.goose
    have hreadsEq := hreadsShown.symm.trans hcounts.reads
    have hwritesEq := hwritesShown.symm.trans hcounts.writes
    omega
  · rintro ⟨hgoose0, hreads0, hwrites0⟩
    -- each count is one of packets, and the window has no more of them
    have hpackets : (featureSummary args (run inputs).l2 (run inputs).goose
        (run inputs).mms).packetCount = (split inputs).2.length := hwindow
    have hgooseLe : gooseCount (split inputs).2 ≤ (split inputs).2.length := List.countP_le_length
    have hreadsLe : mmsCount .read (split inputs).2 ≤ (split inputs).2.length :=
      List.countP_le_length
    have hwritesLe : mmsCount .write (split inputs).2 ≤ (split inputs).2.length :=
      List.countP_le_length
    show CountsOnly (featureSummary args _ _ _) _
    refine ⟨?_, ?_, ?_, ?_, ?_, ?_⟩
    · rw [hgooseShown]
      omega
    · rw [hreadsShown]
      omega
    · rw [hwritesShown]
      omega
    · rw [hgooseShown, hpackets]
      omega
    · rw [hreadsShown, hpackets]
      omega
    · rw [hwritesShown, hpackets]
      omega

/-- One MMS write, over TCP to port 102. -/
def writePacket : Packet where
  ip := some ⟨"10.0.0.2", "10.0.0.1"⟩
  tcp := some ⟨40000, 102, [0x03, 0x00, 0x00, 0x2A, 0x02, 0xF0, 0x80]
    ++ Mms.ascii "confirmedRequest write service"⟩

/-- A window in which the write is seen, and an empty one after it: the summary of the empty
window counts the write again, among no packets. -/
theorem writePacket_counted_again :
    let args : FeatureArgs := ⟨"sensor", "site", 60, "t"⟩
    let inputs := [Input.packet writePacket, .window args]
    (split inputs).2 = [] ∧ ∃ output, (run (inputs ++ [.window args])).published
        = (run inputs).published ++ [output]
      ∧ output.summary.packetCount = 0 ∧ output.summary.mmsWriteCount = some 1
      ∧ ¬ CountsOnly output.summary (split inputs).2 := by
  refine ⟨rfl, _, rfl, rfl, by decide, ?_⟩
  intro h
  exact absurd h.writes (by decide)

end FeatureState

end EdgeSensor.Sensor
