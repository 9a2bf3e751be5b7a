import EdgeSensor.Lib.Run
import EdgeSensor.Sensor.Pipeline
import EdgeSensor.Sensor.SiteCollector

/-!
# The live snapshot

The pipeline also feeds a collector, whose candidate the main loop writes to
`live-observed.json` at the end of every feature window. `process` asks the mode store once,
before it looks at the packet, whether the baseline accumulates, and feeds the collector
what it parses only if the mode is `learning`.

Mirroring notes:
- The collector has no part in the phases of `process`; `packetFeeds` is what one call feeds
  it, in order. A GOOSE frame that makes the parser raise ends the call, and the feeds.
- Each feed reads the clock for itself (`FeedClock`).
- The file is what was written last; the write itself is atomic.
-/

namespace EdgeSensor.Sensor

open EdgeSensor.Lib EdgeSensor.Parser

/-- What the clock shows in each of the feeds of one call. -/
structure FeedClock where
  endpoints : Rat
  transport : Rat
  modbus : Rat
  goose : Rat
  mms : Rat

/-- One packet, with what its call reads from outside. -/
structure LiveInput where
  env : PacketEnv
  clock : FeedClock
  packet : Packet

/-- What a call feeds if the baseline accumulates. -/
def packetFeeds (input : LiveInput) : History Rat Feed :=
  let packet := input.packet
  let clock := input.clock
  [(clock.endpoints, .endpoints (parseEthernet packet).1 (parseIp packet).1 (parseIp packet).2.1)]
    ++ ((parseTransport packet).map fun flow => (clock.transport, Feed.transport flow)).toList
    ++ ((Modbus.parseModbusTcp packet).map fun frame => (clock.modbus, Feed.modbus frame)).toList
    -- a frame that makes the parser raise: nothing after it is fed
    ++ match Goose.parseGoosePacket packet with
      | .error _ => []
      | .ok frame => (frame.map fun frame => (clock.goose, Feed.goose frame)).toList
        ++ ((Mms.parseMmsPacket packet).map fun obs => (clock.mms, Feed.mms obs)).toList

/-- The mode the access of `accumulate_baseline` finds. -/
def PacketPipeline.accumulationMode (env : PacketEnv) (s : PacketPipeline) : Mode :=
  (PacketPipeline.reloadOperationalMode env.mode
    (PacketPipeline.reloadDetectionPolicy env.reload s)).modeAt .accumulate env

/-- What happens to the pipeline of a running sensor. -/
inductive LiveStep where
  /-- `process`. -/
  | packet (input : LiveInput)
  /-- `flush_features`. -/
  | window (env : PacketEnv) (now : Rat) (windowSec : Int)
  /-- `live_baseline_snapshot`, of which the mode store remembers the poll. -/
  | snapshot (mode : Reading ModeArtifact)

/-- The pipeline with its collector. -/
structure LivePipeline where
  pipeline : PacketPipeline
  baseline : SiteCollector

/-- The pipeline after a step. -/
def PacketPipeline.live (s : PacketPipeline) : LiveStep → PacketPipeline
  | .packet input => s.feed (input.env, input.packet)
  | .window env now windowSec => s.flushFeatures env now windowSec
  | .snapshot mode => { s with modeStore := (s.modeStore.maybeReload false mode).1 }

/-- What a step feeds the collector. -/
def PacketPipeline.learns (s : PacketPipeline) : LiveStep → History Rat Feed
  | .packet input => if s.accumulationMode input.env = .learning then packetFeeds input else []
  | .window _ _ _ | .snapshot _ => []

namespace LivePipeline

/-- A new pipeline, `PacketPipeline.__init__`. -/
def init (env : PacketPipeline.InitEnv) : LivePipeline where
  pipeline := PacketPipeline.init env
  baseline := { sensorId := env.sensorId }

/-- One step. -/
def step (s : LivePipeline) (x : LiveStep) : LivePipeline where
  pipeline := s.pipeline.live x
  baseline := (s.pipeline.learns x).foldl SiteCollector.feed s.baseline

/-- `live_baseline_snapshot`, for the tenant the mode artifact names. -/
def liveBaselineSnapshot (platform : Platform) (tenantId sensorId : String) (now : Rat)
    (generatedAt : String) (windowSec : Option Rat) (s : LivePipeline) : Candidate :=
  let baseline := { s.baseline with tenantId := tenantId, sensorId := sensorId }
  baseline.toCandidate platform now generatedAt
    { source := "live_observed", sourceRef := "live", windowSec := windowSec }

end LivePipeline

/-- The calls a run feeds its collector. -/
def learnedFeeds : PacketPipeline → List LiveStep → History Rat Feed
  | _, [] => []
  | s, x :: steps => s.learns x ++ learnedFeeds (s.live x) steps

/-- The calls it would feed if the baseline always accumulated: its traffic. -/
def trafficFeeds (steps : List LiveStep) : History Rat Feed :=
  steps.flatMap fun
    | .packet input => packetFeeds input
    | .window _ _ _ | .snapshot _ => []

/-- A run leaves in the collector what it was fed. -/
theorem baseline_run (steps : List LiveStep) (s : LivePipeline) :
    (steps.foldl LivePipeline.step s).baseline
      = (learnedFeeds s.pipeline steps).foldl SiteCollector.feed s.baseline := by
  induction steps generalizing s with
  | nil => rfl
  | cons x steps ih =>
    -- the collector never feeds back, so the pipeline can run ahead of it
    rw [List.foldl_cons, ih, learnedFeeds, List.foldl_append]
    rfl

/-- What is learned is part of the traffic. -/
theorem learnedFeeds_sublist (s : PacketPipeline) (steps : List LiveStep) :
    (learnedFeeds s steps).Sublist (trafficFeeds steps) := by
  induction steps generalizing s with
  | nil => exact List.Sublist.refl _
  | cons x steps ih =>
    unfold trafficFeeds
    rw [List.flatMap_cons, learnedFeeds]
    refine List.Sublist.append ?_ (ih _)
    cases x with
    | packet input =>
      show List.Sublist (if _ then _ else _) (packetFeeds input)
      split
      next => exact List.Sublist.refl _
      next => exact List.nil_sublist _
    | window | snapshot => exact List.Sublist.refl _

/-- From a time on every packet finds a mode other than `learning`: that of a detection run
is `detect`. -/
def DetectsFrom (limit : Rat) (s : PacketPipeline) (steps : List LiveStep) : Prop :=
  Along PacketPipeline.live (fun s x => ∀ input, x = .packet input →
    (∃ call ∈ packetFeeds input, limit ≤ call.1) → s.accumulationMode input.env = .detect) s steps

/-- Nothing of a window that detects is learned. -/
theorem learnedFeeds_since {limit : Rat} {s : PacketPipeline} {steps : List LiveStep}
    (h : DetectsFrom limit s steps) : (learnedFeeds s steps).since limit = [] := by
  induction steps generalizing s with
  | nil => rfl
  | cons x steps ih =>
    obtain ⟨hstep, hrest⟩ := h
    have hlearns : (s.learns x).since limit = [] := by
      cases x with
      | packet input =>
        show History.since (if _ then _ else _) limit = []
        split
        next hlearning =>
          refine List.filter_eq_nil_iff.mpr fun call hcall htime => ?_
          have hdetect := hstep input rfl ⟨call, hcall, of_decide_eq_true htime⟩
          rw [hlearning] at hdetect
          cases hdetect
        next => rfl
      | window | snapshot => rfl
    unfold learnedFeeds History.since
    rw [List.filter_append]
    exact List.append_eq_nil_iff.mpr ⟨hlearns, ih hrest⟩

end EdgeSensor.Sensor
