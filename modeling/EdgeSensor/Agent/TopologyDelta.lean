import EdgeSensor.Agent.TopologyPublisher
import EdgeSensor.Lib.Run
import EdgeSensor.Py.Bytes
import EdgeSensor.Py.Text

/-!
# Topology deltas (`northbound/topology_delta.py` and its two publishers)

In listen mode a tick says by how much the topology has grown since the counts that the last one
left in its state file. In detect mode the snapshot publisher says the same of its own file. Both
take the difference from one reading of `live-observed.json` and store the counts of another, made
once the message is out.

A tick of the learning mode has no delta, and its state has no counts: the next tick of the listen
mode reports everything again. The snapshot publisher keeps its counts (`**state`).

Mirroring notes:
- `live-observed.json` is the topology in it, none where there is none to be read. The sensor
  replaces the file as a whole; `during` is what it holds when a call reads it again.
- The fields of a tick that other files give (the stats, the pairs, the overrides, the snapshot of
  the learning mode) are `body`, or what making them raises.
- `asset_count` and the two fields beside it repeat `topology_counts` and are left out.
- A publish returns whether the message went out. A restart falls between two calls.
-/

namespace EdgeSensor.Agent

open EdgeSensor.Lib EdgeSensor.Py EdgeSensor.Sensor

structure TopologyCounts where
  assets : Nat
  conduits : Nat
  external : Nat
  deriving DecidableEq, Repr

structure TopologyDelta where
  newAssets : Nat
  newConduits : Nat
  newExternal : Nat
  deriving DecidableEq, Repr

/-- `read_topology_counts`. -/
def readTopologyCounts (live : Option TopologySnapshot) : TopologyCounts :=
  match live with
  | none => ⟨0, 0, 0⟩
  | some topology =>
    ⟨topology.assets.length, topology.conduits.length, topology.externalEntities.length⟩

/-- `compute_topology_delta`. The subtraction stops at 0, as `max(0, …)` does. -/
def computeTopologyDelta (live : Option TopologySnapshot) (prev : Option TopologyCounts) :
    Option TopologyDelta :=
  let current := readTopologyCounts live
  if current = ⟨0, 0, 0⟩ then none
  else
    let prev := prev.getD ⟨0, 0, 0⟩
    some ⟨current.assets - prev.assets, current.conduits - prev.conduits,
      current.external - prev.external⟩

/-! ## The observe tick -/

/-- `session_kind`. -/
inductive SessionKind where
  | observe
  | learn
  deriving DecidableEq, Repr

/-- `continuity`. -/
inductive Continuity where
  | ok
  | reset
  deriving DecidableEq, Repr

/-- The tick, with its other fields as they come. -/
structure ObserveTick where
  tenantId : String
  siteId : String
  sensorId : String
  sessionId : String
  sessionKind : SessionKind
  minuteIndex : Nat
  continuity : Continuity
  observedAt : String
  topologyDelta : Option TopologyDelta
  body : Obj

/-- The state file of the ticks. -/
structure ObserveTickState where
  sessionId : String
  minuteIndex : Nat
  agentBootId : String
  lastPublishAt : String
  topologyCounts : Option TopologyCounts
  deriving DecidableEq

/-- `ObserveTickPublisher`. -/
structure ObserveTickPublisher where
  enabled : Bool := true
  interval : Rat
  tenantId : String
  siteId : String
  sensorId : String
  lastPublish : Rat := 0
  bootAt : Rat

/-- A call of `maybe_publish` with what it finds: the clocks, the mode artifact, the rest of the
message, the topology once the message is out, and whether it goes out. -/
structure TickCall where
  force : Bool := false
  now : Rat
  observedAt : String
  artifact : Obj
  body : Except PyErr Obj
  during : Option TopologySnapshot
  ok : Bool

section Ticks

variable (repr : Json → String)

/-- `str(artifact.get("mode") or "").strip().lower()`. -/
def artifactMode (artifact : Obj) : String :=
  lower (strip ((artifact.get "mode").toStrOr repr ""))

/-- `_MODE_TO_KIND`. -/
def sessionKindOf (mode : String) : Option SessionKind :=
  if mode = "listen" then some .observe
  else if mode = "learning" then some .learn else none

/-- The tenant of a message. -/
def artifactTenant (artifact : Obj) (tenantId : String) : String :=
  strip ((artifact.get "tenant_id").toStrOr repr tenantId)

namespace ObserveTickPublisher

/-- `_boot_id`. -/
def bootId (publisher : ObserveTickPublisher) : String := toString publisher.bootAt.floor

/-- The kind and the id of the session, where a tick is due. -/
def due (publisher : ObserveTickPublisher) (call : TickCall) : Option (SessionKind × String) :=
  if !publisher.enabled then none
  else if !call.force && call.now - publisher.lastPublish < publisher.interval then none
  else
    match sessionKindOf (artifactMode repr call.artifact) with
    | none => none
    | some kind =>
      let sessionId := strip ((call.artifact.get "session_id").toStrOr repr "")
      if sessionId = "" then none else some (kind, sessionId)

/-- The tick. -/
def tick (publisher : ObserveTickPublisher) (state : Option ObserveTickState)
    (live : Option TopologySnapshot) (call : TickCall) (kind : SessionKind) (sessionId : String)
    (body : Obj) : ObserveTick where
  tenantId := artifactTenant repr call.artifact publisher.tenantId
  siteId := publisher.siteId
  sensorId := publisher.sensorId
  sessionId := sessionId
  sessionKind := kind
  minuteIndex := (state.map (·.minuteIndex)).getD 0 + 1
  continuity :=
    if state.map (·.sessionId) ≠ some sessionId then .reset
    else if state.map (·.agentBootId) ≠ some publisher.bootId then .reset else .ok
  observedAt := call.observedAt
  topologyDelta :=
    match kind with
    | .learn => none
    | .observe => computeTopologyDelta live (state.bind (·.topologyCounts))
  body := body

/-- `maybe_publish`: the publisher and its state file afterwards, and the tick that went out. -/
def maybePublish (publisher : ObserveTickPublisher) (state : Option ObserveTickState)
    (live : Option TopologySnapshot) (call : TickCall) :
    ObserveTickPublisher × Option ObserveTickState × Option ObserveTick × Except PyErr Bool :=
  match publisher.due repr call with
  | none => (publisher, state, none, .ok false)
  | some (kind, sessionId) =>
    match call.body with
    | .error e => (publisher, state, none, .error e)
    | .ok body =>
      let tick := publisher.tick repr state live call kind sessionId body
      if call.ok then
        ({ publisher with lastPublish := call.now },
          some {
            sessionId := sessionId
            minuteIndex := tick.minuteIndex
            agentBootId := publisher.bootId
            lastPublishAt := tick.observedAt
            -- read anew, and only if the tick has a delta
            topologyCounts := tick.topologyDelta.map fun _ => readTopologyCounts call.during },
          some tick, .ok true)
      else (publisher, state, none, .ok false)

end ObserveTickPublisher

/-! ## The topology snapshot -/

/-- The message of the detect mode. -/
structure DetectPayload where
  schema : String := topologySchema
  tenantId : String
  siteId : String
  sensorId : String
  observedAt : String
  operationalMode : String := "detect"
  baselineProfileId : Option String
  topologyDelta : TopologyDelta

/-- What the snapshot publisher sends. -/
inductive SnapshotMessage where
  | learning (payload : LearningPayload)
  | delta (payload : DetectPayload)

/-- The state file of the snapshots. -/
structure SnapshotState where
  lastPublishAt : String
  lastFullPublishAt : Option String := none
  lastDeltaPublishAt : Option String := none
  operationalMode : String
  topologyCounts : TopologyCounts
  lastTopologyDelta : Option TopologyDelta := none
  deriving DecidableEq

/-- `TopologySnapshotPublisher`, with its clocks. -/
structure SnapshotPublisher extends TopologySnapshotPublisher where
  enabled : Bool := true
  interval : Rat
  detectInterval : Rat
  lastPublish : Rat := 0
  lastDetectPublish : Rat := 0

/-- A call of `maybe_publish` with what it finds. -/
structure SnapshotCall where
  force : Bool := false
  now : Rat
  observedAt : String
  artifact : Obj
  overrides : Option Obj := none
  during : Option TopologySnapshot
  ok : Bool

/-- The mode of the snapshot publisher. -/
inductive SnapshotMode where
  | learning
  | detect
  deriving DecidableEq

/-- `_PUBLISH_MODES`. -/
def snapshotModeOf (mode : String) : Option SnapshotMode :=
  if mode = "learning" then some .learning
  else if mode = "detect" then some .detect else none

namespace SnapshotPublisher

/-- The mode in which a message is due. -/
def due (publisher : SnapshotPublisher) (call : SnapshotCall) : Option SnapshotMode :=
  if !publisher.enabled then none
  else
    match snapshotModeOf (artifactMode repr call.artifact) with
    | none => none
    | some .detect =>
      if !call.force && call.now - publisher.lastDetectPublish < publisher.detectInterval then none
      else some .detect
    | some .learning =>
      if !call.force && call.now - publisher.lastPublish < publisher.interval then none
      else some .learning

/-- The message of the detect mode, if there is a topology. -/
def detectPayload (publisher : SnapshotPublisher) (state : Option SnapshotState)
    (live : Option TopologySnapshot) (call : SnapshotCall) : Option DetectPayload :=
  (computeTopologyDelta live (state.map (·.topologyCounts))).map fun delta =>
    let profileId := strip ((call.artifact.get "baseline_profile_id").toStrOr repr "")
    { tenantId := artifactTenant repr call.artifact publisher.tenantId
      siteId := publisher.siteId
      sensorId := publisher.sensorId
      observedAt := call.observedAt
      baselineProfileId := if profileId = "" then none else some profileId
      topologyDelta := delta }

/-- `_publish_detect_delta`. -/
def publishDetectDelta (publisher : SnapshotPublisher) (state : Option SnapshotState)
    (live : Option TopologySnapshot) (call : SnapshotCall) :
    SnapshotPublisher × Option SnapshotState × Option SnapshotMessage × Bool :=
  match publisher.detectPayload repr state live call with
  | none => (publisher, state, none, false)
  | some payload =>
    if call.ok then
      ({ publisher with lastDetectPublish := call.now },
        some {
          lastPublishAt := payload.observedAt
          -- `**state`
          lastFullPublishAt := state.bind (·.lastFullPublishAt)
          lastDeltaPublishAt := some payload.observedAt
          operationalMode := "detect"
          topologyCounts := readTopologyCounts call.during
          lastTopologyDelta := some payload.topologyDelta },
        some (.delta payload), true)
    else (publisher, state, none, false)

/-- `_publish_learning_snapshot`, with what becomes of its payload. -/
def publishLearning (publisher : SnapshotPublisher) (state : Option SnapshotState)
    (live : Option TopologySnapshot) (call : SnapshotCall) :
    SnapshotPublisher × Option SnapshotState × Option SnapshotMessage × Bool :=
  let source := { publisher.toTopologySnapshotPublisher with overrides := call.overrides }
  match source.publishLearningSnapshot repr call.artifact call.observedAt live with
  | none => (publisher, state, none, false)
  | some payload =>
    if call.ok then
      ({ publisher with lastPublish := call.now },
        some {
          lastPublishAt := payload.observedAt
          lastFullPublishAt := some payload.observedAt
          operationalMode := "learning"
          topologyCounts := readTopologyCounts call.during },
        some (.learning payload), true)
    else (publisher, state, none, false)

/-- `maybe_publish`: the publisher and its state file afterwards, and what went out. -/
def maybePublish (publisher : SnapshotPublisher) (state : Option SnapshotState)
    (live : Option TopologySnapshot) (call : SnapshotCall) :
    SnapshotPublisher × Option SnapshotState × Option SnapshotMessage × Bool :=
  match publisher.due repr call with
  | none => (publisher, state, none, false)
  | some .detect => publisher.publishDetectDelta repr state live call
  | some .learning => publisher.publishLearning repr state live call

end SnapshotPublisher

end Ticks

end EdgeSensor.Agent
