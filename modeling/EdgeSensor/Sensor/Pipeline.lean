import EdgeSensor.Sensor.Iec61850
import EdgeSensor.Sensor.Ioc
import EdgeSensor.Sensor.ModeStore
import EdgeSensor.Sensor.MvpWindow
import EdgeSensor.Sensor.PolicyStores

/-!
# The packet pipeline

`src/pipeline/processor.py` and the capture loop of `src/main.py`. `process` is six
phases in a row: reload the stores, match IoCs, evaluate the observation, then
Modbus, GOOSE and MMS. Each phase that reports ends in `_emit`, which polls the mode
store again and drops the events unless the mode is `detect`.

The GOOSE parser is the only callee that raises. `process` catches nothing, so a
raise ends the call after the side effects of the earlier phases, and it ends the
capture loop (`captureLoop`).

Mirroring notes:
- `PacketEnv` is what one call reads from outside: three polls of the policy store
  (the last two only when the first reports a change), one poll of the mode store
  for each access, the clock, the listfile predicate and the IoC cache.
- Components that `process` feeds and never reads back (the L2, L3, GOOSE and MMS
  counters, the baseline collector, the coverage counter, the feature publisher)
  have no part in these phases; of the ring buffer only the reference it hands to
  the event store has.
-/

namespace EdgeSensor.Sensor

open EdgeSensor.Lib EdgeSensor.Py EdgeSensor.Parser

/-- The accesses to the mode store one packet can make, in order, and that of a window. -/
inductive ModeAccess where
  | reload
  | reloadLog
  | accumulate
  | emitIoc
  | emitObservation
  | emitModbus
  | emitGoose
  | emitMms
  | emitWindow
  deriving DecidableEq, Repr

/-- What one call of `reload_detection_policy` reads: its own poll, then those
inside `policy()` and `rules_enabled()`. -/
structure ReloadReading where
  poll : PolicyReading
  policy : PolicyReading
  rules : PolicyReading

/-- What one call of `process` reads from outside. -/
structure PacketEnv where
  reload : ReloadReading
  mode : ModeAccess → Reading ModeArtifact
  clock : Clock
  capturedAt : String
  whitelisted : String → Bool
  ioc : Direction → IocView

/-- `PacketPipeline`. -/
structure PacketPipeline where
  modeStore : StampStore ModeArtifact
  policyStore : DetectionPolicyStore
  heap : Heap
  mvp : MvpDetector
  detector : Iec61850Detector
  ioc : Option IocMatcher
  ringRef : String := ""
  events : List SecurityEvent := []

namespace PacketPipeline

/-- Give the three detectors a policy, and a rule set unless it is empty. -/
def installPolicy (s : PacketPipeline) (policy : PolicyObj) (rules : Finset String) :
    PacketPipeline :=
  let keep (old : Finset String) := if rules = ∅ then old else rules
  { s with
    mvp := { s.mvp with policy := policy, rulesEnabled := keep s.mvp.rulesEnabled }
    detector := { s.detector with policy := policy, rulesEnabled := keep s.detector.rulesEnabled }
    ioc := s.ioc.map fun m => { m with policy := policy, rulesEnabled := keep m.rulesEnabled } }

/-- `reload_detection_policy`. The poll inside `rules_enabled()` comes after the
policy object has been fetched, so it can move the store without moving `policy`. -/
def reloadDetectionPolicy (r : ReloadReading) (s : PacketPipeline) : PacketPipeline :=
  let polled := s.policyStore.maybeReload false r.poll s.heap
  if polled.2 then
    let forPolicy := (polled.1.1.maybeReload false r.policy polled.1.2).1
    let forRules := (forPolicy.1.maybeReload false r.rules forPolicy.2).1
    { s with policyStore := forRules.1, heap := forRules.2 }.installPolicy
      forPolicy.1.baseline forRules.1.rulesEnabled
  else { s with policyStore := polled.1.1, heap := polled.1.2 }

/-- `reload_operational_mode`: the log line asks for the mode again. -/
def reloadOperationalMode (mode : ModeAccess → Reading ModeArtifact) (s : PacketPipeline) :
    PacketPipeline :=
  let polled := s.modeStore.maybeReload false (mode .reload)
  if polled.2.changed then { s with modeStore := (readMode polled.1 (mode .reloadLog)).1 }
  else { s with modeStore := polled.1 }

/-- The mode an access finds. -/
def modeAt (access : ModeAccess) (env : PacketEnv) (s : PacketPipeline) : Mode :=
  (readMode s.modeStore (env.mode access)).2

/-- `_emit`. -/
def emit (access : ModeAccess) (env : PacketEnv) (events : List SecurityEvent)
    (s : PacketPipeline) : PacketPipeline :=
  { s with
    modeStore := (readMode s.modeStore (env.mode access)).1
    events := if s.modeAt access env = .detect then s.events ++ events.map (·.withRef s.ringRef)
      else s.events }

/-- The stores and the ring buffer, before any rule runs. -/
def prologue (env : PacketEnv) (packet : Packet) (s : PacketPipeline) : PacketPipeline :=
  let s := reloadOperationalMode env.mode (reloadDetectionPolicy env.reload s)
  { s with
    modeStore := (readMode s.modeStore (env.mode .accumulate)).1
    ringRef := if packet.raw = [] then s.ringRef else s!"local-ringbuffer://{env.capturedAt}" }

/-- The arguments `process` hands to the matcher and to the inventory. -/
def observation (packet : Packet) : InventoryObservation where
  srcMac := (parseEthernet packet).1
  srcIp := (parseIp packet).1
  dstIp := (parseIp packet).2.1
  dstPort := (parseTransport packet).map (·.dstPort)
  protocol := (parseTransport packet).map (·.protocol)

/-- OT-019. -/
def iocPhase (env : PacketEnv) (packet : Packet) (s : PacketPipeline) : PacketPipeline :=
  match s.ioc with
  | none => s
  | some m =>
    let obs := observation packet
    let r := m.evaluate (m.policy.resolve s.heap) env.whitelisted env.clock env.ioc
      ⟨obs.srcIp, obs.dstIp, obs.dstPort, obs.protocol⟩
    { s with ioc := some r.1 }.emit .emitIoc env r.2

/-- What the MVP rules read in this call. -/
def mvpView (env : PacketEnv) (s : PacketPipeline) : MvpView :=
  ⟨s.mvp.policy.resolve s.heap, env.whitelisted, env.clock⟩

/-- The detector after `inventory.observe`. -/
def observed (env : PacketEnv) (packet : Packet) (s : PacketPipeline) : MvpDetector :=
  { s.mvp with inventory := s.mvp.inventory.observe (observation packet) env.clock.observe }

/-- OT-001 to OT-006 and OT-010. -/
def observationPhase (env : PacketEnv) (packet : Packet) (s : PacketPipeline) : PacketPipeline :=
  let r := MvpDetector.evaluateObservation (s.mvpView env) (observation packet) (s.observed env packet)
  { s with mvp := r.1 }.emit .emitObservation env r.2

/-- OT-007. -/
def modbusPhase (env : PacketEnv) (packet : Packet) (s : PacketPipeline) : PacketPipeline :=
  match Modbus.parseModbusTcp packet with
  | none => s
  | some frame =>
    let r := MvpDetector.evaluateModbus (s.mvpView env) frame s.mvp
    { s with mvp := r.1 }.emit .emitModbus env r.2

/-- OT-011 to OT-013. -/
def goosePhase (env : PacketEnv) (frame : Option Goose.GooseFrame) (s : PacketPipeline) :
    PacketPipeline :=
  match frame with
  | none => s
  | some frame =>
    let r := Iec61850Detector.evaluateGoose (s.detector.policy.resolve s.heap) env.clock frame
      s.detector
    { s with detector := r.1 }.emit .emitGoose env r.2

/-- OT-014, OT-016 and OT-018. -/
def mmsPhase (env : PacketEnv) (packet : Packet) (s : PacketPipeline) : PacketPipeline :=
  match Mms.parseMmsPacket packet with
  | none => s
  | some obs =>
    let r := Iec61850Detector.evaluateMms (s.detector.policy.resolve s.heap) env.clock obs s.detector
    { s with detector := r.1 }.emit .emitMms env r.2

/-- Everything `process` does before it parses GOOSE. -/
def beforeGoose (env : PacketEnv) (packet : Packet) (s : PacketPipeline) : PacketPipeline :=
  modbusPhase env packet <| observationPhase env packet <| iocPhase env packet <|
    prologue env packet s

/-- `process`: the pipeline afterwards, and the exception that left the call. -/
def process (env : PacketEnv) (packet : Packet) (s : PacketPipeline) :
    PacketPipeline × Option PyErr :=
  match Goose.parseGoosePacket packet with
  | .error e => (beforeGoose env packet s, some e)
  | .ok frame => (mmsPhase env packet (goosePhase env frame (beforeGoose env packet s)), none)

/-- The pipeline after one call of `process`, however it ended. -/
def feed (s : PacketPipeline) (input : PacketEnv × Packet) : PacketPipeline :=
  (process input.1 input.2 s).1

/-- The pipeline after a sequence of calls. -/
def feedAll (s : PacketPipeline) (inputs : List (PacketEnv × Packet)) : PacketPipeline :=
  inputs.foldl feed s

/-- `flush_features`, the part that reports: OT-008 and OT-009. Of `env` it reads the mode
and the wall clock. -/
def flushFeatures (env : PacketEnv) (now : Rat) (windowSec : Int) (s : PacketPipeline) :
    PacketPipeline :=
  let r := MvpDetector.evaluateWindow (s.mvp.policy.resolve s.heap) env.clock now windowSec s.mvp
  { s with mvp := r.1 }.emit .emitWindow env r.2

/-- `capture_loop`: hand on packet after packet until one call raises. -/
def captureLoop : List (PacketEnv × Packet) → PacketPipeline → PacketPipeline × Option PyErr
  | [], s => (s, none)
  | input :: rest, s =>
    match process input.1 input.2 s with
    | (s', some e) => (s', some e)
    | (s', none) => captureLoop rest s'

/-- What the constructor reads and is given. -/
structure InitEnv where
  siteId : String
  sensorId : String
  rulesEnabled : List String := []
  iocEnabled : Bool := true
  iocCooldownSec : Rat := 300
  modeReloadSec : Rat := 5
  policyReloadSec : Rat := 5
  startedAt : Rat := 0
  mode : Reading ModeArtifact
  profile : Option (Reading BaselineProfile)
  store : PolicyReading
  policy : PolicyReading
  rules : PolicyReading

/-- The policy store as its own constructor leaves it. -/
def InitEnv.built (env : InitEnv) : DetectionPolicyStore × Heap :=
  DetectionPolicyStore.init env.policyReloadSec env.profile env.store []

/-- The store after the poll inside `policy()`. -/
def InitEnv.forPolicy (env : InitEnv) : DetectionPolicyStore × Heap :=
  (env.built.1.maybeReload false env.policy env.built.2).1

/-- The store after the poll inside `rules_enabled()`. -/
def InitEnv.forRules (env : InitEnv) : DetectionPolicyStore × Heap :=
  (env.forPolicy.1.maybeReload false env.rules env.forPolicy.2).1

/-- `self._policy_store.rules_enabled() or set(rules_enabled or [])`. -/
def InitEnv.enabled (env : InitEnv) : Finset String :=
  if env.forRules.1.rulesEnabled = ∅ then env.rulesEnabled.toFinset
  else env.forRules.1.rulesEnabled

/-- `PacketPipeline.__init__`. -/
def init (env : InitEnv) : PacketPipeline where
  modeStore := ModeStore.init env.modeReloadSec env.mode
  policyStore := env.forRules.1
  heap := env.forRules.2
  mvp := {
    siteId := env.siteId
    sensorId := env.sensorId
    policy := env.forPolicy.1.baseline
    rulesEnabled := env.enabled
    startedAt := env.startedAt }
  detector := {
    siteId := env.siteId
    sensorId := env.sensorId
    policy := env.forPolicy.1.baseline
    rulesEnabled := env.enabled }
  ioc := if env.iocEnabled then
      some {
        siteId := env.siteId
        sensorId := env.sensorId
        policy := env.forPolicy.1.baseline
        rulesEnabled := env.enabled
        cooldownSec := env.iocCooldownSec }
    else none

end PacketPipeline

/-! ## Bare environments

Runs in which no policy artifact, profile or IoC file exists; the mode file and the
fallback policy are given. -/

/-- A mode file that holds nothing but a mode. -/
def ModeArtifact.ofMode (mode : String) : ModeArtifact := { mode := some mode }

/-- No policy file but the fallback. -/
def PolicyReading.bare (now : Rat) (fallback : Option PolicyDoc) : PolicyReading where
  det := ⟨now, "", none⟩
  profile := ⟨now, "", none⟩
  profileAgain := ⟨now, "", none⟩
  fallback := fallback

/-- One call at time `now`. -/
def PacketEnv.bare (now : Rat) (mode : Reading ModeArtifact) (fallback : Option PolicyDoc := none) :
    PacketEnv where
  reload := ⟨.bare now fallback, .bare now fallback, .bare now fallback⟩
  mode := fun _ => mode
  clock := ⟨now, now, now, fun _ => now, fun _ => now, "20260101", "2026-01-01T00:00:00+00:00"⟩
  capturedAt := "2026-01-01T00:00:00+00:00"
  whitelisted := fun _ => false
  ioc := fun _ => { lookup := fun _ => none }

/-- A sensor constructed at time `now`, all rules enabled. -/
def PacketPipeline.InitEnv.bare (now : Rat) (mode : Reading ModeArtifact)
    (fallback : Option PolicyDoc := none) : PacketPipeline.InitEnv where
  siteId := "site"
  sensorId := "sensor"
  iocEnabled := false
  mode := mode
  profile := none
  store := .bare now fallback
  policy := .bare now fallback
  rules := .bare now fallback

end EdgeSensor.Sensor
