import EdgeSensor.Agent.UploadRules
import EdgeSensor.Sensor.EventIds
import EdgeSensor.Sensor.PoisonLines

/-!
# Event ids over restarts

A run of the sensor is packets through the pipeline, ends of feature windows, polls of the
two alert files, and restarts. The event files outlive the process; the counters that number the events do
not. So an id that an earlier process has written on some UTC day comes up again when its
producer gets to the same number on that day, and everything that takes the id for the
event (the buffer of the agent, which deletes by id) takes two events for one.

`DayFree` is the condition under which that cannot happen: no earlier process has written
an event of the producer that bears the day the clock shows now. In runs of such steps all
ids in the files are different (`event_ids_identify`).

Mirroring notes:
- A restart begins with new counters and empty detectors, on the files as they are. The
  output of the process that runs is kept apart from what was there before (`earlier`).
- The capture loop ends when a packet raises; runs that go on are runs here too.
-/

namespace EdgeSensor.System

open EdgeSensor.Lib EdgeSensor.Py EdgeSensor.Agent EdgeSensor.Sensor

/-- The counters of the pipeline. -/
def pipelineCount (s : PacketPipeline) : Producer → Nat
  | .mvp => s.mvp.eventSeq
  | .iec61850 => s.detector.eventSeq
  | .ioc => (s.ioc.map IocMatcher.eventSeq).getD 0
  | .snort => 0
  | .suricata => 0

/-- The sensor process, and the ids in the event files from earlier processes. -/
structure SensorRun where
  pipeline : PacketPipeline
  suricata : EngineSource := {}
  snort : EngineSource := {}
  earlier : List PyStr := []

/-- What can happen to the sensor. -/
inductive SensorStep where
  | packet (env : PacketEnv) (packet : Parser.Packet)
  | flush (env : PacketEnv) (now : Rat) (windowSec : Int)
  | pollSuricata (clock : Nat → EngineClock) (file : Option Bytes)
  | pollSnort (clock : Nat → EngineClock) (file : Option Bytes)
  | restart (env : PacketPipeline.InitEnv)

/-- The id an object of an output file bears. -/
def objectId (object : Value) : PyStr :=
  match object.get "event_id" with
  | .str s => s
  | _ => []

namespace SensorRun

/-- The ids this process has written. -/
def processIds (w : SensorRun) : List PyStr :=
  w.pipeline.events.map (fun e => lit e.eventId)
    ++ (w.suricata.out.map objectId ++ w.snort.out.map objectId)

/-- The ids in the event files. -/
def persistedIds (w : SensorRun) : List PyStr := w.earlier ++ w.processIds

/-- The first process, on empty files. -/
def start (env : PacketPipeline.InitEnv) : SensorRun where
  pipeline := .init env

def step (text : EngineText) (config : EngineConfig) (w : SensorRun) : SensorStep → SensorRun
  | .packet env packet => { w with pipeline := w.pipeline.feed (env, packet) }
  | .flush env now windowSec =>
    { w with pipeline := w.pipeline.flushFeatures env now windowSec }
  | .pollSuricata clock file =>
    { w with suricata := (SuricataEveSource.pollOnce text config clock file w.suricata).2 }
  | .pollSnort clock file =>
    { w with snort := (SnortAlertSource.pollOnce text config clock file w.snort).2 }
  | .restart env => {
      pipeline := .init env
      suricata := .init w.suricata.offsetFile []
      snort := .init w.snort.offsetFile []
      earlier := w.persistedIds }

def run (text : EngineText) (config : EngineConfig) (w : SensorRun) (steps : List SensorStep) :
    SensorRun := steps.foldl (step text config) w

/-- The counters. -/
def count (w : SensorRun) : Producer → Nat
  | .snort => w.snort.seq
  | .suricata => w.suricata.seq
  | p => pipelineCount w.pipeline p

/-- No earlier process has written an event of the producer that bears the day. -/
def DayFree (w : SensorRun) (day : String) (p : Producer) : Prop :=
  DayText day ∧ ∀ id ∈ w.earlier, ¬ idStem day p <+: id

/-- The condition on a step: the days its clock shows are free for the producers it runs. -/
def StepOk (w : SensorRun) : SensorStep → Prop
  | .packet env _ => ∀ p ∈ [Producer.mvp, .iec61850, .ioc], w.DayFree env.clock.day p
  | .flush env _ _ => w.DayFree env.clock.day .mvp
  | .pollSuricata clock _ => ∀ n, w.DayFree (clock n).day .suricata
  | .pollSnort clock _ => ∀ n, w.DayFree (clock n).day .snort
  | .restart _ => True

/-- A run of steps that all meet the condition. -/
def RunOk (text : EngineText) (config : EngineConfig) : SensorRun → List SensorStep → Prop
  | _, [] => True
  | w, s :: steps => w.StepOk s ∧ RunOk text config (w.step text config s) steps

/-- The ids of this process are all different and none of them is an earlier one. -/
structure IdsInv (w : SensorRun) : Prop where
  numbered : Numbered w.count w.processIds
  apart : ∀ id ∈ w.earlier, id ∉ w.processIds
  earlier : w.earlier.Nodup

theorem IdsInv.nodup {w : SensorRun} (h : w.IdsInv) : w.persistedIds.Nodup := by
  refine List.nodup_append.mpr ⟨h.earlier, h.numbered.nodup, ?_⟩
  rintro id hid _ hid' rfl
  exact h.apart id hid hid'

/-- The id is number `n` of the producer, on a day that is free. -/
def IsFree (w : SensorRun) (p : Producer) (n : Nat) (id : PyStr) : Prop :=
  ∃ day, w.DayFree day p ∧ id = producerId day p n

/-- One producer draws some numbers, and the ids go to its file. -/
theorem IdsInv.draw {w w' : SensorRun} {p : Producer} {new : List PyStr} (h : w.IdsInv)
    (hearlier : w'.earlier = w.earlier) (hperm : w'.processIds.Perm (w.processIds ++ new))
    (hnew : Rising (w.IsFree p) (w.count p) (w'.count p) new)
    (hother : ∀ q, q ≠ p → w'.count q = w.count q) : w'.IdsInv := by
  have hle : ∀ q, w.count q ≤ w'.count q := by
    intro q
    by_cases hq : q = p
    · rw [hq]
      exact hnew.le
    · exact (hother q hq).ge
  have hrising : Rising (IsNth p) (w.count p) (w'.count p) new := by
    have hmap : Rising (IsNth p) (w.count p) (w'.count p) (new.map id) :=
      hnew.map fun n i ⟨day, hfree, hi⟩ => ⟨day, hfree.1, hi⟩
    rwa [List.map_id] at hmap
  refine ⟨(h.numbered.append hrising hle).perm hperm, fun i hi hmem => ?_, hearlier ▸ h.earlier⟩
  rw [hearlier] at hi
  rcases List.mem_append.mp (hperm.subset hmem) with hmem | hmem
  · exact h.apart i hi hmem
  · obtain ⟨n, _, _, day, hfree, rfl⟩ := hnew.range i hmem
    exact hfree.2 _ hi (List.prefix_append _ _)

/-! ## The pipeline -/

/-- A phase of the pipeline: one producer draws numbers, the others do nothing. -/
def PhaseDraws (day : String) (p : Producer) (s s' : PacketPipeline) : Prop :=
  ∃ new, s'.events = s.events ++ new
    ∧ Rising (BearsId day p) (pipelineCount s p) (pipelineCount s' p) new
    ∧ ∀ q, q ≠ p → pipelineCount s' q = pipelineCount s q

theorem PhaseDraws.refl (day : String) (p : Producer) (s : PacketPipeline) : PhaseDraws day p s s :=
  ⟨[], (List.append_nil _).symm, .nil (Nat.le_refl _), fun _ _ => rfl⟩

/-- The ids after a phase. -/
theorem IdsInv.phase {w : SensorRun} {s s' : PacketPipeline} {day : String} {p : Producer}
    (h : IdsInv { w with pipeline := s }) (hp : p ∈ [Producer.mvp, .iec61850, .ioc])
    (hfree : w.DayFree day p) (hdraws : PhaseDraws day p s s') :
    IdsInv { w with pipeline := s' } := by
  obtain ⟨new, hevents, hnew, hother⟩ := hdraws
  have hcount : ∀ s, count { w with pipeline := s } p = pipelineCount s p := by
    intro s
    simp only [List.mem_cons, List.not_mem_nil, or_false] at hp
    rcases hp with rfl | rfl | rfl
    · rfl
    · rfl
    · rfl
  have hids : Rising (IsFree { w with pipeline := s } p) (pipelineCount s p) (pipelineCount s' p)
      (new.map fun e => lit e.eventId) := hnew.map fun n e he => ⟨day, hfree, he⟩
  rw [← hcount s', ← hcount s] at hids
  refine IdsInv.draw h rfl ?_ hids fun q hq => ?_
  · unfold processIds
    rw [hevents, List.map_append, List.append_assoc, List.append_assoc]
    exact (List.perm_append_comm).append_left _
  · cases q with
    | snort => rfl
    | suricata => rfl
    | _ => exact hother _ hq

/-- What `_emit` writes of the events of a phase. -/
theorem emit_draws {day : String} {p : Producer} {s s' : PacketPipeline}
    {events : List SecurityEvent} (access : ModeAccess) (env : PacketEnv)
    (hevents : s'.events = s.events)
    (hdraws : Rising (BearsId day p) (pipelineCount s p) (pipelineCount s' p) events)
    (hother : ∀ q, q ≠ p → pipelineCount s' q = pipelineCount s q) :
    PhaseDraws day p s (s'.emit access env events) := by
  refine ⟨PacketPipeline.passed access env events s', ?_, ?_, hother⟩
  · rw [PacketPipeline.emit_events, hevents]
  · show Rising _ _ (pipelineCount s' p) _
    unfold PacketPipeline.passed
    split
    next => exact hdraws.map fun n e he => by rwa [BearsId, SecurityEvent.withRef_eventId]
    next => exact .nil hdraws.le

theorem iocPhase_draws (env : PacketEnv) (packet : Parser.Packet) (s : PacketPipeline) :
    PhaseDraws env.clock.day .ioc s (s.iocPhase env packet) := by
  unfold PacketPipeline.iocPhase
  split
  next => exact .refl _ _ _
  next m hm =>
    refine emit_draws .emitIoc env rfl ?_ fun q hq => ?_
    · have hdraws := IocMatcher.evaluate_draws (m.policy.resolve s.heap) env.whitelisted env.clock
        env.ioc ⟨(PacketPipeline.observation packet).srcIp, (PacketPipeline.observation packet).dstIp,
          (PacketPipeline.observation packet).dstPort, (PacketPipeline.observation packet).protocol⟩ m
      show Rising _ ((s.ioc.map IocMatcher.eventSeq).getD 0) _ _
      rw [hm]
      exact hdraws
    · cases q with
      | ioc => exact absurd rfl hq
      | _ => rfl

theorem observationPhase_draws (env : PacketEnv) (packet : Parser.Packet) (s : PacketPipeline) :
    PhaseDraws env.clock.day .mvp s (s.observationPhase env packet) := by
  refine emit_draws .emitObservation env rfl
    (MvpDetector.evaluateObservation_draws (s.mvpView env) _ (s.observed env packet)) fun q hq => ?_
  cases q with
  | mvp => exact absurd rfl hq
  | _ => rfl

theorem modbusPhase_draws (env : PacketEnv) (packet : Parser.Packet) (s : PacketPipeline) :
    PhaseDraws env.clock.day .mvp s (s.modbusPhase env packet) := by
  unfold PacketPipeline.modbusPhase
  split
  next => exact .refl _ _ _
  next frame _ =>
    refine emit_draws .emitModbus env rfl
      (MvpDetector.evaluateModbus_draws (s.mvpView env) frame s.mvp) fun q hq => ?_
    cases q with
    | mvp => exact absurd rfl hq
    | _ => rfl

theorem goosePhase_draws (env : PacketEnv) (frame : Option Parser.Goose.GooseFrame)
    (s : PacketPipeline) : PhaseDraws env.clock.day .iec61850 s (s.goosePhase env frame) := by
  unfold PacketPipeline.goosePhase
  split
  next => exact .refl _ _ _
  next frame =>
    refine emit_draws .emitGoose env rfl
      (Iec61850Detector.evaluateGoose_draws _ env.clock frame s.detector) fun q hq => ?_
    cases q with
    | iec61850 => exact absurd rfl hq
    | _ => rfl

theorem mmsPhase_draws (env : PacketEnv) (packet : Parser.Packet) (s : PacketPipeline) :
    PhaseDraws env.clock.day .iec61850 s (s.mmsPhase env packet) := by
  unfold PacketPipeline.mmsPhase
  split
  next => exact .refl _ _ _
  next obs _ =>
    refine emit_draws .emitMms env rfl
      (Iec61850Detector.evaluateMms_draws _ env.clock obs s.detector) fun q hq => ?_
    cases q with
    | iec61850 => exact absurd rfl hq
    | _ => rfl

theorem flushFeatures_draws (env : PacketEnv) (now : Rat) (windowSec : Int) (s : PacketPipeline) :
    PhaseDraws env.clock.day .mvp s (s.flushFeatures env now windowSec) := by
  refine emit_draws .emitWindow env rfl
    (MvpDetector.evaluateWindow_draws _ env.clock now windowSec s.mvp) fun q hq => ?_
  cases q with
  | mvp => exact absurd rfl hq
  | _ => rfl

/-- Reloading the stores writes and numbers nothing. -/
theorem prologue_draws (env : PacketEnv) (packet : Parser.Packet) (s : PacketPipeline) :
    (s.prologue env packet).events = s.events
      ∧ pipelineCount (s.prologue env packet) = pipelineCount s := by
  refine ⟨(PacketPipeline.prologue_frame env packet s).2.2.2.2, ?_⟩
  have hinstall : ∀ (s : PacketPipeline) (policy : PolicyObj) (rules : Finset String),
      pipelineCount (s.installPolicy policy rules) = pipelineCount s := by
    intro s policy rules
    funext q
    cases q with
    | ioc =>
      show ((s.ioc.map _).map IocMatcher.eventSeq).getD 0 = (s.ioc.map IocMatcher.eventSeq).getD 0
      rw [Option.map_map]
      rfl
    | _ => rfl
  unfold PacketPipeline.prologue
  simp only
  rw [PacketPipeline.reloadOperationalMode_frame]
  show pipelineCount (s.reloadDetectionPolicy env.reload) = pipelineCount s
  unfold PacketPipeline.reloadDetectionPolicy
  simp only
  split
  next => rw [hinstall]; rfl
  next => rfl

/-- The ids after a packet. -/
theorem IdsInv.packet {w : SensorRun} (h : w.IdsInv) (env : PacketEnv) (packet : Parser.Packet)
    (hfree : ∀ p ∈ [Producer.mvp, .iec61850, .ioc], w.DayFree env.clock.day p) :
    IdsInv { w with pipeline := w.pipeline.feed (env, packet) } := by
  have hprologue : IdsInv { w with pipeline := w.pipeline.prologue env packet } := by
    obtain ⟨hevents, hcount⟩ := prologue_draws env packet w.pipeline
    refine IdsInv.phase h (by decide) (hfree .mvp (by decide)) ⟨[], ?_, ?_, fun q _ => ?_⟩
    · rw [hevents, List.append_nil]
    · rw [hcount]
      exact .nil (Nat.le_refl _)
    · rw [hcount]
  have hioc := hprologue.phase (by decide) (hfree .ioc (by decide))
    (iocPhase_draws env packet _)
  have hobservation := hioc.phase (by decide) (hfree .mvp (by decide))
    (observationPhase_draws env packet _)
  have hmodbus := hobservation.phase (by decide) (hfree .mvp (by decide))
    (modbusPhase_draws env packet _)
  show IdsInv { w with pipeline := (w.pipeline.process env packet).1 }
  unfold PacketPipeline.process
  cases Parser.Goose.parseGoosePacket packet with
  | error e => exact hmodbus
  | ok frame =>
    have hgoose := hmodbus.phase (by decide) (hfree .iec61850 (by decide))
      (goosePhase_draws env frame _)
    exact hgoose.phase (by decide) (hfree .iec61850 (by decide)) (mmsPhase_draws env packet _)

/-! ## The sources -/

/-- A mapper's counter: it never goes down, and the event it makes bears the next number. -/
structure MapDraws (map : EngineMap) (p : Producer) : Prop where
  le : ∀ {seq clock record}, seq ≤ (map seq clock record).2
  id : ∀ {seq clock record event}, (map seq clock record).1 = .ok (some event) →
    (map seq clock record).2 = seq + 1 ∧ lit event.eventId = producerId clock.day p (seq + 1)

theorem assemble_draws {seq : Nat} {severity : Except PyErr String}
    {port : Except PyErr (Option Int)} {timestamp : Except PyErr Value}
    {event : Nat → String → Option Int → Value → EngineEvent} :
    seq ≤ (assemble seq severity port timestamp event).2
      ∧ ∀ e, (assemble seq severity port timestamp event).1 = .ok (some e) →
        (assemble seq severity port timestamp event).2 = seq + 1
          ∧ ∃ s p t, e = event (seq + 1) s p t := by
  unfold assemble
  cases severity with
  | error e => exact ⟨Nat.le_refl _, fun _ h => by cases h⟩
  | ok severity =>
    cases port with
    | error e => exact ⟨Nat.le_succ _, fun _ h => by cases h⟩
    | ok port =>
      cases timestamp with
      | error e => exact ⟨Nat.le_succ _, fun _ h => by cases h⟩
      | ok timestamp =>
        refine ⟨Nat.le_succ _, fun e he => ⟨rfl, severity, port, timestamp, ?_⟩⟩
        cases he
        rfl

theorem suricata_draws (text : EngineText) (config : EngineConfig) :
    MapDraws (SuricataEveMapper.map text config) .suricata := by
  refine ⟨fun {seq clock record} => ?_, fun {seq clock record event} h => ?_⟩
  · unfold SuricataEveMapper.map
    split
    next => exact Nat.le_refl _
    next =>
      split
      next => exact Nat.le_refl _
      next => exact assemble_draws.1
  · unfold SuricataEveMapper.map at h ⊢
    split at h
    next => cases h
    next =>
      split at h
      next => cases h
      next hobj halert =>
        rw [if_neg hobj, if_neg halert]
        obtain ⟨hseq, severity, port, t, rfl⟩ := assemble_draws.2 event h
        refine ⟨hseq, ?_⟩
        show lit s!"evt-{clock.day}-suricata-{pad5 (seq + 1)}" = _
        rw [← lit_id]
        simp only [String.append_assoc]
        rfl

theorem snort_draws (text : EngineText) (config : EngineConfig) :
    MapDraws (SnortAlertMapper.map text config) .snort := by
  refine ⟨fun {seq clock record} => ?_, fun {seq clock record event} h => ?_⟩
  · unfold SnortAlertMapper.map
    split
    next => exact Nat.le_refl _
    next => exact assemble_draws.1
  · unfold SnortAlertMapper.map at h ⊢
    split at h
    next => cases h
    next hobj =>
      rw [if_neg hobj]
      obtain ⟨hseq, severity, port, t, rfl⟩ := assemble_draws.2 event h
      refine ⟨hseq, ?_⟩
      show lit s!"evt-{clock.day}-snort-{pad5 (seq + 1)}" = _
      rw [← lit_id]
      simp only [String.append_assoc]
      rfl

/-- The id of an event is in the object written for it. -/
theorem objectId_toDict (event : EngineEvent) : objectId event.toDict = lit event.eventId := by
  unfold objectId Value.get Value.getD EngineEvent.toDict
  simp [Dict.get?]

section Source

variable {text : EngineText} {map : EngineMap} {p : Producer}

/-- The id is number `n` of the producer, on a day the clock shows. -/
def OnClock (clock : Nat → EngineClock) (p : Producer) (n : Nat) (id : PyStr) : Prop :=
  ∃ k, id = producerId (clock k).day p n

/-- A line keeps the number or, when it has an event, takes the next one for it. -/
theorem mapLine_draws (hmap : MapDraws map p) (clock : EngineClock) (line : Bytes) (seq : Nat) :
    seq ≤ (mapLine text map clock seq line).2
      ∧ ∀ object, (mapLine text map clock seq line).1 = .ok (some object) →
        (mapLine text map clock seq line).2 = seq + 1
          ∧ objectId object = producerId clock.day p (seq + 1) := by
  unfold mapLine
  cases parseLine text line with
  | error e => exact ⟨Nat.le_refl _, fun _ h => by cases h⟩
  | ok record =>
    cases record with
    | none => exact ⟨Nat.le_refl _, fun _ h => by cases h⟩
    | some record =>
      have hle := @MapDraws.le map p hmap seq clock record
      have hid := @MapDraws.id map p hmap seq clock record
      rcases hcall : map seq clock record with ⟨_ | _ | event, seq'⟩
      · rw [hcall] at hle
        exact ⟨by simpa only [hcall] using hle, fun _ h => by simp only [hcall] at h; cases h⟩
      · rw [hcall] at hle
        exact ⟨by simpa only [hcall] using hle, fun _ h => by simp only [hcall] at h; cases h⟩
      · rw [hcall] at hle hid
        obtain ⟨hseq, hevent⟩ := hid rfl
        simp only [hcall]
        refine ⟨hle, fun object h => ⟨hseq, ?_⟩⟩
        unfold dumps at h
        split at h
        next => cases h
        next =>
          cases h
          rw [objectId_toDict, hevent]

theorem mapLines_draws (hmap : MapDraws map p) (clock : Nat → EngineClock) (lines : List Bytes)
    (seq : Nat) :
    seq ≤ (mapLines text map clock seq lines).2
      ∧ ∀ objects, (mapLines text map clock seq lines).1 = .ok objects →
        Rising (OnClock clock p) seq (mapLines text map clock seq lines).2
          (objects.map objectId) := by
  induction lines generalizing seq with
  | nil =>
    refine ⟨Nat.le_refl _, fun objects h => ?_⟩
    cases h
    exact .nil (Nat.le_refl _)
  | cons line lines ih =>
    obtain ⟨hle, hid⟩ := @mapLine_draws text map p hmap (clock lines.length) line seq
    rw [mapLines_cons]
    rcases hcall : mapLine text map (clock lines.length) seq line with ⟨_ | _ | object, seq'⟩
    · rw [hcall] at hle
      exact ⟨hle, fun _ h => by cases h⟩
    · rw [hcall] at hle
      obtain ⟨hle', hrest⟩ := ih seq'
      exact ⟨Nat.le_trans hle hle', fun objects h => (Rising.nil hle).append (hrest objects h)⟩
    · rw [hcall] at hle hid
      obtain ⟨hle', hrest⟩ := ih seq'
      refine ⟨Nat.le_trans hle hle', fun objects h => ?_⟩
      obtain ⟨rest, hlines, hobjects⟩ := map_eq_ok.mp h
      rw [← hobjects]
      -- the line's own number, then those of the rest
      obtain ⟨hseq, hobject⟩ := hid object rfl
      simp only at hseq
      subst hseq
      rw [List.map_cons, ← List.singleton_append]
      exact (Rising.single ⟨lines.length, hobject⟩).append (hrest rest hlines)

/-- A poll appends objects with the next numbers of its mapper. -/
theorem pollOnce_draws (hmap : MapDraws map p) (clock : Nat → EngineClock) (file : Option Bytes)
    (src : EngineSource) :
    ∃ new, (src.pollOnce text map clock file).2.out = src.out ++ new
      ∧ Rising (OnClock clock p) src.seq (src.pollOnce text map clock file).2.seq
        (new.map objectId) := by
  have hnothing : ∀ {hi}, src.seq ≤ hi → ∃ new, src.out = src.out ++ new
      ∧ Rising (OnClock clock p) src.seq hi (new.map objectId) :=
    fun h => ⟨[], (List.append_nil _).symm, .nil h⟩
  cases file with
  | none => exact hnothing (Nat.le_refl _)
  | some data =>
    unfold EngineSource.pollOnce
    simp only
    split
    next => exact hnothing (Nat.le_refl _)
    next =>
      obtain ⟨hle, hobjects⟩ :=
        @mapLines_draws text map p hmap clock (takenLines data src.offset) src.seq
      rcases hcall : mapLines text map clock src.seq (takenLines data src.offset) with ⟨result, seq⟩
      rw [hcall] at hle hobjects
      cases result with
      | error e => exact hnothing hle
      | ok objects =>
        simp only
        by_cases hwritable : objects.all Value.encodable = true
        · simp only [writeLines, if_pos hwritable]
          exact ⟨objects, rfl, hobjects objects rfl⟩
        · simp only [writeLines, if_neg hwritable]
          exact hnothing hle

end Source

/-! ## Runs -/

/-- A poll writes objects with the next numbers of its producer, and the ids are new if the
days its clock shows are free. -/
theorem IdsInv.poll {w w' : SensorRun} {p : Producer} {clock : Nat → EngineClock}
    {new : List Value} (h : w.IdsInv) (hearlier : w'.earlier = w.earlier)
    (hperm : w'.processIds.Perm (w.processIds ++ new.map objectId))
    (hnew : Rising (OnClock clock p) (w.count p) (w'.count p) (new.map objectId))
    (hfree : ∀ n, w.DayFree (clock n).day p) (hother : ∀ q, q ≠ p → w'.count q = w.count q) :
    w'.IdsInv := by
  have hids : Rising (w.IsFree p) (w.count p) (w'.count p) ((new.map objectId).map id) :=
    hnew.map fun n i ⟨k, hi⟩ => ⟨(clock k).day, hfree k, hi⟩
  rw [List.map_id] at hids
  exact h.draw hearlier hperm hids hother

theorem IdsInv.step {text : EngineText} {config : EngineConfig} {w : SensorRun} (h : w.IdsInv)
    {s : SensorStep} (hok : w.StepOk s) : (w.step text config s).IdsInv := by
  cases s with
  | packet env packet => exact h.packet env packet hok
  | flush env now windowSec =>
    exact h.phase (by decide) hok (flushFeatures_draws env now windowSec w.pipeline)
  | pollSuricata clock file =>
    obtain ⟨new, hout, hnew⟩ :=
      @pollOnce_draws text _ _ (suricata_draws text config) clock file w.suricata
    refine h.poll rfl ?_ hnew hok fun q hq => ?_
    · show (_ ++ (List.map objectId
          (SuricataEveSource.pollOnce text config clock file w.suricata).2.out ++ _)).Perm _
      rw [show (SuricataEveSource.pollOnce text config clock file w.suricata).2.out
        = w.suricata.out ++ new from hout]
      unfold processIds
      rw [List.map_append, List.append_assoc, List.append_assoc, List.append_assoc]
      exact ((List.perm_append_comm).append_left _).append_left _
    · cases q with
      | suricata => exact absurd rfl hq
      | _ => rfl
  | pollSnort clock file =>
    obtain ⟨new, hout, hnew⟩ :=
      @pollOnce_draws text _ _ (snort_draws text config) clock file w.snort
    refine h.poll rfl ?_ hnew hok fun q hq => ?_
    · show (_ ++ (_ ++ List.map objectId
          (SnortAlertSource.pollOnce text config clock file w.snort).2.out)).Perm _
      rw [show (SnortAlertSource.pollOnce text config clock file w.snort).2.out
        = w.snort.out ++ new from hout]
      unfold processIds
      rw [List.map_append, List.append_assoc, List.append_assoc]
      exact .refl _
    · cases q with
      | snort => exact absurd rfl hq
      | _ => rfl
  | restart env =>
    -- the counters start over, on files that keep what was written
    exact ⟨Numbered.nil _, fun _ _ hmem => absurd hmem List.not_mem_nil, h.nodup⟩

theorem idsInv_run {text : EngineText} {config : EngineConfig} {w : SensorRun} (h : w.IdsInv)
    {steps : List SensorStep} (hok : RunOk text config w steps) :
    (w.run text config steps).IdsInv := by
  induction steps generalizing w with
  | nil => exact h
  | cons s steps ih => exact ih (h.step hok.1) hok.2

theorem idsInv_start (env : PacketPipeline.InitEnv) : (start env).IdsInv :=
  ⟨Numbered.nil _, fun _ hid => absurd hid List.not_mem_nil, List.nodup_nil⟩

end SensorRun

/-! ## What the agent deletes -/

/-- `remove_by_event_id` deletes entries of its own event only: if every event entry in the
buffer holds one of the persisted events (`owner`, its position in the files), then a call
with the id of event `i`, completed or cut off, deletes entries of event `i`. -/
def RemovesOwn (ids : List PyStr) : Prop :=
  ∀ (env : AgentEnv) (w : World) (owner : Row → Nat) (eventId : String) (i : Nat)
    (choices : List Choice),
    (∀ row ∈ w.buffer.rows, row.kind = "event" →
      ids[owner row]? = some (lit ((Obj.get row.payload "event_id").toStr env.text.repr))) →
    ids[i]? = some (lit eventId) →
    ∀ row ∈ w.buffer.rows,
      row ∉ (Prog.exec env.machine choices (Uplink.removeByEventId env eventId) w).2.buffer.rows →
      owner row = i

/-- What a world has lost of the buffer of another are event entries with the id. -/
def LostOnly (repr : Json → String) (eventId : String) (w s : World) : Prop :=
  ∀ row ∈ w.buffer.rows, row ∉ s.buffer.rows → UploadBuffer.isEvent repr eventId row = true

theorem removeByEventId_lostOnly (env : AgentEnv) (w : World) (eventId : String)
    (choices : List Choice) :
    LostOnly env.text.repr eventId w
      (Prog.exec env.machine choices (Uplink.removeByEventId env eventId) w).2 := by
  have hwp : Prog.wp env.machine (fun _ _ => True) (fun _ _ => True)
      (LostOnly env.text.repr eventId w) (Uplink.removeByEventId env eventId) w := by
    refine Uplink.wp_removeByEventId (LostOnly env.text.repr eventId w)
      (fun row hrow hno => absurd hrow hno) (fun _ h => h) (fun _ _ => trivial) ?_
    intro s row hlost hrow _ hhit r hr hgone
    by_cases hkept : r ∈ s.buffer.rows
    · -- it was there until now, so it is the one just deleted
      have hsame : r.id = row.id := by
        by_contra hne
        exact hgone (List.mem_filter.mpr ⟨hkept, by simpa using hne⟩)
      rw [UploadBuffer.eq_of_id_eq hrow hr hsame]
      exact hhit
    · exact hlost r hr hkept
  exact Prog.wp_exec_crash hwp choices

/-- With all ids different, deleting by id deletes the event's own entries. -/
theorem removesOwn_of_nodup {ids : List PyStr} (h : ids.Nodup) : RemovesOwn ids := by
  intro env w owner eventId i choices howner hi row hrow hgone
  have hhit := removeByEventId_lostOnly env w eventId choices row hrow hgone
  unfold UploadBuffer.isEvent at hhit
  rw [Bool.and_eq_true, decide_eq_true_eq, decide_eq_true_eq] at hhit
  have hid := howner row hrow hhit.1
  rw [hhit.2] at hid
  obtain ⟨hlt, hget⟩ := List.getElem?_eq_some_iff.mp hid
  obtain ⟨hlt', hget'⟩ := List.getElem?_eq_some_iff.mp hi
  exact (List.Nodup.getElem_inj_iff h).mp (hget.trans hget'.symm)

/-- A sensor on a mode file that says `detect`. -/
def labInit : PacketPipeline.InitEnv := .bare 0 ⟨0, "m1", some (.ofMode "detect")⟩

def oneAlert : Bytes := [0x7b, 0x7d, LF]
def twoAlerts : Bytes := [0x7b, 0x7d, LF, 0x7b, 0x7d, LF]

/-- The day after. -/
def nextNoon : EngineClock := ⟨"20260619", "2026-06-19T12:00:00+00:00", 2026⟩

def alertRestartAlert (clock : EngineClock) : List SensorStep :=
  [.pollSnort (fun _ => noon) (some oneAlert), .restart labInit,
    .pollSnort (fun _ => clock) (some twoAlerts)]

end EdgeSensor.System
