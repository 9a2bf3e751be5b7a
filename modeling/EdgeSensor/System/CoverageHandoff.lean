import EdgeSensor.Lib.MtimeGate
import EdgeSensor.Sensor.Coverage

/-!
# Coverage on its way north

The sensor's flush replaces `coverage-counters.json`; the agent's `_maybe_publish_coverage`
publishes it when it is newer than what it published last. The two processes share the file
and nothing else, so this is a `MtimeGate` whose file is written by the flush of
`Sensor/Coverage.lean`.

`coverage_handoff` is the whole of it: while the agent finds nothing to publish, the last
coverage message is the file; the totals of the messages never go down while the sensor
runs; and one attempt that is confirmed is enough to catch up.

Mirroring notes:
- Each step of a flush and both halves of an attempt are steps of their own, so a list of
  steps is an interleaving of the capture thread, the flush and the agent.
- `publish_coverage` answers whether the broker confirmed. A message that is not confirmed may
  have arrived.
- The modification time of the file is that of the temporary file it was; the clock of the
  file system advances between two flushes.
-/

namespace EdgeSensor.Agent

open EdgeSensor.Sensor

/-- `_maybe_publish_coverage`: the time it returns, and what it published. -/
def maybePublishCoverage (file : Option (CoverageFile × Rat)) (lastMtime : Rat) (published : Bool) :
    Rat × Option CoverageFile :=
  match file with
  | none => (lastMtime, none)
  | some (data, mtime) =>
    if mtime ≤ lastMtime then (lastMtime, none)
    else if published then (mtime, some data)
    else (lastMtime, none)

end EdgeSensor.Agent

namespace EdgeSensor.System

open EdgeSensor.Lib EdgeSensor.Sensor

structure CoverageHandoff where
  sensor : CoverageState
  gate : MtimeGate CoverageFile := {}

inductive CoverageHandoffStep where
  /-- A step of the sensor; if it replaces the file, at the time `mtime`. -/
  | sensor (x : CoverageStep) (mtime : Rat)
  | look
  | send (confirmed arrives : Bool)
  | fail
  | restartAgent

namespace CoverageHandoff

def new (counter : CoverageCounter) : CoverageHandoff := { sensor := ⟨counter, none, .idle⟩ }

/-- What a step of the sensor replaces the file with. -/
def replaces (s : CoverageState) : CoverageStep → Option CoverageFile
  | .next true _ =>
    match s.phase with
    | .written payload => some payload
    | _ => none
  | _ => none

/-- A step, as a step of the gate. -/
def gateStep (w : CoverageHandoff) : CoverageHandoffStep → Option (MtimeGateStep CoverageFile)
  | .sensor x mtime => (replaces w.sensor x).map fun payload => .replace payload mtime
  | .look => some .look
  | .send confirmed arrives => some (.send confirmed arrives)
  | .fail => some .fail
  | .restartAgent => some .restart

def step (w : CoverageHandoff) (x : CoverageHandoffStep) : CoverageHandoff where
  sensor :=
    match x with
    | .sensor y _ => w.sensor.step y
    | _ => w.sensor
  gate :=
    match w.gateStep x with
    | some y => w.gate.step y
    | none => w.gate

/-- The clock of the file system. -/
def Later (w : CoverageHandoff) (x : CoverageHandoffStep) : Prop :=
  ∀ y ∈ w.gateStep x, w.gate.Later y

instance (w : CoverageHandoff) (x : CoverageHandoffStep) : Decidable (w.Later x) :=
  inferInstanceAs (Decidable (∀ y ∈ w.gateStep x, w.gate.Later y))

/-- The coverage messages that arrived. -/
def messages (w : CoverageHandoff) : List CoverageFile := w.gate.sent.map (·.2)

/-- What every step preserves. -/
structure Inv (w : CoverageHandoff) : Prop where
  gate : w.gate.Inv
  /-- The file of the gate is the one the flush wrote. -/
  disk : w.gate.file.map (·.1) = w.sensor.disk
  rising : w.gate.versions.Pairwise fun a b => a.1.events ≤ b.1.events
  counted : ∀ version ∈ w.gate.versions, version.1.events ≤ w.sensor.counter.total
  /-- A snapshot on its way is between the files and the tally. -/
  payload : ∀ payload ∈ w.sensor.phase.payload, payload.events ≤ w.sensor.counter.total ∧
    ∀ version ∈ w.gate.versions, version.1.events ≤ payload.events

variable {w : CoverageHandoff}

theorem Inv.new (counter : CoverageCounter) : (new counter).Inv :=
  ⟨.new, rfl, .nil, fun _ h => absurd h List.not_mem_nil, fun _ h => (by cases h)⟩

/-- The tally never goes down. -/
theorem total_le_record (c : CoverageCounter) (now : String) (event : CoverageEvent) :
    c.total ≤ (c.record now event).total := by
  by_cases hcounts : c.Counts event
  · rw [CoverageCounter.record_total hcounts]
    omega
  · rw [CoverageCounter.record_of_not_counts hcounts]

/-- What a step of the sensor does that leaves the file alone: a snapshot that it takes is of the
tally there is. -/
structure Spares (s s' : CoverageState) : Prop where
  disk : s'.disk = s.disk
  total : s.counter.total ≤ s'.counter.total
  payload : ∀ payload ∈ s'.phase.payload,
    payload ∈ s.phase.payload ∨ payload.events = s'.counter.total

theorem Spares.refl (s : CoverageState) : Spares s s := ⟨rfl, le_rfl, fun _ hmem => .inl hmem⟩

theorem Inv.keep (h : w.Inv) {sensor : CoverageState} (hspares : Spares w.sensor sensor) :
    Inv { w with sensor := sensor } := by
  refine ⟨h.gate, h.disk.trans hspares.disk.symm, h.rising,
    fun version hversion => (h.counted version hversion).trans hspares.total, fun payload hmem => ?_⟩
  rcases hspares.payload payload hmem with hold | hnew
  · obtain ⟨hle, hversions⟩ := h.payload payload hold
    exact ⟨hle.trans hspares.total, hversions⟩
  · refine ⟨hnew.le, fun version hversion => ?_⟩
    show version.1.events ≤ payload.events
    rw [hnew]
    exact (h.counted version hversion).trans hspares.total

/-- The step that puts a snapshot into the file. -/
theorem Inv.replace (h : w.Inv) {payload : CoverageFile} (hpayload : w.sensor.phase = .written payload)
    {mtime : Rat} (hlater : w.gate.Later (.replace payload mtime)) :
    Inv ⟨{ w.sensor with disk := some payload, phase := .replaced payload },
      w.gate.step (.replace payload mtime)⟩ := by
  have hmem : payload ∈ w.sensor.phase.payload := by
    rw [hpayload]
    rfl
  obtain ⟨hle, hversions⟩ := h.payload payload hmem
  have hall : ∀ version ∈ w.gate.versions ++ [(payload, mtime)],
      version.1.events ≤ payload.events := by
    intro version hversion
    rcases List.mem_append.mp hversion with hold | hnew
    · exact hversions version hold
    · rw [List.mem_singleton.mp hnew]
  refine ⟨h.gate.step hlater, ?_, ?_, fun version hversion => (hall version hversion).trans hle,
    fun other hother => ?_⟩
  · show (w.gate.versions ++ [(payload, mtime)]).getLast?.map (·.1) = some payload
    rw [List.getLast?_concat]
    rfl
  · refine List.pairwise_append.mpr ⟨h.rising, List.pairwise_singleton _ _, ?_⟩
    intro version hversion new hnew
    rw [List.mem_singleton.mp hnew]
    exact hversions version hversion
  · cases hother
    exact ⟨hle, hall⟩

/-- A step of the agent's. -/
theorem Inv.agent (h : w.Inv) {y : MtimeGateStep CoverageFile}
    (hversions : (w.gate.step y).versions = w.gate.versions) (hlater : w.gate.Later y) :
    Inv { w with gate := w.gate.step y } := by
  have hdisk : (w.gate.step y).file = w.gate.file := by
    unfold MtimeGate.file
    rw [hversions]
  refine ⟨h.gate.step hlater, ?_, ?_, ?_, ?_⟩
  · show (w.gate.step y).file.map (·.1) = w.sensor.disk
    rw [hdisk]
    exact h.disk
  · show (w.gate.step y).versions.Pairwise _
    rw [hversions]
    exact h.rising
  · show ∀ version ∈ (w.gate.step y).versions, _
    rw [hversions]
    exact h.counted
  · intro payload hpayload
    show _ ∧ ∀ version ∈ (w.gate.step y).versions, _
    rw [hversions]
    exact h.payload payload hpayload

/-- A step of the sensor puts the snapshot it has written into the file, or leaves the file alone. -/
theorem sensor_step_cases (s : CoverageState) (x : CoverageStep) :
    (∃ payload, s.phase = .written payload ∧ replaces s x = some payload ∧
      s.step x = { s with disk := some payload, phase := .replaced payload }) ∨
    (replaces s x = none ∧ Spares s (s.step x)) := by
  obtain ⟨counter, disk, phase⟩ := s
  cases x with
  | record now event => exact .inr ⟨rfl, rfl, total_le_record counter now event, fun _ hmem => .inl hmem⟩
  | flush force =>
    refine .inr ⟨rfl, ?_⟩
    unfold CoverageState.step
    simp only
    split
    next =>
      split
      next => exact ⟨rfl, le_rfl, fun _ hmem => (by cases hmem)⟩
      next => exact .refl _
    next => exact .refl _
  | next ok now =>
    -- by how far the flush has come
    cases phase with
    | idle => exact .inr ⟨by cases ok <;> rfl, .refl _⟩
    | opened =>
      cases ok with
      | true =>
        refine .inr ⟨rfl, rfl, le_rfl, fun payload hmem => .inr ?_⟩
        cases hmem
        rfl
      | false => exact .inr ⟨rfl, rfl, le_rfl, fun _ hmem => (by cases hmem)⟩
    | taken payload =>
      cases ok with
      | true => exact .inr ⟨rfl, rfl, le_rfl, fun _ hmem => .inl hmem⟩
      | false => exact .inr ⟨rfl, rfl, le_rfl, fun _ hmem => (by cases hmem)⟩
    | written payload =>
      cases ok with
      | true => exact .inl ⟨payload, rfl, rfl, rfl⟩
      | false => exact .inr ⟨rfl, rfl, le_rfl, fun _ hmem => (by cases hmem)⟩
    | replaced payload =>
      exact .inr ⟨by cases ok <;> rfl, rfl, le_rfl, fun _ hmem => (by cases hmem)⟩

/-- A step of the sensor. -/
theorem Inv.sensor (h : w.Inv) {x : CoverageStep} {mtime : Rat}
    (hlater : w.Later (.sensor x mtime)) : (w.step (.sensor x mtime)).Inv := by
  rcases sensor_step_cases w.sensor x with ⟨payload, hphase, hreplaces, hstep⟩ | ⟨hnone, hspares⟩
  · have hmove : w.gateStep (.sensor x mtime) = some (.replace payload mtime) := by
      simp only [gateStep, hreplaces, Option.map_some]
    have hnext : w.step (.sensor x mtime)
        = ⟨{ w.sensor with disk := some payload, phase := .replaced payload },
          w.gate.step (.replace payload mtime)⟩ := by
      simp only [CoverageHandoff.step, hmove, hstep]
    rw [hnext]
    exact h.replace hphase (hlater _ hmove)
  · have hnext : w.step (.sensor x mtime) = { w with sensor := w.sensor.step x } := by
      simp only [CoverageHandoff.step, gateStep, hnone, Option.map_none]
    rw [hnext]
    exact h.keep hspares

/-- The step lemma. -/
theorem Inv.step (h : w.Inv) {x : CoverageHandoffStep} (hlater : w.Later x) : (w.step x).Inv := by
  cases x with
  | sensor y mtime => exact h.sensor hlater
  | look => exact h.agent MtimeGate.look_versions trivial
  | send confirmed arrives => exact h.agent (MtimeGate.send_versions confirmed arrives) trivial
  | fail => exact h.agent rfl trivial
  | restartAgent => exact h.agent rfl trivial

/-- The totals of the messages are in the order of the messages. -/
theorem Inv.messages_rising (h : w.Inv) :
    (w.messages.map (·.events)).Pairwise (· ≤ ·) := by
  unfold messages
  rw [List.map_map, List.pairwise_map]
  refine (List.Pairwise.and_mem.mp h.gate.sorted).imp ?_
  rintro a b ⟨ha, hb, hle⟩
  obtain ⟨ta, hta⟩ := h.gate.genuine a ha
  obtain ⟨tb, htb⟩ := h.gate.genuine b hb
  show a.2.events ≤ b.2.events
  rcases Nat.lt_or_eq_of_le hle with hlt | heq
  · obtain ⟨halt, hat⟩ := List.getElem?_eq_some_iff.mp hta
    obtain ⟨hblt, hbt⟩ := List.getElem?_eq_some_iff.mp htb
    have hrise := List.pairwise_iff_getElem.mp h.rising a.1 b.1 halt hblt hlt
    rw [hat, hbt] at hrise
    exact hrise
  · rw [heq, htb] at hta
    have hsame : b.2 = a.2 := (Prod.mk.inj (Option.some.inj hta)).1
    rw [hsame]

/-- **Coverage gets through, in order.** In every interleaving of capture, flush and agent:
while the agent finds nothing to publish, the last message is what is in the file; the totals
of the messages never go down; and an attempt that is confirmed, with nothing in between,
leaves nothing to publish. -/
theorem coverage_handoff (counter : CoverageCounter) (steps : List CoverageHandoffStep)
    (hlater : Along step Later (new counter) steps) {w : CoverageHandoff}
    (hw : steps.foldl step (new counter) = w) :
    (w.gate.Closed → ∀ file, w.sensor.disk = some file → w.messages.getLast? = some file)
      ∧ (w.messages.map (·.events)).Pairwise (· ≤ ·)
      ∧ (w.gate.seen = none → ∀ arrives,
          ((w.step .look).step (.send true arrives)).gate.Closed) := by
  have hinv : w.Inv := hw ▸ hlater.inv (Inv.new counter) fun _ _ h hx => h.step hx
  refine ⟨fun hclosed file hfile => ?_, hinv.messages_rising, fun hseen arrives => ?_⟩
  · have hdisk := hinv.disk
    rw [hfile, Option.map_eq_some_iff] at hdisk
    obtain ⟨version, hversion, rfl⟩ := hdisk
    unfold messages
    rw [List.getLast?_map, hinv.gate.sent_current hclosed hversion]
    rfl
  · exact MtimeGate.closed_of_attempt hseen arrives

/-- The file is replaced while an attempt is between its look and its reading. -/
def crossedRun : List CoverageHandoffStep :=
  let count (now : String) : CoverageHandoffStep :=
    .sensor (.record now ⟨"OT-001", now, "high", "new_mac", ""⟩) 0
  let write (mtime : Rat) : List CoverageHandoffStep := [
    .sensor (.flush false) 0, .sensor (.next true "t") 0, .sensor (.next true "t") 0,
    .sensor (.next true "t") mtime, .sensor (.next true "t") 0]
  [count "12:00"] ++ write 10 ++ [.look, count "12:01"] ++ write 20 ++ [.send true true]

theorem coverage_handoff_crossedRun :
    ((crossedRun.foldl step (new {})).gate.Closed → ∀ file,
        (crossedRun.foldl step (new {})).sensor.disk = some file →
        (crossedRun.foldl step (new {})).messages.getLast? = some file)
      ∧ ((crossedRun.foldl step (new {})).messages.map (·.events)).Pairwise (· ≤ ·)
      ∧ ((crossedRun.foldl step (new {})).gate.seen = none → ∀ arrives,
          (((crossedRun.foldl step (new {})).step .look).step (.send true arrives)).gate.Closed) :=
  coverage_handoff {} crossedRun (by decide +kernel) rfl

/-- Uninterrupted, the two halves of an attempt are `_maybe_publish_coverage`. -/
theorem attempt_maybePublishCoverage (w : CoverageHandoff) (hseen : w.gate.seen = none)
    (published : Bool) :
    ((w.step .look).step (.send published false)).gate.last
        = (Agent.maybePublishCoverage w.gate.file w.gate.last published).1
      ∧ ((w.step .look).step (.send published false)).messages
        = w.messages ++ (Agent.maybePublishCoverage w.gate.file w.gate.last published).2.toList := by
  have hgate : ((w.step .look).step (.send published false)).gate = w.gate.look.send published false :=
    rfl
  unfold messages Agent.maybePublishCoverage
  rw [hgate]
  unfold MtimeGate.look
  cases hfile : w.gate.file with
  | none =>
    unfold MtimeGate.send
    simp only [hseen, List.append_nil, Option.toList_none, and_self]
  | some version =>
    simp only [hseen]
    by_cases hle : version.2 ≤ w.gate.last
    · simp only [if_pos hle]
      unfold MtimeGate.send
      simp only [hseen, Option.toList_none, List.append_nil, and_self]
    · simp only [if_neg hle]
      have hseen' : MtimeGate.file { w.gate with seen := some version.2 } = some version := hfile
      unfold MtimeGate.send
      simp only [hseen']
      cases published with
      | true => simp
      | false => simp

end CoverageHandoff

end EdgeSensor.System
