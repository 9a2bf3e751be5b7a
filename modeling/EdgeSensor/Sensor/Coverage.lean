import EdgeSensor.Lib.Run
import EdgeSensor.Sensor.Events
import EdgeSensor.Sensor.MitreMap
import Mathlib.Data.String.Basic

/-!
# The coverage counter, and the thread that writes it down

`src/coverage/counter.py`. The capture thread tallies events and sets the dirty flag
(`record`); the main thread writes a snapshot and clears the flag (`flush`). There is no
lock between them, so a flush is taken apart here into the steps another thread can come
between: open, take the snapshot, write the temporary file, replace the file, clear the flag.

The flag is true of what the file lacks as long as no event is counted between the snapshot
of a flush and its last step. An event in that gap is not in the file, and the flag that
would say so is cleared (`clean_reflects`).

Mirroring notes:
- An event is what `record` reads of it, each field as `str(... or "")` leaves it.
- A step that fails ends the flush with the flag as it was; the temporary file is removed
  and is not part of the state.
-/

namespace EdgeSensor.Sensor

open EdgeSensor.Lib EdgeSensor.Py

/-- What `record` reads of an event. -/
structure CoverageEvent where
  ruleId : String
  timestamp : String
  severity : String
  eventType : String
  description : String
  deriving DecidableEq

/-- A security event as the counter sees it. -/
def SecurityEvent.toCoverage (event : SecurityEvent) : CoverageEvent where
  ruleId := event.ruleId.name
  timestamp := event.timestamp
  severity := event.severity
  eventType := event.eventType
  description := event.description

/-- An entry of `_rules`. -/
structure RuleTally where
  count : Nat
  severity : String
  firstSeen : String
  lastSeen : String
  deriving DecidableEq

/-- An entry of `_techniques`. -/
structure TechniqueTally where
  count : Nat
  name : String
  tactic : String
  rules : List String
  firstSeen : String
  lastSeen : String
  deriving DecidableEq

/-- `CoverageCounter`. -/
structure CoverageCounter where
  sensorId : String := ""
  siteId : String := ""
  enabled : Bool := true
  since : String := ""
  total : Nat := 0
  rules : Dict String RuleTally := []
  techniques : Dict String TechniqueTally := []
  dirty : Bool := false

/-- `coverage-counters.json`. -/
structure CoverageFile where
  schema : String
  sensorId : String
  siteId : String
  since : String
  generatedAt : String
  events : Nat
  rulesHit : Nat
  techniquesHit : Nat
  rules : Dict String RuleTally
  techniques : Dict String TechniqueTally

namespace CoverageCounter

/-- One more event of a rule. -/
def countRule (now : String) (event : CoverageEvent) (rules : Dict String RuleTally) :
    Dict String RuleTally :=
  match rules.get? event.ruleId with
  | none => rules.set event.ruleId ⟨1, event.severity, now, now⟩
  | some rule =>
    rules.set event.ruleId { rule with
      count := rule.count + 1
      lastSeen := now
      -- `event.severity or rule.severity`
      severity := if event.severity ≠ "" then event.severity else rule.severity }

/-- One more event of a technique. -/
def countTechnique (now ruleId : String) (techniques : Dict String TechniqueTally)
    (tech : Technique) : Dict String TechniqueTally :=
  if tech.id = "" then techniques
  else
    match techniques.get? tech.id with
    | none => techniques.set tech.id ⟨1, tech.technique, tech.tactic, [ruleId], now, now⟩
    | some entry =>
      techniques.set tech.id { entry with
        count := entry.count + 1
        lastSeen := now
        rules := if ruleId ∈ entry.rules then entry.rules else entry.rules ++ [ruleId] }

/-- `record` counts the event. -/
def Counts (c : CoverageCounter) (event : CoverageEvent) : Prop :=
  c.enabled = true ∧ event.ruleId ≠ ""

instance (c : CoverageCounter) (event : CoverageEvent) : Decidable (c.Counts event) :=
  inferInstanceAs (Decidable (_ ∧ _))

/-- A security event has a rule, so it counts. -/
theorem counts_toCoverage {c : CoverageCounter} (h : c.enabled = true) (event : SecurityEvent) :
    c.Counts event.toCoverage := by
  refine ⟨h, ?_⟩
  show event.ruleId.name ≠ ""
  cases event.ruleId <;> decide

/-- When an event is said to have been seen, at the time `now` of the clock. -/
def seenAt (now : String) (event : CoverageEvent) : String :=
  if event.timestamp ≠ "" then event.timestamp else now

/-- `record`. -/
def record (now : String) (event : CoverageEvent) (c : CoverageCounter) : CoverageCounter :=
  if c.Counts event then
    { c with
      total := c.total + 1
      rules := countRule (seenAt now event) event c.rules
      techniques := (techniquesFor event.ruleId event.eventType event.description).foldl
        (countTechnique (seenAt now event) event.ruleId) c.techniques
      -- set again even while a flush of an older snapshot is under way
      dirty := true }
  else c

/-- `snapshot`. -/
def snapshot (generatedAt : String) (c : CoverageCounter) : CoverageFile where
  schema := "ot-edge.coverage.v1"
  sensorId := c.sensorId
  siteId := c.siteId
  since := c.since
  generatedAt := generatedAt
  events := c.total
  rulesHit := c.rules.length
  techniquesHit := c.techniques.length
  rules := c.rules.mergeSort fun a b => a.1 ≤ b.1
  techniques := c.techniques.mergeSort fun a b => a.1 ≤ b.1

end CoverageCounter

/-- How far a flush has come, with the snapshot it carries. -/
inductive FlushPhase where
  | idle
  | opened
  | taken (payload : CoverageFile)
  | written (payload : CoverageFile)
  | replaced (payload : CoverageFile)

/-- The snapshot of a flush that has taken one. -/
def FlushPhase.payload : FlushPhase → Option CoverageFile
  | .taken payload | .written payload | .replaced payload => some payload
  | .idle | .opened => none

/-- The counter, the file, and the flush in progress. -/
structure CoverageState where
  counter : CoverageCounter
  disk : Option CoverageFile
  phase : FlushPhase := .idle

/-- A step of one of the two threads. -/
inductive CoverageStep where
  /-- The capture thread records an event. -/
  | record (now : String) (event : CoverageEvent)
  /-- The main thread calls `flush`; it is busy while one is in progress. -/
  | flush (force : Bool)
  /-- The flush in progress does its next step, which may fail. -/
  | next (ok : Bool) (now : String)

namespace CoverageState

/-- What the flush does next. Clearing the flag is the one step that cannot fail. -/
def advance (ok : Bool) (now : String) (s : CoverageState) : CoverageState :=
  match s.phase with
  | .idle => s
  | .opened => { s with phase := if ok then .taken (s.counter.snapshot now) else .idle }
  | .taken payload => { s with phase := if ok then .written payload else .idle }
  | .written payload =>
    if ok then { s with disk := some payload, phase := .replaced payload }
    else { s with phase := .idle }
  -- unconditional: whatever was recorded since the snapshot
  | .replaced _ => { s with counter := { s.counter with dirty := false }, phase := .idle }

/-- One step. -/
def step (s : CoverageState) : CoverageStep → CoverageState
  | .record now event => { s with counter := s.counter.record now event }
  | .flush force =>
    match s.phase with
    -- `No-op when clean`, unless forced
    | .idle =>
      if s.counter.enabled && (force || s.counter.dirty) then { s with phase := .opened } else s
    | _ => s
  | .next ok now => s.advance ok now

end CoverageState

/-! ## The tally and its snapshot -/

/-- A file has the totals, the rule counts and the technique counts of the tally. -/
structure SameCounts (file : CoverageFile) (c : CoverageCounter) : Prop where
  events : file.events = c.total
  rulesHit : file.rulesHit = c.rules.length
  techniquesHit : file.techniquesHit = c.techniques.length
  rules : ∀ id, (file.rules.get? id).map (·.count) = (c.rules.get? id).map (·.count)
  techniques : ∀ id, (file.techniques.get? id).map (·.count) = (c.techniques.get? id).map (·.count)

/-- The file on disk says what the tally says; no file stands for an empty tally. -/
def Reflects (disk : Option CoverageFile) (c : CoverageCounter) : Prop :=
  match disk with
  | none => c.total = 0 ∧ c.rules = [] ∧ c.techniques = []
  | some file => SameCounts file c

/-- Only the tally itself is compared. -/
theorem Reflects.congr {disk : Option CoverageFile} {c c' : CoverageCounter} (h : Reflects disk c)
    (htotal : c'.total = c.total) (hrules : c'.rules = c.rules)
    (htechniques : c'.techniques = c.techniques) : Reflects disk c' := by
  unfold Reflects at h ⊢
  cases disk with
  | none =>
    rw [htotal, hrules, htechniques]
    exact h
  | some file =>
    obtain ⟨hevents, hrulesHit, htechniquesHit, hrule, htechnique⟩ := h
    rw [← htotal] at hevents
    rw [← hrules] at hrulesHit hrule
    rw [← htechniques] at htechniquesHit htechnique
    exact ⟨hevents, hrulesHit, htechniquesHit, hrule, htechnique⟩

namespace CoverageCounter

variable {c : CoverageCounter} {now : String} {event : CoverageEvent}

/-- Each rule and each technique is tallied once. -/
structure Ok (c : CoverageCounter) : Prop where
  rules : (c.rules.map (·.1)).Nodup
  techniques : (c.techniques.map (·.1)).Nodup

theorem nodup_countRule {rules : Dict String RuleTally} (h : (rules.map (·.1)).Nodup) :
    ((countRule now event rules).map (·.1)).Nodup := by
  unfold countRule
  split
  · exact Dict.nodup_set h _ _
  · exact Dict.nodup_set h _ _

theorem nodup_countTechnique {techniques : Dict String TechniqueTally} {ruleId : String}
    {tech : Technique} (h : (techniques.map (·.1)).Nodup) :
    ((countTechnique now ruleId techniques tech).map (·.1)).Nodup := by
  unfold countTechnique
  split
  · exact h
  · split
    · exact Dict.nodup_set h _ _
    · exact Dict.nodup_set h _ _

theorem nodup_countTechniques {ruleId : String} (techs : List Technique)
    {techniques : Dict String TechniqueTally} (h : (techniques.map (·.1)).Nodup) :
    ((techs.foldl (countTechnique now ruleId) techniques).map (·.1)).Nodup := by
  induction techs generalizing techniques with
  | nil => exact h
  | cons tech techs ih => exact ih (nodup_countTechnique h)

theorem record_of_not_counts (h : ¬ c.Counts event) : c.record now event = c := if_neg h

theorem record_total (h : c.Counts event) : (c.record now event).total = c.total + 1 := by
  unfold record
  rw [if_pos h]

theorem record_dirty (h : c.Counts event) : (c.record now event).dirty = true := by
  unfold record
  rw [if_pos h]

theorem record_rules (h : c.Counts event) :
    (c.record now event).rules = countRule (seenAt now event) event c.rules := by
  unfold record
  rw [if_pos h]

theorem record_techniques (h : c.Counts event) :
    (c.record now event).techniques
      = (techniquesFor event.ruleId event.eventType event.description).foldl
        (countTechnique (seenAt now event) event.ruleId) c.techniques := by
  unfold record
  rw [if_pos h]

theorem Ok.record (h : c.Ok) : (c.record now event).Ok := by
  by_cases hcounts : c.Counts event
  · constructor
    · rw [record_rules hcounts]
      exact nodup_countRule h.rules
    · rw [record_techniques hcounts]
      exact nodup_countTechniques _ h.techniques
  · rw [record_of_not_counts hcounts]
    exact h

/-- Sorting a tally changes no lookup. -/
theorem get?_sorted {ν : Type} {d : Dict String ν} (h : (d.map (·.1)).Nodup) (id : String) :
    Dict.get? (d.mergeSort fun a b => a.1 ≤ b.1) id = d.get? id :=
  (Dict.get?_perm (List.mergeSort_perm _ _).symm h id).symm

theorem Ok.sameCounts_snapshot (h : c.Ok) : SameCounts (c.snapshot now) c := by
  refine ⟨rfl, rfl, rfl, fun id => ?_, fun id => ?_⟩
  · show (Dict.get? (c.rules.mergeSort _) id).map _ = _
    rw [get?_sorted h.rules]
  · show (Dict.get? (c.techniques.mergeSort _) id).map _ = _
    rw [get?_sorted h.techniques]

end CoverageCounter

/-! ## What a flush can miss -/

namespace CoverageState

/-- An event is counted while a flush carries a snapshot without it. -/
def Slips (s : CoverageState) (x : CoverageStep) : Prop :=
  s.phase.payload.isSome ∧ ∃ now event, x = .record now event ∧ s.counter.Counts event

/-- The step that ends a flush which has replaced the file. -/
def Clears (s : CoverageState) (x : CoverageStep) : Prop :=
  (∃ payload, s.phase = .replaced payload) ∧ ∃ ok now, x = .next ok now

/-- An event was counted since the flush in progress took its snapshot. -/
def Overtaken (start : CoverageState) (steps : List CoverageStep) (i : Nat) : Prop :=
  ∃ k < i, At step start steps Slips k
    ∧ ∀ m, k < m → m ≤ i → (stateAt step start steps m).phase.payload.isSome

/-- What is known of a flush in progress, `overtaken` or not: its snapshot is behind the
tally if it was overtaken, and equal to it if not, and then the flag is set. -/
structure Inv (overtaken : Prop) (s : CoverageState) : Prop where
  ok : s.counter.Ok
  carried : overtaken → s.phase.payload.isSome
  dirty : overtaken → s.counter.dirty = true
  bound : ∀ payload, s.phase.payload = some payload → payload.events ≤ s.counter.total
  late : ∀ payload, s.phase.payload = some payload → overtaken → payload.events < s.counter.total
  same : ∀ payload, s.phase.payload = some payload → ¬ overtaken → SameCounts payload s.counter
  replaced : ∀ payload, s.phase = .replaced payload → s.disk = some payload

variable {s s' : CoverageState} {overtaken overtaken' : Prop}

/-- Without a snapshot there is nothing to say. -/
theorem Inv.of_none (hok : s.counter.Ok) (hnone : s.phase.payload = none) (ho : ¬ overtaken) :
    Inv overtaken s := by
  have hno : ∀ payload, s.phase.payload ≠ some payload := by
    intro payload h
    rw [hnone] at h
    cases h
  refine ⟨hok, fun h => absurd h ho, fun h => absurd h ho, fun payload h => absurd h (hno _),
    fun payload h => absurd h (hno _), fun payload h => absurd h (hno _), fun payload h => ?_⟩
  rw [h] at hnone
  cases hnone

/-- A step that keeps the tally and the snapshot. -/
theorem Inv.keep (h : Inv overtaken s) (hcounter : s'.counter = s.counter)
    (hpayload : s'.phase.payload = s.phase.payload)
    (hreplaced : ∀ payload, s'.phase = .replaced payload → s'.disk = some payload) :
    Inv overtaken s' := by
  refine ⟨?_, ?_, ?_, ?_, ?_, ?_, hreplaced⟩
  · rw [hcounter]
    exact h.ok
  · rw [hpayload]
    exact h.carried
  · rw [hcounter]
    exact h.dirty
  · rw [hpayload, hcounter]
    exact h.bound
  · rw [hpayload, hcounter]
    exact h.late
  · rw [hpayload, hcounter]
    exact h.same

/-- An event that counts comes: whatever snapshot there is, it is overtaken now. -/
theorem Inv.counted (h : Inv overtaken s) {now : String} {event : CoverageEvent}
    (hcounts : s.counter.Counts event) (ho : overtaken' ↔ s.phase.payload.isSome) :
    Inv overtaken' { s with counter := s.counter.record now event } := by
  have htotal : (s.counter.record now event).total = s.counter.total + 1 :=
    CoverageCounter.record_total hcounts
  refine ⟨h.ok.record, ho.mp, fun _ => CoverageCounter.record_dirty hcounts, ?_, ?_, ?_, h.replaced⟩
  · intro payload hp
    have hbound := h.bound payload hp
    show payload.events ≤ (s.counter.record now event).total
    omega
  · intro payload hp _
    have hbound := h.bound payload hp
    show payload.events < (s.counter.record now event).total
    omega
  · intro payload hp hno
    refine absurd (ho.mpr ?_) hno
    rw [show s.phase.payload = some payload from hp]
    rfl

/-- Nothing slips in, and the flush is still in progress or was never overtaken. -/
theorem Inv.of_not_slips (h : Inv overtaken s) {slips : Prop} (hslips : ¬ slips) :
    Inv (s.phase.payload.isSome ∧ (overtaken ∨ slips)) s := by
  have ho : (s.phase.payload.isSome ∧ (overtaken ∨ slips)) ↔ overtaken := by
    constructor
    · rintro ⟨_, ho | hx⟩
      · exact ho
      · exact absurd hx hslips
    · intro ho
      exact ⟨h.carried ho, .inl ho⟩
  rw [ho]
  exact h

/-- A step after which no snapshot is carried. -/
theorem Inv.of_ended (s' : CoverageState) (hok : s'.counter.Ok)
    (hnone : s'.phase.payload = none) {p : Prop} :
    Inv (s'.phase.payload.isSome ∧ p) s' := by
  refine .of_none hok hnone ?_
  rintro ⟨hsome, _⟩
  rw [hnone] at hsome
  cases hsome

theorem Inv.record (h : Inv overtaken s) (now : String) (event : CoverageEvent) :
    Inv ((s.step (.record now event)).phase.payload.isSome
        ∧ (overtaken ∨ Slips s (.record now event)))
      (s.step (.record now event)) := by
  -- an event that does not count changes nothing, so it overtakes nothing
  by_cases hcounts : s.counter.Counts event
  · exact h.counted hcounts ⟨fun ho => ho.1, fun hp => ⟨hp, .inr ⟨hp, now, event, rfl, hcounts⟩⟩⟩
  · have hsame : s.step (.record now event) = s := by
      show { s with counter := s.counter.record now event } = s
      rw [CoverageCounter.record_of_not_counts hcounts]
    rw [hsame]
    refine h.of_not_slips ?_
    rintro ⟨_, now', event', heq, hcounts'⟩
    cases heq
    exact hcounts hcounts'

theorem not_slips_flush (force : Bool) : ¬ Slips s (.flush force) := by
  rintro ⟨_, now, event, heq, _⟩
  cases heq

theorem not_slips_next (ok : Bool) (now : String) : ¬ Slips s (.next ok now) := by
  rintro ⟨_, now, event, heq, _⟩
  cases heq

theorem Inv.flush (h : Inv overtaken s) (force : Bool) :
    Inv ((s.step (.flush force)).phase.payload.isSome ∧ (overtaken ∨ Slips s (.flush force)))
      (s.step (.flush force)) := by
  obtain ⟨counter, disk, phase⟩ := s
  have hok : counter.Ok := h.ok
  cases phase with
  | idle =>
    simp only [CoverageState.step]
    split
    · exact Inv.of_ended ⟨counter, disk, .opened⟩ hok rfl
    · exact Inv.of_ended ⟨counter, disk, .idle⟩ hok rfl
  | opened => exact h.of_not_slips (not_slips_flush force)
  | taken payload => exact h.of_not_slips (not_slips_flush force)
  | written payload => exact h.of_not_slips (not_slips_flush force)
  | replaced payload => exact h.of_not_slips (not_slips_flush force)

theorem Inv.next (h : Inv overtaken s) (ok : Bool) (now : String) :
    Inv ((s.step (.next ok now)).phase.payload.isSome ∧ (overtaken ∨ Slips s (.next ok now)))
      (s.step (.next ok now)) := by
  have hslips : ¬ Slips s (.next ok now) := not_slips_next ok now
  obtain ⟨counter, disk, phase⟩ := s
  have hok : counter.Ok := h.ok
  cases phase with
  | idle => exact h.of_not_slips hslips
  | opened =>
    cases ok with
    | false => exact Inv.of_ended ⟨counter, disk, .idle⟩ hok rfl
    | true =>
      -- the snapshot is the tally of this moment
      have hno : ¬ overtaken := fun ho => Bool.false_ne_true (h.carried ho)
      suffices Inv overtaken ⟨counter, disk, .taken (counter.snapshot now)⟩ from
        this.of_not_slips hslips
      refine ⟨hok, fun ho => absurd ho hno, h.dirty, ?_, fun _ _ ho => absurd ho hno, ?_, ?_⟩
      · intro payload hp
        cases hp
        exact Nat.le_refl _
      · intro payload hp _
        cases hp
        exact hok.sameCounts_snapshot
      · intro payload hp
        cases hp
  | taken payload =>
    cases ok with
    | false => exact Inv.of_ended ⟨counter, disk, .idle⟩ hok rfl
    | true =>
      have hkept : Inv overtaken ⟨counter, disk, .written payload⟩ := by
        refine h.keep rfl rfl ?_
        intro payload' hp
        cases hp
      exact hkept.of_not_slips hslips
  | written payload =>
    cases ok with
    | false => exact Inv.of_ended ⟨counter, disk, .idle⟩ hok rfl
    | true =>
      have hkept : Inv overtaken ⟨counter, some payload, .replaced payload⟩ := by
        refine h.keep rfl rfl ?_
        intro payload' hp
        cases hp
        rfl
      exact hkept.of_not_slips hslips
  | replaced payload =>
    exact Inv.of_ended ⟨{ counter with dirty := false }, disk, .idle⟩
      ⟨hok.rules, hok.techniques⟩ rfl

theorem Inv.step (h : Inv overtaken s) (x : CoverageStep) :
    Inv ((s.step x).phase.payload.isSome ∧ (overtaken ∨ Slips s x)) (s.step x) := by
  cases x with
  | record now event => exact h.record now event
  | flush force => exact h.flush force
  | next ok now => exact h.next ok now

/-! ## The file and the flag -/

/-- A sensor that has recorded nothing yet, and the file it finds. -/
def boot (sensorId siteId since : String) (enabled : Bool) (disk : Option CoverageFile) :
    CoverageState :=
  ⟨{ sensorId := sensorId, siteId := siteId, enabled := enabled, since := since }, disk, .idle⟩

/-- While a flush is overtaken it stays so, until it ends. -/
theorem overtaken_succ {start : CoverageState} {steps : List CoverageStep} {i : Nat} :
    Overtaken start steps (i + 1)
      ↔ (stateAt step start steps (i + 1)).phase.payload.isSome
        ∧ (Overtaken start steps i ∨ At step start steps Slips i) := by
  constructor
  · rintro ⟨k, hk, hslips, hcarried⟩
    refine ⟨hcarried (i + 1) (by omega) (by omega), ?_⟩
    by_cases hlast : k = i
    · exact .inr (hlast ▸ hslips)
    · exact .inl ⟨k, by omega, hslips, fun m hkm hm => hcarried m hkm (by omega)⟩
  · rintro ⟨hnow, ⟨k, hk, hslips, hcarried⟩ | hslips⟩
    · refine ⟨k, by omega, hslips, fun m hkm hm => ?_⟩
      by_cases hlast : m = i + 1
      · exact hlast ▸ hnow
      · exact hcarried m hkm (by omega)
    · refine ⟨i, by omega, hslips, fun m him hm => ?_⟩
      obtain rfl : m = i + 1 := by omega
      exact hnow

/-- At every moment of a run the flush in progress is behind if and only if overtaken. -/
theorem inv_at (sensorId siteId since : String) (enabled : Bool) (disk : Option CoverageFile)
    (steps : List CoverageStep) (i : Nat) :
    Inv (Overtaken (boot sensorId siteId since enabled disk) steps i)
      (stateAt step (boot sensorId siteId since enabled disk) steps i) := by
  induction i with
  | zero =>
    refine .of_none ⟨List.nodup_nil, List.nodup_nil⟩ rfl ?_
    rintro ⟨k, hk, _⟩
    omega
  | succ i ih =>
    rw [overtaken_succ]
    cases hx : steps[i]? with
    | none =>
      rw [stateAt_succ_of_none hx]
      exact ih.of_not_slips (not_at_none hx)
    | some x =>
      rw [stateAt_succ hx, at_some hx]
      exact ih.step x

/-- With the flag clear, what is written is what is tallied. -/
def Clean (s : CoverageState) : Prop := s.counter.dirty = false → Reflects s.disk s.counter

/-- A step keeps the file and the flag honest, unless it ends a flush that was overtaken. -/
theorem Clean.step (h : Clean s) (hinv : Inv overtaken s) {x : CoverageStep}
    (hx : ¬ (Clears s x ∧ overtaken)) : Clean (s.step x) := by
  cases x with
  | record now event =>
    by_cases hcounts : s.counter.Counts event
    · intro hdirty
      have hset : (s.counter.record now event).dirty = true := CoverageCounter.record_dirty hcounts
      rw [show (s.counter.record now event).dirty = false from hdirty] at hset
      cases hset
    · show Clean { s with counter := s.counter.record now event }
      rw [CoverageCounter.record_of_not_counts hcounts]
      exact h
  | flush force =>
    obtain ⟨counter, disk, phase⟩ := s
    cases phase with
    | idle =>
      simp only [CoverageState.step]
      split
      · exact h
      · exact h
    | opened => exact h
    | taken payload => exact h
    | written payload => exact h
    | replaced payload => exact h
  | next ok now =>
    obtain ⟨counter, disk, phase⟩ := s
    cases phase with
    | idle => exact h
    | opened => exact h
    | taken payload => exact h
    | written payload =>
      cases ok with
      | false => exact h
      | true =>
        -- the flag is clear, so nothing was counted since the snapshot
        intro hdirty
        refine hinv.same payload rfl fun ho => ?_
        have hset : counter.dirty = true := hinv.dirty ho
        rw [show counter.dirty = false from hdirty] at hset
        cases hset
    | replaced payload =>
      intro _
      have hno : ¬ overtaken := fun ho => hx ⟨⟨⟨payload, rfl⟩, ok, now, rfl⟩, ho⟩
      have hsame : Reflects (some payload) counter := hinv.same payload rfl hno
      show Reflects disk { counter with dirty := false }
      rw [show disk = some payload from hinv.replaced payload rfl]
      exact hsame.congr rfl rfl rfl

/-- Whenever no flush is in progress and the flag is clear, the file on disk says what the
tally says: this holds throughout a run exactly when the file found at the start does, and
no flush that was overtaken comes to its end. -/
theorem clean_reflects (sensorId siteId since : String) (enabled : Bool)
    (disk : Option CoverageFile) (steps : List CoverageStep) :
    (∀ i, let s := stateAt step (boot sensorId siteId since enabled disk) steps i
      s.phase = .idle → s.counter.dirty = false → Reflects s.disk s.counter)
    ↔ Reflects disk {}
      ∧ ∀ i, ¬ (At step (boot sensorId siteId since enabled disk) steps Clears i
        ∧ Overtaken (boot sensorId siteId since enabled disk) steps i) := by
  constructor
  · intro hall
    -- at an overtaken end the flag is clear, and the file is behind the tally
    refine ⟨(hall 0 rfl rfl).congr rfl rfl rfl, ?_⟩
    rintro i ⟨⟨x, hx, ⟨payload, hphase⟩, ok, now, rfl⟩, ho⟩
    have hinv := inv_at sensorId siteId since enabled disk steps i
    have hafter := hall (i + 1)
    rw [stateAt_succ hx] at hafter
    generalize stateAt step (boot sensorId siteId since enabled disk) steps i = s at *
    obtain ⟨counter, disk', phase⟩ := s
    cases hphase
    have hlate := hinv.late payload rfl ho
    have hreflects := hafter rfl rfl
    rw [show disk' = some payload from hinv.replaced payload rfl] at hreflects
    have hevents : payload.events = counter.total := hreflects.events
    have hlate : payload.events < counter.total := hlate
    omega
  · rintro ⟨hstart, hnever⟩
    have hboot : Clean (boot sensorId siteId since enabled disk) :=
      fun _ => hstart.congr rfl rfl rfl
    have hclean : ∀ i, Clean (stateAt step (boot sensorId siteId since enabled disk) steps i) := by
      -- along the run, with what is known of the flush in progress at each step
      refine stateAt_inv hboot fun k x hx hclean => ?_
      refine hclean.step (inv_at sensorId siteId since enabled disk steps k) ?_
      rintro ⟨hclears, ho⟩
      exact hnever k ⟨(at_some hx).mpr hclears, ho⟩
    exact fun i _ hdirty => hclean i hdirty

/-- An event of a rule. -/
def eventOf (ruleId : String) : CoverageEvent := ⟨ruleId, "t", "high", "", ""⟩

/-- A flush, with a second event after the file is replaced and before the flag is cleared. -/
def lateEvent : List CoverageStep :=
  [.record "t" (eventOf "OT-005"), .flush false, .next true "t", .next true "t", .next true "t",
    .record "t" (eventOf "OT-006"), .next true "t"]

/-- The late event is in the tally and not in the file, and the flag is clear. -/
theorem lateEvent_hidden :
    let s := stateAt step (boot "sensor" "site" "t" true none) lateEvent 7
    s.phase = .idle ∧ s.counter.dirty = false ∧ s.counter.total = 2
      ∧ s.disk.map (·.events) = some 1 ∧ ¬ Reflects s.disk s.counter := by
  refine ⟨rfl, rfl, rfl, rfl, ?_⟩
  intro h
  have hevents : 1 = 2 := h.events
  cases hevents

end CoverageState

end EdgeSensor.Sensor
