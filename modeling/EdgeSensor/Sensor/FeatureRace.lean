import EdgeSensor.Lib.Run
import EdgeSensor.Sensor.Features

/-!
# A packet between the count and the reset

`process` runs on the capture thread and `flush_features` on the main thread, over the same
`L2Stats` and without a lock. The flush is taken apart into the steps a packet can come
between: count the MACs, read `window_total`, publish (a file and MQTT), reset.

What the published summaries and the current window account for falls short of the packets
recorded by exactly those that came after the reading and before the reset (`conserved_iff`).
-/

namespace EdgeSensor.Sensor

open EdgeSensor.Lib EdgeSensor.Parser

/-- How far a flush has come: nothing read, the MACs counted, the packets counted too, the
summary published. -/
inductive WindowPhase where
  | idle
  | rated (uniqueMacs : Nat)
  | counted (summary : FeatureSummary)
  | published
  deriving DecidableEq

/-- The counters, the summaries published so far, and the flush in progress. -/
structure RaceState where
  l2 : L2Stats := {}
  summaries : List FeatureSummary := []
  phase : WindowPhase := .idle
  deriving DecidableEq

/-- A step of one of the two threads. -/
inductive RaceStep where
  /-- The capture thread records a packet. -/
  | record (srcMac : Option String)
  /-- The main thread does the next step of `flush_features`, or begins one. -/
  | flush (args : FeatureArgs)

namespace RaceState

/-- The next step of the flush. -/
def advance (args : FeatureArgs) (s : RaceState) : RaceState :=
  match s.phase with
  | .idle => { s with phase := .rated s.l2.windowMacCounts.length }
  | .rated uniqueMacs =>
    { s with phase := .counted {
        featureSummary args s.l2 {} {} with uniqueMacCount := uniqueMacs } }
  | .counted summary => { s with summaries := s.summaries ++ [summary], phase := .published }
  -- erases whatever was recorded since the count was read
  | .published => { s with l2 := resetL2Window s.l2, phase := .idle }

/-- One step. -/
def step (s : RaceState) : RaceStep → RaceState
  | .record srcMac => { s with l2 := recordL2 srcMac s.l2 }
  | .flush args => s.advance args

/-- Without a packet in between, the four steps are the flush of a pipeline that has seen
neither GOOSE nor MMS. -/
theorem advance_eq_flushFeatures (args : FeatureArgs) (l2 : L2Stats)
    (summaries : List FeatureSummary) :
    let s := advance args (advance args (advance args (advance args ⟨l2, summaries, .idle⟩)))
    let whole := FeatureState.flushFeatures args { l2 := l2 }
    s.phase = .idle ∧ s.l2 = whole.l2
      ∧ s.summaries = summaries ++ whole.published.map (·.summary) :=
  ⟨rfl, rfl, rfl⟩

/-- The sum of `packet_count` over all summaries published so far. -/
def publishedTotal (s : RaceState) : Nat := (s.summaries.map (·.packetCount)).sum

/-- The packets the flush in progress has read the count of and not yet reset. -/
def InGap (s : RaceState) : Prop :=
  match s.phase with
  | .counted _ | .published => True
  | .idle | .rated _ => False

/-- A packet comes in that gap. -/
def Loses (s : RaceState) (x : RaceStep) : Prop := s.InGap ∧ ∃ srcMac, x = .record srcMac

/-- The packets accounted for: by summaries, by a summary that is about to be published, or
by the window. -/
def accounted (s : RaceState) : Nat :=
  match s.phase with
  | .idle | .rated _ => s.publishedTotal + s.l2.windowTotal
  | .counted summary => s.publishedTotal + summary.packetCount
  | .published => s.publishedTotal

theorem publishedTotal_append (l2 : L2Stats) (summaries : List FeatureSummary)
    (summary : FeatureSummary) (phase phase' : WindowPhase) :
    publishedTotal ⟨l2, summaries ++ [summary], phase⟩
      = publishedTotal ⟨l2, summaries, phase'⟩ + summary.packetCount := by
  unfold publishedTotal
  simp

/-- A step of the flush moves no packet out of the account, and counts none. -/
theorem accounted_advance (args : FeatureArgs) (s : RaceState) :
    (s.advance args).accounted = s.accounted ∧ (s.advance args).l2.total = s.l2.total := by
  obtain ⟨l2, summaries, phase⟩ := s
  cases phase with
  | idle => exact ⟨rfl, rfl⟩
  | rated uniqueMacs => exact ⟨rfl, rfl⟩
  | counted summary => exact ⟨publishedTotal_append _ _ _ _ _, rfl⟩
  | published => exact ⟨rfl, rfl⟩

/-- A packet is counted in the total, and accounted for unless it comes in the gap. -/
theorem accounted_record (srcMac : Option String) (s : RaceState) :
    (s.step (.record srcMac)).l2.total = s.l2.total + 1
      ∧ (s.InGap → (s.step (.record srcMac)).accounted = s.accounted)
      ∧ (¬ s.InGap → (s.step (.record srcMac)).accounted = s.accounted + 1) := by
  refine ⟨(recordL2_totals _ _).2, ?_, ?_⟩
  · obtain ⟨l2, summaries, phase⟩ := s
    intro hgap
    cases phase with
    | idle => exact absurd hgap id
    | rated uniqueMacs => exact absurd hgap id
    | counted summary => rfl
    | published => rfl
  · obtain ⟨l2, summaries, phase⟩ := s
    intro hgap
    have hwindow : (recordL2 srcMac l2).windowTotal = l2.windowTotal + 1 :=
      (recordL2_totals _ _).1
    cases phase with
    | idle =>
      show publishedTotal _ + (recordL2 srcMac l2).windowTotal = _
      rw [hwindow]
      rfl
    | rated uniqueMacs =>
      show publishedTotal _ + (recordL2 srcMac l2).windowTotal = _
      rw [hwindow]
      rfl
    | counted summary => exact absurd trivial hgap
    | published => exact absurd trivial hgap

/-- At every moment of a run the account is complete exactly if no packet was lost so far. -/
theorem accounted_at (steps : List RaceStep) (i : Nat) :
    (stateAt step {} steps i).accounted ≤ (stateAt step {} steps i).l2.total
    ∧ ((stateAt step {} steps i).accounted = (stateAt step {} steps i).l2.total
      ↔ ∀ k < i, ¬ At step {} steps Loses k) := by
  induction i with
  | zero => exact ⟨Nat.le_refl _, fun _ k hk => absurd hk (Nat.not_lt_zero k), fun _ => rfl⟩
  | succ i ih =>
    obtain ⟨hle, heq⟩ := ih
    rw [Nat.forall_lt_succ_right]
    cases hx : steps[i]? with
    | none =>
      rw [stateAt_succ_of_none hx, ← heq]
      exact ⟨hle, fun h => ⟨h, not_at_none hx⟩, fun h => h.1⟩
    | some x =>
      rw [stateAt_succ hx, at_some hx, ← heq]
      generalize stateAt step {} steps i = s at *
      cases x with
      | flush args =>
        obtain ⟨haccounted, htotal⟩ := accounted_advance args s
        have hkept : ¬ Loses s (.flush args) := by
          rintro ⟨_, srcMac, hx⟩
          cases hx
        show (s.advance args).accounted ≤ (s.advance args).l2.total
          ∧ ((s.advance args).accounted = (s.advance args).l2.total ↔ _)
        rw [haccounted, htotal]
        exact ⟨hle, fun h => ⟨h, hkept⟩, fun h => h.1⟩
      | record srcMac =>
        obtain ⟨htotal, hin, hout⟩ := accounted_record srcMac s
        rw [htotal]
        -- in the gap the total moves alone, and is ahead from then on
        by_cases hgap : s.InGap
        · rw [hin hgap]
          refine ⟨by omega, fun h => by omega, fun h => ?_⟩
          exact absurd ⟨hgap, srcMac, rfl⟩ h.2
        · rw [hout hgap]
          refine ⟨by omega, fun h => ⟨by omega, fun hloses => hgap hloses.1⟩, fun h => ?_⟩
          omega

/-- Whenever no flush is in progress, the published counts and the current window add up to
the packets recorded exactly if no packet has come between the reading of a window's count
and its reset. -/
theorem conserved_iff (steps : List RaceStep) (i : Nat) :
    let s := stateAt step {} steps i
    s.phase = .idle →
      (s.publishedTotal + s.l2.windowTotal = s.l2.total
        ↔ ∀ k < i, ¬ At step {} steps Loses k) := by
  intro s hidle
  have haccounted := (accounted_at steps i).2
  rw [← haccounted]
  show _ ↔ s.accounted = s.l2.total
  unfold accounted
  rw [hidle]

/-- A window of one packet, and its flush. -/
def onePacket (args : FeatureArgs) : List RaceStep :=
  [.record (some "00:11:22:33:44:55"), .flush args, .flush args, .flush args, .flush args]

theorem conserved_onePacket :
    let steps := onePacket ⟨"sensor", "site", 60, "t"⟩
    let s := stateAt step {} steps 5
    s.phase = .idle ∧ s.publishedTotal = 1
      ∧ (s.publishedTotal + s.l2.windowTotal = s.l2.total ↔ ∀ k < 5, ¬ At step {} steps Loses k) :=
  ⟨rfl, rfl, conserved_iff (onePacket ⟨"sensor", "site", 60, "t"⟩) 5 rfl⟩

/-- One packet, and a second one while the summary of the window is being published. -/
def latePacket (args : FeatureArgs) : List RaceStep :=
  [.record (some "00:11:22:33:44:55"), .flush args, .flush args,
    .record (some "00:11:22:33:44:55"), .flush args, .flush args]

/-- The second packet is in the total and in no window. -/
theorem latePacket_lost :
    let s := stateAt step {} (latePacket ⟨"sensor", "site", 60, "t"⟩) 6
    s.phase = .idle ∧ s.publishedTotal + s.l2.windowTotal = 1 ∧ s.l2.total = 2 := by
  decide

end RaceState

end EdgeSensor.Sensor
