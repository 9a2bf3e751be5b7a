import EdgeSensor.Agent.TopologyDelta
import EdgeSensor.Lib.Meter
import Mathlib.Algebra.Order.Group.Nat

/-!
# What the deltas add up to

The sensor rewrites `live-observed.json`, the two publishers are called in whatever mode there is,
their messages go out or do not, and the agent is started anew. The deltas that went out are to add
up to the assets there are: each is told once.

They do in every run in which no tick of the learning mode goes out while the state has assets
stored, and the assets do not grow while a message with a delta is under way
(`topology_deltas_telescope`). Otherwise they need not (`deltas_do_not_telescope`).

Each publisher is a `Lib.Meter`: its level is the number of assets, and its mark is in its state
file.
-/

namespace EdgeSensor.Agent

open EdgeSensor.Lib EdgeSensor.Py EdgeSensor.Sensor

/-- `live-observed.json`, the publishers with their state files, and what went out: the snapshots
with the counts that were stored for each. -/
structure DeltaWorld where
  live : Option TopologySnapshot := none
  tickPublisher : ObserveTickPublisher
  tickState : Option ObserveTickState := none
  ticks : List ObserveTick := []
  snapshotPublisher : SnapshotPublisher
  snapshotState : Option SnapshotState := none
  snapshots : List (SnapshotMessage × TopologyCounts) := []

/-- No message yet, and no state file. -/
structure DeltaWorld.Fresh (w : DeltaWorld) : Prop where
  tickState : w.tickState = none
  ticks : w.ticks = []
  snapshotState : w.snapshotState = none
  snapshots : w.snapshots = []

inductive DeltaEvent where
  | rewrite (live : Option TopologySnapshot)
  | restart (bootAt : Rat)
  | tick (call : TickCall)
  | snapshot (call : SnapshotCall)

/-- The assets in `live-observed.json`. -/
def assetCount (live : Option TopologySnapshot) : Nat := (readTopologyCounts live).assets

/-- The assets in the state file of the ticks. -/
def tickMark (state : Option ObserveTickState) : Nat :=
  ((state.bind (·.topologyCounts)).map (·.assets)).getD 0

/-- The assets in the state file of the snapshots. -/
def snapshotMark (state : Option SnapshotState) : Nat := (state.map (·.topologyCounts.assets)).getD 0

/-- `new_assets` of a tick. -/
def ObserveTick.newAssets (tick : ObserveTick) : Nat :=
  (tick.topologyDelta.map (·.newAssets)).getD 0

/-- The sum of `new_assets` over the ticks. -/
def reportedAssets (ticks : List ObserveTick) : Nat := (ticks.map (·.newAssets)).sum

/-- The assets stored for the last snapshot of the learning mode, and the sum of `new_assets` over
the deltas since. -/
def detectedAssets (snapshots : List (SnapshotMessage × TopologyCounts)) : Nat × Nat :=
  snapshots.foldl (fun acc sent =>
    match sent.1 with
    | .learning _ => (sent.2.assets, 0)
    | .delta payload => (acc.1, acc.2 + payload.topologyDelta.newAssets)) (0, 0)

section Runs

variable (repr : Json → String)

namespace DeltaWorld

def next (w : DeltaWorld) : DeltaEvent → DeltaWorld
  | .rewrite live => { w with live := live }
  | .restart bootAt =>
    { w with
      tickPublisher := { w.tickPublisher with lastPublish := 0, bootAt := bootAt }
      snapshotPublisher := { w.snapshotPublisher with lastPublish := 0, lastDetectPublish := 0 } }
  | .tick call =>
    let (publisher, state, sent, _) := w.tickPublisher.maybePublish repr w.tickState w.live call
    { w with
      live := call.during
      tickPublisher := publisher
      tickState := state
      ticks := w.ticks ++ sent.toList }
  | .snapshot call =>
    let (publisher, state, sent, _) :=
      w.snapshotPublisher.maybePublish repr w.snapshotState w.live call
    { w with
      live := call.during
      snapshotPublisher := publisher
      snapshotState := state
      snapshots := w.snapshots
        ++ (sent.map fun message => (message, (state.map (·.topologyCounts)).getD ⟨0, 0, 0⟩)).toList }

/-- The kind of the tick that the call sends. -/
def tickSent (w : DeltaWorld) (call : TickCall) : Option SessionKind :=
  match w.tickPublisher.due repr call, call.body with
  | some (kind, _), .ok _ => if call.ok then some kind else none
  | _, _ => none

/-- The call sends a delta of the detect mode. -/
def DetectSent (w : DeltaWorld) (call : SnapshotCall) : Prop :=
  w.snapshotPublisher.due repr call = some .detect ∧ readTopologyCounts w.live ≠ ⟨0, 0, 0⟩
    ∧ call.ok = true

instance (w : DeltaWorld) (call : SnapshotCall) : Decidable (w.DetectSent repr call) :=
  inferInstanceAs (Decidable (_ ∧ _))

/-- The number of assets does not fall. -/
def Grows (w : DeltaWorld) (e : DeltaEvent) : Prop := assetCount w.live ≤ assetCount (w.next repr e).live

/-- No tick of the learning mode goes out while assets are stored, and none are found while a delta
is under way. -/
def TickCounted (w : DeltaWorld) : DeltaEvent → Prop
  | .tick call =>
    (w.tickSent repr call = some .learn → tickMark w.tickState = 0)
      ∧ (w.tickSent repr call = some .observe → readTopologyCounts w.live ≠ ⟨0, 0, 0⟩ →
        assetCount call.during = assetCount w.live)
  | _ => True

/-- No assets are found while a delta is under way. -/
def DetectCounted (w : DeltaWorld) : DeltaEvent → Prop
  | .snapshot call => w.DetectSent repr call → assetCount call.during = assetCount w.live
  | _ => True

instance (w : DeltaWorld) (e : DeltaEvent) : Decidable (w.Grows repr e) :=
  inferInstanceAs (Decidable (_ ≤ _))

instance (w : DeltaWorld) (e : DeltaEvent) : Decidable (w.TickCounted repr e) :=
  match e with
  | .tick _ => inferInstanceAs (Decidable ((_ → _) ∧ (_ → _ → _)))
  | .rewrite _ | .restart _ | .snapshot _ => inferInstanceAs (Decidable True)

instance (w : DeltaWorld) (e : DeltaEvent) : Decidable (w.DetectCounted repr e) :=
  match e with
  | .snapshot _ => inferInstanceAs (Decidable (_ → _))
  | .rewrite _ | .restart _ | .tick _ => inferInstanceAs (Decidable True)

/-- The ticks never tell of more assets than there are, and after a tick of the listen mode they
have told of all, until there are more. -/
structure TicksTelescope (w : DeltaWorld) (events : List DeltaEvent) : Prop where
  sum_le : ∀ i, reportedAssets (stateAt (next repr) w events i).ticks
    ≤ assetCount (stateAt (next repr) w events i).live
  sum_eq : ∀ i j call, events[i]? = some (.tick call) →
    (stateAt (next repr) w events i).tickSent repr call = some .observe →
    assetCount call.during = assetCount (stateAt (next repr) w events i).live → i < j →
    assetCount (stateAt (next repr) w events j).live = assetCount call.during →
    reportedAssets (stateAt (next repr) w events j).ticks
      = assetCount (stateAt (next repr) w events j).live

/-- So do the deltas of the detect mode, on top of what the last snapshot of the learning mode
stored. -/
structure DetectTelescopes (w : DeltaWorld) (events : List DeltaEvent) : Prop where
  sum_le : ∀ i, (detectedAssets (stateAt (next repr) w events i).snapshots).1
      + (detectedAssets (stateAt (next repr) w events i).snapshots).2
    ≤ assetCount (stateAt (next repr) w events i).live
  sum_eq : ∀ i j call, events[i]? = some (.snapshot call) →
    (stateAt (next repr) w events i).DetectSent repr call →
    assetCount call.during = assetCount (stateAt (next repr) w events i).live → i < j →
    assetCount (stateAt (next repr) w events j).live = assetCount call.during →
    (detectedAssets (stateAt (next repr) w events j).snapshots).1
        + (detectedAssets (stateAt (next repr) w events j).snapshots).2
      = assetCount (stateAt (next repr) w events j).live

end DeltaWorld

/-! ## The ticks as a meter -/

def tickMeter (w : DeltaWorld) : Meter Nat where
  level := assetCount w.live
  base := 0
  mark := tickMark w.tickState
  reported := reportedAssets w.ticks

def tickEvent (w : DeltaWorld) : DeltaEvent → MeterEvent Nat
  | .rewrite live => .rise (assetCount live)
  | .restart _ => .rise (assetCount w.live)
  | .snapshot call => .rise (assetCount call.during)
  | .tick call =>
    match w.tickSent repr call with
    | none => .rise (assetCount call.during)
    | some .learn => .forget (assetCount call.during)
    | some .observe =>
      if readTopologyCounts w.live = ⟨0, 0, 0⟩ then .forget (assetCount call.during)
      else .report (assetCount call.during)

variable {repr} {w : DeltaWorld} {events : List DeltaEvent}

theorem reportedAssets_concat (ticks : List ObserveTick) (tick : ObserveTick) :
    reportedAssets (ticks ++ [tick]) = reportedAssets ticks + tick.newAssets := by
  unfold reportedAssets
  rw [List.map_append, List.sum_append, List.map_cons, List.map_nil, List.sum_singleton]

/-- No tick goes out, and nothing is stored. -/
theorem maybePublish_of_not_sent {call : TickCall} (h : w.tickSent repr call = none) :
    (w.tickPublisher.maybePublish repr w.tickState w.live call).2.1 = w.tickState
      ∧ (w.tickPublisher.maybePublish repr w.tickState w.live call).2.2.1 = none := by
  unfold DeltaWorld.tickSent at h
  unfold ObserveTickPublisher.maybePublish
  cases hdue : w.tickPublisher.due repr call with
  | none => exact ⟨rfl, rfl⟩
  | some found =>
    cases hbody : call.body with
    | error e => exact ⟨rfl, rfl⟩
    | ok body =>
      rw [hdue, hbody] at h
      cases hok : call.ok with
      | false => exact ⟨rfl, rfl⟩
      | true =>
        rw [hok] at h
        cases h

/-- A tick goes out, and counts are stored if it has a delta. -/
theorem maybePublish_of_sent {call : TickCall} {kind : SessionKind}
    (h : w.tickSent repr call = some kind) : ∃ tick state,
      (w.tickPublisher.maybePublish repr w.tickState w.live call).2.1 = some state
      ∧ (w.tickPublisher.maybePublish repr w.tickState w.live call).2.2.1 = some tick
      ∧ state.topologyCounts = (tick.topologyDelta.map fun _ => readTopologyCounts call.during)
      ∧ (kind = .learn → tick.topologyDelta = none)
      ∧ (kind = .observe → tick.topologyDelta
        = computeTopologyDelta w.live (w.tickState.bind (·.topologyCounts))) := by
  unfold DeltaWorld.tickSent at h
  unfold ObserveTickPublisher.maybePublish
  cases hdue : w.tickPublisher.due repr call with
  | none =>
    rw [hdue] at h
    cases h
  | some found =>
    cases hbody : call.body with
    | error e =>
      rw [hdue, hbody] at h
      cases h
    | ok body =>
      cases hok : call.ok with
      | false =>
        rw [hdue, hbody, hok] at h
        cases h
      | true =>
        rw [hdue, hbody, hok] at h
        cases h
        refine ⟨_, _, rfl, rfl, rfl, fun hlearn => ?_, fun hobserve => ?_⟩
        · rw [hlearn]
          rfl
        · rw [hobserve]
          rfl

theorem computeTopologyDelta_eq_none {live : Option TopologySnapshot} {prev : Option TopologyCounts}
    (h : readTopologyCounts live = ⟨0, 0, 0⟩) : computeTopologyDelta live prev = none := if_pos h

theorem computeTopologyDelta_newAssets {live : Option TopologySnapshot} (prev : Option TopologyCounts)
    (h : readTopologyCounts live ≠ ⟨0, 0, 0⟩) : ∃ delta, computeTopologyDelta live prev = some delta
      ∧ delta.newAssets = assetCount live - (prev.map (·.assets)).getD 0 := by
  refine ⟨_, if_neg h, ?_⟩
  cases prev with
  | none => rfl
  | some prev => rfl

/-- **The ticks are a meter.** -/
theorem tickMeter_next (w : DeltaWorld) (e : DeltaEvent) :
    tickMeter (w.next repr e) = (tickMeter w).next (tickEvent repr w e) := by
  cases e with
  | rewrite live => rfl
  | restart bootAt => rfl
  | snapshot call => rfl
  | tick call =>
    unfold tickEvent tickMeter DeltaWorld.next
    cases hsent : w.tickSent repr call with
    | none =>
      obtain ⟨hstate, hnone⟩ := maybePublish_of_not_sent hsent
      simp only [hsent, hstate, hnone, Option.toList_none, List.append_nil]
      rfl
    | some kind =>
      obtain ⟨tick, state, hstate, hsome, hcounts, hlearn, hobserve⟩ := maybePublish_of_sent hsent
      simp only [hsent, hstate, hsome, Option.toList_some, reportedAssets_concat]
      have hforget : tick.topologyDelta = none →
          tickMark (some state) = 0 ∧ tick.newAssets = 0 := by
        intro hnone
        unfold tickMark ObserveTick.newAssets
        rw [Option.bind_some, hcounts, hnone]
        exact ⟨rfl, rfl⟩
      cases kind with
      | learn =>
        obtain ⟨hmark, hnew⟩ := hforget (hlearn rfl)
        rw [hmark, hnew]
        rfl
      | observe =>
        by_cases hzero : readTopologyCounts w.live = ⟨0, 0, 0⟩
        · obtain ⟨hmark, hnew⟩ := hforget ((hobserve rfl).trans (computeTopologyDelta_eq_none hzero))
          simp only [hzero, if_true]
          rw [hmark, hnew]
          rfl
        · obtain ⟨delta, hdelta, hnew⟩ := computeTopologyDelta_newAssets
            (w.tickState.bind (·.topologyCounts)) hzero
          rw [← hobserve rfl] at hdelta
          have hmark : tickMark (some state) = assetCount call.during := by
            unfold tickMark
            rw [Option.bind_some, hcounts, hdelta]
            rfl
          have htick : tick.newAssets = assetCount w.live - tickMark w.tickState := by
            unfold ObserveTick.newAssets
            rw [hdelta]
            exact hnew
          simp only [hzero, if_false]
          rw [hmark, htick]
          rfl

/-- What is counted is what keeps the meter even. -/
theorem tickMeter_keeps {e : DeltaEvent} (heven : (tickMeter w).Even) (h : w.TickCounted repr e) :
    (tickMeter w).Keeps (tickEvent repr w e) := by
  cases e with
  | rewrite live => trivial
  | restart bootAt => trivial
  | snapshot call => trivial
  | tick call =>
    unfold tickEvent
    cases hsent : w.tickSent repr call with
    | none =>
      simp only [hsent]
      trivial
    | some kind =>
      cases kind with
      | learn =>
        simp only [hsent]
        exact h.1 hsent
      | observe =>
        simp only [hsent]
        split
        next hzero =>
          -- nothing is stored where there is nothing
          have hlevel : (tickMeter w).level = 0 := congrArg TopologyCounts.assets hzero
          exact Nat.le_zero.mp (hlevel ▸ heven.le)
        next hsome => exact h.2 hsent hsome

/-! ## The snapshots as a meter -/

def detectMeter (w : DeltaWorld) : Meter Nat where
  level := assetCount w.live
  base := (detectedAssets w.snapshots).1
  mark := snapshotMark w.snapshotState
  reported := (detectedAssets w.snapshots).2

/-- What becomes of a call of the snapshot publisher. -/
inductive SnapshotCases (repr : Json → String) (w : DeltaWorld) (call : SnapshotCall) :
    Option SnapshotState → Option SnapshotMessage → Prop where
  | idle (notSent : ¬ w.DetectSent repr call) : SnapshotCases repr w call w.snapshotState none
  | learned (notSent : ¬ w.DetectSent repr call) (payload : LearningPayload) (state : SnapshotState)
    (counts : state.topologyCounts = readTopologyCounts call.during) :
    SnapshotCases repr w call (some state) (some (.learning payload))
  | told (sent : w.DetectSent repr call) (payload : DetectPayload) (state : SnapshotState)
    (counts : state.topologyCounts = readTopologyCounts call.during)
    (new : payload.topologyDelta.newAssets = assetCount w.live - snapshotMark w.snapshotState) :
    SnapshotCases repr w call (some state) (some (.delta payload))

theorem snapshot_cases (w : DeltaWorld) (call : SnapshotCall) : SnapshotCases repr w call
    (w.snapshotPublisher.maybePublish repr w.snapshotState w.live call).2.1
    (w.snapshotPublisher.maybePublish repr w.snapshotState w.live call).2.2.1 := by
  unfold SnapshotPublisher.maybePublish
  cases hdue : w.snapshotPublisher.due repr call with
  | none =>
    refine .idle fun hsent => ?_
    rw [hsent.1] at hdue
    cases hdue
  | some mode =>
    cases mode with
    | learning =>
      have hnot : ¬ w.DetectSent repr call := by
        intro hsent
        rw [hsent.1] at hdue
        cases hdue
      simp only
      unfold SnapshotPublisher.publishLearning
      simp only
      split
      next => exact .idle hnot
      next payload _ =>
        split
        next => exact .learned hnot payload _ rfl
        next => exact .idle hnot
    | detect =>
      simp only
      unfold SnapshotPublisher.publishDetectDelta SnapshotPublisher.detectPayload
      by_cases hzero : readTopologyCounts w.live = ⟨0, 0, 0⟩
      · rw [computeTopologyDelta_eq_none hzero]
        exact .idle fun hsent => hsent.2.1 hzero
      · obtain ⟨delta, hdelta, hnew⟩ := computeTopologyDelta_newAssets
          (w.snapshotState.map (·.topologyCounts)) hzero
        rw [hdelta, Option.map_some]
        cases hok : call.ok with
        | false =>
          refine .idle fun hsent => ?_
          rw [hsent.2.2] at hok
          cases hok
        | true =>
          refine .told ⟨hdue, hzero, hok⟩ _ _ rfl (hnew.trans ?_)
          unfold snapshotMark
          rw [Option.map_map]
          rfl

def detectEvent (repr : Json → String) (w : DeltaWorld) : DeltaEvent → MeterEvent Nat
  | .rewrite live => .rise (assetCount live)
  | .restart _ => .rise (assetCount w.live)
  | .tick call => .rise (assetCount call.during)
  | .snapshot call =>
    match (w.snapshotPublisher.maybePublish repr w.snapshotState w.live call).2.2.1 with
    | none => .rise (assetCount call.during)
    | some (.learning _) => .rebase (assetCount call.during)
    | some (.delta _) => .report (assetCount call.during)

/-- **The snapshots are a meter.** -/
theorem detectMeter_next (w : DeltaWorld) (e : DeltaEvent) :
    detectMeter (w.next repr e) = (detectMeter w).next (detectEvent repr w e) := by
  cases e with
  | rewrite live => rfl
  | restart bootAt => rfl
  | tick call => rfl
  | snapshot call =>
    unfold detectEvent detectMeter DeltaWorld.next
    have hcases := @snapshot_cases repr w call
    simp only
    generalize (w.snapshotPublisher.maybePublish repr w.snapshotState w.live call).2.1 = state at hcases ⊢
    generalize (w.snapshotPublisher.maybePublish repr w.snapshotState w.live call).2.2.1 = sent at hcases ⊢
    cases hcases with
    | idle =>
      rw [Option.map_none, Option.toList_none, List.append_nil]
      rfl
    | learned _ payload state hcounts =>
      simp only [Option.map_some, Option.toList_some, Option.getD_some, hcounts, detectedAssets,
        List.foldl_append, List.foldl_cons, List.foldl_nil, snapshotMark]
      rfl
    | told _ payload state hcounts hnew =>
      simp only [Option.map_some, Option.toList_some, Option.getD_some, hcounts, detectedAssets,
        List.foldl_append, List.foldl_cons, List.foldl_nil, hnew]
      unfold snapshotMark
      rw [Option.map_some, hcounts]
      rfl

theorem detectMeter_keeps {e : DeltaEvent} (h : w.DetectCounted repr e) :
    (detectMeter w).Keeps (detectEvent repr w e) := by
  cases e with
  | rewrite live => trivial
  | restart bootAt => trivial
  | tick call => trivial
  | snapshot call =>
    unfold detectEvent
    have hcases := @snapshot_cases repr w call
    simp only
    generalize (w.snapshotPublisher.maybePublish repr w.snapshotState w.live call).2.1 = state at hcases ⊢
    generalize (w.snapshotPublisher.maybePublish repr w.snapshotState w.live call).2.2.1 = sent at hcases ⊢
    cases hcases with
    | idle => trivial
    | learned => trivial
    | told hsent => exact h hsent

/-! ## Runs -/

theorem tick_metered (hfresh : w.Fresh) (hgrows : Along (DeltaWorld.next repr) (DeltaWorld.Grows repr) w events)
    (hcounted : Along (DeltaWorld.next repr) (DeltaWorld.TickCounted repr) w events) :
    Meter.Metered (DeltaWorld.next repr) tickMeter (tickEvent repr) w events where
  start := by
    unfold tickMeter
    rw [hfresh.tickState, hfresh.ticks]
    exact ⟨rfl, Nat.zero_le _⟩
  next := tickMeter_next
  rises := hgrows
  keeps := by
    refine (hgrows.and hcounted).imp (q := fun w => (tickMeter w).Even) ?_ ?_ ?_
    · unfold tickMeter
      rw [hfresh.tickState, hfresh.ticks]
      exact ⟨rfl, Nat.zero_le _⟩
    · rintro w e heven ⟨hgrow, hkept⟩
      rw [tickMeter_next]
      refine (Meter.even_next_iff heven ?_).mpr (tickMeter_keeps heven hkept)
      rw [← tickMeter_next]
      exact hgrow
    · exact fun w e heven hboth => tickMeter_keeps heven hboth.2

theorem detect_metered (hfresh : w.Fresh)
    (hgrows : Along (DeltaWorld.next repr) (DeltaWorld.Grows repr) w events)
    (hcounted : Along (DeltaWorld.next repr) (DeltaWorld.DetectCounted repr) w events) :
    Meter.Metered (DeltaWorld.next repr) detectMeter (detectEvent repr) w events where
  start := by
    unfold detectMeter
    rw [hfresh.snapshotState, hfresh.snapshots]
    exact ⟨rfl, Nat.zero_le _⟩
  next := detectMeter_next
  rises := hgrows
  keeps := hcounted.imp (q := fun _ => True) trivial (fun _ _ _ _ => trivial)
    fun _ _ _ hkept => detectMeter_keeps hkept

/-- **When the deltas add up.** -/
theorem topology_deltas_telescope (repr : Json → String) (w : DeltaWorld) (hfresh : w.Fresh)
    (events : List DeltaEvent)
    (hgrows : Along (DeltaWorld.next repr) (DeltaWorld.Grows repr) w events) :
    (Along (DeltaWorld.next repr) (DeltaWorld.TickCounted repr) w events →
        w.TicksTelescope repr events)
      ∧ (Along (DeltaWorld.next repr) (DeltaWorld.DetectCounted repr) w events →
        w.DetectTelescopes repr events) := by
  constructor
  · intro hcounted
    have hmetered := tick_metered hfresh hgrows hcounted
    refine ⟨fun i => ?_, fun i j call hcall hsent hsame hij hlast => ?_⟩
    · have hle := hmetered.sum_le i
      rw [show (tickMeter _).base = 0 from rfl, Nat.zero_add] at hle
      exact hle
    · have hmarked : (tickMeter (stateAt (DeltaWorld.next repr) w events (i + 1))).mark
          = (tickMeter (stateAt (DeltaWorld.next repr) w events (i + 1))).level := by
        rw [stateAt_succ hcall, tickMeter_next]
        unfold tickEvent
        simp only [hsent]
        split
        next hzero =>
          have hlevel : assetCount (stateAt (DeltaWorld.next repr) w events i).live = 0 :=
            congrArg TopologyCounts.assets hzero
          exact (hsame.trans hlevel).symm
        next => rfl
      have hlevel : assetCount (stateAt (DeltaWorld.next repr) w events (i + 1)).live
          = assetCount call.during := by
        rw [stateAt_succ hcall]
        rfl
      have heq := hmetered.sum_eq hij hmarked (hlast.trans hlevel.symm)
      rw [show (tickMeter _).base = 0 from rfl, Nat.zero_add] at heq
      exact heq
  · intro hcounted
    have hmetered := detect_metered hfresh hgrows hcounted
    refine ⟨hmetered.sum_le, fun i j call hcall hsent hsame hij hlast => ?_⟩
    have hmarked : (detectMeter (stateAt (DeltaWorld.next repr) w events (i + 1))).mark
        = (detectMeter (stateAt (DeltaWorld.next repr) w events (i + 1))).level := by
      rw [stateAt_succ hcall, detectMeter_next]
      unfold detectEvent
      have hcases := @snapshot_cases repr (stateAt (DeltaWorld.next repr) w events i) call
      simp only
      generalize ((stateAt (DeltaWorld.next repr) w events i).snapshotPublisher.maybePublish repr
        (stateAt (DeltaWorld.next repr) w events i).snapshotState
        (stateAt (DeltaWorld.next repr) w events i).live call) = result at hcases ⊢
      obtain ⟨publisher, state, sent, ok⟩ := result
      simp only at hcases ⊢
      cases hcases with
      | idle hnot => exact absurd hsent hnot
      | learned hnot => exact absurd hsent hnot
      | told => rfl
    have hlevel : assetCount (stateAt (DeltaWorld.next repr) w events (i + 1)).live
        = assetCount call.during := by
      rw [stateAt_succ hcall]
      rfl
    exact hmetered.sum_eq hij hmarked (hlast.trans hlevel.symm)

/-! The sample runs: one or two assets, and the modes in turn. -/

def sampleTopology (assetIds : List String) : Option TopologySnapshot :=
  some {
    tenantId := "tenant", sensorId := "sensor",
    assets := assetIds.map fun id => { assetId := id, tenantId := "tenant", sensorId := "sensor", ip := "10.0.0.9" }
    conduits := [], externalEntities := [], zoneCounts := [] }

def sampleDeltaWorld : DeltaWorld where
  tickPublisher := { interval := 60, tenantId := "tenant", siteId := "site", sensorId := "sensor", bootAt := 0 }
  snapshotPublisher := { tenantId := "tenant", siteId := "site", sensorId := "sensor", overrides := none,
                         interval := 120, detectInterval := 300 }

def sampleArtifact (mode : String) : Obj := [("mode", .str mode), ("session_id", .str "s1")]

/-- A tick that goes out in this mode, with these assets when the file is read again. -/
def sampleTick (mode : String) (now : Rat) (assetIds : List String) : DeltaEvent :=
  .tick {
    now := now, observedAt := "2026-01-01T00:00:00Z", artifact := sampleArtifact mode, body := .ok [],
    during := sampleTopology assetIds, ok := true }

def sampleSnapshot (mode : String) (now : Rat) (assetIds : List String) : DeltaEvent :=
  .snapshot {
    now := now, observedAt := "2026-01-01T00:00:00Z", artifact := sampleArtifact mode,
    during := sampleTopology assetIds, ok := true }

def steadyRun : List DeltaEvent :=
  [.rewrite (sampleTopology ["a"]), sampleTick "learning" 100 ["a"], sampleSnapshot "learning" 120 ["a"],
    sampleTick "listen" 200 ["a"], .rewrite (sampleTopology ["a", "b"]), .restart 250,
    sampleTick "listen" 350 ["a", "b"], sampleSnapshot "detect" 400 ["a", "b"]]

/-- The learning mode before the listen mode, and no asset found while a message is under way. -/
theorem steady_telescopes : sampleDeltaWorld.TicksTelescope (fun _ => "") steadyRun
    ∧ sampleDeltaWorld.DetectTelescopes (fun _ => "") steadyRun := by
  have htelescope := topology_deltas_telescope (fun _ => "") sampleDeltaWorld ⟨rfl, rfl, rfl, rfl⟩ steadyRun
    (by decide +kernel)
  exact ⟨htelescope.1 (by decide +kernel), htelescope.2 (by decide +kernel)⟩

/-- The learning mode between two ticks of the listen mode: the one asset is reported twice. -/
def relearnedRun : List DeltaEvent :=
  [.rewrite (sampleTopology ["a"]), sampleTick "listen" 100 ["a"], sampleTick "learning" 200 ["a"],
    sampleTick "listen" 300 ["a"]]

/-- An asset found while the first delta is under way is in no delta. -/
def grownRun : List DeltaEvent :=
  [.rewrite (sampleTopology ["a"]), sampleTick "listen" 100 ["a", "b"], sampleTick "listen" 200 ["a", "b"]]

/-- The same of the detect mode. -/
def grownDetectRun : List DeltaEvent :=
  [.rewrite (sampleTopology ["a"]), sampleSnapshot "detect" 400 ["a", "b"],
    sampleSnapshot "detect" 800 ["a", "b"]]

theorem deltas_do_not_telescope :
    sampleDeltaWorld.Fresh
      ∧ (Along (DeltaWorld.next fun _ => "") (DeltaWorld.Grows fun _ => "") sampleDeltaWorld relearnedRun
        ∧ ¬ sampleDeltaWorld.TicksTelescope (fun _ => "") relearnedRun)
      ∧ (Along (DeltaWorld.next fun _ => "") (DeltaWorld.Grows fun _ => "") sampleDeltaWorld grownRun
        ∧ ¬ sampleDeltaWorld.TicksTelescope (fun _ => "") grownRun)
      ∧ (Along (DeltaWorld.next fun _ => "") (DeltaWorld.Grows fun _ => "") sampleDeltaWorld grownDetectRun
        ∧ ¬ sampleDeltaWorld.DetectTelescopes (fun _ => "") grownDetectRun) := by
  refine ⟨⟨rfl, rfl, rfl, rfl⟩, ⟨by decide +kernel, fun h => ?_⟩, ⟨by decide +kernel, fun h => ?_⟩,
    by decide +kernel, fun h => ?_⟩
  · have hle := h.sum_le 4
    revert hle
    decide +kernel
  · have heq := h.sum_eq 2 3 _ rfl (by decide +kernel) (by decide +kernel) (by decide) (by decide +kernel)
    revert heq
    decide +kernel
  · have heq := h.sum_eq 2 3 _ rfl (by decide +kernel) (by decide +kernel) (by decide) (by decide +kernel)
    revert heq
    decide +kernel

end Runs

end EdgeSensor.Agent
