import EdgeSensor.Lib.History
import EdgeSensor.Lib.Latch
import EdgeSensor.Sensor.Mvp

/-!
# The window of OT-006

`unique_ports_in_window` (`src/assets/inventory.py`) forgets a source's samples as they leave
the window. `port_scan_refines`: at every observation of a run the ports it returns are
those a detector that forgets nothing would count, and OT-006 reports a source exactly at
the first observation at which they are enough. The invariant (`samples_answer`) is that
the kept samples and the full history give the same answer to every query to come; it
needs only that the queries come in order.

Mirroring notes:
- An observation brings the policy and the rule set in force; window and threshold are
  asked to be the same throughout, the rest of the policy may change.
- The two readings of the clock, for the sample and for the query, are separate.
-/

namespace EdgeSensor.Sensor.MvpDetector

open EdgeSensor.Lib

/-- One observation, as `process` has it evaluated. -/
structure Observed where
  view : MvpView
  obs : InventoryObservation
  rules : Finset String

/-- The detector before the observation is evaluated: reloaded, the packet recorded. -/
def Observed.before (x : Observed) (d : MvpDetector) : MvpDetector :=
  { d with
    rulesEnabled := x.rules
    inventory := d.inventory.observe x.obs x.view.clock.observe }

/-- The detector after the observation. -/
def evaluate (d : MvpDetector) (x : Observed) : MvpDetector :=
  (evaluateObservation x.view x.obs (x.before d)).1

/-- The sample an observation is for a source. -/
def Observed.sample (source : String) (x : Observed) : Option (Rat × Nat) :=
  if truthy x.obs.srcIp = some source then x.obs.dstPort.map (x.view.clock.recordSample, ·) else none

/-- The ports the source ever touched, with their times. -/
def touched (source : String) (inputs : List Observed) : History Rat Nat :=
  inputs.filterMap (Observed.sample source)

/-- The ports the source touched in the window, by definition. -/
def portsInWindow (source : String) (windowSec now : Rat) (inputs : List Observed) : Finset Nat :=
  (((touched source inputs).since (now - windowSec)).map (·.2)).toFinset

/-- OT-006 reports the source. -/
def ReportsScan (source : String) (d : MvpDetector) (x : Observed) : Prop :=
  ∃ e ∈ (evaluateObservation x.view x.obs (x.before d)).2, e.ruleId = .ot006 ∧ e.srcIp = source

/-! ## One observation -/

theorem samples_set (inv : AssetInventory) (source k : String) (kept : List (Rat × Nat)) :
    ({ inv with portScanEvents := inv.portScanEvents.set source kept } : AssetInventory).samples k
      = if source = k then kept else inv.samples k := by
  unfold AssetInventory.samples
  rw [Dict.get?_set]
  split <;> rfl

/-- The rule records and prunes the samples of the packet's source. -/
theorem samples_portScan (x : Observed) (d : MvpDetector) (hon : enabled d.rulesEnabled .ot006)
    (source : String) :
    (portScan x.view x.obs d).1.inventory.samples source
      = match x.sample source with
        | none => d.inventory.samples source
        | some sample => History.since (d.inventory.samples source ++ [sample])
            (x.view.clock.uniquePorts - portScanWindow x.view.doc) := by
  unfold Observed.sample
  cases hip : truthy x.obs.srcIp with
  | none =>
    unfold portScan
    simp [hip]
  | some srcIp =>
    cases hport : x.obs.dstPort with
    | none =>
      unfold portScan
      simp [hport]
    | some dstPort =>
      have hinventory : (portScan x.view x.obs d).1.inventory
          = ((d.inventory.recordPortScanSample srcIp dstPort x.view.clock.recordSample).uniquePortsInWindow
            srcIp (portScanWindow x.view.doc) x.view.clock.uniquePorts).1 := by
        unfold portScan
        rw [hip, hport]
        simp only [if_pos hon]
        split <;> rfl
      rw [hinventory, AssetInventory.uniquePortsInWindow, samples_set,
        AssetInventory.samples_recordPortScanSample]
      by_cases hsource : srcIp = source
      · subst hsource
        simp only [if_true, Option.map_some]
        rfl
      · simp only [if_neg hsource, Option.some.injEq]
        rw [AssetInventory.recordPortScanSample, samples_set, if_neg hsource]

/-- So does an observation. -/
theorem samples_evaluate (x : Observed) (d : MvpDetector) (hon : enabled x.rules .ot006)
    (source : String) :
    (evaluate d x).inventory.samples source
      = match x.sample source with
        | none => d.inventory.samples source
        | some sample => History.since (d.inventory.samples source ++ [sample])
            (x.view.clock.uniquePorts - portScanWindow x.view.doc) := by
  obtain ⟨d', hrules, hscan, hstate, -⟩ := evaluateObservation_portScan x.view x.obs (x.before d)
  have hbefore : d'.inventory.samples source = d.inventory.samples source := by
    unfold AssetInventory.samples
    rw [show d'.inventory.portScanEvents = (x.before d).inventory.portScanEvents from
      congrArg (·.1) hscan]
    rfl
  have hafter : (evaluate d x).inventory.samples source
      = (portScan x.view x.obs d').1.inventory.samples source := by
    unfold AssetInventory.samples
    rw [show (evaluate d x).inventory.portScanEvents
      = (portScan x.view x.obs d').1.inventory.portScanEvents from congrArg (·.1) hstate]
  rw [hafter, samples_portScan x d' (hrules ▸ hon), hbefore]

/-! ## The invariant -/

section Run

variable {d : MvpDetector} {windowSec : Rat} {inputs : List Observed}

theorem touched_succ (source : String) {i : Nat} {x : Observed} (hx : inputs[i]? = some x) :
    touched source (inputs.take (i + 1))
      = touched source (inputs.take i) ++ (x.sample source).toList := by
  unfold touched
  rw [List.take_add_one, hx, List.filterMap_append, Option.toList_some]
  congr 1

/-- The kept samples answer every query that comes after all earlier ones as the full
history does. -/
theorem samples_answer (hfresh : d.inventory.portScanEvents = [])
    (hon : ∀ x ∈ inputs, enabled x.rules .ot006)
    (hwindow : ∀ x ∈ inputs, portScanWindow x.view.doc = windowSec) (source : String) (i : Nat)
    (now : Rat) (hnow : ∀ x ∈ inputs.take i, x.view.clock.uniquePorts ≤ now) :
    History.since ((stateAt evaluate d inputs i).inventory.samples source) (now - windowSec)
      = (touched source (inputs.take i)).since (now - windowSec) := by
  induction i with
  | zero =>
    rw [stateAt_zero, AssetInventory.samples, hfresh]
    rfl
  | succ i ih =>
    cases hx : inputs[i]? with
    | none =>
      rw [stateAt_succ_of_none hx, List.take_add_one, hx]
      rw [List.take_add_one, hx] at hnow
      simp only [Option.toList_none, List.append_nil] at hnow ⊢
      exact ih hnow
    | some x =>
      rw [List.take_add_one, hx] at hnow
      have hbefore := ih fun y hy => hnow y (List.mem_append_left _ hy)
      have hlast : x.view.clock.uniquePorts ≤ now := hnow x (by simp)
      have hmem := List.mem_of_getElem? hx
      rw [stateAt_succ hx, samples_evaluate x _ (hon x hmem), hwindow x hmem, touched_succ source hx,
        History.since_append]
      cases x.sample source with
      | none => exact hbefore.trans (List.append_nil _).symm
      | some sample =>
        -- what was pruned now was too old for this query, so it is for a later one
        have hle : x.view.clock.uniquePorts - windowSec ≤ now - windowSec :=
          sub_le_sub_right hlast windowSec
        simp only [Option.toList_some]
        rw [History.since_since_of_le _ hle, History.since_append, hbefore]

/-- The queries come in order. -/
def QueriesOrdered (inputs : List Observed) : Prop :=
  inputs.Pairwise fun x y => x.view.clock.uniquePorts ≤ y.view.clock.uniquePorts

instance : Decidable (QueriesOrdered inputs) :=
  inferInstanceAs (Decidable (inputs.Pairwise _))

theorem QueriesOrdered.before (hordered : QueriesOrdered inputs) {i : Nat} {x : Observed}
    (hx : inputs[i]? = some x) :
    ∀ y ∈ inputs.take i, y.view.clock.uniquePorts ≤ x.view.clock.uniquePorts := by
  have hupto : (inputs.take (i + 1)).Pairwise fun x y =>
      x.view.clock.uniquePorts ≤ y.view.clock.uniquePorts :=
    hordered.sublist (List.take_sublist _ _)
  rw [List.take_add_one, hx] at hupto
  exact fun y hy => (List.pairwise_append.mp hupto).2.2 y hy x (by simp)

/-- The ports the rule counts are those of the definition. -/
theorem scannedPorts_eq_portsInWindow (hfresh : d.inventory.portScanEvents = [])
    (hon : ∀ x ∈ inputs, enabled x.rules .ot006)
    (hwindow : ∀ x ∈ inputs, portScanWindow x.view.doc = windowSec)
    (hordered : QueriesOrdered inputs) {source : String} {i : Nat} {x : Observed}
    (hx : inputs[i]? = some x) {dstPort : Nat} (hip : truthy x.obs.srcIp = some source)
    (hport : x.obs.dstPort = some dstPort) :
    scannedPorts x.view (stateAt evaluate d inputs i) source dstPort
      = portsInWindow source windowSec x.view.clock.uniquePorts (inputs.take (i + 1)) := by
  have hsample : x.sample source = some (x.view.clock.recordSample, dstPort) := by
    unfold Observed.sample
    rw [if_pos hip, hport]
    rfl
  have hquery := samples_answer hfresh hon hwindow source i x.view.clock.uniquePorts
    (hordered.before hx)
  rw [scannedPorts_eq, hwindow x (List.mem_of_getElem? hx)]
  unfold portsInWindow
  rw [touched_succ source hx, hsample, History.since_append, ← hquery, ← History.since_append]
  rfl

end Run

/-! ## The alarm -/

/-- What OT-006 remembers of a source. -/
def scanLatch (source : String) : Latch MvpDetector Observed where
  step := evaluate
  set := fun d => source ∈ d.alertedPortScan
  trigger := fun d x => enabled x.rules .ot006 ∧ PortScanned x.view x.obs d source
  gate := fun _ _ => True
  set_step := by
    intro d x
    obtain ⟨d', hrules, hscan, hstate, -⟩ := evaluateObservation_portScan x.view x.obs (x.before d)
    have hafter : (evaluate d x).alertedPortScan = (portScan x.view x.obs d').1.alertedPortScan :=
      congrArg (·.2) hstate
    have hbefore : d'.alertedPortScan = d.alertedPortScan := congrArg (·.2) hscan
    have hsamples : d'.inventory.portScanEvents = d.inventory.portScanEvents := congrArg (·.1) hscan
    rw [hafter, (portScan_latches x.view x.obs d').mem_iff, hbefore, hrules,
      portScanned_congr hsamples]
    rfl

/-- The rule reports a source when it acts on it and has not before. -/
theorem reportsScan_iff (source : String) (d : MvpDetector) (x : Observed) :
    ReportsScan source d x ↔ (scanLatch source).fires d x := by
  obtain ⟨d', hrules, hscan, -, hmem⟩ := evaluateObservation_portScan x.view x.obs (x.before d)
  have hbefore : d'.alertedPortScan = d.alertedPortScan := congrArg (·.2) hscan
  have hsamples : d'.inventory.portScanEvents = d.inventory.portScanEvents := congrArg (·.1) hscan
  have hreported := (portScan_latches x.view x.obs d').reported_iff source
  rw [hbefore, hrules, portScanned_congr hsamples] at hreported
  have hevents : ReportsScan source d x
      ↔ ∃ e ∈ (portScan x.view x.obs d').2, e.ruleId = .ot006 ∧ e.srcIp = source :=
    exists_congr fun e => and_congr_left fun h => hmem e h.1
  rw [hevents, hreported]
  simp only [Latch.fires, scanLatch, true_and]
  rfl

/-- At position `i` a packet of the source finds enough ports in the window, by definition. -/
def Reached (source : String) (windowSec : Rat) (threshold : Int) (inputs : List Observed) (i : Nat) :
    Prop :=
  ∃ x, inputs[i]? = some x ∧ truthy x.obs.srcIp = some source ∧ x.obs.dstPort.isSome
    ∧ threshold ≤ (portsInWindow source windowSec x.view.clock.uniquePorts (inputs.take (i + 1))).card

/-- Over a run with OT-006 on, one window and one threshold, the pruned samples give the
ports of the definition at every observation, and a source is reported exactly at the
first observation at which these are enough. -/
theorem port_scan_refines (d : MvpDetector) (hfresh : d.scanState = ([], ∅)) (windowSec : Rat)
    (threshold : Int) (inputs : List Observed) (hon : ∀ x ∈ inputs, enabled x.rules .ot006)
    (hwindow : ∀ x ∈ inputs, portScanWindow x.view.doc = windowSec)
    (hthreshold : ∀ x ∈ inputs, portScanThreshold x.view.doc = threshold)
    (hordered : QueriesOrdered inputs) (source : String) (i : Nat) (x : Observed)
    (hx : inputs[i]? = some x) :
    (∀ dstPort, truthy x.obs.srcIp = some source → x.obs.dstPort = some dstPort →
        scannedPorts x.view (stateAt evaluate d inputs i) source dstPort
          = portsInWindow source windowSec x.view.clock.uniquePorts (inputs.take (i + 1)))
      ∧ (ReportsScan source (stateAt evaluate d inputs i) x
        ↔ Reached source windowSec threshold inputs i
          ∧ ∀ j < i, ¬ Reached source windowSec threshold inputs j) := by
  have hsamples : d.inventory.portScanEvents = [] := congrArg (·.1) hfresh
  have hunset : ¬ (scanLatch source).set d := by
    have hempty : d.alertedPortScan = ∅ := congrArg (·.2) hfresh
    simp [scanLatch, hempty]
  have hports : ∀ {j : Nat} {y : Observed} {dstPort : Nat}, inputs[j]? = some y →
      truthy y.obs.srcIp = some source → y.obs.dstPort = some dstPort →
      scannedPorts y.view (stateAt evaluate d inputs j) source dstPort
        = portsInWindow source windowSec y.view.clock.uniquePorts (inputs.take (j + 1)) :=
    fun hy hip hport => scannedPorts_eq_portsInWindow hsamples hon hwindow hordered hy hip hport
  have htrigger : ∀ j, At evaluate d inputs (scanLatch source).trigger j
      ↔ Reached source windowSec threshold inputs j := by
    intro j
    constructor
    · rintro ⟨y, hy, -, hip, dstPort, hport, hcard⟩
      rw [hports hy hip hport, hthreshold y (List.mem_of_getElem? hy)] at hcard
      exact ⟨y, hy, hip, by rw [hport]; rfl, hcard⟩
    · rintro ⟨y, hy, hip, hsome, hcard⟩
      obtain ⟨dstPort, hport⟩ := Option.isSome_iff_exists.mp hsome
      refine ⟨y, hy, hon y (List.mem_of_getElem? hy), hip, dstPort, hport, ?_⟩
      rw [hports hy hip hport, hthreshold y (List.mem_of_getElem? hy)]
      exact hcard
  refine ⟨fun dstPort hip hport => hports hx hip hport, ?_⟩
  refine (reportsScan_iff source _ x).trans ((at_some hx).symm.trans ?_)
  refine ((scanLatch source).fires_iff hunset i).trans ?_
  have hgate : At (scanLatch source).step d inputs (scanLatch source).gate i := ⟨x, hx, trivial⟩
  rw [and_iff_left hgate]
  exact and_congr (htrigger i) (forall_congr' fun j => imp_congr_right fun _ => not_congr (htrigger j))

/-- A window of ten seconds, in which two ports are enough. -/
def twoPorts : PolicyDoc where
  thresholds := some [("port_scan_window_sec", 10), ("port_scan_unique_ports", 2)]

/-- A host touches a port at time `now`. -/
def touch (now : Rat) (dstPort : Nat) : Observed where
  view := ⟨twoPorts, fun _ => false,
    ⟨now, now, now, fun _ => now, fun _ => now, "20260101", "2026-01-01T00:00:00+00:00"⟩⟩
  obs := { srcMac := none, srcIp := some "10.0.0.66", dstIp := some "10.0.0.1"
           dstPort := some dstPort, protocol := some .tcp }
  rules := {"OT-006"}

/-- At time 10 the first sample is on the cutoff and still counts. -/
theorem port_scan_refines_cutoff :
    (∀ dstPort, truthy (touch 10 502).obs.srcIp = some "10.0.0.66" →
        (touch 10 502).obs.dstPort = some dstPort →
        scannedPorts (touch 10 502).view
            (stateAt evaluate { siteId := "site", sensorId := "sensor", policy := {} }
              [touch 0 501, touch 10 502, touch 20 503] 1) "10.0.0.66" dstPort
          = portsInWindow "10.0.0.66" 10 (touch 10 502).view.clock.uniquePorts
            ([touch 0 501, touch 10 502, touch 20 503].take 2))
      ∧ (ReportsScan "10.0.0.66"
          (stateAt evaluate { siteId := "site", sensorId := "sensor", policy := {} }
            [touch 0 501, touch 10 502, touch 20 503] 1) (touch 10 502)
        ↔ Reached "10.0.0.66" 10 2 [touch 0 501, touch 10 502, touch 20 503] 1
          ∧ ∀ j < 1, ¬ Reached "10.0.0.66" 10 2 [touch 0 501, touch 10 502, touch 20 503] j) :=
  port_scan_refines { siteId := "site", sensorId := "sensor", policy := {} } rfl 10 2
    [touch 0 501, touch 10 502, touch 20 503] (by decide +kernel) (by decide +kernel)
    (by decide +kernel) (by decide +kernel) "10.0.0.66" 1 (touch 10 502) rfl

end EdgeSensor.Sensor.MvpDetector
