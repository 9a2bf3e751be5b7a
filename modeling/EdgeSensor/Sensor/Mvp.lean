import EdgeSensor.Lib.Emitter
import EdgeSensor.Lib.Latch
import EdgeSensor.Parser.Modbus
import EdgeSensor.Py.Text
import EdgeSensor.Sensor.Events
import EdgeSensor.Sensor.Inventory
import EdgeSensor.Sensor.Policy
import Mathlib.Data.Finset.Sort
import Mathlib.Data.Rat.Floor

/-!
# The MVP detector

`src/detection/mvp.py`, the rules evaluated on every packet. `evaluate_observation`
is a sequence of seven independent blocks, one rule each; here every block is an
`Emitter` of its own under the name of what it detects, and `evaluateObservation`
runs them in the source's order. What a block leaves alone and what it can report
is stated once per block, and the chain lemmas of `Emitter` do the rest.

Mirroring notes:
- `MvpView` is what the blocks read besides the detector: the policy as the
  detector's reference resolves now, the listfile predicate, and the clock.
- `int()` truncates a threshold towards zero; `float()` leaves it.
- An asset is a non-empty object whenever an address was found in it, so
  `if asset` is true of every asset the lookup returns.
-/

namespace EdgeSensor.Sensor

open EdgeSensor.Lib EdgeSensor.Py EdgeSensor.Parser

/-- `int(q)`. -/
def truncate (q : Rat) : Int := if 0 ≤ q then ⌊q⌋ else ⌈q⌉

/-- `MvpDetector`. -/
structure MvpDetector where
  siteId : String
  sensorId : String
  policy : PolicyObj
  rulesEnabled : Finset String := ∅
  inventory : AssetInventory := {}
  alertedOffline : Finset String := ∅
  alertedUnauthorized : Finset String := ∅
  alertedPortScan : Finset String := ∅
  eventSeq : Nat := 0
  startedAt : Rat := 0

/-- What the rules read besides the detector itself. -/
structure MvpView where
  doc : PolicyDoc
  whitelisted : String → Bool
  clock : Clock

/-- `_threshold`. -/
def PolicyDoc.threshold (doc : PolicyDoc) (key : String) (default : Rat) : Rat :=
  ((doc.thresholds.getD []).get? key).getD default

/-- `_global_allowlist`. -/
def PolicyDoc.allowlist (doc : PolicyDoc) (key : GlobalAllowlists → List String) : List String :=
  (key (doc.body.globalAllowlists.getD {})).map lower

/-- `_asset_for_ip`. -/
def PolicyDoc.assetForIp (doc : PolicyDoc) (ip : String) : Option Asset :=
  (doc.body.assets.getD []).find? fun asset => ip ∈ asset.addresses

/-- `_is_ephemeral_dst_port`. -/
def PolicyDoc.isEphemeralDstPort (doc : PolicyDoc) (dstPort : Nat) : Prop :=
  0 < truncate (doc.threshold "ot005_ephemeral_dst_min" 32768)
    ∧ truncate (doc.threshold "ot005_ephemeral_dst_min" 32768) ≤ dstPort

instance (doc : PolicyDoc) (dstPort : Nat) : Decidable (doc.isEphemeralDstPort dstPort) :=
  inferInstanceAs (Decidable (_ ∧ _))

/-- `_ip_whitelisted`. -/
def MvpView.ipWhitelisted (view : MvpView) (ip : String) : Prop :=
  lower ip ∈ view.doc.allowlist (·.ip) ∨ view.whitelisted ip = true

instance (view : MvpView) (ip : String) : Decidable (view.ipWhitelisted ip) :=
  inferInstanceAs (Decidable (_ ∨ _))

/-- The keyword arguments of `_event`. -/
structure EventFields where
  srcIp : String := ""
  dstIp : String := ""
  dstPort : Option Nat := none
  assetId : String := ""
  protocol : String := "passive"
  mac : String := ""
  evidence : List (String × EvidenceValue) := []
  riskScore : Int := 70

/-- `_event`: number, build and report one event. -/
def MvpDetector.event (clock : Clock) (rule : RuleId) (fields : EventFields) :
    Emitter MvpDetector SecurityEvent := fun d =>
  ({ d with eventSeq := d.eventSeq + 1 },
   [{ eventId := s!"evt-{clock.day}-mvp-{pad5 (d.eventSeq + 1)}"
      siteId := d.siteId
      sensorId := d.sensorId
      eventType := rule.meta.1
      severity := rule.meta.2.1
      ruleId := rule
      protocol := fields.protocol
      description := rule.meta.2.2
      assetId := fields.assetId
      srcIp := fields.srcIp
      dstIp := fields.dstIp
      dstPort := fields.dstPort
      riskScore := fields.riskScore
      evidence := if fields.mac ≠ "" ∧ ¬ fields.evidence.any (·.1 = "mac") then
          fields.evidence ++ [("mac", .text fields.mac)]
        else fields.evidence
      timestamp := clock.timestamp }])

namespace MvpDetector

/-- The pair key of two addresses. -/
def pairKey (src dst : String) : String := s!"{src}->{dst}"

/-- The shape of OT-001, OT-002, OT-004 and OT-005: the first sighting of a key is
recorded, and reported unless the key is allowed. -/
def firstSighting (clock : Clock) (rule : RuleId) (key : String)
    (known : AssetInventory → Finset String) (record : AssetInventory → AssetInventory)
    (allowed : Prop) [Decidable allowed] (fields : EventFields) :
    Emitter MvpDetector SecurityEvent := fun d =>
  if enabled d.rulesEnabled rule ∧ key ∉ known d.inventory then
    if allowed then ({ d with inventory := record d.inventory }, [])
    else event clock rule fields { d with inventory := record d.inventory }
  else (d, [])

/-- OT-001. -/
def newMac (view : MvpView) (obs : InventoryObservation) : Emitter MvpDetector SecurityEvent :=
  match truthy obs.srcMac with
  | none => fun d => (d, [])
  | some mac =>
    firstSighting view.clock .ot001 (lower mac) (·.knownMacs)
      (fun inv => { inv with knownMacs := insert (lower mac) inv.knownMacs })
      (lower mac ∈ view.doc.allowlist (·.mac))
      { mac := mac }

/-- OT-002. -/
def newIp (view : MvpView) (obs : InventoryObservation) : Emitter MvpDetector SecurityEvent :=
  match truthy obs.srcIp with
  | none => fun d => (d, [])
  | some srcIp =>
    firstSighting view.clock .ot002 srcIp (·.knownIps)
      (fun inv => { inv with knownIps := insert srcIp inv.knownIps })
      (view.ipWhitelisted srcIp)
      { srcIp := srcIp }

/-- OT-003: the entry under the lower-case MAC, against the packet's own address. -/
def mappingChanged (view : MvpView) (obs : InventoryObservation) :
    Emitter MvpDetector SecurityEvent := fun d =>
  match truthy obs.srcMac, truthy obs.srcIp with
  | some mac, some srcIp =>
    if enabled d.rulesEnabled .ot003 then
      match truthy (d.inventory.macToIp.get? (lower mac)) with
      | some previous =>
        if previous ≠ srcIp then
          event view.clock .ot003
            { mac := mac
              srcIp := srcIp
              evidence := [("previous_ip", .text previous), ("observed_ip", .text srcIp)]
              riskScore := 85 } d
        else (d, [])
      | none => (d, [])
    else (d, [])
  | _, _ => (d, [])

/-- OT-004. -/
def newPair (view : MvpView) (obs : InventoryObservation) : Emitter MvpDetector SecurityEvent :=
  match truthy obs.srcIp, truthy obs.dstIp with
  | some srcIp, some dstIp =>
    firstSighting view.clock .ot004 (pairKey srcIp dstIp) (·.knownPairs)
      (fun inv => { inv with knownPairs := insert (pairKey srcIp dstIp) inv.knownPairs })
      (lower (pairKey srcIp dstIp) ∈ view.doc.allowlist (·.communicationPairs))
      { srcIp := srcIp, dstIp := dstIp, evidence := [("pair", .text (pairKey srcIp dstIp))] }
  | _, _ => fun d => (d, [])

/-- The destination key of OT-005. -/
def portKey (dstIp : String) (dstPort : Nat) : String := s!"{dstIp}:{dstPort}"

/-- OT-005, behind the ephemeral-port gate. -/
def newDstPort (view : MvpView) (obs : InventoryObservation) :
    Emitter MvpDetector SecurityEvent :=
  match truthy obs.dstIp, obs.dstPort with
  | some dstIp, some dstPort =>
    if view.doc.isEphemeralDstPort dstPort then fun d => (d, [])
    else
      firstSighting view.clock .ot005 (portKey dstIp dstPort) (·.knownDstPorts)
        (fun inv => { inv with knownDstPorts := insert (portKey dstIp dstPort) inv.knownDstPorts })
        (toString dstPort ∈ view.doc.allowlist (·.ports)
          ∨ lower (portKey dstIp dstPort) ∈ view.doc.allowlist (·.ports))
        { srcIp := obs.srcIp.getD ""
          dstIp := dstIp
          dstPort := some dstPort
          evidence := [("destination", .text (portKey dstIp dstPort))] }
  | _, _ => fun d => (d, [])

/-- `float(self._threshold("port_scan_window_sec", 60))`. -/
def portScanWindow (doc : PolicyDoc) : Rat := doc.threshold "port_scan_window_sec" 60

/-- `int(self._threshold("port_scan_unique_ports", 10))`. -/
def portScanThreshold (doc : PolicyDoc) : Int := truncate (doc.threshold "port_scan_unique_ports" 10)

/-- OT-006: sample the port, prune, count, and alert once per source. -/
def portScan (view : MvpView) (obs : InventoryObservation) : Emitter MvpDetector SecurityEvent :=
  fun d =>
    match truthy obs.srcIp, obs.dstPort with
    | some srcIp, some dstPort =>
      if enabled d.rulesEnabled .ot006 then
        let sampled := d.inventory.recordPortScanSample srcIp dstPort view.clock.recordSample
        let unique := sampled.uniquePortsInWindow srcIp (portScanWindow view.doc)
          view.clock.uniquePorts
        let pruned : MvpDetector := { d with inventory := unique.1 }
        if portScanThreshold view.doc ≤ unique.2.card ∧ srcIp ∉ d.alertedPortScan then
          event view.clock .ot006
            { srcIp := srcIp
              evidence := [("unique_ports", .ports (unique.2.sort (· ≤ ·))),
                ("window_sec", .number (portScanWindow view.doc)),
                ("threshold", .int (portScanThreshold view.doc))]
              riskScore := 88 }
            { pruned with alertedPortScan := insert srcIp d.alertedPortScan }
        else (pruned, [])
      else (d, [])
    | _, _ => (d, [])

/-- OT-010: alert once per pair. -/
def unauthorizedAccess (view : MvpView) (obs : InventoryObservation) :
    Emitter MvpDetector SecurityEvent := fun d =>
  match truthy obs.srcIp, truthy obs.dstIp with
  | some srcIp, some dstIp =>
    if enabled d.rulesEnabled .ot010 then
      match view.doc.assetForIp dstIp with
      | none => (d, [])
      | some asset =>
        if srcIp ∉ asset.allowedPeers ∧ pairKey srcIp dstIp ∉ d.alertedUnauthorized then
          event view.clock .ot010
            { srcIp := srcIp
              dstIp := dstIp
              dstPort := obs.dstPort
              assetId := asset.assetId.getD ""
              evidence := [("relay_ip", .text dstIp)]
              riskScore := 90 }
            { d with alertedUnauthorized := insert (pairKey srcIp dstIp) d.alertedUnauthorized }
        else (d, [])
    else (d, [])
  | _, _ => (d, [])

/-- `evaluate_observation`. -/
def evaluateObservation (view : MvpView) (obs : InventoryObservation) :
    Emitter MvpDetector SecurityEvent :=
  ((newMac view obs).andThen <| (newIp view obs).andThen <| (mappingChanged view obs).andThen <|
    (newPair view obs).andThen <| (newDstPort view obs).andThen <| (portScan view obs).andThen <|
    unauthorizedAccess view obs)

/-- `evaluate_modbus` (OT-007). -/
def evaluateModbus (view : MvpView) (frame : Modbus.ModbusFrame) :
    Emitter MvpDetector SecurityEvent := fun d =>
  if enabled d.rulesEnabled .ot007 ∧ frame.isWrite then
    match view.doc.assetForIp frame.dstIp with
    | none => (d, [])
    | some asset =>
      if frame.srcIp ∈ asset.allowedPeers ∧ (asset.allowedModbusFunctionCodes = []
          ∨ frame.functionCode ∈ asset.allowedModbusFunctionCodes) then (d, [])
      else
        event view.clock .ot007
          { srcIp := frame.srcIp
            dstIp := frame.dstIp
            dstPort := some frame.dstPort
            assetId := asset.assetId.getD ""
            protocol := "modbus-tcp"
            evidence := [("function_code", .int frame.functionCode), ("unit_id", .int frame.unitId),
              ("baseline_write_count_per_hour", .number asset.normalWriteCountPerHour)]
            riskScore := 86 } d
  else (d, [])

/-! ## What each rule leaves alone, and what it reports -/

/-- What no rule changes: the policy reference, the rule set and the MAC table. -/
def config (d : MvpDetector) : PolicyObj × Finset String × Dict String String :=
  (d.policy, d.rulesEnabled, d.inventory.macToIp)

/-- The memory of OT-006. -/
def scanState (d : MvpDetector) : Dict String (List (Rat × Nat)) × Finset String :=
  (d.inventory.portScanEvents, d.alertedPortScan)

/-- The configuration and the memory of the two rules that latch. -/
def latchState (d : MvpDetector) :
    (PolicyObj × Finset String × Dict String String)
      × (Dict String (List (Rat × Nat)) × Finset String) × Finset String :=
  (d.config, d.scanState, d.alertedUnauthorized)

theorem event_preserves (clock : Clock) (rule : RuleId) (fields : EventFields) :
    (event clock rule fields).Preserves latchState := fun _ => rfl

theorem event_emitsOnly (clock : Clock) (rule : RuleId) (fields : EventFields) :
    (event clock rule fields).EmitsOnly (·.ruleId = rule) := by
  intro d e he
  rw [List.mem_singleton.mp he]

/-- A block whose condition does not hold. -/
theorem skip_preserves {β : Type} (proj : MvpDetector → β) :
    Emitter.Preserves (fun d : MvpDetector => (d, ([] : List SecurityEvent))) proj := fun _ => rfl

theorem skip_emitsOnly (p : SecurityEvent → Prop) :
    Emitter.EmitsOnly (fun d : MvpDetector => (d, ([] : List SecurityEvent))) p := by
  intro d e he
  cases he

section FirstSighting

variable (clock : Clock) (rule : RuleId) (key : String) (known : AssetInventory → Finset String)
  {record : AssetInventory → AssetInventory} (allowed : Prop) [Decidable allowed]
  (fields : EventFields)

/-- Recording a sighting touches neither the MAC table nor the port samples. -/
theorem firstSighting_preserves
    (hmac : ∀ inv, (record inv).macToIp = inv.macToIp)
    (hscan : ∀ inv, (record inv).portScanEvents = inv.portScanEvents) :
    (firstSighting clock rule key known record allowed fields).Preserves latchState := by
  have hrecord : ∀ d : MvpDetector,
      latchState { d with inventory := record d.inventory } = d.latchState := by
    intro d
    simp only [latchState, config, scanState, hmac, hscan]
  intro d
  unfold firstSighting
  split
  · split
    · exact hrecord d
    · rw [event_preserves]
      exact hrecord d
  · rfl

theorem firstSighting_emitsOnly :
    (firstSighting clock rule key known record allowed fields).EmitsOnly (·.ruleId = rule) := by
  intro d e he
  unfold firstSighting at he
  split at he
  · split at he
    · cases he
    · exact event_emitsOnly _ _ _ _ e he
  · cases he

end FirstSighting

theorem newMac_preserves (view : MvpView) (obs : InventoryObservation) :
    (newMac view obs).Preserves latchState := by
  unfold newMac
  split
  · exact skip_preserves _
  · exact firstSighting_preserves _ _ _ _ _ _ (fun _ => rfl) (fun _ => rfl)

theorem newMac_emitsOnly (view : MvpView) (obs : InventoryObservation) :
    (newMac view obs).EmitsOnly (·.ruleId = .ot001) := by
  unfold newMac
  split
  · exact skip_emitsOnly _
  · exact firstSighting_emitsOnly _ _ _ _ _ _

theorem newIp_preserves (view : MvpView) (obs : InventoryObservation) :
    (newIp view obs).Preserves latchState := by
  unfold newIp
  split
  · exact skip_preserves _
  · exact firstSighting_preserves _ _ _ _ _ _ (fun _ => rfl) (fun _ => rfl)

theorem newIp_emitsOnly (view : MvpView) (obs : InventoryObservation) :
    (newIp view obs).EmitsOnly (·.ruleId = .ot002) := by
  unfold newIp
  split
  · exact skip_emitsOnly _
  · exact firstSighting_emitsOnly _ _ _ _ _ _

theorem mappingChanged_preserves (view : MvpView) (obs : InventoryObservation) :
    (mappingChanged view obs).Preserves latchState := by
  intro d
  unfold mappingChanged
  split
  · split
    · split
      · split <;> rfl
      · rfl
    · rfl
  · rfl

theorem mappingChanged_emitsOnly (view : MvpView) (obs : InventoryObservation) :
    (mappingChanged view obs).EmitsOnly (·.ruleId = .ot003) := by
  intro d e he
  unfold mappingChanged at he
  split at he
  · split at he
    · split at he
      · split at he
        · exact event_emitsOnly _ _ _ _ e he
        · cases he
      · cases he
    · cases he
  · cases he

theorem newPair_preserves (view : MvpView) (obs : InventoryObservation) :
    (newPair view obs).Preserves latchState := by
  unfold newPair
  split
  · exact firstSighting_preserves _ _ _ _ _ _ (fun _ => rfl) (fun _ => rfl)
  · exact skip_preserves _

theorem newPair_emitsOnly (view : MvpView) (obs : InventoryObservation) :
    (newPair view obs).EmitsOnly (·.ruleId = .ot004) := by
  unfold newPair
  split
  · exact firstSighting_emitsOnly _ _ _ _ _ _
  · exact skip_emitsOnly _

theorem newDstPort_preserves (view : MvpView) (obs : InventoryObservation) :
    (newDstPort view obs).Preserves latchState := by
  unfold newDstPort
  split
  · split
    · exact skip_preserves _
    · exact firstSighting_preserves _ _ _ _ _ _ (fun _ => rfl) (fun _ => rfl)
  · exact skip_preserves _

theorem newDstPort_emitsOnly (view : MvpView) (obs : InventoryObservation) :
    (newDstPort view obs).EmitsOnly (·.ruleId = .ot005) := by
  unfold newDstPort
  split
  · split
    · exact skip_emitsOnly _
    · exact firstSighting_emitsOnly _ _ _ _ _ _
  · exact skip_emitsOnly _

theorem portScan_preserves (view : MvpView) (obs : InventoryObservation) :
    (portScan view obs).Preserves (fun d => (d.config, d.alertedUnauthorized)) := by
  intro d
  unfold portScan
  split
  · split
    · simp only
      split <;> rfl
    · rfl
  · rfl

theorem portScan_emitsOnly (view : MvpView) (obs : InventoryObservation) :
    (portScan view obs).EmitsOnly (·.ruleId = .ot006) := by
  intro d e he
  unfold portScan at he
  split at he
  · split at he
    · simp only at he
      split at he
      · exact event_emitsOnly _ _ _ _ e he
      · cases he
    · cases he
  · cases he

theorem unauthorizedAccess_preserves (view : MvpView) (obs : InventoryObservation) :
    (unauthorizedAccess view obs).Preserves (fun d => (d.config, d.scanState)) := by
  intro d
  unfold unauthorizedAccess
  split
  · split
    · split
      · rfl
      · split <;> rfl
    · rfl
  · rfl

theorem unauthorizedAccess_emitsOnly (view : MvpView) (obs : InventoryObservation) :
    (unauthorizedAccess view obs).EmitsOnly (·.ruleId = .ot010) := by
  intro d e he
  unfold unauthorizedAccess at he
  split at he
  · split at he
    · split at he
      · cases he
      · split at he
        · exact event_emitsOnly _ _ _ _ e he
        · cases he
    · cases he
  · cases he

/-- The rules leave the configuration and the MAC table alone. -/
theorem evaluateObservation_preserves (view : MvpView) (obs : InventoryObservation) :
    (evaluateObservation view obs).Preserves config :=
  ((newMac_preserves view obs).comp (·.1)).andThen <|
    ((newIp_preserves view obs).comp (·.1)).andThen <|
    ((mappingChanged_preserves view obs).comp (·.1)).andThen <|
    ((newPair_preserves view obs).comp (·.1)).andThen <|
    ((newDstPort_preserves view obs).comp (·.1)).andThen <|
    ((portScan_preserves view obs).comp (·.1)).andThen
    ((unauthorizedAccess_preserves view obs).comp (·.1))

theorem evaluateObservation_emitsOnly (view : MvpView) (obs : InventoryObservation) :
    (evaluateObservation view obs).EmitsOnly (·.ruleId.phase = .observation) := by
  refine ((newMac_emitsOnly view obs).mono ?_).andThen <|
    ((newIp_emitsOnly view obs).mono ?_).andThen <|
    ((mappingChanged_emitsOnly view obs).mono ?_).andThen <|
    ((newPair_emitsOnly view obs).mono ?_).andThen <|
    ((newDstPort_emitsOnly view obs).mono ?_).andThen <|
    ((portScan_emitsOnly view obs).mono ?_).andThen
    ((unauthorizedAccess_emitsOnly view obs).mono ?_)
  all_goals
    intro e he
    rw [he]
    rfl

/-! ## What OT-003, OT-006 and OT-010 do -/

/-- An OT-003 event about the address `previous` giving way to `observed`. -/
def ReportsChange (previous observed : String) (e : SecurityEvent) : Prop :=
  e.ruleId = .ot003 ∧ ("previous_ip", .text previous) ∈ e.evidence
    ∧ ("observed_ip", .text observed) ∈ e.evidence

/-- OT-003 reports a change exactly when the packet has a MAC and an address, and the
table holds another address under the lower-case MAC. -/
theorem exists_mappingChanged (view : MvpView) (obs : InventoryObservation) (d : MvpDetector)
    (henabled : enabled d.rulesEnabled .ot003) (previous observed : String) :
    (∃ e ∈ (mappingChanged view obs d).2, ReportsChange previous observed e)
      ↔ truthy obs.srcIp = some observed ∧ previous ≠ observed
        ∧ ∃ mac, truthy obs.srcMac = some mac
          ∧ truthy (d.inventory.macToIp.get? (lower mac)) = some previous := by
  unfold mappingChanged
  cases hmac : truthy obs.srcMac with
  | none => simp
  | some mac =>
    cases hip : truthy obs.srcIp with
    | none => simp
    | some srcIp =>
      simp only [if_pos henabled]
      cases hprev : truthy (d.inventory.macToIp.get? (lower mac)) with
      | none => simp [hprev]
      | some prev =>
        have hmac' : mac ≠ "" := (truthy_eq_some.mp hmac).2
        by_cases hne : prev = srcIp
        · simp [hne, hprev]
          intro h1 h2 h3
          exact h2 (h3 ▸ h1)
        · simp only [hne, ne_eq, not_false_eq_true, if_true, event, List.mem_singleton,
            exists_eq_left, ReportsChange, true_and]
          simp [hmac', hprev]
          constructor
          · intro h
            obtain ⟨rfl, rfl⟩ := h
            exact ⟨rfl, hne, rfl⟩
          · intro h
            exact ⟨h.2.2.symm, h.1.symm⟩

/-- Every event of OT-003 says which address gave way to which. -/
theorem mappingChanged_reports (view : MvpView) (obs : InventoryObservation) (d : MvpDetector) :
    ∀ e ∈ (mappingChanged view obs d).2, ∃ previous observed, ReportsChange previous observed e := by
  intro e he
  unfold mappingChanged at he
  split at he
  next mac srcIp _ _ =>
    split at he
    · split at he
      next previous _ =>
        split at he
        · rw [List.mem_singleton.mp he]
          refine ⟨previous, srcIp, rfl, ?_, ?_⟩ <;> simp only <;> split <;> simp
        · cases he
      next => cases he
    · cases he
  next => cases he

/-- The ports OT-006 counts for a packet: the source's samples in the window, with
the packet's own added. -/
def scannedPorts (view : MvpView) (d : MvpDetector) (srcIp : String) (dstPort : Nat) : Finset Nat :=
  ((d.inventory.recordPortScanSample srcIp dstPort view.clock.recordSample).uniquePortsInWindow
    srcIp (portScanWindow view.doc) view.clock.uniquePorts).2

/-- What makes OT-006 act on a source: enough ports in the window. -/
def PortScanned (view : MvpView) (obs : InventoryObservation) (d : MvpDetector) (srcIp : String) :
    Prop :=
  truthy obs.srcIp = some srcIp ∧ ∃ dstPort, obs.dstPort = some dstPort
    ∧ portScanThreshold view.doc ≤ (scannedPorts view d srcIp dstPort).card

/-- What makes OT-010 act on a pair: the destination is an asset, and the source is
not one of its peers. -/
def Unauthorized (view : MvpView) (obs : InventoryObservation) (pair : String) : Prop :=
  ∃ srcIp dstIp asset, truthy obs.srcIp = some srcIp ∧ truthy obs.dstIp = some dstIp
    ∧ pairKey srcIp dstIp = pair ∧ view.doc.assetForIp dstIp = some asset
    ∧ srcIp ∉ asset.allowedPeers

/-- OT-006 latches its source when it acts, and reports a source that was not latched. -/
theorem portScan_latches (view : MvpView) (obs : InventoryObservation) (d : MvpDetector) :
    LatchStep d.alertedPortScan (portScan view obs d).1.alertedPortScan
      (fun k => enabled d.rulesEnabled .ot006 ∧ PortScanned view obs d k)
      (fun k => ∃ e ∈ (portScan view obs d).2, e.ruleId = .ot006 ∧ e.srcIp = k) := by
  unfold portScan
  split
  next srcIp dstPort hip hport =>
    -- the packet's source is the only key the rule can act on
    have hscanned : ∀ k, PortScanned view obs d k
        ↔ k = srcIp ∧ portScanThreshold view.doc ≤ (scannedPorts view d srcIp dstPort).card := by
      intro k
      unfold PortScanned
      rw [hip, hport]
      constructor
      · rintro ⟨heq, port, hport', hcard⟩
        cases heq
        cases hport'
        exact ⟨rfl, hcard⟩
      · rintro ⟨rfl, hcard⟩
        exact ⟨rfl, dstPort, rfl, hcard⟩
    by_cases henabled : enabled d.rulesEnabled .ot006
    · rw [if_pos henabled]
      simp only
      split
      next h =>
        refine .fires h.2 (fun k => ?_) (fun k => ?_)
        · rw [hscanned]
          constructor
          · intro hk
            exact hk.2.1
          · intro hk
            exact ⟨henabled, hk, h.1⟩
        · simp [event, eq_comm]
      next h =>
        refine .quiet (by simp) fun k hk => ?_
        obtain ⟨rfl, hcard⟩ := (hscanned k).mp hk.2
        by_contra hfresh
        exact h ⟨hcard, hfresh⟩
    · rw [if_neg henabled]
      exact .quiet (by simp) fun k hk => absurd hk.1 henabled
  next hnone =>
    refine .quiet (by simp) fun k hk => ?_
    obtain ⟨-, hip, port, hport, -⟩ := hk
    exact absurd hport (hnone k port hip)

/-- OT-010 latches its pair when it acts, and reports a pair that was not latched. -/
theorem unauthorizedAccess_latches (view : MvpView) (obs : InventoryObservation)
    (d : MvpDetector) :
    LatchStep d.alertedUnauthorized (unauthorizedAccess view obs d).1.alertedUnauthorized
      (fun k => enabled d.rulesEnabled .ot010 ∧ Unauthorized view obs k)
      (fun k => ∃ e ∈ (unauthorizedAccess view obs d).2,
        e.ruleId = .ot010 ∧ pairKey e.srcIp e.dstIp = k) := by
  unfold unauthorizedAccess
  split
  next srcIp dstIp hsrc hdst =>
    -- the packet's pair is the only key the rule can act on
    have hpair : ∀ k, Unauthorized view obs k ↔ k = pairKey srcIp dstIp
        ∧ ∃ asset, view.doc.assetForIp dstIp = some asset ∧ srcIp ∉ asset.allowedPeers := by
      intro k
      unfold Unauthorized
      rw [hsrc, hdst]
      constructor
      · rintro ⟨_, _, asset, hs, hd, rfl, hasset, hpeer⟩
        cases hs
        cases hd
        exact ⟨rfl, asset, hasset, hpeer⟩
      · rintro ⟨rfl, asset, hasset, hpeer⟩
        exact ⟨srcIp, dstIp, asset, rfl, rfl, rfl, hasset, hpeer⟩
    by_cases henabled : enabled d.rulesEnabled .ot010
    · rw [if_pos henabled]
      cases hasset : view.doc.assetForIp dstIp with
      | none =>
        refine .quiet (by simp) fun k hk => ?_
        obtain ⟨-, asset, hsome, -⟩ := (hpair k).mp hk.2
        rw [hasset] at hsome
        cases hsome
      | some asset =>
        simp only
        split
        next h =>
          refine .fires h.2 (fun k => ?_) (fun k => ?_)
          · rw [hpair]
            constructor
            · intro hk
              exact hk.2.1
            · intro hk
              exact ⟨henabled, hk, asset, hasset, h.1⟩
          · simp [event, eq_comm]
        next h =>
          refine .quiet (by simp) fun k hk => ?_
          obtain ⟨rfl, asset', hsome, hpeer⟩ := (hpair k).mp hk.2
          rw [hasset] at hsome
          cases hsome
          by_contra hfresh
          exact h ⟨hpeer, hfresh⟩
    · rw [if_neg henabled]
      exact .quiet (by simp) fun k hk => absurd hk.1 henabled
  next hnone =>
    refine .quiet (by simp) fun k hk => ?_
    obtain ⟨-, srcIp, dstIp, _, hsrc, hdst, -⟩ := hk
    exact absurd hdst (hnone srcIp dstIp hsrc)

/-- OT-003 finds the configuration and the table as the rules before it did. -/
theorem mem_evaluateObservation_ot003 (view : MvpView) (obs : InventoryObservation)
    (d : MvpDetector) : ∃ d' : MvpDetector, d'.config = d.config
      ∧ ∀ e, e.ruleId = .ot003 →
        (e ∈ (evaluateObservation view obs d).2 ↔ e ∈ (mappingChanged view obs d').2) := by
  have hrest : ((newPair view obs).andThen <| (newDstPort view obs).andThen <|
      (portScan view obs).andThen <| unauthorizedAccess view obs).EmitsOnly (¬ ·.ruleId = .ot003) :=
    ((newPair_emitsOnly view obs).other (by decide)).andThen <|
      ((newDstPort_emitsOnly view obs).other (by decide)).andThen <|
      ((portScan_emitsOnly view obs).other (by decide)).andThen
      ((unauthorizedAccess_emitsOnly view obs).other (by decide))
  refine ⟨_, (((newMac_preserves view obs).comp (·.1)).andThen
    ((newIp_preserves view obs).comp (·.1))) d, fun e he => ?_⟩
  unfold evaluateObservation
  rw [Emitter.mem_andThen_skip (newMac_emitsOnly view obs) he (by decide),
    Emitter.mem_andThen_skip (newIp_emitsOnly view obs) he (by decide),
    Emitter.mem_andThen_left (p := (·.ruleId = .ot003)) hrest he]
  rfl

/-- OT-006 finds the rule set and its own memory as they were, and no later rule
touches its memory. -/
theorem evaluateObservation_portScan (view : MvpView) (obs : InventoryObservation)
    (d : MvpDetector) : ∃ d' : MvpDetector, d'.rulesEnabled = d.rulesEnabled
      ∧ d'.scanState = d.scanState
      ∧ (evaluateObservation view obs d).1.scanState = (portScan view obs d').1.scanState
      ∧ ∀ e, e.ruleId = .ot006 →
        (e ∈ (evaluateObservation view obs d).2 ↔ e ∈ (portScan view obs d').2) := by
  have hkept := ((newMac_preserves view obs).andThen <| (newIp_preserves view obs).andThen <|
    (mappingChanged_preserves view obs).andThen <| (newPair_preserves view obs).andThen <|
    newDstPort_preserves view obs) d
  refine ⟨_, congrArg (·.1.2.1) hkept, congrArg (·.2.1) hkept,
    congrArg (·.2) (unauthorizedAccess_preserves view obs _), fun e he => ?_⟩
  unfold evaluateObservation
  rw [Emitter.mem_andThen_skip (newMac_emitsOnly view obs) he (by decide),
    Emitter.mem_andThen_skip (newIp_emitsOnly view obs) he (by decide),
    Emitter.mem_andThen_skip (mappingChanged_emitsOnly view obs) he (by decide),
    Emitter.mem_andThen_skip (newPair_emitsOnly view obs) he (by decide),
    Emitter.mem_andThen_skip (newDstPort_emitsOnly view obs) he (by decide),
    Emitter.mem_andThen_stop (unauthorizedAccess_emitsOnly view obs) he (by decide)]
  rfl

/-- OT-010 finds the rule set and its latch as they were. -/
theorem evaluateObservation_unauthorizedAccess (view : MvpView) (obs : InventoryObservation)
    (d : MvpDetector) : ∃ d' : MvpDetector, d'.rulesEnabled = d.rulesEnabled
      ∧ d'.alertedUnauthorized = d.alertedUnauthorized
      ∧ (evaluateObservation view obs d).1.alertedUnauthorized
        = (unauthorizedAccess view obs d').1.alertedUnauthorized
      ∧ ∀ e, e.ruleId = .ot010 →
        (e ∈ (evaluateObservation view obs d).2 ↔ e ∈ (unauthorizedAccess view obs d').2) := by
  have hkept := (((newMac_preserves view obs).comp fun l => (l.1, l.2.2)).andThen <|
    ((newIp_preserves view obs).comp fun l => (l.1, l.2.2)).andThen <|
    ((mappingChanged_preserves view obs).comp fun l => (l.1, l.2.2)).andThen <|
    ((newPair_preserves view obs).comp fun l => (l.1, l.2.2)).andThen <|
    ((newDstPort_preserves view obs).comp fun l => (l.1, l.2.2)).andThen <|
    portScan_preserves view obs) d
  refine ⟨_, congrArg (·.1.2.1) hkept, congrArg (·.2) hkept, rfl, fun e he => ?_⟩
  unfold evaluateObservation
  rw [Emitter.mem_andThen_skip (newMac_emitsOnly view obs) he (by decide),
    Emitter.mem_andThen_skip (newIp_emitsOnly view obs) he (by decide),
    Emitter.mem_andThen_skip (mappingChanged_emitsOnly view obs) he (by decide),
    Emitter.mem_andThen_skip (newPair_emitsOnly view obs) he (by decide),
    Emitter.mem_andThen_skip (newDstPort_emitsOnly view obs) he (by decide),
    Emitter.mem_andThen_skip (portScan_emitsOnly view obs) he (by decide)]

theorem scannedPorts_eq (view : MvpView) (d : MvpDetector) (srcIp : String) (dstPort : Nat) :
    scannedPorts view d srcIp dstPort
      = ((AssetInventory.inWindow (d.inventory.samples srcIp ++ [(view.clock.recordSample, dstPort)])
        (portScanWindow view.doc) view.clock.uniquePorts).map (·.2)).toFinset := by
  unfold scannedPorts AssetInventory.uniquePortsInWindow
  rw [AssetInventory.samples_recordPortScanSample]

/-- What OT-006 counts depends on its own memory only. -/
theorem portScanned_congr {view : MvpView} {obs : InventoryObservation} {d d' : MvpDetector}
    (h : d'.inventory.portScanEvents = d.inventory.portScanEvents) (k : String) :
    PortScanned view obs d' k ↔ PortScanned view obs d k := by
  unfold PortScanned
  simp only [scannedPorts_eq, AssetInventory.samples, h]

theorem evaluateModbus_preserves (view : MvpView) (frame : Modbus.ModbusFrame) :
    (evaluateModbus view frame).Preserves latchState := by
  intro d
  unfold evaluateModbus
  split
  · split
    · rfl
    · split <;> rfl
  · rfl

theorem evaluateModbus_emitsOnly (view : MvpView) (frame : Modbus.ModbusFrame) :
    (evaluateModbus view frame).EmitsOnly (·.ruleId = .ot007) := by
  intro d e he
  unfold evaluateModbus at he
  split at he
  · split at he
    · cases he
    · split at he
      · cases he
      · exact event_emitsOnly _ _ _ _ e he
  · cases he

end MvpDetector

end EdgeSensor.Sensor
