import EdgeSensor.Lib.History
import EdgeSensor.Lib.Run
import EdgeSensor.Sensor.MvpWindow

/-!
# The MVP detector over a run

What `process` and `flush_features` call on the detector, packet after packet and window
after window, under one policy: `run` folds over these calls with their times. The rules
of a window read what packets leave in the inventory (when an address was last seen, how
many packets there were); no rule of a packet touches that (`evaluateObservation_traffic`).
-/

namespace EdgeSensor.Sensor.MvpDetector

open EdgeSensor.Lib EdgeSensor.Parser

/-- The calls on the detector. A packet is observed, its observation evaluated, and its
Modbus frame if there is one; `clock` has what the calls other than `observe` read. -/
inductive Call where
  | packet (whitelisted : String → Bool) (clock : Clock) (obs : InventoryObservation)
      (modbus : Option Modbus.ModbusFrame)
  | window (clock : Clock) (windowSec : Int)

/-- `inventory.observe`. -/
def observe (obs : InventoryObservation) (now : Rat) (d : MvpDetector) : MvpDetector :=
  { d with inventory := d.inventory.observe obs now }

/-- `evaluate_modbus`, if the packet is a Modbus frame. -/
def evaluateFrame (view : MvpView) (modbus : Option Modbus.ModbusFrame) :
    Emitter MvpDetector SecurityEvent :=
  match modbus with
  | none => fun d => (d, [])
  | some frame => evaluateModbus view frame

/-- The detector after one call. -/
def call (doc : PolicyDoc) (d : MvpDetector) (e : Rat × Call) : MvpDetector :=
  match e.2 with
  | .packet whitelisted clock obs modbus =>
    ((evaluateObservation ⟨doc, whitelisted, clock⟩ obs).andThen
      (evaluateFrame ⟨doc, whitelisted, clock⟩ modbus) (d.observe obs e.1)).1
  | .window clock windowSec => (evaluateWindow doc clock e.1 windowSec d).1

/-- The detector after a run. -/
def run (doc : PolicyDoc) (d : MvpDetector) (h : History Rat Call) : MvpDetector :=
  h.foldl (call doc) d

/-! ## What the rules of a window read, and the rules of a packet leave alone -/

/-- What the rules of a window read, and their latch. -/
def traffic (d : MvpDetector) :
    (Dict String Rat × Nat) × Finset String × Finset String × Rat :=
  ((d.inventory.lastSeenByIp, d.inventory.windowPacketCount), d.alertedOffline, d.rulesEnabled,
    d.startedAt)

theorem event_traffic (clock : Clock) (rule : RuleId) (fields : EventFields) :
    (event clock rule fields).Preserves traffic := fun _ => rfl

/-- Recording a sighting touches neither the stamps nor the count. -/
theorem firstSighting_traffic (clock : Clock) (rule : RuleId) (key : String)
    (known : AssetInventory → Finset String) {record : AssetInventory → AssetInventory}
    (allowed : Prop) [Decidable allowed] (fields : EventFields)
    (hseen : ∀ inv, (record inv).lastSeenByIp = inv.lastSeenByIp)
    (hcount : ∀ inv, (record inv).windowPacketCount = inv.windowPacketCount) :
    (firstSighting clock rule key known record allowed fields).Preserves traffic := by
  have hrecord : ∀ d : MvpDetector,
      traffic { d with inventory := record d.inventory } = d.traffic := by
    intro d
    simp only [traffic, hseen, hcount]
  intro d
  unfold firstSighting
  split
  · split
    · exact hrecord d
    · rw [event_traffic]
      exact hrecord d
  · rfl

section Packet

variable (view : MvpView) (obs : InventoryObservation)

theorem newMac_traffic : (newMac view obs).Preserves traffic := by
  unfold newMac
  split
  · exact skip_preserves _
  · exact firstSighting_traffic _ _ _ _ _ _ (fun _ => rfl) (fun _ => rfl)

theorem newIp_traffic : (newIp view obs).Preserves traffic := by
  unfold newIp
  split
  · exact skip_preserves _
  · exact firstSighting_traffic _ _ _ _ _ _ (fun _ => rfl) (fun _ => rfl)

theorem mappingChanged_traffic : (mappingChanged view obs).Preserves traffic := by
  intro d
  unfold mappingChanged
  split
  · split
    · split
      · split <;> rfl
      · rfl
    · rfl
  · rfl

theorem newPair_traffic : (newPair view obs).Preserves traffic := by
  unfold newPair
  split
  · exact firstSighting_traffic _ _ _ _ _ _ (fun _ => rfl) (fun _ => rfl)
  · exact skip_preserves _

theorem newDstPort_traffic : (newDstPort view obs).Preserves traffic := by
  unfold newDstPort
  split
  · split
    · exact skip_preserves _
    · exact firstSighting_traffic _ _ _ _ _ _ (fun _ => rfl) (fun _ => rfl)
  · exact skip_preserves _

theorem portScan_traffic : (portScan view obs).Preserves traffic := by
  intro d
  unfold portScan
  split
  · split
    · simp only
      split <;> rfl
    · rfl
  · rfl

theorem unauthorizedAccess_traffic : (unauthorizedAccess view obs).Preserves traffic := by
  intro d
  unfold unauthorizedAccess
  split
  · split
    · split
      · rfl
      · split <;> rfl
    · rfl
  · rfl

theorem evaluateObservation_traffic : (evaluateObservation view obs).Preserves traffic :=
  (newMac_traffic view obs).andThen <| (newIp_traffic view obs).andThen <|
    (mappingChanged_traffic view obs).andThen <| (newPair_traffic view obs).andThen <|
    (newDstPort_traffic view obs).andThen <| (portScan_traffic view obs).andThen
    (unauthorizedAccess_traffic view obs)

theorem evaluateFrame_traffic (modbus : Option Modbus.ModbusFrame) :
    (evaluateFrame view modbus).Preserves traffic := by
  unfold evaluateFrame
  split
  · exact skip_preserves _
  · intro d
    unfold evaluateModbus
    split
    · split
      · rfl
      · split <;> rfl
    · rfl

end Packet

/-- A packet leaves what `observe` recorded. -/
theorem call_packet_traffic (doc : PolicyDoc) (d : MvpDetector) (now : Rat)
    (whitelisted : String → Bool) (clock : Clock) (obs : InventoryObservation)
    (modbus : Option Modbus.ModbusFrame) :
    (call doc d (now, .packet whitelisted clock obs modbus)).traffic = (d.observe obs now).traffic :=
  (evaluateObservation_traffic _ obs).andThen (evaluateFrame_traffic _ modbus) _

/-! ## What a window leaves alone -/

/-- What no rule of a window changes. -/
def windowFrame (d : MvpDetector) : (Dict String Rat × Nat) × Finset String × Rat :=
  ((d.inventory.lastSeenByIp, d.inventory.windowPacketCount), d.rulesEnabled, d.startedAt)

theorem assetRate_frame (doc : PolicyDoc) (clock : Clock) (windowSec : Int) (asset : Asset) :
    (assetRate doc clock windowSec asset).Preserves traffic := by
  intro d
  unfold assetRate
  split
  · rfl
  · split <;> rfl

theorem relaySilent_frame (clock : Clock) (now : Rat) (relay : String × Asset) :
    (relaySilent clock now relay).Preserves windowFrame := by
  intro d
  unfold relaySilent
  simp only
  split
  · rfl
  · split <;> rfl

theorem checkTrafficRate_frame (doc : PolicyDoc) (clock : Clock) (windowSec : Int) :
    (checkTrafficRate doc clock windowSec).Preserves traffic :=
  Emitter.forEach_preserves (assetRate_frame doc clock windowSec) _

theorem checkRelayOffline_frame (doc : PolicyDoc) (clock : Clock) (now : Rat) :
    (checkRelayOffline doc clock now).Preserves windowFrame := by
  intro d
  unfold checkRelayOffline
  split
  · rfl
  · exact Emitter.forEach_preserves (relaySilent_frame clock now) _ d

theorem whenEnabled_preserves {β : Type} {rule : RuleId} {f : Emitter MvpDetector SecurityEvent}
    {proj : MvpDetector → β} (h : f.Preserves proj) : (whenEnabled rule f).Preserves proj :=
  (whenEnabled_spec (p := fun _ => True) ⟨h, fun _ _ _ => trivial⟩).1

theorem whenEnabled_emitsOnly {rule : RuleId} {f : Emitter MvpDetector SecurityEvent}
    {p : SecurityEvent → Prop} (h : f.EmitsOnly p) : (whenEnabled rule f).EmitsOnly p :=
  (@whenEnabled_spec Unit rule f (fun _ => ()) p ⟨fun _ => rfl, h⟩).2

end EdgeSensor.Sensor.MvpDetector
