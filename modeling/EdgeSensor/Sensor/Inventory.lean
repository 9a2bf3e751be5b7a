import EdgeSensor.Lib.Dict
import EdgeSensor.Parser.Packet
import EdgeSensor.Sensor.Events
import Mathlib.Data.Finset.Basic
import Mathlib.Data.Finset.Image
import Mathlib.Data.Rat.Defs
import Mathlib.Algebra.Order.Ring.Rat

/-!
# The asset inventory

`src/assets/inventory.py`: what the sensor has seen, as the MVP rules use it.
`observe` records a packet and `mac_to_ip` is part of what it records; its key is
the MAC exactly as the packet carried it.

Mirroring notes:
- `if src_ip` is false for the empty string, so the dictionaries take a value only
  when it is present and not empty (`truthy`).
- The sample lists keep insertion order; pruning filters them.
-/

namespace EdgeSensor.Sensor

open EdgeSensor.Lib EdgeSensor.Parser

/-- `InventoryObservation`. -/
structure InventoryObservation where
  srcMac : Option String
  srcIp : Option String
  dstIp : Option String
  dstPort : Option Nat
  protocol : Option L4Protocol
  deriving DecidableEq, Repr

/-- `AssetInventory`. -/
structure AssetInventory where
  macToIp : Dict String String := []
  knownMacs : Finset String := ∅
  knownIps : Finset String := ∅
  knownPairs : Finset String := ∅
  knownDstPorts : Finset String := ∅
  lastSeenByIp : Dict String Rat := []
  windowPacketCount : Nat := 0
  portScanEvents : Dict String (List (Rat × Nat)) := []
  deriving DecidableEq

namespace AssetInventory

/-- Record that an address was seen, if there is one. -/
def seen (ip : Option String) (now : Rat) (lastSeen : Dict String Rat) : Dict String Rat :=
  match truthy ip with
  | none => lastSeen
  | some a => lastSeen.set a now

/-- `observe`, the part that changes the inventory; it hands its arguments back. -/
def observe (inv : AssetInventory) (obs : InventoryObservation) (now : Rat) : AssetInventory :=
  { inv with
    windowPacketCount := inv.windowPacketCount + 1
    lastSeenByIp := seen obs.dstIp now (seen obs.srcIp now inv.lastSeenByIp)
    macToIp := match truthy obs.srcMac, truthy obs.srcIp with
      | some mac, some ip => inv.macToIp.set mac ip
      | _, _ => inv.macToIp }

/-- The samples recorded for a source. -/
def samples (inv : AssetInventory) (srcIp : String) : List (Rat × Nat) :=
  (inv.portScanEvents.get? srcIp).getD []

/-- `record_port_scan_sample`. -/
def recordPortScanSample (inv : AssetInventory) (srcIp : String) (dstPort : Nat) (now : Rat) :
    AssetInventory :=
  { inv with portScanEvents :=
      inv.portScanEvents.set srcIp (inv.samples srcIp ++ [(now, dstPort)]) }

/-- The samples that are not older than the window. -/
def inWindow (samples : List (Rat × Nat)) (windowSec now : Rat) : List (Rat × Nat) :=
  samples.filter fun sample => now - windowSec ≤ sample.1

/-- `unique_ports_in_window`: prune the source's samples, then collect their ports. -/
def uniquePortsInWindow (inv : AssetInventory) (srcIp : String) (windowSec now : Rat) :
    AssetInventory × Finset Nat :=
  let kept := inWindow (inv.samples srcIp) windowSec now
  ({ inv with portScanEvents := inv.portScanEvents.set srcIp kept }, (kept.map (·.2)).toFinset)

/-- `reset_window`. -/
def resetWindow (inv : AssetInventory) : AssetInventory := { inv with windowPacketCount := 0 }

theorem samples_recordPortScanSample (inv : AssetInventory) (srcIp : String) (dstPort : Nat)
    (now : Rat) : (inv.recordPortScanSample srcIp dstPort now).samples srcIp
      = inv.samples srcIp ++ [(now, dstPort)] := by
  unfold recordPortScanSample samples
  rw [Dict.get?_set_self]
  rfl

end AssetInventory

end EdgeSensor.Sensor
