import EdgeSensor.Lib.Dict
import EdgeSensor.Py.Text
import Mathlib.Data.List.Infix

/-!
# ATT&CK techniques of the detection rules

`src/coverage/mitre_map.py`: the table from rule ids to techniques, and the keywords that
decide for a rule that is not in it.

Mirroring notes:
- `upper` is the ASCII one: rule ids, event types and descriptions are ASCII.
-/

namespace EdgeSensor.Sensor

open EdgeSensor.Lib EdgeSensor.Py

/-- One technique of the table. -/
structure Technique where
  id : String
  technique : String
  tactic : String
  deriving DecidableEq

/-! The techniques of the table, each under its own name. -/

namespace Technique

def connectionEnumeration : Technique :=
  ⟨"T0840", "Network Connection Enumeration", "Discovery"⟩
def adversaryInTheMiddle : Technique := ⟨"T0830", "Adversary-in-the-Middle", "Collection"⟩
def systemDiscovery : Technique := ⟨"T0846", "Remote System Discovery", "Discovery"⟩
def unauthorizedCommand : Technique :=
  ⟨"T0855", "Unauthorized Command Message", "Impair Process Control"⟩
def modifyParameter : Technique := ⟨"T0836", "Modify Parameter", "Impair Process Control"⟩
def denialOfService : Technique := ⟨"T0814", "Denial of Service", "Inhibit Response Function"⟩
def deviceRestart : Technique := ⟨"T0816", "Device Restart/Shutdown", "Inhibit Response Function"⟩
def validAccounts : Technique := ⟨"T0859", "Valid Accounts", "Lateral Movement"⟩
def spoofReporting : Technique := ⟨"T0856", "Spoof Reporting Message", "Impair Process Control"⟩
def denialOfControl : Technique := ⟨"T0813", "Denial of Control", "Inhibit Response Function"⟩
def denialOfView : Technique := ⟨"T0815", "Denial of View", "Inhibit Response Function"⟩
def commonPort : Technique := ⟨"T0885", "Commonly Used Port", "Command and Control"⟩

end Technique

open Technique

/-- `MITRE_ICS`. -/
def MITRE_ICS : Dict String (List Technique) := [
  ("OT-001", [connectionEnumeration]),
  ("OT-002", [connectionEnumeration]),
  ("OT-003", [adversaryInTheMiddle]),
  ("OT-004", [connectionEnumeration]),
  ("OT-005", [systemDiscovery]),
  ("OT-006", [systemDiscovery]),
  ("OT-007", [unauthorizedCommand, modifyParameter]),
  ("OT-008", [denialOfService]),
  ("OT-009", [deviceRestart]),
  ("OT-010", [validAccounts, unauthorizedCommand]),
  ("OT-011", [spoofReporting]),
  ("OT-012", [unauthorizedCommand, spoofReporting]),
  ("OT-013", [spoofReporting]),
  ("OT-014", [validAccounts, unauthorizedCommand]),
  ("OT-015", [denialOfService]),
  ("OT-016", [unauthorizedCommand, modifyParameter]),
  ("OT-017", [denialOfControl, denialOfView]),
  ("OT-018", [validAccounts, unauthorizedCommand]),
  ("OT-019", [commonPort])]

/-- The keywords of `KEYWORD_FALLBACK`, in the order they are tried, without the default. -/
def KEYWORD_FALLBACK : List (String × List Technique) := [
  ("GOOSE", [spoofReporting]),
  ("MMS", [unauthorizedCommand]),
  ("MODBUS", [modifyParameter]),
  ("IOC", [commonPort]),
  ("SCAN", [systemDiscovery])]

/-- `KEYWORD_FALLBACK["DEFAULT"]`. -/
def DEFAULT_TECHNIQUES : List Technique := [connectionEnumeration]

/-- `techniques_for`. -/
def techniquesFor (ruleId eventType description : String) : List Technique :=
  match MITRE_ICS.get? (upper (strip ruleId)) with
  | some techniques => techniques
  | none =>
    let blob := upper s!"{ruleId} {eventType} {description}"
    match KEYWORD_FALLBACK.find? fun entry => entry.1.toList <:+: blob.toList with
    | some entry => entry.2
    | none => DEFAULT_TECHNIQUES

example : techniquesFor "OT-999" "PORT_SCAN_DETECTED" "" = [systemDiscovery] := by decide

end EdgeSensor.Sensor
