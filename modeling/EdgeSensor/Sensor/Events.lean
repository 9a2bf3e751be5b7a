import Mathlib.Data.Finset.Basic
import Mathlib.Data.Rat.Defs

/-!
# Security events

`src/detection/models.py`, the rule table of `src/detection/mvp.py`, and the append
of `src/events/generator.py`. An event's rule is an enumeration with the source's
names, and its evidence is an ordered list of typed values, as the JSON object that
is written has them.

Mirroring notes:
- The wall clock only produces text (the day in an event id, the timestamp) that
  nothing reads back, so a packet carries one value of each; the monotonic clock is
  read several times per packet and each read has its own value.
- The event file is the list of the events appended to it.
-/

namespace EdgeSensor.Sensor

/-- The rules of the three detectors. -/
inductive RuleId where
  | ot001 | ot002 | ot003 | ot004 | ot005 | ot006 | ot007 | ot008 | ot009 | ot010
  | ot011 | ot012 | ot013 | ot014 | ot016 | ot018 | ot019
  deriving DecidableEq, Repr

/-- The rule id as the configuration spells it. -/
def RuleId.name : RuleId → String
  | .ot001 => "OT-001"
  | .ot002 => "OT-002"
  | .ot003 => "OT-003"
  | .ot004 => "OT-004"
  | .ot005 => "OT-005"
  | .ot006 => "OT-006"
  | .ot007 => "OT-007"
  | .ot008 => "OT-008"
  | .ot009 => "OT-009"
  | .ot010 => "OT-010"
  | .ot011 => "OT-011"
  | .ot012 => "OT-012"
  | .ot013 => "OT-013"
  | .ot014 => "OT-014"
  | .ot016 => "OT-016"
  | .ot018 => "OT-018"
  | .ot019 => "OT-019"

/-- The parts of the pipeline that evaluate rules: five per packet, one per window. -/
inductive Phase where
  | ioc
  | observation
  | modbus
  | goose
  | mms
  | window
  deriving DecidableEq, Repr

/-- The part that evaluates a rule. -/
def RuleId.phase : RuleId → Phase
  | .ot001 | .ot002 | .ot003 | .ot004 | .ot005 | .ot006 | .ot010 => .observation
  | .ot007 => .modbus
  | .ot011 | .ot012 | .ot013 => .goose
  | .ot014 | .ot016 | .ot018 => .mms
  | .ot008 | .ot009 => .window
  | .ot019 => .ioc

/-- Event type, severity and description of each rule: `RULE_META` for the MVP
rules, the literals of the other two detectors for theirs. -/
def RuleId.meta : RuleId → String × String × String
  | .ot001 => ("NEW_MAC_DETECTED", "medium", "New MAC address observed on mirror port")
  | .ot002 => ("NEW_IP_DETECTED", "medium", "New IP address observed on mirror port")
  | .ot003 => ("MAC_IP_MAPPING_CHANGED", "high", "MAC/IP mapping changed from baseline")
  | .ot004 => ("NEW_COMMUNICATION_PAIR", "medium", "New communication pair observed")
  | .ot005 => ("NEW_DESTINATION_PORT", "medium", "New destination port combination observed")
  | .ot006 => ("PORT_SCAN_BEHAVIOR", "high", "Port scan behavior detected")
  | .ot007 => ("MODBUS_WRITE_ANOMALY", "high", "Unexpected Modbus write from non-baselined source")
  | .ot008 => ("ABNORMAL_TRAFFIC_RATE", "medium", "Traffic rate exceeds baseline threshold")
  | .ot009 => ("RELAY_OFFLINE", "high", "Relay asset appears offline")
  | .ot010 => ("UNAUTHORIZED_RELAY_ACCESS", "high", "Unauthorized host accessing relay asset")
  | .ot011 => ("GOOSE_NEW_PUBLISHER", "medium", "New GOOSE publisher observed on mirror port")
  | .ot012 => ("GOOSE_TEST_MODE", "high", "GOOSE test bit set on production publisher")
  | .ot013 => ("GOOSE_STNUM_ANOMALY", "medium", "GOOSE stNum anomaly detected")
  | .ot014 => ("MMS_NEW_CLIENT", "medium", "New MMS client observed connecting to IED")
  | .ot016 => ("MMS_WRITE_ANOMALY", "high", "Unexpected MMS write from non-baselined client")
  | .ot018 => ("MMS_UNAUTHORIZED_CLIENT", "high", "Unauthorized host accessing relay IED over MMS")
  | .ot019 => ("CTI_IOC_OBSERVED", "high", "CTI blacklist IPv4 observed on mirror (passive)")

/-- A value in an event's evidence. -/
inductive EvidenceValue where
  | text (s : String)
  | int (n : Int)
  | number (q : Rat)
  | flag (b : Bool)
  | ports (ps : List Nat)
  | null
  deriving DecidableEq

/-- `SecurityEvent`. -/
structure SecurityEvent where
  eventId : String
  siteId : String
  sensorId : String
  eventType : String
  severity : String
  ruleId : RuleId
  protocol : String
  description : String
  assetId : String := ""
  srcIp : String := ""
  dstIp : String := ""
  dstPort : Option Nat := none
  riskScore : Int := 70
  evidence : List (String × EvidenceValue) := []
  evidenceRef : String := ""
  timestamp : String
  deriving DecidableEq

/-- The direction of an IoC match. -/
inductive Direction where
  | src
  | dst
  deriving DecidableEq, Repr

def Direction.name : Direction → String
  | .src => "src"
  | .dst => "dst"

/-- The clock values one packet reads, each named after the call that reads it. -/
structure Clock where
  observe : Rat
  recordSample : Rat
  uniquePorts : Rat
  cooldownActive : Direction → Rat
  markAlert : Direction → Rat
  day : String
  timestamp : String

/-- `f"{n:05d}"`. -/
def pad5 (n : Nat) : String :=
  String.ofList (List.replicate (5 - (toString n).length) '0') ++ toString n

/-- `not self.rules_enabled or rule_id in self.rules_enabled`. -/
def enabled (rulesEnabled : Finset String) (rule : RuleId) : Prop :=
  rulesEnabled = ∅ ∨ rule.name ∈ rulesEnabled

instance (rulesEnabled : Finset String) (rule : RuleId) : Decidable (enabled rulesEnabled rule) :=
  inferInstanceAs (Decidable (_ ∨ _))

/-- A string that Python's `if s` accepts: present and not empty. -/
def truthy (s : Option String) : Option String := s.filter (· ≠ "")

/-- `EventStore.append`, before the write: attach the latest capture reference. -/
def SecurityEvent.withRef (event : SecurityEvent) (latestRef : String) : SecurityEvent :=
  if event.evidenceRef = "" ∧ latestRef ≠ "" then
    { event with
      evidenceRef := latestRef
      evidence := if event.evidence.any (·.1 = "pcap_ref") then event.evidence
        else event.evidence ++ [("pcap_ref", .text latestRef)] }
  else event

/-! What the append keeps: everything a rule puts into an event. -/

theorem SecurityEvent.withRef_ruleId (event : SecurityEvent) (ref : String) :
    (event.withRef ref).ruleId = event.ruleId := by
  unfold SecurityEvent.withRef
  split <;> rfl

theorem SecurityEvent.withRef_eventId (event : SecurityEvent) (ref : String) :
    (event.withRef ref).eventId = event.eventId := by
  unfold SecurityEvent.withRef
  split <;> rfl

theorem SecurityEvent.withRef_srcIp (event : SecurityEvent) (ref : String) :
    (event.withRef ref).srcIp = event.srcIp := by
  unfold SecurityEvent.withRef
  split <;> rfl

theorem SecurityEvent.withRef_dstIp (event : SecurityEvent) (ref : String) :
    (event.withRef ref).dstIp = event.dstIp := by
  unfold SecurityEvent.withRef
  split <;> rfl

/-- An evidence entry other than the reference itself is there after the append
exactly if it was there before. -/
theorem SecurityEvent.mem_withRef_evidence {event : SecurityEvent} {ref key : String}
    {value : EvidenceValue} (hkey : key ≠ "pcap_ref") :
    (key, value) ∈ (event.withRef ref).evidence ↔ (key, value) ∈ event.evidence := by
  unfold SecurityEvent.withRef
  split
  · simp only
    split
    · exact Iff.rfl
    · simp [hkey]
  · exact Iff.rfl

theorem truthy_eq_some {s : Option String} {a : String} :
    truthy s = some a ↔ s = some a ∧ a ≠ "" := by
  simp [truthy, Option.filter_eq_some_iff]

end EdgeSensor.Sensor
