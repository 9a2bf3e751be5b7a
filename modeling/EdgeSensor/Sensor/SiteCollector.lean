import EdgeSensor.Lib.History
import EdgeSensor.Sensor.Collector
import EdgeSensor.Sensor.PurdueClassifier

/-!
# The collector and the topology of its site

The rest of `src/baseline/collector.py`: the feeds for endpoints and transport flows, and
the candidate with everything it observed: the pairs, the address of each MAC, and the
topology built of them. One feed after another makes a history; what a candidate identifies
is compared as sets (`Identities`).

Mirroring notes:
- `packets`, `parse_errors`, `_macs` and `_ips` only reach the statistics, and are left out.
- `None` and the empty string are the same to `if src_ip`; `present` reads both as absent.
-/

namespace EdgeSensor.Sensor

open EdgeSensor.Lib EdgeSensor.Parser EdgeSensor.Py

/-- `IT_SERVICE_PORTS`. -/
def IT_SERVICE_PORTS : Dict Nat String :=
  [(445, "smb"), (3389, "rdp"), (389, "ldap"), (636, "ldap"), (88, "kerberos"), (135, "msrpc"),
    (139, "netbios"), (53, "dns")]

/-- `hint_for_port`. -/
def hintForPort (port : Nat) : Option String := IT_SERVICE_PORTS.get? port

/-- `BaselineCollector`, with what the topology is made of. -/
structure SiteCollector extends BaselineCollector where
  tenantId : String := ""
  sensorId : String := ""
  macIp : Dict String String := []
  commPairs : Dict (String × String) Rat := []
  ipHints : Dict String (Finset String) := []
  ldapClients : Dict String (Dict String Rat) := []
  dnsClients : Dict String (Dict String Rat) := []

/-- An address, if there is one. -/
def present (address : Option String) : Option String := address.filter (· ≠ "")

/-- The keys of the stamps that are fresh. -/
def freshKeys {κ : Type} (stamps : Dict κ Rat) (cutoff : Option Rat) : List κ :=
  (stamps.filter fun kv => fresh kv.2 cutoff).map (·.1)

/-- A call of one of the feed APIs. -/
inductive Feed where
  | endpoints (srcMac srcIp dstIp : Option String)
  | goose (frame : Goose.GooseFrame)
  | mms (obs : Mms.MmsObservation)
  | modbus (frame : Modbus.ModbusFrame)
  | transport (flow : FlowTuple)

namespace SiteCollector

/-- `feed_endpoints`. -/
def feedEndpoints (now : Rat) (srcMac srcIp dstIp : Option String) (c : SiteCollector) :
    SiteCollector :=
  { c with
    macIp := match present srcMac, present srcIp with
      | some mac, some ip => c.macIp.set mac ip
      | _, _ => c.macIp
    -- in the direction of the packet: an answer is a pair of its own
    commPairs := match present srcIp, present dstIp with
      | some src, some dst => c.commPairs.set (src, dst) now
      | _, _ => c.commPairs }

/-- The rest of `feed_transport`, once there are a hint and two ends. -/
def recordHint (now : Rat) (hint serverIp clientIp : String) (c : SiteCollector) : SiteCollector :=
  { c with
    -- without a time: a hint does not age
    ipHints := (c.ipHints.upsert serverIp ∅ (insert hint)).upsert clientIp ∅ (insert hint)
    ldapClients := if hint = "ldap" then c.ldapClients.setIn serverIp clientIp now
      else c.ldapClients
    dnsClients := if hint = "dns" then c.dnsClients.setIn serverIp clientIp now
      else c.dnsClients }

/-- `feed_transport`. -/
def feedTransport (now : Rat) (flow : FlowTuple) (c : SiteCollector) : SiteCollector :=
  -- only the port of the destination is looked up, so an answer gives no hint
  match hintForPort flow.dstPort with
  | none => c
  | some hint =>
    if flow.srcIp = "" ∨ flow.dstIp = "" then c else c.recordHint now hint flow.dstIp flow.srcIp

/-- One call, at its time. -/
def feed (c : SiteCollector) (call : Rat × Feed) : SiteCollector :=
  match call.2 with
  | .endpoints srcMac srcIp dstIp => c.feedEndpoints call.1 srcMac srcIp dstIp
  | .goose frame => { c with toBaselineCollector := c.toBaselineCollector.feedGoose call.1 frame }
  | .mms obs => { c with toBaselineCollector := c.toBaselineCollector.feedMms call.1 obs }
  | .modbus frame => { c with toBaselineCollector := c.toBaselineCollector.feedModbus call.1 frame }
  | .transport flow => c.feedTransport call.1 flow

/-- A new collector of a site after a history of calls. -/
def collect (tenantId sensorId : String) (h : History Rat Feed) : SiteCollector :=
  h.foldl feed { tenantId := tenantId, sensorId := sensorId }

/-- `_comm_pairs_fresh`. -/
def commPairsFresh (c : SiteCollector) (cutoff : Option Rat) : List (String × String) :=
  (freshKeys c.commPairs cutoff).mergeSort fun a b => a.1 < b.1 || (a.1 = b.1 && a.2 ≤ b.2)

/-- The entry of `port_hint_index` for an address. -/
def portHint (c : SiteCollector) (cutoff : Option Rat) (ip : String) (hints : Finset String) :
    PortHint :=
  let ldapClients := (freshKeys ((c.ldapClients.get? ip).getD []) cutoff).toFinset
  let dnsClients := (freshKeys ((c.dnsClients.get? ip).getD []) cutoff).toFinset
  { hints := hints.sort (· ≤ ·)
    ldapClients := ldapClients.card
    dnsClients := dnsClients.card
    ldapClientIps := ldapClients.sort (· ≤ ·)
    dnsClientIps := dnsClients.sort (· ≤ ·)
    ldapServer := LDAP_SERVER_MIN_CLIENTS ≤ ldapClients.card
    dnsServer := DNS_SERVER_MIN_CLIENTS ≤ dnsClients.card }

/-- `port_hint_index`. -/
def portHintIndex (c : SiteCollector) (cutoff : Option Rat) : Dict String PortHint :=
  c.ipHints.map fun entry => (entry.1, c.portHint cutoff entry.1 entry.2)

/-- `observed`, before the topology is added. -/
def observedBlock (c : SiteCollector) (cutoff : Option Rat) : Observed where
  goosePublishers := c.goosePublishers cutoff
  mmsIeds := c.mmsIeds cutoff
  modbusServers := c.modbusServers cutoff
  commPairs := c.commPairsFresh cutoff
  macIp := c.macIp.mergeSort fun a b => a.1 < b.1 || (a.1 = b.1 && a.2 ≤ b.2)

/-- `to_candidate`. -/
def toCandidate (platform : Platform) (c : SiteCollector) (now : Rat) (generatedAt : String)
    (args : CandidateArgs) : Candidate :=
  -- `if window_sec`: zero is no window
  let cutoff := (args.windowSec.filter (· ≠ 0)).map fun windowSec => now - windowSec
  let observed := c.observedBlock cutoff
  { generatedAt := generatedAt
    source := args.source
    sourceRef := args.sourceRef
    windowSec := args.windowSec
    observed := { observed with
      topology := if c.tenantId ≠ "" ∧ c.sensorId ≠ "" then
          some (buildObservedTopology platform c.tenantId c.sensorId observed
            (c.portHintIndex cutoff))
        else none } }

end SiteCollector

/-- What a candidate identifies: publishers by their keys, IEDs and servers with the clients
they allow, the pairs, and the assets of the topology by their ids. -/
@[ext] structure Identities where
  publishers : Finset String
  ieds : Finset (Option String × Finset String)
  servers : Finset (String × Finset String)
  pairs : Finset (String × String)
  assets : Finset String

/-- The identities in an observed block. -/
def Observed.identities (observed : Observed) : Identities where
  publishers := (observed.goosePublishers.map fun entry =>
    s!"{entry.publisherMac}|{entry.appid}|{entry.gocbRef}").toFinset
  ieds := (observed.mmsIeds.map fun entry =>
    (entry.iedIp, entry.allowedMmsClients.toFinset)).toFinset
  servers := (observed.modbusServers.map fun entry =>
    (entry.serverIp, entry.allowedClients.toFinset)).toFinset
  pairs := observed.commPairs.toFinset
  assets := match observed.topology with
    | none => ∅
    | some topology => (topology.assets.map (·.assetId)).toFinset

end EdgeSensor.Sensor
