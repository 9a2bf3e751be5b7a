import EdgeSensor.Py.Number
import EdgeSensor.Sensor.PolicyStores

/-!
# The Purdue classifier

`src/topology/purdue_classifier.py` and the parts of `src/topology/protocol_hints.py` it
uses. Five passes over what was observed (Modbus servers, IEDs, port hints in three
roles, communication pairs) touch assets and append conduits. Which calls a pass makes
depends on its input alone, never on what the passes before it have built, so a pass is the
list of its calls in order (`modbusCalls`, `mmsCalls`, `hintCalls`, `pairCalls`), and a
snapshot is what performing them all leaves.

`_asset_id` and `_conduit_id` are truncated hashes of their arguments. They are parameters
(`Platform`); where a result needs that they do not collide it says so.

Mirroring notes:
- `external_by_ip` and `external_entities` hold the same rows in the same order: one dict.
- Each confidence is the decimal the source writes.
-/

namespace EdgeSensor.Sensor

open EdgeSensor.Lib EdgeSensor.Py

/-- What the classifier takes from the platform: the two hashes, and the Unicode tables. -/
structure Platform where
  /-- `_asset_id(tenant_id, sensor_id, key)`. -/
  assetId : String → String → String → String
  /-- `_conduit_id(src, dst, protocol)`. -/
  conduitId : String → String → String → String
  tables : UnicodeTables

/-! ## Protocol hints -/

def LDAP_SERVER_MIN_CLIENTS : Nat := 2

def DNS_SERVER_MIN_CLIENTS : Nat := 1

/-- `merge_hints`. -/
def mergeHints (existing newHints : List String) : List String :=
  (existing ++ newHints).foldl (fun out item =>
    let text := lower (strip item)
    if text = "" ∨ text ∈ out then out else out ++ [text]) []

/-- What `port_hint_index` says of one address. -/
structure PortHint where
  hints : List String
  ldapClients : Nat
  dnsClients : Nat
  ldapClientIps : List String
  dnsClientIps : List String
  ldapServer : Bool
  dnsServer : Bool
  deriving DecidableEq

/-- The texts of a list that are not blank. -/
def nonBlank (texts : List String) : List String := texts.filter fun text => strip text ≠ ""

/-- `_hints_for_ip`. -/
def hintsForIp (portHints : Dict String PortHint) (ip : String) : List String :=
  match portHints.get? ip with
  | none => []
  | some info => nonBlank info.hints

/-- `_is_rfc1918`. -/
def isRfc1918 (tables : UnicodeTables) (ip : String) : Bool :=
  match (ip.toList.splitOn '.').mapM (readInt tables) with
  | some [a, b, _, _] => a = 10 || (a = 172 && 16 ≤ b && b ≤ 31) || (a = 192 && b = 168)
  | _ => false

/-- `_external_entity_id`. -/
def externalEntityId (ip : String) : String := s!"ext:{ip}"

/-! ## Building -/

/-- The arguments of `_touch_asset`. -/
structure Touch where
  ip : String
  assetType : String := "unknown"
  purdueLevel : Option String := none
  protocols : List String := []
  protocolHints : List String := []
  osFamily : Option String := none
  confidence : Rat := 40 / 100
  evidence : List String := []

/-- A conduit between two assets. Its protocol is also the one its id is made of. -/
structure Link where
  srcIp : String
  dstIp : String
  protocol : String
  srcLevel : Option String := none
  dstLevel : Option String := none
  policyStatus : String := "allowed"

/-- What a pass does to the snapshot that is being built. -/
inductive TopologyCall where
  /-- `_touch_asset`. -/
  | touch (args : Touch)
  /-- `conduits.append` of a conduit between two assets. -/
  | link (link : Link)
  /-- The branch for a destination that is not RFC 1918. -/
  | egress (src dst : String)

/-- The snapshot under construction. -/
structure TopologyBuilder where
  assets : Dict String TopologyAsset := []
  conduits : List Conduit := []
  externals : Dict String ExternalEntity := []

/-- What a further touch changes of an asset. -/
def TopologyAsset.merge (args : Touch) (row : TopologyAsset) : TopologyAsset :=
  { row with
    purdueLevel := match args.purdueLevel with
      | none => row.purdueLevel
      | some level =>
        -- a level stays unless it is missing, unknown, or from a weaker touch
        if level ≠ "" ∧ (row.purdueLevel = none ∨ row.purdueLevel = some "unknown"
          ∨ row.confidence < args.confidence) then some level else row.purdueLevel
    assetType := if args.assetType ≠ "unknown" then args.assetType else row.assetType
    protocols := mergeHints row.protocols args.protocols
    protocolHints := mergeHints row.protocolHints args.protocolHints
    osFamily := match args.osFamily with
      | none => row.osFamily
      | some family => if family ≠ "" then some family else row.osFamily
    confidence := max row.confidence args.confidence
    evidenceSources := args.evidence.foldl
      (fun ev tag => if tag ∈ ev then ev else ev ++ [tag]) row.evidenceSources }

section Classifier

variable (platform : Platform) (tenantId sensorId : String)

/-- The id of the asset with an address. -/
def assetIdOf (ip : String) : String := platform.assetId tenantId sensorId s!"ip:{ip}"

/-- The row a touch leaves, given the row there was. -/
def Touch.row (args : Touch) : Option TopologyAsset → TopologyAsset
  | none => {
      assetId := assetIdOf platform tenantId sensorId args.ip
      tenantId := tenantId
      sensorId := sensorId
      ip := args.ip
      assetType := args.assetType
      purdueLevel := args.purdueLevel
      protocols := args.protocols
      protocolHints := args.protocolHints
      osFamily := args.osFamily
      confidence := args.confidence
      evidenceSources := args.evidence }
  | some row => row.merge args

/-- `_touch_asset`. -/
def TopologyBuilder.touchAsset (args : Touch) (b : TopologyBuilder) : TopologyBuilder :=
  let aid := assetIdOf platform tenantId sensorId args.ip
  { b with assets := b.assets.set aid (args.row platform tenantId sensorId (b.assets.get? aid)) }

/-- A conduit between two assets is appended. -/
def TopologyBuilder.link (l : Link) (b : TopologyBuilder) : TopologyBuilder :=
  let src := assetIdOf platform tenantId sensorId l.srcIp
  let dst := assetIdOf platform tenantId sensorId l.dstIp
  { b with conduits := b.conduits ++ [{
      conduitId := platform.conduitId src dst l.protocol
      tenantId := tenantId
      sensorId := sensorId
      srcAssetId := src
      dstKind := .asset
      dstId := dst
      srcLevel := l.srcLevel
      dstLevel := l.dstLevel
      protocol := l.protocol
      baselineStatus := "known"
      policyStatus := l.policyStatus }] }

/-- The entity of an address, a new one if there is none. -/
def TopologyBuilder.entityOf (dst : String) (b : TopologyBuilder) : ExternalEntity :=
  (b.externals.get? dst).getD {
    entityId := externalEntityId dst
    tenantId := tenantId
    ip := dst
    serviceCategory := if dst = "8.8.8.8" ∨ dst = "1.1.1.1" then "dns" else "unknown"
    seenFromAssets := [] }

/-- The entity, seen from one more asset. -/
def ExternalEntity.seenFrom (srcId : String) (ext : ExternalEntity) : ExternalEntity :=
  { ext with
    -- an asset is noted once, however often it leads there
    seenFromAssets := if srcId ∈ ext.seenFromAssets then ext.seenFromAssets
      else ext.seenFromAssets ++ [srcId] }

/-- The external entity of `dst` is noted as seen from `src`, and a conduit to it appended. -/
def TopologyBuilder.egress (src dst : String) (b : TopologyBuilder) : TopologyBuilder :=
  let srcId := assetIdOf platform tenantId sensorId src
  let ext := b.entityOf tenantId dst
  { b with
    externals := b.externals.set dst (ext.seenFrom srcId)
    conduits := b.conduits ++ [{
      conduitId := platform.conduitId srcId ext.entityId "egress"
      tenantId := tenantId
      sensorId := sensorId
      srcAssetId := srcId
      dstKind := .external
      dstId := ext.entityId
      srcLevel := some (match (b.assets.get? srcId).bind (·.purdueLevel) with
        | none => "L2"
        | some level => if level = "" then "L2" else level)
      dstLevel := some "EXTERNAL"
      protocol := "unknown"
      baselineStatus := "unknown"
      policyStatus := "review" }] }

/-- One call. -/
def TopologyBuilder.perform (b : TopologyBuilder) : TopologyCall → TopologyBuilder
  | .touch args => b.touchAsset platform tenantId sensorId args
  | .link l => b.link platform tenantId sensorId l
  | .egress src dst => b.egress platform tenantId sensorId src dst

/-! ## The passes -/

/-- A client of a Modbus server, and its conduit. -/
def modbusClientCalls (portHints : Dict String PortHint) (serverIp client : String) :
    List TopologyCall :=
  let cip := strip client
  if cip = "" then []
  else
    let hints := hintsForIp portHints cip
    let isWindowsHmi := "smb" ∈ hints ∨ "rdp" ∈ hints
    [.touch {
        ip := cip
        assetType := "hmi"
        purdueLevel := some "L2"
        protocols := ["modbus-tcp"]
        protocolHints := hints
        osFamily := if isWindowsHmi then some "windows" else none
        confidence := if isWindowsHmi then 78 / 100 else 75 / 100
        evidence := ["modbus_role", "baseline_profile"]
          ++ if isWindowsHmi then ["it_protocol_fingerprint"] else [] },
      .link {
        srcIp := cip
        dstIp := serverIp
        protocol := "modbus-tcp"
        srcLevel := some "L2"
        dstLevel := some "L1" }]

/-- The pass over one Modbus server: the server, then each of its clients. -/
def modbusCalls (portHints : Dict String PortHint) (row : ModbusServer) : List TopologyCall :=
  let ip := strip row.serverIp
  if ip = "" then []
  else
    .touch {
      ip := ip
      assetType := "plc"
      purdueLevel := some "L1"
      protocols := ["modbus-tcp"]
      confidence := 85 / 100
      evidence := ["modbus_role", "baseline_profile"] }
    :: row.allowedClients.flatMap (modbusClientCalls portHints ip)

/-- The pass over one IED. -/
def mmsCalls (row : MmsIed) : List TopologyCall :=
  let ip := strip (row.iedIp.getD "")
  if ip = "" then []
  else [.touch {
    ip := ip
    assetType := "ied"
    purdueLevel := some "L1"
    protocols := ["iec61850-mms"]
    confidence := 80 / 100
    evidence := ["mms_role", "baseline_profile"] }]

/-- A client of an LDAP or DNS server, and its conduit. -/
def clientCalls (portHints : Dict String PortHint) (serverIp protocol cip : String) :
    List TopologyCall :=
  [.touch {
      ip := cip
      assetType := "hmi"
      purdueLevel := some "L2"
      protocolHints := hintsForIp portHints cip
      confidence := 70 / 100
      evidence := ["it_protocol_fingerprint"] },
    .link {
      srcIp := cip
      dstIp := serverIp
      protocol := protocol
      srcLevel := some "L2"
      dstLevel := some "L4" }]

/-- The hints make the address an LDAP server. -/
def PortHint.IsLdapServer (info : PortHint) : Prop :=
  LDAP_SERVER_MIN_CLIENTS ≤ info.ldapClients
    ∨ ("ldap" ∈ nonBlank info.hints ∧ info.ldapServer = true)

/-- The hints make the address a DNS server. -/
def PortHint.IsDnsServer (info : PortHint) : Prop :=
  DNS_SERVER_MIN_CLIENTS ≤ info.dnsClients
    ∨ ("dns" ∈ nonBlank info.hints ∧ info.dnsServer = true)

/-- The hints speak of a Windows host. -/
def PortHint.HasWindows (info : PortHint) : Prop :=
  ∃ hint ∈ nonBlank info.hints, hint ∈ ["smb", "rdp", "msrpc", "netbios"]

instance (info : PortHint) : Decidable info.IsLdapServer := inferInstanceAs (Decidable (_ ∨ _))

instance (info : PortHint) : Decidable info.IsDnsServer := inferInstanceAs (Decidable (_ ∨ _))

instance (info : PortHint) : Decidable info.HasWindows :=
  inferInstanceAs (Decidable (∃ hint ∈ nonBlank info.hints, _))

/-- The pass over the hints of one address. -/
def hintCalls (portHints : Dict String PortHint) (entry : String × PortHint) : List TopologyCall :=
  let ip := entry.1
  let info := entry.2
  let hints := nonBlank info.hints
  if hints = [] then []
  -- one role for each address: the first that fits
  else if info.IsLdapServer then
    .touch {
      ip := ip
      assetType := "ad_server"
      purdueLevel := some "L4"
      protocols := ["ldap"]
      protocolHints := hints
      confidence := 75 / 100
      evidence := ["it_protocol_fingerprint", "ldap_server_role"] }
    :: (nonBlank info.ldapClientIps).flatMap (clientCalls portHints ip "ldap")
  else if info.IsDnsServer then
    .touch {
      ip := ip
      assetType := "dns_server"
      purdueLevel := some "L4"
      protocols := ["dns"]
      protocolHints := hints
      confidence := 75 / 100
      evidence := ["it_protocol_fingerprint"] }
    :: (nonBlank info.dnsClientIps).flatMap (clientCalls portHints ip "dns")
  else if info.HasWindows then
    [.touch {
      ip := ip
      assetType := "hmi"
      purdueLevel := some "L2"
      protocolHints := hints
      osFamily := some "windows"
      confidence := 78 / 100
      evidence := ["it_protocol_fingerprint"] }]
  else []

/-- The pass over one communication pair. -/
def pairCalls (pair : String × String) : List TopologyCall :=
  let src := strip pair.1
  let dst := strip pair.2
  if src = "" ∨ dst = "" then []
  else
    .touch { ip := src, evidence := ["baseline_profile"] }
    -- the source is touched without a test, the destination only after one
    :: if isRfc1918 platform.tables dst then
        [.touch { ip := dst, evidence := ["baseline_profile"] },
          .link { srcIp := src, dstIp := dst, protocol := "unknown", policyStatus := "review" }]
      else [.egress src dst]

/-- All calls, pass after pass. -/
def topologyCalls (observed : Observed) (portHints : Dict String PortHint) : List TopologyCall :=
  observed.modbusServers.flatMap (modbusCalls portHints)
    ++ observed.mmsIeds.flatMap mmsCalls
    ++ portHints.flatMap (hintCalls portHints)
    ++ observed.commPairs.flatMap (pairCalls platform)

/-- What the passes build. -/
def builtTopology (observed : Observed) (portHints : Dict String PortHint) : TopologyBuilder :=
  (topologyCalls platform observed portHints).foldl
    (TopologyBuilder.perform platform tenantId sensorId) {}

/-- `build_observed_topology`. -/
def buildObservedTopology (observed : Observed) (portHints : Dict String PortHint) :
    TopologySnapshot :=
  let b := builtTopology platform tenantId sensorId observed portHints
  { tenantId := tenantId
    sensorId := sensorId
    assets := b.assets.map (·.2)
    conduits := b.conduits
    externalEntities := b.externals.map (·.2)
    zoneCounts := zoneCounts (b.assets.map (·.2)) }

end Classifier

end EdgeSensor.Sensor
