import EdgeSensor.Lib.Dict
import Mathlib.Data.Rat.Defs

/-!
# The topology snapshot

The document `sensel.ot_topology.snapshot.v1`: the assets a sensor has seen, the conduits
between them, and the external addresses they talk to. The classifier builds it, the
candidate baseline carries it, and the agent publishes it.

Mirroring notes:
- The `schema` texts of the rows are constants nothing reads; that of the snapshot is read.
- A confidence is a decimal of two digits, compared and never computed with.
-/

namespace EdgeSensor.Sensor

open EdgeSensor.Lib

/-- A row of `assets`. -/
structure TopologyAsset where
  assetId : String
  tenantId : String
  sensorId : String
  ip : String
  assetType : String := "unknown"
  purdueLevel : Option String := none
  protocols : List String := []
  protocolHints : List String := []
  osFamily : Option String := none
  confidence : Rat := 40 / 100
  evidenceSources : List String := []
  deriving DecidableEq

/-- The kind of a `dst_ref`. -/
inductive RefKind where
  | asset
  | external
  deriving DecidableEq, Repr

/-- A row of `conduits`. -/
structure Conduit where
  conduitId : String
  tenantId : String
  sensorId : String
  srcAssetId : String
  dstKind : RefKind
  dstId : String
  srcLevel : Option String
  dstLevel : Option String
  protocol : String
  baselineStatus : String
  policyStatus : String
  deriving DecidableEq

/-- A row of `external_entities`. -/
structure ExternalEntity where
  entityId : String
  tenantId : String
  ip : String
  serviceCategory : String
  seenFromAssets : List String
  confidence : Rat := 65 / 100
  evidenceSources : List String := ["comm_pair", "egress_ip"]
  deriving DecidableEq

/-- The snapshot. -/
structure TopologySnapshot where
  schema : String := "sensel.ot_topology.snapshot.v1"
  tenantId : String
  sensorId : String
  assets : List TopologyAsset
  conduits : List Conduit
  externalEntities : List ExternalEntity
  zoneCounts : Dict String Nat
  deriving DecidableEq

/-- The level an asset counts under: `str(purdue_level or "unknown")`. -/
def levelOf (purdueLevel : Option String) : String :=
  match purdueLevel with
  | none => "unknown"
  | some level => if level = "" then "unknown" else level

/-- `zone_counts`. -/
def zoneCounts (assets : List TopologyAsset) : Dict String Nat :=
  Dict.tally (assets.map fun asset => levelOf asset.purdueLevel)

end EdgeSensor.Sensor
