import EdgeSensor.Py.Json
import EdgeSensor.Sensor.TopologyIntegrity
import Mathlib.Data.List.Nodup

/-!
# The learning snapshot

In learning mode the agent publishes the topology snapshot it finds in `live-observed.json`,
after writing the overrides of the portal over its assets. The rows are rewritten, the
`zone_counts` the sensor computed from them are passed on as they were. They are right
exactly when the overrides move as many assets into every level as out of it
(`published_zoneCounts_iff`).

Mirroring notes:
- `read_state` and the files are what the publisher is given: the store as `overrides`, none
  where the sync is absent or disabled, and the topology as the sensor wrote it.
- The fields `issued_at` and `source` of an override are left out, nothing here reads them.
- The seven fields a patch may set are distinct, so the order in which the code visits them
  does not matter; here each is written in its own place.
-/

namespace EdgeSensor.Agent

open EdgeSensor.Lib EdgeSensor.Py EdgeSensor.Sensor

def topologySchema : String := "sensel.ot_topology.snapshot.v1"

/-- A row of `build_manual_override_list`. -/
structure ManualOverride where
  assetId : String
  patch : Obj

/-- A row of the published `assets`. -/
structure PublishedAsset extends TopologyAsset where
  zone : Option String := none
  criticality : Option String := none
  hostname : Option String := none
  vendor : Option String := none
  model : Option String := none
  manualOverride : Bool := false

/-- A row of the sensor as the publisher handles it. -/
def PublishedAsset.ofSensor (asset : TopologyAsset) : PublishedAsset := { asset with }

/-- The `snapshot` of the payload. -/
structure PublishedSnapshot where
  schema : String
  tenantId : String
  siteId : String
  sensorId : String
  assets : List PublishedAsset
  conduits : List Conduit
  externalEntities : List ExternalEntity
  zoneCounts : Dict String Nat

/-- The message of the learning mode. -/
structure LearningPayload where
  schema : String := topologySchema
  tenantId : String
  siteId : String
  sensorId : String
  observedAt : String
  operationalMode : String := "learning"
  baselineProfileId : Option String
  snapshot : PublishedSnapshot

/-- `TopologySnapshotPublisher`. -/
structure TopologySnapshotPublisher where
  tenantId : String
  siteId : String
  sensorId : String
  overrides : Option Obj

section Publisher

variable (repr : Json → String)

/-- `build_manual_override_list`. -/
def buildManualOverrideList (overrideState : Obj) : List ManualOverride :=
  match (overrideState.get "overrides").fields? with
  | none => []
  | some overrides => overrides.filterMap fun kv => do
    let entry ← kv.2.fields?
    -- an entry without a patch object is skipped
    let patch ← (entry.get "patch").fields?
    if patch.isEmpty then none
    else some ⟨(entry.get "asset_id").toStrOr repr "", patch⟩

/-- What a patch sets a field to: nothing if the value is `None` or blank. -/
def ManualOverride.text (o : ManualOverride) (field : String) : Option String :=
  let value := o.patch.get field
  if value.isNull then none
  else
    let text := strip (value.toStr repr)
    if text = "" then none else some text

/-- The row under an override. -/
def ManualOverride.applyTo (o : ManualOverride) (asset : PublishedAsset) : PublishedAsset :=
  { asset with
    purdueLevel := (o.text repr "purdue_level").or asset.purdueLevel
    assetType := (o.text repr "asset_type").getD asset.assetType
    zone := (o.text repr "zone").or asset.zone
    criticality := (o.text repr "criticality").or asset.criticality
    hostname := (o.text repr "hostname").or asset.hostname
    vendor := (o.text repr "vendor").or asset.vendor
    model := (o.text repr "model").or asset.model
    manualOverride := true
    evidenceSources :=
      if "manual_tag" ∈ asset.evidenceSources then asset.evidenceSources
      else asset.evidenceSources ++ ["manual_tag"] }

/-- `by_id`: where the rows with an id stand. -/
def byId (assets : List PublishedAsset) : Dict String Nat :=
  assets.zipIdx.foldl (fun d row => if row.1.assetId = "" then d else d.set row.1.assetId row.2) []

/-- One round of the loop over the overrides. -/
def applyOverride (index : Dict String Nat) (assets : List PublishedAsset) (o : ManualOverride) :
    List PublishedAsset :=
  let aid := strip o.assetId
  if aid = "" then assets
  else
    match index.get? aid with
    | none => assets
    | some idx => assets.modify idx (o.applyTo repr)

/-- `_apply_manual_overrides_to_topology`, on the assets. -/
def applyManualOverridesToTopology (assets : List PublishedAsset)
    (overrides : List ManualOverride) : List PublishedAsset :=
  -- one index for all of them: an override changes no id
  overrides.foldl (applyOverride repr (byId assets)) assets

namespace TopologySnapshotPublisher

/-- `manual_overrides`. -/
def manualOverrides (publisher : TopologySnapshotPublisher) : List ManualOverride :=
  match publisher.overrides with
  | none => []
  | some state => buildManualOverrideList repr state

/-- `_publish_learning_snapshot`: the payload, if there is a topology to publish. -/
def publishLearningSnapshot (publisher : TopologySnapshotPublisher) (artifact : Obj)
    (observedAt : String) (topology : Option TopologySnapshot) : Option LearningPayload := do
  let topology ← topology
  if topology.assets.isEmpty then none
  else
    let tenantId := strip ((artifact.get "tenant_id").toStrOr repr publisher.tenantId)
    let profileId := strip ((artifact.get "baseline_profile_id").toStrOr repr "")
    let assets := topology.assets.map .ofSensor
    some {
      tenantId := tenantId
      siteId := publisher.siteId
      sensorId := publisher.sensorId
      observedAt := observedAt
      baselineProfileId := if profileId = "" then none else some profileId
      snapshot := {
        schema := if topology.schema = "" then topologySchema else topology.schema
        tenantId := tenantId
        siteId := publisher.siteId
        sensorId := publisher.sensorId
        assets := applyManualOverridesToTopology repr assets (publisher.manualOverrides repr)
        conduits := topology.conduits
        externalEntities := topology.externalEntities
        -- `**topology`: what the sensor counted, before the overrides
        zoneCounts := topology.zoneCounts } }

end TopologySnapshotPublisher

/-! ## The rows under the overrides -/

/-- The override is about this row. A row without an id has none. -/
def ManualOverride.Names (o : ManualOverride) (assetId : String) : Prop :=
  strip o.assetId = assetId ∧ assetId ≠ ""

instance (o : ManualOverride) (assetId : String) : Decidable (o.Names assetId) :=
  inferInstanceAs (Decidable (_ ∧ _))

/-- The row under an override, if it is about this row. -/
def ManualOverride.rewrite (asset : PublishedAsset) (o : ManualOverride) : PublishedAsset :=
  if o.Names asset.assetId then o.applyTo repr asset else asset

/-- The level the last override of a row assigns to it, among those that assign any. -/
def assignedLevel (overrides : List ManualOverride) (assetId : String) : Option String :=
  (overrides.filterMap fun o =>
    if o.Names assetId then o.text repr "purdue_level" else none).getLast?

/-- The dictionary tells where each id stands. -/
def Indexes (index : Dict String Nat) (ids : List String) : Prop :=
  ∀ id i, index.get? id = some i ↔ id ≠ "" ∧ ids[i]? = some id

variable {repr} {assets : List PublishedAsset} {index : Dict String Nat}
  {overrides : List ManualOverride}

theorem byId_concat (assets : List PublishedAsset) (asset : PublishedAsset) :
    byId (assets ++ [asset]) = if asset.assetId = "" then byId assets
      else (byId assets).set asset.assetId assets.length := by
  unfold byId
  rw [List.zipIdx_append, List.foldl_append]
  simp only [List.zipIdx_singleton, List.foldl_cons, List.foldl_nil, Nat.zero_add]

theorem getElem?_concat_iff {xs : List String} {x y : String} {i : Nat} :
    (xs ++ [x])[i]? = some y ↔ xs[i]? = some y ∨ i = xs.length ∧ x = y := by
  by_cases hi : i < xs.length
  · have hne : i ≠ xs.length := by omega
    rw [List.getElem?_append_left hi]
    simp [hne]
  · have hnone : xs[i]? = none := List.getElem?_eq_none (by omega)
    rw [List.getElem?_append_right (by omega), hnone]
    by_cases heq : i = xs.length
    · simp [heq]
    · have hpast : [x][i - xs.length]? = none :=
        List.getElem?_eq_none (by rw [List.length_singleton]; omega)
      rw [hpast]
      simp [heq]

theorem indexes_byId (hnodup : (assets.map (·.assetId)).Nodup) :
    Indexes (byId assets) (assets.map (·.assetId)) := by
  induction assets using List.reverseRecOn with
  | nil =>
    intro id i
    simp [byId]
  | append_singleton assets asset ih =>
    rw [List.map_append, List.map_cons, List.map_nil] at hnodup ⊢
    have hnew : asset.assetId ∉ assets.map (·.assetId) := by
      have hdisjoint := List.disjoint_of_nodup_append hnodup
      exact fun hmem => hdisjoint hmem List.mem_cons_self
    specialize ih hnodup.of_append_left
    intro id i
    have hold := ih id i
    rw [byId_concat, getElem?_concat_iff, List.length_map]
    by_cases hempty : asset.assetId = ""
    · rw [if_pos hempty, hold]
      constructor
      · exact fun h => ⟨h.1, .inl h.2⟩
      · rintro ⟨hid, h | ⟨_, rfl⟩⟩
        · exact ⟨hid, h⟩
        · exact absurd hempty hid
    · rw [if_neg hempty, Dict.get?_set]
      by_cases hid : asset.assetId = id
      · subst hid
        rw [if_pos rfl]
        constructor
        · rintro ⟨⟩
          exact ⟨hempty, .inr ⟨rfl, rfl⟩⟩
        · rintro ⟨_, h | ⟨rfl, _⟩⟩
          · exact absurd (List.mem_of_getElem? h) hnew
          · rfl
      · rw [if_neg hid, hold]
        constructor
        · exact fun h => ⟨h.1, .inl h.2⟩
        · rintro ⟨hne, h | ⟨_, h⟩⟩
          · exact ⟨hne, h⟩
          · exact absurd h hid

theorem rewrite_assetId (asset : PublishedAsset) (o : ManualOverride) :
    (ManualOverride.rewrite repr asset o).assetId = asset.assetId := by
  unfold ManualOverride.rewrite
  split
  next => rfl
  next => rfl

/-- An override rewrites the row it is about, wherever it stands. -/
theorem applyOverride_eq_map (hindex : Indexes index (assets.map (·.assetId)))
    (o : ManualOverride) :
    applyOverride repr index assets o = assets.map (ManualOverride.rewrite repr · o) := by
  -- a row is rewritten if it stands where the index says
  have hnames : ∀ {i asset}, assets[i]? = some asset →
      (o.Names asset.assetId ↔ strip o.assetId ≠ "" ∧ index.get? (strip o.assetId) = some i) := by
    intro i asset hasset
    rw [hindex, List.getElem?_map, hasset]
    unfold ManualOverride.Names
    constructor
    · rintro ⟨h, hne⟩
      rw [h]
      exact ⟨hne, hne, rfl⟩
    · rintro ⟨hne, _, h⟩
      have heq : asset.assetId = strip o.assetId := Option.some.inj h
      exact ⟨heq.symm, heq ▸ hne⟩
  have hkeep : ∀ i, ¬ (strip o.assetId ≠ "" ∧ index.get? (strip o.assetId) = some i) →
      assets[i]? = assets[i]?.map (ManualOverride.rewrite repr · o) := by
    intro i hno
    cases hasset : assets[i]? with
    | none => rfl
    | some asset =>
      have hother : ¬ o.Names asset.assetId := fun h => hno ((hnames hasset).mp h)
      show some asset = some (ManualOverride.rewrite repr asset o)
      rw [ManualOverride.rewrite, if_neg hother]
  refine List.ext_getElem? fun i => ?_
  rw [List.getElem?_map]
  unfold applyOverride
  simp only
  by_cases haid : strip o.assetId = ""
  · rw [if_pos haid]
    exact hkeep i fun h => h.1 haid
  · rw [if_neg haid]
    cases hget : index.get? (strip o.assetId) with
    | none =>
      refine hkeep i fun h => ?_
      rw [hget] at h
      cases h.2
    | some idx =>
      show (assets.modify idx (o.applyTo repr))[i]? = _
      rw [List.getElem?_modify]
      by_cases hi : idx = i
      · subst hi
        cases hasset : assets[idx]? with
        | none =>
          rw [Option.map_none]
          rfl
        | some asset =>
          have hself : o.Names asset.assetId := (hnames hasset).mpr ⟨haid, hget⟩
          show some (if idx = idx then o.applyTo repr asset else asset)
            = some (ManualOverride.rewrite repr asset o)
          rw [if_pos rfl, ManualOverride.rewrite, if_pos hself]
      · have hrest := hkeep i fun h => hi (Option.some.inj (hget.symm.trans h.2))
        simpa [hi] using hrest

/-- All the overrides, row by row. -/
theorem applyManualOverridesToTopology_eq_map (hnodup : (assets.map (·.assetId)).Nodup) :
    applyManualOverridesToTopology repr assets overrides
      = assets.map fun asset => overrides.foldl (ManualOverride.rewrite repr) asset := by
  unfold applyManualOverridesToTopology
  have hindex := indexes_byId hnodup
  generalize byId assets = index at hindex
  induction overrides generalizing assets with
  | nil => exact (List.map_id assets).symm
  | cons o overrides ih =>
    -- an override changes no id, so the index stays right
    have hids : (assets.map (ManualOverride.rewrite repr · o)).map (·.assetId)
        = assets.map (·.assetId) := by
      rw [List.map_map]
      refine List.map_congr_left fun asset _ => ?_
      show (ManualOverride.rewrite repr asset o).assetId = asset.assetId
      exact rewrite_assetId asset o
    have hnodup' : ((assets.map (ManualOverride.rewrite repr · o)).map (·.assetId)).Nodup := by
      rw [hids]
      exact hnodup
    have hindex' : Indexes index
        ((assets.map (ManualOverride.rewrite repr · o)).map (·.assetId)) := by
      rw [hids]
      exact hindex
    rw [List.foldl_cons, applyOverride_eq_map hindex, ih hnodup' hindex', List.map_map]
    rfl

/-! ## The levels under the overrides -/

theorem text_ne_empty {o : ManualOverride} {field text : String}
    (h : o.text repr field = some text) : text ≠ "" := by
  unfold ManualOverride.text at h
  simp only at h
  split at h
  next => cases h
  next =>
    split at h
    next => cases h
    next hne =>
      rw [← Option.some.inj h]
      exact hne

theorem mem_assigned {assetId level : String}
    (h : assignedLevel repr overrides assetId = some level) : level ≠ "" := by
  obtain ⟨o, _, ho⟩ := List.mem_filterMap.mp (List.mem_of_getLast? h)
  split at ho
  next => exact text_ne_empty ho
  next => cases ho

/-- After the overrides a row is at the level assigned to it, or at its own. -/
theorem purdueLevel_foldl (asset : PublishedAsset) :
    (overrides.foldl (ManualOverride.rewrite repr) asset).purdueLevel
      = (assignedLevel repr overrides asset.assetId).or asset.purdueLevel
    ∧ (overrides.foldl (ManualOverride.rewrite repr) asset).assetId = asset.assetId := by
  induction overrides using List.reverseRecOn with
  | nil => exact ⟨rfl, rfl⟩
  | append_singleton overrides o ih =>
    obtain ⟨hlevel, hid⟩ := ih
    rw [List.foldl_append, List.foldl_cons, List.foldl_nil]
    refine ⟨?_, (rewrite_assetId _ _).trans hid⟩
    unfold ManualOverride.rewrite assignedLevel at *
    rw [hid, List.filterMap_append]
    -- the last override that assigns a level has the last word
    by_cases hnames : o.Names asset.assetId
    · rw [if_pos hnames]
      show (o.text repr "purdue_level").or _ = _
      rw [hlevel]
      cases htext : o.text repr "purdue_level" with
      | none => simp [hnames, htext]
      | some text => simp [hnames, htext]
    · rw [if_neg hnames, hlevel]
      simp [hnames]

/-- The overrides move this row into a level it was not at. -/
def MovedInto (repr : Json → String) (overrides : List ManualOverride) (level : String)
    (asset : TopologyAsset) : Prop :=
  levelOf asset.purdueLevel ≠ level
    ∧ assignedLevel repr overrides asset.assetId = some level

/-- The overrides move this row out of the level it was at. -/
def MovedOutOf (repr : Json → String) (overrides : List ManualOverride) (level : String)
    (asset : TopologyAsset) : Prop :=
  levelOf asset.purdueLevel = level
    ∧ (assignedLevel repr overrides asset.assetId).any (· ≠ level)

instance (overrides : List ManualOverride) (level : String) :
    DecidablePred (MovedInto repr overrides level) :=
  fun _ => inferInstanceAs (Decidable (_ ∧ _))

instance (overrides : List ManualOverride) (level : String) :
    DecidablePred (MovedOutOf repr overrides level) :=
  fun _ => inferInstanceAs (Decidable (_ ∧ _))

/-- As many rows are moved into every level as out of it. -/
def LevelsBalanced (repr : Json → String) (overrides : List ManualOverride)
    (assets : List TopologyAsset) : Prop :=
  ∀ level, assets.countP (MovedInto repr overrides level)
    = assets.countP (MovedOutOf repr overrides level)

/-- `zone_counts` has the levels of the published rows with their numbers, and nothing else. -/
def PublishedSnapshot.ZonesMatch (s : PublishedSnapshot) : Prop :=
  ∀ level, s.zoneCounts.get? level =
    let n := s.assets.countP fun asset => levelOf asset.purdueLevel = level
    if n = 0 then none else some n

/-- The level of a row after the overrides. -/
def levelAfter (repr : Json → String) (overrides : List ManualOverride) (asset : TopologyAsset) :
    String :=
  levelOf ((assignedLevel repr overrides asset.assetId).or asset.purdueLevel)

theorem levelAfter_eq (asset : TopologyAsset) : levelAfter repr overrides asset
    = (assignedLevel repr overrides asset.assetId).getD (levelOf asset.purdueLevel) := by
  unfold levelAfter
  cases h : assignedLevel repr overrides asset.assetId with
  | none => rfl
  | some level => exact if_neg (mem_assigned h)

/-- The rows at a level afterwards are those at it before, less the ones moved out, and those
moved in. -/
theorem countP_levelAfter (repr : Json → String) (overrides : List ManualOverride)
    (rows : List TopologyAsset) (level : String) :
    rows.countP (fun asset => levelAfter repr overrides asset = level)
        + rows.countP (MovedOutOf repr overrides level)
      = rows.countP (fun asset => levelOf asset.purdueLevel = level)
        + rows.countP (MovedInto repr overrides level) := by
  induction rows with
  | nil => rfl
  | cons asset rows ih =>
    simp only [List.countP_cons, decide_eq_true_eq]
    have hrow : (if levelAfter repr overrides asset = level then 1 else 0)
          + (if MovedOutOf repr overrides level asset then 1 else 0)
        = (if levelOf asset.purdueLevel = level then 1 else 0)
          + (if MovedInto repr overrides level asset then 1 else 0) := by
      cases hassigned : assignedLevel repr overrides asset.assetId with
      | none => simp [levelAfter_eq, MovedOutOf, MovedInto, hassigned]
      | some text =>
        by_cases hbefore : levelOf asset.purdueLevel = level
        · by_cases hafter : text = level <;>
            simp [levelAfter_eq, MovedOutOf, MovedInto, hassigned, hbefore, hafter]
        · by_cases hafter : text = level <;>
            simp [levelAfter_eq, MovedOutOf, MovedInto, hassigned, hbefore, hafter]
    omega

/-- What the sensor counts, level by level. -/
theorem get?_zoneCounts (rows : List TopologyAsset) (level : String) :
    (zoneCounts rows).get? level =
      let n := rows.countP fun asset => levelOf asset.purdueLevel = level
      if n = 0 then none else some n := by
  have hcount : (rows.map fun asset => levelOf asset.purdueLevel).count level
      = rows.countP fun asset => levelOf asset.purdueLevel = level := by
    unfold List.count
    rw [List.countP_map]
    refine List.countP_congr fun asset _ => ?_
    simp
  simp only
  rw [zoneCounts, Dict.get?_tally, ← hcount]
  by_cases hmem : level ∈ rows.map fun asset => levelOf asset.purdueLevel
  · have hpos := List.count_pos_iff.mpr hmem
    rw [if_pos hmem, if_neg (by omega)]
  · rw [if_neg hmem, if_pos (List.count_eq_zero_of_not_mem hmem)]

/-- The ids the classifier lists are distinct. -/
theorem nodup_assetIds (platform : Platform) (tenantId sensorId : String) (observed : Observed)
    (portHints : Dict String PortHint) :
    ((buildObservedTopology platform tenantId sensorId observed portHints).assets.map
      (·.assetId)).Nodup := by
  have hassets := (built_topology platform tenantId sensorId observed portHints).assets
  have hkeys := hassets.nodup
  rw [← List.map_congr_left hassets.own] at hkeys
  show ((List.map _ _).map _).Nodup
  rw [List.map_map]
  exact hkeys

/-- What is published of a topology: its rows under the overrides, its counts as they are. -/
theorem snapshot_of_published {publisher : TopologySnapshotPublisher} {artifact : Obj}
    {observedAt : String} {topology : TopologySnapshot} {payload : LearningPayload}
    (h : publisher.publishLearningSnapshot repr artifact observedAt (some topology)
      = some payload) :
    payload.snapshot.zoneCounts = topology.zoneCounts
      ∧ payload.snapshot.assets = applyManualOverridesToTopology repr
        (topology.assets.map .ofSensor) (publisher.manualOverrides repr) := by
  unfold TopologySnapshotPublisher.publishLearningSnapshot at h
  simp only [Option.bind_eq_bind, Option.bind_some] at h
  split at h
  next => cases h
  next =>
    cases h
    exact ⟨rfl, rfl⟩

/-- Of rows with distinct ids and the counts of these rows. -/
theorem zonesMatch_iff {publisher : TopologySnapshotPublisher} {artifact : Obj}
    {observedAt : String} {topology : TopologySnapshot} {payload : LearningPayload}
    (hnodup : (topology.assets.map (·.assetId)).Nodup)
    (hzones : topology.zoneCounts = zoneCounts topology.assets)
    (h : publisher.publishLearningSnapshot repr artifact observedAt (some topology)
      = some payload) :
    payload.snapshot.ZonesMatch
      ↔ LevelsBalanced repr (publisher.manualOverrides repr) topology.assets := by
  obtain ⟨hcounts, hassets⟩ := snapshot_of_published h
  have hids : ((topology.assets.map PublishedAsset.ofSensor).map (·.assetId)).Nodup := by
    rw [List.map_map]
    exact hnodup
  have hafter : ∀ level,
      payload.snapshot.assets.countP (fun asset => levelOf asset.purdueLevel = level)
        = topology.assets.countP
          fun asset => levelAfter repr (publisher.manualOverrides repr) asset = level := by
    intro level
    rw [hassets, applyManualOverridesToTopology_eq_map hids, List.map_map, List.countP_map]
    refine List.countP_congr fun asset _ => ?_
    simp only [Function.comp_apply, (purdueLevel_foldl _).1]
    rfl
  refine forall_congr' fun level => ?_
  have hmoved := countP_levelAfter repr (publisher.manualOverrides repr) topology.assets level
  rw [hcounts, hzones, get?_zoneCounts]
  simp only [hafter level]
  constructor
  · intro hsame
    split at hsame <;> split at hsame <;> simp at hsame <;> omega
  · intro hbalanced
    have hsame : topology.assets.countP (fun asset => levelOf asset.purdueLevel = level)
        = topology.assets.countP
          fun asset => levelAfter repr (publisher.manualOverrides repr) asset = level := by
      omega
    rw [hsame]

/-- The published counts are right exactly when the overrides of the store move as many rows
into every level as out of it. -/
theorem published_zoneCounts_iff (publisher : TopologySnapshotPublisher) (artifact : Obj)
    (observedAt : String) (platform : Platform) (tenantId sensorId : String)
    (observed : Observed) (portHints : Dict String PortHint) (payload : LearningPayload)
    (hpublished : publisher.publishLearningSnapshot repr artifact observedAt
      (some (buildObservedTopology platform tenantId sensorId observed portHints))
        = some payload) :
    payload.snapshot.ZonesMatch
      ↔ LevelsBalanced repr (publisher.manualOverrides repr)
        (buildObservedTopology platform tenantId sensorId observed portHints).assets :=
  zonesMatch_iff (nodup_assetIds platform tenantId sensorId observed portHints) rfl hpublished

/-- A store that puts one asset at a level. -/
def storeOf (assetId level : String) : Obj :=
  [("overrides", .obj [(assetId, .obj [
    ("asset_id", .str assetId), ("patch", .obj [("purdue_level", .str level)])])])]

def samplePublisher (overrides : Obj) : TopologySnapshotPublisher :=
  { tenantId := "tenant", siteId := "site", sensorId := "sensor", overrides := some overrides }

/-- An override that names the level the asset is at changes no count. -/
theorem published_zoneCounts_sameLevel : ∃ payload,
    (samplePublisher (storeOf "5a7da3e353c90dd7" "L1")).publishLearningSnapshot (fun _ => "") []
        "2026-01-01T00:00:00Z"
        (some (buildObservedTopology samplePlatform "tenant" "sensor" sampleObserved []))
      = some payload
    ∧ (payload.snapshot.ZonesMatch ↔ LevelsBalanced (fun _ => "")
      ((samplePublisher (storeOf "5a7da3e353c90dd7" "L1")).manualOverrides fun _ => "")
      (buildObservedTopology samplePlatform "tenant" "sensor" sampleObserved []).assets) :=
  ⟨_, rfl, published_zoneCounts_iff _ _ _ _ _ _ _ _ _ rfl⟩

/-- The PLC is put at the level of the HMI, and the counts still have one asset at each. -/
theorem overridden_miscounted : ∃ payload,
    (samplePublisher (storeOf "5a7da3e353c90dd7" "L2")).publishLearningSnapshot (fun _ => "") []
        "2026-01-01T00:00:00Z"
        (some (buildObservedTopology samplePlatform "tenant" "sensor" sampleObserved []))
      = some payload
    ∧ ¬ payload.snapshot.ZonesMatch := by
  refine ⟨_, rfl, fun h => ?_⟩
  have hlevel := h "L1"
  revert hlevel
  decide

end Publisher

end EdgeSensor.Agent
