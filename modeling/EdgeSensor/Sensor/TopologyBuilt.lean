import EdgeSensor.Sensor.PurdueClassifier

/-!
# What calls build

`Built calls b` says of a snapshot under construction what the calls performed so far have
made of it: which assets are listed, which conduits there are, which external entities. One
lemma for each call, then induction over the calls (`built_foldl`). Nothing is assumed of
the two hashes: two addresses whose ids collide share one row, that of the first.
-/

namespace EdgeSensor.Sensor

open EdgeSensor.Lib EdgeSensor.Py

/-- The address a call touches. -/
def TopologyCall.touched : TopologyCall → Option String
  | .touch args => some args.ip
  | .link _ | .egress _ _ => none

/-- The addresses some calls touch. -/
def touchedIps (calls : List TopologyCall) : List String := calls.filterMap TopologyCall.touched

/-- What tells one conduit from another. -/
structure ConduitKey where
  src : String
  kind : RefKind
  dst : String
  protocol : String
  deriving DecidableEq

/-- The conduit a call appends. -/
def TopologyCall.key : TopologyCall → Option ConduitKey
  | .touch _ => none
  | .link l => some ⟨l.srcIp, .asset, l.dstIp, l.protocol⟩
  | .egress src dst => some ⟨src, .external, dst, "egress"⟩

/-- The conduits some calls append. -/
def conduitKeys (calls : List TopologyCall) : List ConduitKey := calls.filterMap TopologyCall.key

theorem conduitKeys_append (calls calls' : List TopologyCall) :
    conduitKeys (calls ++ calls') = conduitKeys calls ++ conduitKeys calls' :=
  List.filterMap_append

section Built

variable (platform : Platform) (tenantId sensorId : String)

/-- What a conduit refers to: its id, its source, and its destination. -/
def Conduit.refs (c : Conduit) : String × String × RefKind × String :=
  (c.conduitId, c.srcAssetId, c.dstKind, c.dstId)

/-- The id of the destination of a conduit. -/
def ConduitKey.dstId (key : ConduitKey) : String :=
  match key.kind with
  | .asset => assetIdOf platform tenantId sensorId key.dst
  | .external => externalEntityId key.dst

/-- What the conduit refers to. -/
def ConduitKey.refs (key : ConduitKey) : String × String × RefKind × String :=
  let src := assetIdOf platform tenantId sensorId key.src
  let dst := key.dstId platform tenantId sensorId
  (platform.conduitId src dst key.protocol, src, key.kind, dst)

/-- The snapshot under construction is what these calls make of an empty one. -/
structure Built (calls : List TopologyCall) (b : TopologyBuilder) : Prop where
  assets : Dict.Keyed TopologyAsset.assetId b.assets
  own : ∀ kv ∈ b.assets, kv.1 = assetIdOf platform tenantId sensorId kv.2.ip
  touched : ∀ kv ∈ b.assets, kv.2.ip ∈ touchedIps calls
  listed : ∀ id, (b.assets.get? id).isSome
    ↔ ∃ ip ∈ touchedIps calls, assetIdOf platform tenantId sensorId ip = id
  conduits : b.conduits.map Conduit.refs
    = (conduitKeys calls).map (ConduitKey.refs platform tenantId sensorId)
  externals : Dict.Keyed ExternalEntity.ip b.externals
  entity : ∀ kv ∈ b.externals, kv.2.entityId = externalEntityId kv.1
  reached : ∀ ip, (b.externals.get? ip).isSome ↔ ∃ src, .egress src ip ∈ calls
  seen : ∀ kv ∈ b.externals, ∀ id ∈ kv.2.seenFromAssets,
    ∃ src dst, .egress src dst ∈ calls ∧ assetIdOf platform tenantId sensorId src = id

variable {platform tenantId sensorId} {calls : List TopologyCall} {b : TopologyBuilder}

theorem Built.empty : Built platform tenantId sensorId [] {} := by
  refine ⟨.nil, ?_, ?_, ?_, rfl, .nil, ?_, ?_, ?_⟩
  · exact fun kv h => absurd h List.not_mem_nil
  · exact fun kv h => absurd h List.not_mem_nil
  · intro id
    simp [touchedIps]
  · exact fun kv h => absurd h List.not_mem_nil
  · intro ip
    simp
  · exact fun kv h => absurd h List.not_mem_nil

theorem touchedIps_concat (calls : List TopologyCall) (call : TopologyCall) :
    touchedIps (calls ++ [call]) = touchedIps calls ++ call.touched.toList := by
  unfold touchedIps
  rw [List.filterMap_append]
  cases h : call.touched with
  | none => rw [List.filterMap_cons_none h]; rfl
  | some ip => rw [List.filterMap_cons_some h]; rfl

theorem mem_touchedIps_touch {ip : String} {args : Touch} :
    ip ∈ touchedIps (calls ++ [.touch args]) ↔ ip ∈ touchedIps calls ∨ ip = args.ip := by
  rw [touchedIps_concat]
  simp [TopologyCall.touched]

theorem conduitKeys_concat (calls : List TopologyCall) (call : TopologyCall) :
    conduitKeys (calls ++ [call]) = conduitKeys calls ++ call.key.toList := by
  rw [conduitKeys_append]
  cases call with
  | touch args => rfl
  | link l => rfl
  | egress src dst => rfl

/-- A touch lists the asset of its address, and changes no reference. -/
theorem Built.touch (h : Built platform tenantId sensorId calls b) (args : Touch) :
    Built platform tenantId sensorId (calls ++ [.touch args])
      (b.touchAsset platform tenantId sensorId args) := by
  -- the row written, new or merged, is one for an address touched before or now
  have hid : ∀ row, row = args.row platform tenantId sensorId
        (b.assets.get? (assetIdOf platform tenantId sensorId args.ip)) →
      row.assetId = assetIdOf platform tenantId sensorId args.ip
      ∧ assetIdOf platform tenantId sensorId args.ip = assetIdOf platform tenantId sensorId row.ip
      ∧ row.ip ∈ touchedIps (calls ++ [.touch args]) := by
    intro row hrow
    cases hget : b.assets.get? (assetIdOf platform tenantId sensorId args.ip) with
    | none =>
      rw [hget] at hrow
      subst hrow
      exact ⟨rfl, rfl, mem_touchedIps_touch.mpr (.inr rfl)⟩
    | some old =>
      rw [hget] at hrow
      subst hrow
      have hmem := Dict.mem_of_get? hget
      have hold : old.assetId = assetIdOf platform tenantId sensorId args.ip :=
        h.assets.key_of_get? hget
      exact ⟨hold, h.own _ hmem,
        mem_touchedIps_touch.mpr (.inl (h.touched _ hmem))⟩
  obtain ⟨hkey, hown, htouched⟩ := hid _ rfl
  refine ⟨h.assets.set hkey, ?_, ?_, ?_, ?_, h.externals, h.entity, ?_, ?_⟩
  · intro kv hkv
    rcases Dict.mem_set hkv with rfl | hkv
    · exact hown
    · exact h.own kv hkv
  · intro kv hkv
    rcases Dict.mem_set hkv with rfl | hkv
    · exact htouched
    · exact mem_touchedIps_touch.mpr (.inl (h.touched kv hkv))
  · intro id
    simp only [TopologyBuilder.touchAsset, Dict.get?_set, mem_touchedIps_touch]
    -- the id of this address, or one that was listed before
    by_cases heq : assetIdOf platform tenantId sensorId args.ip = id
    · rw [if_pos heq]
      exact iff_of_true rfl ⟨args.ip, .inr rfl, heq⟩
    · rw [if_neg heq, h.listed id]
      constructor
      · rintro ⟨ip, hip, hid⟩
        exact ⟨ip, .inl hip, hid⟩
      · rintro ⟨ip, hip | rfl, hid⟩
        · exact ⟨ip, hip, hid⟩
        · exact absurd hid heq
  · rw [conduitKeys_concat, List.map_append, ← h.conduits]
    exact (List.append_nil _).symm
  · intro ip
    show (b.externals.get? ip).isSome ↔ _
    rw [h.reached ip]
    simp
  · intro kv hkv id hid
    obtain ⟨src, dst, hmem, heq⟩ := h.seen kv hkv id hid
    exact ⟨src, dst, List.mem_append_left _ hmem, heq⟩

/-- A link appends its conduit and changes nothing else. -/
theorem Built.link (h : Built platform tenantId sensorId calls b) (l : Link) :
    Built platform tenantId sensorId (calls ++ [.link l])
      (b.link platform tenantId sensorId l) := by
  have htouched : touchedIps (calls ++ [.link l]) = touchedIps calls := by
    rw [touchedIps_concat]
    exact List.append_nil _
  refine ⟨h.assets, h.own, ?_, ?_, ?_, h.externals, h.entity, ?_, ?_⟩
  · rw [htouched]
    exact h.touched
  · rw [htouched]
    exact h.listed
  · show (b.conduits ++ [_]).map Conduit.refs = _
    rw [conduitKeys_concat, List.map_append, List.map_append, h.conduits]
    rfl
  · intro ip
    show (b.externals.get? ip).isSome ↔ _
    rw [h.reached ip]
    simp
  · intro kv hkv id hid
    obtain ⟨src, dst, hmem, heq⟩ := h.seen kv hkv id hid
    exact ⟨src, dst, List.mem_append_left _ hmem, heq⟩

/-- The entity of an address has its address and its id, and is seen from sources only. -/
theorem Built.entityOf (h : Built platform tenantId sensorId calls b) (dst : String) :
    (b.entityOf tenantId dst).ip = dst
      ∧ (b.entityOf tenantId dst).entityId = externalEntityId dst
      ∧ ∀ id ∈ (b.entityOf tenantId dst).seenFromAssets,
        ∃ src dst, .egress src dst ∈ calls ∧ assetIdOf platform tenantId sensorId src = id := by
  unfold TopologyBuilder.entityOf
  cases hget : b.externals.get? dst with
  | none => exact ⟨rfl, rfl, fun id hid => absurd hid List.not_mem_nil⟩
  | some ext =>
    have hmem := Dict.mem_of_get? hget
    exact ⟨h.externals.key_of_get? hget, h.entity _ hmem, h.seen _ hmem⟩

/-- An egress lists the entity and appends the conduit to it. -/
theorem Built.egress (h : Built platform tenantId sensorId calls b) (src dst : String) :
    Built platform tenantId sensorId (calls ++ [.egress src dst])
      (b.egress platform tenantId sensorId src dst) := by
  obtain ⟨hip, hentity, hseen⟩ := h.entityOf dst
  have htouched : touchedIps (calls ++ [.egress src dst]) = touchedIps calls := by
    rw [touchedIps_concat]
    exact List.append_nil _
  refine ⟨h.assets, h.own, ?_, ?_, ?_, h.externals.set hip, ?_, ?_, ?_⟩
  · rw [htouched]
    exact h.touched
  · rw [htouched]
    exact h.listed
  · show (b.conduits ++ [_]).map Conduit.refs = _
    rw [conduitKeys_concat, List.map_append, List.map_append, h.conduits]
    show _ ++ [(platform.conduitId _ (b.entityOf tenantId dst).entityId "egress", _, _,
      (b.entityOf tenantId dst).entityId)] = _
    rw [hentity]
    rfl
  · intro kv hkv
    rcases Dict.mem_set hkv with rfl | hkv
    · exact hentity
    · exact h.entity kv hkv
  · intro ip
    show ((b.externals.set dst _).get? ip).isSome ↔ _
    rw [Dict.get?_set]
    -- this destination, or one that was reached before
    by_cases heq : dst = ip
    · rw [if_pos heq, ← heq]
      exact iff_of_true rfl ⟨src, List.mem_append_right _ List.mem_cons_self⟩
    · rw [if_neg heq, h.reached ip]
      constructor
      · rintro ⟨src', hmem⟩
        exact ⟨src', List.mem_append_left _ hmem⟩
      · rintro ⟨src', hmem⟩
        rcases List.mem_append.mp hmem with hmem | hmem
        · exact ⟨src', hmem⟩
        · cases List.mem_singleton.mp hmem
          exact absurd rfl heq
  · intro kv hkv id hid
    have hearlier : (∃ src dst, .egress src dst ∈ calls
          ∧ assetIdOf platform tenantId sensorId src = id) →
        ∃ src' dst', .egress src' dst' ∈ calls ++ [.egress src dst]
          ∧ assetIdOf platform tenantId sensorId src' = id := by
      rintro ⟨src', dst', hmem, heq⟩
      exact ⟨src', dst', List.mem_append_left _ hmem, heq⟩
    rcases Dict.mem_set hkv with rfl | hkv
    · simp only [ExternalEntity.seenFrom] at hid
      split at hid
      · exact hearlier (hseen id hid)
      · rcases List.mem_append.mp hid with hid | hid
        · exact hearlier (hseen id hid)
        · exact ⟨src, dst, List.mem_append_right _ List.mem_cons_self,
            (List.mem_singleton.mp hid).symm⟩
    · exact hearlier (h.seen kv hkv id hid)

theorem Built.perform (h : Built platform tenantId sensorId calls b) (call : TopologyCall) :
    Built platform tenantId sensorId (calls ++ [call])
      (b.perform platform tenantId sensorId call) := by
  cases call with
  | touch args => exact h.touch args
  | link l => exact h.link l
  | egress src dst => exact h.egress src dst

/-- What a list of calls makes of an empty snapshot. -/
theorem built_foldl (calls : List TopologyCall) :
    Built platform tenantId sensorId calls
      (calls.foldl (TopologyBuilder.perform platform tenantId sensorId) {}) := by
  induction calls using List.reverseRecOn with
  | nil => exact .empty
  | append_singleton calls call ih =>
    rw [List.foldl_append]
    exact ih.perform call

end Built

end EdgeSensor.Sensor
