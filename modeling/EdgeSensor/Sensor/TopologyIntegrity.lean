import EdgeSensor.Sensor.TopologyPasses

/-!
# The integrity of a topology snapshot

Assets, conduits and external entities come from five passes that merge into the same rows.
Whatever roles the addresses play together, the snapshot refers only to what it lists
(`snapshot_integrity`).

Assets and external entities are meant to be two classes. The destination of a pair is
sorted into one of them by `_is_rfc1918`; its source is made an asset without the test, and
so is everything another pass touches. The classes are disjoint exactly when no destination
that counts as external is also shown as an asset (`disjoint_classes`).
-/

namespace EdgeSensor.Sensor

open EdgeSensor.Lib EdgeSensor.Py

/-- The two hashes do not collide. -/
structure Platform.Injective (platform : Platform) : Prop where
  assetId : ∀ t s k t' s' k', platform.assetId t s k = platform.assetId t' s' k' →
    t = t' ∧ s = s' ∧ k = k'
  conduitId : ∀ s d p s' d' p', platform.conduitId s d p = platform.conduitId s' d' p' →
    s = s' ∧ d = d' ∧ p = p'

/-- A snapshot refers only to what it lists, and lists nothing twice. -/
structure SnapshotIntegrity (s : TopologySnapshot) : Prop where
  ips : (s.assets.map (·.ip)).Nodup
  src : ∀ c ∈ s.conduits, ∃ a ∈ s.assets, a.assetId = c.srcAssetId
  dst : ∀ c ∈ s.conduits,
    (c.dstKind = .asset → ∃ a ∈ s.assets, a.assetId = c.dstId)
      ∧ (c.dstKind = .external → ∃ e ∈ s.externalEntities, e.entityId = c.dstId)
  conduitIds : (s.conduits.map (·.conduitId)).Nodup
  seen : ∀ e ∈ s.externalEntities, ∀ id ∈ e.seenFromAssets, ∃ a ∈ s.assets, a.assetId = id
  entityIds : (s.externalEntities.map (·.entityId)).Nodup
  zones : (s.zoneCounts.map (·.2)).sum = s.assets.length

variable {platform : Platform} {tenantId sensorId : String} {observed : Observed}
  {portHints : Dict String PortHint}

theorem built_topology (platform : Platform) (tenantId sensorId : String) (observed : Observed)
    (portHints : Dict String PortHint) :
    Built platform tenantId sensorId (topologyCalls platform observed portHints)
      (builtTopology platform tenantId sensorId observed portHints) :=
  built_foldl _

/-! ## What is listed -/

theorem externalEntityId_inj {ip ip' : String} (h : externalEntityId ip = externalEntityId ip') :
    ip = ip' :=
  (String.append_right_inj _).mp h

section Listed

variable {calls : List TopologyCall} {b : TopologyBuilder}

/-- A touched address has its asset. -/
theorem Built.exists_asset (h : Built platform tenantId sensorId calls b) {ip : String}
    (hip : ip ∈ touchedIps calls) :
    ∃ a ∈ b.assets.map (·.2), a.assetId = assetIdOf platform tenantId sensorId ip := by
  have hsome := (h.listed _).mpr ⟨ip, hip, rfl⟩
  obtain ⟨row, hrow⟩ := Option.isSome_iff_exists.mp hsome
  exact ⟨row, List.mem_map.mpr ⟨_, Dict.mem_of_get? hrow, rfl⟩, h.assets.key_of_get? hrow⟩

/-- A destination that was reached has its entity. -/
theorem Built.exists_entity (h : Built platform tenantId sensorId calls b) {src dst : String}
    (hcall : .egress src dst ∈ calls) :
    ∃ e ∈ b.externals.map (·.2), e.entityId = externalEntityId dst ∧ e.ip = dst := by
  have hsome := (h.reached dst).mpr ⟨src, hcall⟩
  obtain ⟨ext, hext⟩ := Option.isSome_iff_exists.mp hsome
  have hmem := Dict.mem_of_get? hext
  exact ⟨ext, List.mem_map.mpr ⟨_, hmem, rfl⟩, h.entity _ hmem, h.externals.own _ hmem⟩

theorem mem_conduitKeys {key : ConduitKey} :
    key ∈ conduitKeys calls ↔ ∃ call ∈ calls, call.key = some key :=
  List.mem_filterMap

/-- The ends of a conduit between grounded calls are touched, or reached. -/
theorem Grounded.ends (h : Grounded calls) {key : ConduitKey} (hkey : key ∈ conduitKeys calls) :
    key.src ∈ touchedIps calls ∧ (key.kind = .asset → key.dst ∈ touchedIps calls)
      ∧ (key.kind = .external → ∃ src, .egress src key.dst ∈ calls) := by
  obtain ⟨call, hcall, heq⟩ := mem_conduitKeys.mp hkey
  have hgrounded := h call hcall
  cases call with
  | touch args => cases heq
  | link l =>
    cases heq
    refine ⟨hgrounded.1, fun _ => hgrounded.2, fun hkind => ?_⟩
    cases hkind
  | egress src dst =>
    cases heq
    refine ⟨hgrounded, fun hkind => ?_, fun _ => ⟨src, hcall⟩⟩
    cases hkind

/-- A conduit refers to what one of the keys refers to. -/
theorem Built.refs_of_mem (h : Built platform tenantId sensorId calls b) {c : Conduit}
    (hc : c ∈ b.conduits) : ∃ key ∈ conduitKeys calls, c.dstKind = key.kind
      ∧ c.srcAssetId = assetIdOf platform tenantId sensorId key.src
      ∧ c.dstId = key.dstId platform tenantId sensorId := by
  have hrefs : c.refs ∈ (conduitKeys calls).map (ConduitKey.refs platform tenantId sensorId) := by
    rw [← h.conduits]
    exact List.mem_map_of_mem hc
  obtain ⟨key, hkey, heq⟩ := List.mem_map.mp hrefs
  simp only [ConduitKey.refs, Conduit.refs, Prod.mk.injEq] at heq
  obtain ⟨_, hsrc, hkind, hdst⟩ := heq
  exact ⟨key, hkey, hkind.symm, hsrc.symm, hdst.symm⟩

theorem Built.nodup_ips (h : Built platform tenantId sensorId calls b) :
    (b.assets.map (·.2.ip)).Nodup := by
  have hids : b.assets.map (·.1)
      = (b.assets.map (·.2.ip)).map (assetIdOf platform tenantId sensorId) := by
    rw [List.map_map]
    exact List.map_congr_left h.own
  have hnodup := h.assets.nodup
  rw [hids] at hnodup
  exact hnodup.of_map _

theorem Built.nodup_entityIds (h : Built platform tenantId sensorId calls b) :
    (b.externals.map (·.2.entityId)).Nodup := by
  have hids : b.externals.map (·.2.entityId) = (b.externals.map (·.1)).map externalEntityId := by
    rw [List.map_map]
    exact List.map_congr_left h.entity
  rw [hids]
  exact h.externals.nodup.map fun ip ip' heq => externalEntityId_inj heq

end Listed

/-! ## Integrity -/

theorem Platform.Injective.assetIdOf (h : platform.Injective) {ip ip' : String}
    (heq : assetIdOf platform tenantId sensorId ip = assetIdOf platform tenantId sensorId ip') :
    ip = ip' :=
  (String.append_right_inj _).mp (h.assetId _ _ _ _ _ _ heq).2.2

/-- Without collisions, different conduits of the passes have different ids. -/
theorem Platform.Injective.refs (h : platform.Injective) {key key' : ConduitKey}
    (hkey : key ∈ conduitKeys (topologyCalls platform observed portHints))
    (hkey' : key' ∈ conduitKeys (topologyCalls platform observed portHints))
    (heq : (key.refs platform tenantId sensorId).1 = (key'.refs platform tenantId sensorId).1) :
    key = key' := by
  have hkinds := external_iff_egress hkey
  have hkinds' := external_iff_egress hkey'
  obtain ⟨src, kind, dst, protocol⟩ := key
  obtain ⟨src', kind', dst', protocol'⟩ := key'
  -- without collisions the id gives back source, destination and protocol
  obtain ⟨hsrc, hdst, rfl⟩ := h.conduitId _ _ _ _ _ _ heq
  obtain rfl : src = src' := h.assetIdOf hsrc
  -- the protocol decides on which side the destination is
  have hkind : kind = .external ↔ kind' = .external := hkinds.trans hkinds'.symm
  obtain rfl : kind = kind' := by
    cases kind <;> cases kind' <;> simp_all
  cases kind with
  | asset =>
    obtain rfl : dst = dst' := h.assetIdOf hdst
    rfl
  | external =>
    obtain rfl : dst = dst' := externalEntityId_inj hdst
    rfl

theorem nodup_conduitIds (hplatform : platform.Injective)
    (hshape : CollectorShape observed portHints) :
    ((buildObservedTopology platform tenantId sensorId observed portHints).conduits.map
      (·.conduitId)).Nodup := by
  have hbuilt := built_topology platform tenantId sensorId observed portHints
  have hids : (builtTopology platform tenantId sensorId observed portHints).conduits.map
        (·.conduitId)
      = (conduitKeys (topologyCalls platform observed portHints)).map
        fun key => (key.refs platform tenantId sensorId).1 := by
    have hrefs := congrArg (List.map Prod.fst) hbuilt.conduits
    rw [List.map_map, List.map_map] at hrefs
    exact hrefs
  show ((builtTopology platform tenantId sensorId observed portHints).conduits.map _).Nodup
  rw [hids]
  exact (nodup_conduitKeys hshape).map_on fun key hkey key' hkey' heq =>
    hplatform.refs hkey hkey' heq

/-- A snapshot of what a collector observed is sound: addresses, conduits and entities are
listed once, and every reference is to something listed. -/
theorem snapshot_integrity (platform : Platform) (tenantId sensorId : String)
    (observed : Observed) (portHints : Dict String PortHint) (hplatform : platform.Injective)
    (hshape : CollectorShape observed portHints) :
    SnapshotIntegrity (buildObservedTopology platform tenantId sensorId observed portHints) := by
  have hbuilt := built_topology platform tenantId sensorId observed portHints
  have hgrounded := grounded_topologyCalls platform observed portHints
  refine ⟨?_, ?_, ?_, nodup_conduitIds hplatform hshape, ?_, ?_, ?_⟩
  · show ((List.map _ _).map _).Nodup
    rw [List.map_map]
    exact hbuilt.nodup_ips
  · intro c hc
    obtain ⟨key, hkey, _, hsrc, _⟩ := hbuilt.refs_of_mem hc
    rw [hsrc]
    exact hbuilt.exists_asset (hgrounded.ends hkey).1
  · intro c hc
    obtain ⟨key, hkey, hkind, _, hdst⟩ := hbuilt.refs_of_mem hc
    obtain ⟨_, hasset, hexternal⟩ := hgrounded.ends hkey
    rw [hkind, hdst]
    constructor
    · intro heq
      have hid : key.dstId platform tenantId sensorId
          = assetIdOf platform tenantId sensorId key.dst := by
        unfold ConduitKey.dstId
        rw [heq]
      rw [hid]
      exact hbuilt.exists_asset (hasset heq)
    · intro heq
      have hid : key.dstId platform tenantId sensorId = externalEntityId key.dst := by
        unfold ConduitKey.dstId
        rw [heq]
      rw [hid]
      obtain ⟨src, hcall⟩ := hexternal heq
      obtain ⟨e, he, heid, _⟩ := hbuilt.exists_entity hcall
      exact ⟨e, he, heid⟩
  · intro e he id hid
    obtain ⟨kv, hkv, rfl⟩ := List.mem_map.mp he
    obtain ⟨src, dst, hcall, rfl⟩ := hbuilt.seen kv hkv id hid
    exact hbuilt.exists_asset (hgrounded _ hcall)
  · show ((List.map _ _).map _).Nodup
    rw [List.map_map]
    exact hbuilt.nodup_entityIds
  · show ((zoneCounts _).map (·.2)).sum = _
    unfold zoneCounts
    rw [Dict.sum_tally, List.length_map]
    rfl

/-! ## A platform without collisions -/

/-- Three texts as one, lengths first. -/
def joined (a b c : String) : String := s!"{a.length}|{b.length}|{a}{b}{c}"

theorem joined_toList (a b c : String) :
    (joined a b c).toList = Nat.toDigits 10 a.length ++ '|' :: (Nat.toDigits 10 b.length
      ++ '|' :: (a.toList ++ (b.toList ++ c.toList))) := by
  unfold joined
  simp only [String.toList_append, List.append_assoc]
  show (Nat.repr a.length).toList ++ ('|' :: ((Nat.repr b.length).toList ++ ('|' :: _))) = _
  rw [Nat.repr, Nat.repr, String.toList_ofList, String.toList_ofList]
  rfl

theorem joined_inj {a b c a' b' c' : String} (h : joined a b c = joined a' b' c') :
    a = a' ∧ b = b' ∧ c = c' := by
  have hdigits : ∀ n : Nat, '|' ∉ Nat.toDigits 10 n := fun n => not_mem_toDigits n (by decide)
  have hinj : ∀ {m n : Nat}, Nat.toDigits 10 m = Nat.toDigits 10 n → m = n := by
    intro m n heq
    rw [← @Nat.ofDigitChars_ten_toDigits m, heq, Nat.ofDigitChars_ten_toDigits]
  have hlists := congrArg String.toList h
  rw [joined_toList, joined_toList] at hlists
  obtain ⟨ha, hlists⟩ := append_separator_inj (hdigits _) (hdigits _) hlists
  obtain ⟨hb, hlists⟩ := append_separator_inj (hdigits _) (hdigits _) hlists
  obtain ⟨ha, hlists⟩ := List.append_inj hlists (hinj ha)
  obtain ⟨hb, hc⟩ := List.append_inj hlists (hinj hb)
  exact ⟨String.toList_inj.mp ha, String.toList_inj.mp hb, String.toList_inj.mp hc⟩

/-- A function with given values at some points, and `joined` everywhere else. -/
def patched (known : Dict (String × String × String) String) (a b c : String) : String :=
  (known.get? (a, b, c)).getD (joined a b c)

theorem patched_inj {known : Dict (String × String × String) String}
    (hplain : ∀ kv ∈ known, '|' ∉ kv.2.toList)
    (hdistinct : ∀ kv ∈ known, ∀ kv' ∈ known, kv.2 = kv'.2 → kv.1 = kv'.1)
    {a b c a' b' c' : String} (h : patched known a b c = patched known a' b' c') :
    a = a' ∧ b = b' ∧ c = c' := by
  have hjoined : ∀ a b c, '|' ∈ (joined a b c).toList := by
    intro a b c
    rw [joined_toList]
    exact List.mem_append_right _ List.mem_cons_self
  unfold patched at h
  cases hget : known.get? (a, b, c) with
  | none =>
    rw [hget] at h
    cases hget' : known.get? (a', b', c') with
    | none =>
      rw [hget'] at h
      exact joined_inj h
    | some v =>
      rw [hget'] at h
      have hbar := hjoined a b c
      rw [show joined a b c = v from h] at hbar
      exact absurd hbar (hplain _ (Dict.mem_of_get? hget'))
  | some v =>
    rw [hget] at h
    cases hget' : known.get? (a', b', c') with
    | none =>
      rw [hget'] at h
      have hbar := hjoined a' b' c'
      rw [← show v = joined a' b' c' from h] at hbar
      exact absurd hbar (hplain _ (Dict.mem_of_get? hget))
    | some v' =>
      rw [hget'] at h
      have heq := hdistinct _ (Dict.mem_of_get? hget) _ (Dict.mem_of_get? hget') h
      simpa using heq

/-- The hashes of one small site: an HMI, a PLC, and a public resolver. -/
def samplePlatform : Platform where
  assetId := patched [
    (("tenant", "sensor", "ip:10.0.0.1"), "5a7da3e353c90dd7"),
    (("tenant", "sensor", "ip:10.0.0.2"), "a87c5cae22631276"),
    (("tenant", "sensor", "ip:8.8.8.8"), "7d68b43ab86656f2")]
  conduitId := patched [
    (("a87c5cae22631276", "5a7da3e353c90dd7", "modbus-tcp"), "4c0ebde304d66530"),
    (("5a7da3e353c90dd7", "ext:8.8.8.8", "egress"), "c1a86ec2db2143a7"),
    (("7d68b43ab86656f2", "5a7da3e353c90dd7", "unknown"), "489661766867f70f")]
  tables := ⟨fun _ => none, fun _ => false⟩

theorem samplePlatform_injective : samplePlatform.Injective := by
  constructor
  · intro t s k t' s' k' h
    exact patched_inj (by decide) (by decide) h
  · intro s d p s' d' p' h
    exact patched_inj (by decide) (by decide) h

/-- A PLC with one client, which also talks to the resolver. -/
def sampleObserved : Observed where
  modbusServers := [{ serverIp := "10.0.0.1", allowedClients := ["10.0.0.2"] }]
  commPairs := [("10.0.0.1", "8.8.8.8")]

theorem snapshot_integrity_sample :
    SnapshotIntegrity (buildObservedTopology samplePlatform "tenant" "sensor" sampleObserved []) :=
  snapshot_integrity samplePlatform "tenant" "sensor" sampleObserved [] samplePlatform_injective
    ⟨by decide, by decide, by decide, by decide, by decide, by decide, by decide, by decide,
      by decide⟩

/-! ## Assets and external entities -/

/-- No address is listed in both classes. -/
def DisjointClasses (s : TopologySnapshot) : Prop :=
  ∀ a ∈ s.assets, ∀ e ∈ s.externalEntities, a.ip ≠ e.ip

instance (s : TopologySnapshot) : Decidable (DisjointClasses s) :=
  inferInstanceAs (Decidable (∀ a ∈ s.assets, ∀ e ∈ s.externalEntities, _))

/-- No destination that leads out of the site is shown as an asset, by the source of a pair
or by any other pass. -/
def NoExternalAsset (tables : UnicodeTables) (observed : Observed)
    (portHints : Dict String PortHint) : Prop :=
  ∀ pair ∈ observed.commPairs, CompletePair pair → isRfc1918 tables (strip pair.2) = false →
    ¬ ShowsAsset tables observed portHints (strip pair.2)

/-- The two classes are disjoint if no destination that leads out is shown as an asset, and,
as long as no two addresses share an asset id, only then. -/
theorem disjoint_classes (platform : Platform) (tenantId sensorId : String) (observed : Observed)
    (portHints : Dict String PortHint) :
    (NoExternalAsset platform.tables observed portHints →
      DisjointClasses (buildObservedTopology platform tenantId sensorId observed portHints))
    ∧ ((∀ ip ip', assetIdOf platform tenantId sensorId ip = assetIdOf platform tenantId sensorId ip'
          → ip = ip') →
      DisjointClasses (buildObservedTopology platform tenantId sensorId observed portHints) →
      NoExternalAsset platform.tables observed portHints) := by
  have hbuilt := built_topology platform tenantId sensorId observed portHints
  constructor
  · intro hno a ha e he heq
    obtain ⟨akv, hakv, rfl⟩ := List.mem_map.mp ha
    obtain ⟨ekv, hekv, rfl⟩ := List.mem_map.mp he
    have hshows := mem_touchedIps_topologyCalls.mp (hbuilt.touched akv hakv)
    have hreached := (hbuilt.reached ekv.1).mp
      (Option.isSome_iff_exists.mpr ⟨ekv.2, Dict.get?_of_mem hbuilt.externals.nodup hekv⟩)
    obtain ⟨src, hcall⟩ := hreached
    obtain ⟨pair, hpair, hcomplete, hpublic, _, hdst⟩ := egress_topologyCalls.mp hcall
    apply hno pair hpair hcomplete hpublic
    rw [← hdst, ← hbuilt.externals.own ekv hekv, ← heq]
    exact hshows
  · intro hinj hdisjoint pair hpair hcomplete hpublic hshows
    -- the destination has an entity, and by the other pass a row as well
    have hcall : .egress (strip pair.1) (strip pair.2)
        ∈ topologyCalls platform observed portHints :=
      egress_topologyCalls.mpr ⟨pair, hpair, hcomplete, hpublic, rfl, rfl⟩
    obtain ⟨e, he, _, heip⟩ := hbuilt.exists_entity hcall
    obtain ⟨a, ha, haid⟩ := hbuilt.exists_asset (mem_touchedIps_topologyCalls.mpr hshows)
    -- the row with the id of the address is that of the address
    obtain ⟨akv, hakv, rfl⟩ := List.mem_map.mp ha
    have hid : assetIdOf platform tenantId sensorId akv.2.ip
        = assetIdOf platform tenantId sensorId (strip pair.2) := by
      rw [← hbuilt.own akv hakv, ← hbuilt.assets.own akv hakv]
      exact haid
    apply hdisjoint akv.2 ha e he
    rw [hinj _ _ hid, heip]

/-- A host that talks to a public resolver and is answered: the resolver is listed twice. -/
theorem resolver_in_both_classes :
    ¬ DisjointClasses (buildObservedTopology samplePlatform "tenant" "sensor"
      { commPairs := [("10.0.0.1", "8.8.8.8"), ("8.8.8.8", "10.0.0.1")] } []) := by
  decide

end EdgeSensor.Sensor
