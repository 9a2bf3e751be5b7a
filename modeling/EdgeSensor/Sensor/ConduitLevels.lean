import EdgeSensor.Sensor.AssetOrder

/-!
# The levels on conduits

A Modbus conduit is drawn from L2 to L1, one to an LDAP or DNS server from L2 to L4, whatever
level the two assets have or come to have. `conduitLevels_iff` says when these constants are
the levels of the assets in the finished snapshot: no Modbus client is a Modbus server or an
IED, and neither end of an LDAP or DNS conduit has a role that puts it elsewhere. A conduit
that leads out copies the level of its source, and keeps it: the pairs come last and a pair
gives no level (`Drawn.step`).
-/

namespace EdgeSensor.Sensor

open EdgeSensor.Lib EdgeSensor.Py

/-! ## What is drawn -/

/-- The level of the asset with an id, as built so far. -/
def TopologyBuilder.levelAt (b : TopologyBuilder) (id : String) : Option String :=
  (b.assets.get? id).bind (·.purdueLevel)

/-- The level a conduit out of the site gives its source: `str(purdue_level or "L2")`. -/
def levelOrL2 (purdueLevel : Option String) : String :=
  match purdueLevel with
  | none => "L2"
  | some level => if level = "" then "L2" else level

section Drawn

variable (platform : Platform) (tenantId sensorId : String)

/-- The conduit is the one of a link. -/
structure Conduit.Draws (c : Conduit) (l : Link) : Prop where
  src : c.srcAssetId = assetIdOf platform tenantId sensorId l.srcIp
  kind : c.dstKind = .asset
  dst : c.dstId = assetIdOf platform tenantId sensorId l.dstIp
  srcLevel : c.srcLevel = l.srcLevel
  dstLevel : c.dstLevel = l.dstLevel

/-- The conduit leads out from an address, at the level of its asset. -/
structure Conduit.LeadsOut (b : TopologyBuilder) (c : Conduit) (src : String) : Prop where
  src : c.srcAssetId = assetIdOf platform tenantId sensorId src
  kind : c.dstKind = .external
  level : c.srcLevel = some (levelOrL2 (b.levelAt c.srcAssetId))

/-- The conduits are those of the links and egresses among the calls. -/
structure Drawn (calls : List TopologyCall) (b : TopologyBuilder) : Prop where
  sound : ∀ c ∈ b.conduits,
    (∃ l, .link l ∈ calls ∧ c.Draws platform tenantId sensorId l)
      ∨ ∃ src dst, .egress src dst ∈ calls ∧ c.LeadsOut platform tenantId sensorId b src
  complete : ∀ l, .link l ∈ calls → ∃ c ∈ b.conduits, c.Draws platform tenantId sensorId l

variable {platform tenantId sensorId} {calls calls' : List TopologyCall} {b : TopologyBuilder}

theorem Drawn.empty : Drawn platform tenantId sensorId [] {} :=
  ⟨fun _ hc => absurd hc List.not_mem_nil, fun _ hl => absurd hl List.not_mem_nil⟩

/-- A call that gives no level. -/
def TopologyCall.Quiet : TopologyCall → Prop
  | .touch args => args.purdueLevel = none
  | .link _ | .egress _ _ => True

/-- A quiet call leaves the level of every asset as it is. -/
theorem levelAt_perform {call : TopologyCall} (h : call.Quiet) (id : String) :
    (b.perform platform tenantId sensorId call).levelAt id = b.levelAt id := by
  cases call with
  | link l => rfl
  | egress src dst => rfl
  | touch args =>
    have hquiet : args.purdueLevel = none := h
    unfold TopologyBuilder.levelAt
    simp only [TopologyBuilder.perform, TopologyBuilder.touchAsset]
    rw [Dict.get?_set]
    split
    · next heq =>
      rw [heq]
      cases b.assets.get? id with
      | none => exact hquiet
      | some row =>
        show (row.merge args).purdueLevel = row.purdueLevel
        unfold TopologyAsset.merge
        rw [hquiet]
    · rfl

/-- A call draws its own conduit. What was drawn before stays right as long as no level is
given after a conduit has copied one. -/
theorem Drawn.step (h : Drawn platform tenantId sensorId calls b) (call : TopologyCall)
    (hcall : (∀ src dst, .egress src dst ∉ calls) ∨ call.Quiet) :
    Drawn platform tenantId sensorId (calls ++ [call])
      (b.perform platform tenantId sensorId call) := by
  have hstays : ∀ c ∈ b.conduits,
      (∃ l, .link l ∈ calls ++ [call] ∧ c.Draws platform tenantId sensorId l)
        ∨ ∃ src dst, .egress src dst ∈ calls ++ [call]
          ∧ c.LeadsOut platform tenantId sensorId (b.perform platform tenantId sensorId call) src := by
    intro c hc
    rcases h.sound c hc with ⟨l, hl, hdraws⟩ | ⟨src, dst, hmem, hout⟩
    · exact .inl ⟨l, List.mem_append_left _ hl, hdraws⟩
    · rcases hcall with hnone | hquiet
      · exact absurd hmem (hnone src dst)
      · refine .inr ⟨src, dst, List.mem_append_left _ hmem, hout.src, hout.kind, ?_⟩
        rw [levelAt_perform hquiet]
        exact hout.level
  cases call with
  | touch args =>
    refine ⟨hstays, fun l hl => ?_⟩
    rcases List.mem_append.mp hl with hl | hl
    · exact h.complete l hl
    · cases List.mem_singleton.mp hl
  | link link =>
    constructor
    · intro c hc
      rcases List.mem_append.mp hc with hc | hc
      · exact hstays c hc
      · rw [List.mem_singleton.mp hc]
        exact .inl ⟨link, List.mem_append_right _ List.mem_cons_self, rfl, rfl, rfl, rfl, rfl⟩
    · intro l hl
      rcases List.mem_append.mp hl with hl | hl
      · obtain ⟨c, hc, hdraws⟩ := h.complete l hl
        exact ⟨c, List.mem_append_left _ hc, hdraws⟩
      · cases List.mem_singleton.mp hl
        exact ⟨_, List.mem_append_right _ List.mem_cons_self, rfl, rfl, rfl, rfl, rfl⟩
  | egress src dst =>
    constructor
    · intro c hc
      rcases List.mem_append.mp hc with hc | hc
      · exact hstays c hc
      · rw [List.mem_singleton.mp hc]
        exact .inr ⟨src, dst, List.mem_append_right _ List.mem_cons_self, rfl, rfl, rfl⟩
    · intro l hl
      rcases List.mem_append.mp hl with hl | hl
      · obtain ⟨c, hc, hdraws⟩ := h.complete l hl
        exact ⟨c, List.mem_append_left _ hc, hdraws⟩
      · cases List.mem_singleton.mp hl

theorem Drawn.run (h : Drawn platform tenantId sensorId calls b)
    (hcalls : ∀ call ∈ calls', (∀ src dst, .egress src dst ∉ calls ++ calls') ∨ call.Quiet) :
    Drawn platform tenantId sensorId (calls ++ calls')
      (calls'.foldl (TopologyBuilder.perform platform tenantId sensorId) b) := by
  induction calls' using List.reverseRecOn with
  | nil =>
    rw [List.append_nil]
    exact h
  | append_singleton calls' call ih =>
    have hearlier : ∀ other ∈ calls' ++ [call],
        (∀ src dst, .egress src dst ∉ calls ++ calls') ∨ other.Quiet := by
      intro other hother
      refine (hcalls other hother).imp_left fun hnone src dst hmem => hnone src dst ?_
      rw [← List.append_assoc]
      exact List.mem_append_left _ hmem
    rw [List.foldl_append, ← List.append_assoc]
    exact (ih fun other hother => hearlier other (List.mem_append_left _ hother)).step call
      (hearlier call (List.mem_append_right _ List.mem_cons_self))

/-- The passes before the pairs lead nowhere out, and the pairs give no level. -/
theorem drawn_topology (platform : Platform) (tenantId sensorId : String) (observed : Observed)
    (portHints : Dict String PortHint) :
    Drawn platform tenantId sensorId (topologyCalls platform observed portHints)
      (builtTopology platform tenantId sensorId observed portHints) := by
  have hinside : ∀ src dst, .egress src dst ∉ observed.modbusServers.flatMap (modbusCalls portHints)
      ++ observed.mmsIeds.flatMap mmsCalls ++ portHints.flatMap (hintCalls portHints) := by
    intro src dst hmem
    simp only [List.mem_append, List.mem_flatMap, egress_modbusCalls, egress_mmsCalls,
      egress_hintCalls, and_false, exists_false, or_self] at hmem
  have hquiet : ∀ call ∈ observed.commPairs.flatMap (pairCalls platform), call.Quiet := by
    intro call hcall
    obtain ⟨pair, _, hcall⟩ := List.mem_flatMap.mp hcall
    cases call with
    | touch args =>
      have hmem : args.standing ∈ standings args.ip (pairCalls platform pair) :=
        List.mem_map_of_mem (mem_touchesOf.mpr ⟨hcall, rfl⟩)
      exact congrArg (·.purdueLevel) (mem_standings_pairCalls.mp hmem).1
    | link l => trivial
    | egress src dst => trivial
  unfold builtTopology topologyCalls
  rw [List.foldl_append]
  refine Drawn.run ?_ fun call hcall => .inr (hquiet call hcall)
  exact Drawn.empty.run fun call _ => .inl hinside

end Drawn

/-! ## The links of the passes -/

section Links

variable {platform : Platform} {observed : Observed} {portHints : Dict String PortHint} {l : Link}

theorem link_modbusClientCalls {serverIp client : String}
    (h : .link l ∈ modbusClientCalls portHints serverIp client) :
    strip client ≠ "" ∧ l.srcIp = strip client ∧ l.dstIp = serverIp ∧ l.srcLevel = some "L2"
      ∧ l.dstLevel = some "L1" := by
  unfold modbusClientCalls at h
  simp only at h
  split at h
  · cases h
  · next hne =>
    rcases List.mem_cons.mp h with h | h
    · cases h
    · cases List.mem_singleton.mp h
      exact ⟨hne, rfl, rfl, rfl, rfl⟩

/-- A link of the Modbus pass runs from a client to its server. -/
theorem link_modbusCalls {row : ModbusServer} (h : .link l ∈ modbusCalls portHints row) :
    row.PolledBy l.srcIp ∧ l.dstIp = strip row.serverIp ∧ l.srcLevel = some "L2"
      ∧ l.dstLevel = some "L1" := by
  unfold modbusCalls at h
  simp only at h
  split at h
  · cases h
  · next hserver =>
    rcases List.mem_cons.mp h with h | h
    · cases h
    · obtain ⟨client, hclient, h⟩ := List.mem_flatMap.mp h
      obtain ⟨hne, hsrc, hdst, hlevels⟩ := link_modbusClientCalls h
      exact ⟨⟨hserver, hsrc ▸ hne, client, hclient, hsrc.symm⟩, hdst, hlevels⟩

theorem exists_link_modbusCalls {row : ModbusServer} {ip : String} (h : row.PolledBy ip) :
    ∃ l, .link l ∈ modbusCalls portHints row ∧ l.srcIp = ip ∧ l.dstIp = strip row.serverIp
      ∧ l.srcLevel = some "L2" ∧ l.dstLevel = some "L1" := by
  obtain ⟨hserver, hne, client, hclient, rfl⟩ := h
  refine ⟨{
    srcIp := strip client
    dstIp := strip row.serverIp
    protocol := "modbus-tcp"
    srcLevel := some "L2"
    dstLevel := some "L1" }, ?_, rfl, rfl, rfl, rfl⟩
  unfold modbusCalls
  simp only
  rw [if_neg hserver]
  refine List.mem_cons_of_mem _ (List.mem_flatMap.mpr ⟨client, hclient, ?_⟩)
  unfold modbusClientCalls
  simp only
  rw [if_neg hne]
  exact List.mem_cons_of_mem _ List.mem_cons_self

/-- A link of the hints runs from a client to its LDAP or DNS server. -/
theorem link_hintCalls {entry : String × PortHint} (h : .link l ∈ hintCalls portHints entry) :
    l.srcIp ∈ entry.2.served ∧ l.dstIp = entry.1 ∧ l.srcLevel = some "L2"
      ∧ l.dstLevel = some "L4" := by
  cases htype : entry.2.serviceType with
  | some type =>
    obtain ⟨args, protocol, _, _, hcalls⟩ := @hintCalls_service portHints _ _ htype
    rw [hcalls] at h
    rcases List.mem_cons.mp h with h | h
    · cases h
    · obtain ⟨cip, hcip, h⟩ := List.mem_flatMap.mp h
      rcases List.mem_cons.mp h with h | h
      · cases h
      · cases List.mem_singleton.mp h
        exact ⟨hcip, rfl, rfl, rfl⟩
  | none =>
    obtain ⟨args, _, _, hcalls⟩ := @hintCalls_host portHints _ htype
    rw [hcalls] at h
    split at h
    · cases List.mem_singleton.mp h
    · cases h

theorem exists_link_hintCalls {entry : String × PortHint} {ip : String}
    (h : ip ∈ entry.2.served) :
    ∃ l, .link l ∈ hintCalls portHints entry ∧ l.srcIp = ip ∧ l.dstIp = entry.1
      ∧ l.srcLevel = some "L2" ∧ l.dstLevel = some "L4" := by
  cases htype : entry.2.serviceType with
  | some type =>
    obtain ⟨args, protocol, _, _, hcalls⟩ := @hintCalls_service portHints _ _ htype
    rw [hcalls]
    exact ⟨_, List.mem_cons_of_mem _ (List.mem_flatMap.mpr
      ⟨ip, h, List.mem_cons_of_mem _ List.mem_cons_self⟩), rfl, rfl, rfl, rfl⟩
  | none =>
    rw [served_eq_nil htype] at h
    cases h

/-- The links of the passes: with levels from the Modbus servers and the hints, without from the
pairs. -/
theorem link_topologyCalls (h : .link l ∈ topologyCalls platform observed portHints) :
    (∃ row ∈ observed.modbusServers, .link l ∈ modbusCalls portHints row)
      ∨ (∃ entry ∈ portHints, .link l ∈ hintCalls portHints entry)
      ∨ l.srcLevel = none ∧ l.dstLevel = none := by
  unfold topologyCalls at h
  rcases List.mem_append.mp h with h | h
  · rcases List.mem_append.mp h with h | h
    · rcases List.mem_append.mp h with h | h
      · exact .inl (List.mem_flatMap.mp h)
      · obtain ⟨row, _, h⟩ := List.mem_flatMap.mp h
        unfold mmsCalls at h
        simp only at h
        split at h
        · cases h
        · cases List.mem_singleton.mp h
    · exact .inr (.inl (List.mem_flatMap.mp h))
  · obtain ⟨pair, _, h⟩ := List.mem_flatMap.mp h
    refine .inr (.inr ?_)
    unfold pairCalls at h
    simp only at h
    split at h
    · cases h
    · rcases List.mem_cons.mp h with h | h
      · cases h
      · split at h
        · rcases List.mem_cons.mp h with h | h
          · cases h
          · cases List.mem_singleton.mp h
            exact ⟨rfl, rfl⟩
        · cases List.mem_singleton.mp h

theorem mem_topologyCalls_modbus {row : ModbusServer} (hrow : row ∈ observed.modbusServers)
    {call : TopologyCall} (h : call ∈ modbusCalls portHints row) :
    call ∈ topologyCalls platform observed portHints :=
  List.mem_append_left _ (List.mem_append_left _ (List.mem_append_left _
    (List.mem_flatMap.mpr ⟨row, hrow, h⟩)))

theorem mem_topologyCalls_hints {entry : String × PortHint} (hentry : entry ∈ portHints)
    {call : TopologyCall} (h : call ∈ hintCalls portHints entry) :
    call ∈ topologyCalls platform observed portHints :=
  List.mem_append_left _ (List.mem_append_right _ (List.mem_flatMap.mpr ⟨entry, hentry, h⟩))

end Links

/-! ## The level of an address, from its roles -/

section Levels

variable {platform : Platform} {observed : Observed} {portHints : Dict String PortHint}
  {ip : String} {row : Standing}

/-- The address is a Modbus server or an IED. -/
def IsField (observed : Observed) (ip : String) : Prop :=
  ServesModbus observed ip ∨ IsIed observed ip

theorem level_field (h : Concludes (standings ip (topologyCalls platform observed portHints)) row)
    (hfield : IsField observed ip) : row.purdueLevel = some "L1" := by
  obtain ⟨s, hs, hlevel, _⟩ := exists_settles h
  rw [hlevel]
  refine hs.levelRule.field ?_
  rcases hfield with hserves | hied
  · exact le_trans (by norm_num [Standing.plc]) (hs.1.2 _ (.plc hserves))
  · exact le_trans (by norm_num [Standing.ied]) (hs.1.2 _ (.ied hied))

/-- A Modbus client is at L2 unless it is a server or an IED itself. -/
theorem level_operator_iff
    (h : Concludes (standings ip (topologyCalls platform observed portHints)) row)
    (hpolls : PollsModbus observed ip) :
    row.purdueLevel = some "L2" ↔ ¬ IsField observed ip := by
  constructor
  · intro hlevel hfield
    exact absurd (hlevel.symm.trans (level_field h hfield)) (by decide)
  · intro hfield
    obtain ⟨s, ⟨⟨hplays, hmax⟩, hfirst⟩, hlevel, _⟩ := exists_settles h
    have hstrong := (operator_confidence _).1.trans (hmax _ (.operator hpolls))
    rw [hlevel]
    cases hplays with
    | plc hserves => exact absurd (.inl hserves) hfield
    | operator _ => rfl
    | ied hied => exact absurd (.inr hied) hfield
    | server type _ => exact absurd rfl (hfirst hpolls type)
    | client _ => rfl
    | windowsHost _ => rfl
    | peer _ => norm_num [Standing.peer] at hstrong

/-- An LDAP or DNS server is at L4 unless a Modbus role puts it elsewhere. -/
theorem level_server_iff (hkeys : (portHints.map (·.1)).Nodup)
    (h : Concludes (standings ip (topologyCalls platform observed portHints)) row)
    {type : String} (hserves : ServesAs portHints ip type) :
    row.purdueLevel = some "L4" ↔ ¬ IsField observed ip ∧ ¬ PollsModbus observed ip := by
  constructor
  · intro hlevel
    have hfield : ¬ IsField observed ip := by
      intro hfield
      exact absurd (hlevel.symm.trans (level_field h hfield)) (by decide)
    refine ⟨hfield, fun hpolls => ?_⟩
    exact absurd (hlevel.symm.trans ((level_operator_iff h hpolls).mpr hfield)) (by decide)
  · rintro ⟨hfield, hpolls⟩
    obtain ⟨s, ⟨⟨hplays, hmax⟩, _⟩, hlevel, _⟩ := exists_settles h
    have hstrong := hmax _ (.server type hserves)
    rw [hlevel]
    cases hplays with
    | plc hother => exact absurd (.inl hother) hfield
    | operator hother => exact absurd hother hpolls
    | ied hother => exact absurd (.inr hother) hfield
    | server _ _ => rfl
    | client _ => norm_num [Standing.server, Standing.client] at hstrong
    | windowsHost hother => exact absurd hother (hserves.not_windows hkeys)
    | peer _ => norm_num [Standing.server, Standing.peer] at hstrong

/-- A client of an LDAP or DNS server is at L2 unless it is a Modbus server, an IED, or such a
server itself and no Modbus client. -/
theorem level_served_iff (hkeys : (portHints.map (·.1)).Nodup)
    (h : Concludes (standings ip (topologyCalls platform observed portHints)) row)
    (hserved : IsServed portHints ip) :
    row.purdueLevel = some "L2" ↔ ¬ IsField observed ip
      ∧ ∀ type, ServesAs portHints ip type → PollsModbus observed ip := by
  constructor
  · intro hlevel
    have hfield : ¬ IsField observed ip := by
      intro hfield
      exact absurd (hlevel.symm.trans (level_field h hfield)) (by decide)
    refine ⟨hfield, fun type hserves => ?_⟩
    by_contra hpolls
    exact absurd (hlevel.symm.trans ((level_server_iff hkeys h hserves).mpr ⟨hfield, hpolls⟩)) (by decide)
  · rintro ⟨hfield, hserves⟩
    obtain ⟨s, ⟨⟨hplays, hmax⟩, hfirst⟩, hlevel, _⟩ := exists_settles h
    have hstrong := hmax _ (.client hserved)
    rw [hlevel]
    cases hplays with
    | plc hother => exact absurd (.inl hother) hfield
    | operator _ => rfl
    | ied hother => exact absurd (.inr hother) hfield
    | server type hother => exact absurd rfl (hfirst (hserves type hother) type)
    | client _ => rfl
    | windowsHost _ => rfl
    | peer _ => norm_num [Standing.client, Standing.peer] at hstrong

end Levels

/-! ## The snapshot -/

/-- The snapshot lists the asset at the level. -/
def AtLevel (s : TopologySnapshot) (id level : String) : Prop :=
  ∃ a ∈ s.assets, a.assetId = id ∧ a.purdueLevel = some level

/-- The levels a conduit carries are those of the assets it refers to; one that leads out puts a
source without a level at L2. -/
structure LevelsMatch (s : TopologySnapshot) : Prop where
  src : ∀ c ∈ s.conduits, c.dstKind = .asset → ∀ level, c.srcLevel = some level →
    AtLevel s c.srcAssetId level
  dst : ∀ c ∈ s.conduits, c.dstKind = .asset → ∀ level, c.dstLevel = some level →
    AtLevel s c.dstId level
  out : ∀ c ∈ s.conduits, c.dstKind = .external → ∀ level, c.srcLevel = some level →
    ∃ a ∈ s.assets, a.assetId = c.srcAssetId ∧ levelOrL2 a.purdueLevel = level

/-- The ends of the conduits have no role that puts them at another level. -/
structure RolesMatch (observed : Observed) (portHints : Dict String PortHint) : Prop where
  client : ∀ ip, PollsModbus observed ip → ¬ IsField observed ip
  server : ∀ entry ∈ portHints, entry.2.served ≠ [] →
    ¬ IsField observed entry.1 ∧ ¬ PollsModbus observed entry.1
  served : ∀ ip, IsServed portHints ip → ¬ IsField observed ip
    ∧ ∀ type, ServesAs portHints ip type → PollsModbus observed ip

section Snapshot

variable {platform : Platform} {tenantId sensorId : String} {observed : Observed}
  {portHints : Dict String PortHint} {ip level : String}

/-- An address shown as an asset is listed at the level its roles conclude. -/
theorem atLevel_iff (hapart : Apart platform tenantId sensorId observed portHints) {s : Standing}
    (hs : Plays platform.tables observed portHints ip s) :
    ∃ row, Concludes (standings ip (topologyCalls platform observed portHints)) row
      ∧ ∀ level, AtLevel (buildObservedTopology platform tenantId sensorId observed portHints)
          (assetIdOf platform tenantId sensorId ip) level ↔ row.purdueLevel = some level := by
  have hip := showsAsset_iff.mpr ⟨s, hs⟩
  obtain ⟨a, ha, hid, haip, hconcludes⟩ := exists_asset hapart hip
  refine ⟨a.standing, hconcludes, fun level => ⟨?_, fun hlevel => ⟨a, ha, hid, hlevel⟩⟩⟩
  rintro ⟨other, hother, hotherId, hlevel⟩
  obtain ⟨hotherIp, hown, hother'⟩ := exists_ip hapart hother
  have hsame : other.ip = ip := hapart _ _ hotherIp hip (hown.symm.trans hotherId)
  rw [hsame] at hother'
  rw [hconcludes.purdueLevel, ← hother'.purdueLevel]
  exact hlevel

theorem atLevel_plc (hapart : Apart platform tenantId sensorId observed portHints)
    (hserves : ServesModbus observed ip) :
    AtLevel (buildObservedTopology platform tenantId sensorId observed portHints)
      (assetIdOf platform tenantId sensorId ip) "L1" := by
  obtain ⟨row, hrow, hlevel⟩ := atLevel_iff hapart (.plc hserves)
  exact (hlevel _).mpr (level_field hrow (.inl hserves))

theorem atLevel_operator_iff (hapart : Apart platform tenantId sensorId observed portHints)
    (hpolls : PollsModbus observed ip) :
    AtLevel (buildObservedTopology platform tenantId sensorId observed portHints)
      (assetIdOf platform tenantId sensorId ip) "L2" ↔ ¬ IsField observed ip := by
  obtain ⟨row, hrow, hlevel⟩ := atLevel_iff hapart (.operator hpolls)
  rw [hlevel, level_operator_iff hrow hpolls]

theorem atLevel_server_iff (hkeys : (portHints.map (·.1)).Nodup)
    (hapart : Apart platform tenantId sensorId observed portHints) {entry : String × PortHint}
    (hentry : entry ∈ portHints) (hserved : ip ∈ entry.2.served) :
    AtLevel (buildObservedTopology platform tenantId sensorId observed portHints)
      (assetIdOf platform tenantId sensorId entry.1) "L4"
      ↔ ¬ IsField observed entry.1 ∧ ¬ PollsModbus observed entry.1 := by
  obtain ⟨type, htype⟩ : ∃ type, entry.2.serviceType = some type := by
    refine Option.ne_none_iff_exists'.mp fun hnone => ?_
    rw [served_eq_nil hnone] at hserved
    cases hserved
  have hserves : ServesAs portHints entry.1 type := ⟨entry.2, hentry, htype⟩
  obtain ⟨row, hrow, hlevel⟩ := atLevel_iff hapart (.server type hserves)
  rw [hlevel, level_server_iff hkeys hrow hserves]

theorem atLevel_served_iff (hkeys : (portHints.map (·.1)).Nodup)
    (hapart : Apart platform tenantId sensorId observed portHints)
    (hserved : IsServed portHints ip) :
    AtLevel (buildObservedTopology platform tenantId sensorId observed portHints)
      (assetIdOf platform tenantId sensorId ip) "L2"
      ↔ ¬ IsField observed ip ∧ ∀ type, ServesAs portHints ip type → PollsModbus observed ip := by
  obtain ⟨row, hrow, hlevel⟩ := atLevel_iff hapart (.client hserved)
  rw [hlevel, level_served_iff hkeys hrow hserved]

/-- A conduit out of the site has copied the level its source still has. -/
theorem level_out {c : Conduit} {src dst : String}
    (hcall : .egress src dst ∈ topologyCalls platform observed portHints)
    (hout : c.LeadsOut platform tenantId sensorId
      (builtTopology platform tenantId sensorId observed portHints) src)
    (hlevel : c.srcLevel = some level) :
    ∃ a ∈ (buildObservedTopology platform tenantId sensorId observed portHints).assets,
      a.assetId = c.srcAssetId ∧ levelOrL2 a.purdueLevel = level := by
  have hbuilt := built_topology platform tenantId sensorId observed portHints
  have htouched := grounded_topologyCalls platform observed portHints _ hcall
  obtain ⟨a, hget⟩ := Option.isSome_iff_exists.mp ((hbuilt.listed _).mpr ⟨src, htouched, rfl⟩)
  have hcopied := hout.level.symm.trans hlevel
  unfold TopologyBuilder.levelAt at hcopied
  rw [hout.src, hget] at hcopied
  refine ⟨a, List.mem_map.mpr ⟨_, Dict.mem_of_get? hget, rfl⟩, ?_, Option.some.inj hcopied⟩
  rw [hout.src]
  exact hbuilt.assets.key_of_get? hget

/-- The levels of the conduits are right exactly when those of the links are. -/
theorem levelsMatch_iff_links :
    LevelsMatch (buildObservedTopology platform tenantId sensorId observed portHints)
      ↔ ∀ l, .link l ∈ topologyCalls platform observed portHints →
        (∀ level, l.srcLevel = some level →
          AtLevel (buildObservedTopology platform tenantId sensorId observed portHints)
            (assetIdOf platform tenantId sensorId l.srcIp) level)
        ∧ ∀ level, l.dstLevel = some level →
          AtLevel (buildObservedTopology platform tenantId sensorId observed portHints)
            (assetIdOf platform tenantId sensorId l.dstIp) level := by
  have hdrawn := drawn_topology platform tenantId sensorId observed portHints
  constructor
  · intro h l hl
    obtain ⟨c, hc, hdraws⟩ := hdrawn.complete l hl
    refine ⟨fun level hlevel => ?_, fun level hlevel => ?_⟩
    · rw [← hdraws.src]
      exact h.src c hc hdraws.kind level (hdraws.srcLevel.trans hlevel)
    · rw [← hdraws.dst]
      exact h.dst c hc hdraws.kind level (hdraws.dstLevel.trans hlevel)
  · intro h
    -- a conduit between assets is that of a link
    have hlink : ∀ c ∈ (buildObservedTopology platform tenantId sensorId observed portHints).conduits,
        c.dstKind = .asset → ∃ l, .link l ∈ topologyCalls platform observed portHints
          ∧ c.Draws platform tenantId sensorId l := by
      intro c hc hkind
      refine (hdrawn.sound c hc).resolve_right ?_
      rintro ⟨src, dst, _, hout⟩
      cases hkind.symm.trans hout.kind
    refine ⟨?_, ?_, ?_⟩
    · intro c hc hkind level hlevel
      obtain ⟨l, hl, hdraws⟩ := hlink c hc hkind
      rw [hdraws.src]
      exact (h l hl).1 level (hdraws.srcLevel.symm.trans hlevel)
    · intro c hc hkind level hlevel
      obtain ⟨l, hl, hdraws⟩ := hlink c hc hkind
      rw [hdraws.dst]
      exact (h l hl).2 level (hdraws.dstLevel.symm.trans hlevel)
    · intro c hc hkind level hlevel
      rcases hdrawn.sound c hc with ⟨l, _, hdraws⟩ | ⟨src, dst, hcall, hout⟩
      · cases hkind.symm.trans hdraws.kind
      · exact level_out hcall hout hlevel

/-- Conduits carry the levels of their assets exactly when no end of one has a role that puts
it elsewhere. -/
theorem conduitLevels_iff (platform : Platform) (tenantId sensorId : String)
    (observed : Observed) (portHints : Dict String PortHint)
    (hkeys : (portHints.map (·.1)).Nodup)
    (hapart : Apart platform tenantId sensorId observed portHints) :
    LevelsMatch (buildObservedTopology platform tenantId sensorId observed portHints)
      ↔ RolesMatch observed portHints := by
  rw [levelsMatch_iff_links]
  constructor
  · intro h
    refine ⟨?_, ?_, ?_⟩
    · rintro ip ⟨row, hrow, hpolled⟩
      obtain ⟨l, hl, rfl, _, hsrc, _⟩ := @exists_link_modbusCalls portHints _ _ hpolled
      exact (atLevel_operator_iff hapart ⟨row, hrow, hpolled⟩).mp
        ((h l (mem_topologyCalls_modbus hrow hl)).1 _ hsrc)
    · intro entry hentry hne
      obtain ⟨ip, hip⟩ := List.exists_mem_of_ne_nil _ hne
      obtain ⟨l, hl, _, hdstIp, _, hdst⟩ := @exists_link_hintCalls portHints _ _ hip
      have hserver := (h l (mem_topologyCalls_hints hentry hl)).2 _ hdst
      rw [hdstIp] at hserver
      exact (atLevel_server_iff hkeys hapart hentry hip).mp hserver
    · rintro ip ⟨entry, hentry, hip⟩
      obtain ⟨l, hl, rfl, _, hsrc, _⟩ := @exists_link_hintCalls portHints _ _ hip
      exact (atLevel_served_iff hkeys hapart ⟨entry, hentry, hip⟩).mp
        ((h l (mem_topologyCalls_hints hentry hl)).1 _ hsrc)
  · intro h l hl
    rcases link_topologyCalls hl with ⟨row, hrow, hl⟩ | ⟨entry, hentry, hl⟩ | ⟨hsrc, hdst⟩
    · obtain ⟨hpolled, hdstIp, hsrc, hdst⟩ := link_modbusCalls hl
      have hpolls : PollsModbus observed l.srcIp := ⟨row, hrow, hpolled⟩
      rw [hsrc, hdst, hdstIp]
      refine ⟨fun level hlevel => ?_, fun level hlevel => ?_⟩
      · cases hlevel
        exact (atLevel_operator_iff hapart hpolls).mpr (h.client _ hpolls)
      · cases hlevel
        exact atLevel_plc hapart ⟨hpolled.1, row, hrow, rfl⟩
    · obtain ⟨hserved, hdstIp, hsrc, hdst⟩ := link_hintCalls hl
      have hclient : IsServed portHints l.srcIp := ⟨entry, hentry, hserved⟩
      rw [hsrc, hdst, hdstIp]
      refine ⟨fun level hlevel => ?_, fun level hlevel => ?_⟩
      · cases hlevel
        exact (atLevel_served_iff hkeys hapart hclient).mpr (h.served _ hclient)
      · cases hlevel
        exact (atLevel_server_iff hkeys hapart hentry hserved).mpr
          (h.server entry hentry (List.ne_nil_of_mem hserved))
    · rw [hsrc, hdst]
      refine ⟨fun level hlevel => ?_, fun level hlevel => ?_⟩
      · cases hlevel
      · cases hlevel

end Snapshot

/-- The small site: its one Modbus client is no server. -/
theorem conduitLevels_sample :
    LevelsMatch (buildObservedTopology samplePlatform "tenant" "sensor" sampleObserved []) := by
  refine (conduitLevels_iff samplePlatform "tenant" "sensor" sampleObserved [] List.nodup_nil
    fun ip ip' _ _ => samplePlatform_injective.assetIdOf).mpr ⟨?_, ?_, ?_⟩
  · rintro ip ⟨row, hrow, _, _, client, hclient, rfl⟩ (⟨_, other, hother, hip⟩ | ⟨_, hied, _⟩)
    · cases List.mem_singleton.mp hrow
      cases List.mem_singleton.mp hother
      cases List.mem_singleton.mp hclient
      exact absurd hip (by decide)
    · cases hied
  · intro entry hentry
    cases hentry
  · rintro ip ⟨_, hentry, _⟩
    cases hentry

/-- The conduit of a PLC that polls another PLC says L2 of it, its asset L1. -/
theorem conduitLevels_of_relayingPlc :
    ¬ LevelsMatch (buildObservedTopology samplePlatform "tenant" "sensor" relayingPlc []) := by
  intro h
  have hsrc := h.src
  revert hsrc
  unfold AtLevel
  decide +kernel

end EdgeSensor.Sensor
