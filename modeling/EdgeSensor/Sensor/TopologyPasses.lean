import EdgeSensor.Sensor.TopologyBuilt

/-!
# What the passes touch and connect

The five passes as lists of calls: which addresses they touch (`mem_touchedIps_topologyCalls`,
in terms of the input alone), that they connect only what they touch (`grounded_topologyCalls`),
and that they connect nothing twice (`nodup_conduitKeys`) if the input lists nothing twice.
-/

namespace EdgeSensor.Sensor

open EdgeSensor.Lib EdgeSensor.Py

/-! ## Touches -/


theorem mem_touchedIps {calls : List TopologyCall} {ip : String} :
    ip ∈ touchedIps calls ↔ ∃ args, .touch args ∈ calls ∧ args.ip = ip := by
  unfold touchedIps
  rw [List.mem_filterMap]
  constructor
  · rintro ⟨call, hcall, hip⟩
    cases call with
    | touch args => exact ⟨args, hcall, Option.some.inj hip⟩
    | link l => cases hip
    | egress src dst => cases hip
  · rintro ⟨args, hcall, rfl⟩
    exact ⟨.touch args, hcall, rfl⟩

theorem touchedIps_append (calls calls' : List TopologyCall) :
    touchedIps (calls ++ calls') = touchedIps calls ++ touchedIps calls' :=
  List.filterMap_append

theorem mem_touchedIps_flatMap {α : Type} {rows : List α} {f : α → List TopologyCall}
    {ip : String} : ip ∈ touchedIps (rows.flatMap f) ↔ ∃ row ∈ rows, ip ∈ touchedIps (f row) := by
  simp only [mem_touchedIps, List.mem_flatMap]
  constructor
  · rintro ⟨args, ⟨row, hrow, hcall⟩, hip⟩
    exact ⟨row, hrow, args, hcall, hip⟩
  · rintro ⟨row, hrow, args, hcall, hip⟩
    exact ⟨args, ⟨row, hrow, hcall⟩, hip⟩

/-- A Modbus server shows an address: its own, or that of a client. -/
def ModbusServer.Shows (row : ModbusServer) (ip : String) : Prop :=
  strip row.serverIp ≠ ""
    ∧ (ip = strip row.serverIp ∨ ip ≠ "" ∧ ∃ client ∈ row.allowedClients, strip client = ip)

/-- An IED shows its address. -/
def MmsIed.Shows (row : MmsIed) (ip : String) : Prop := ip ≠ "" ∧ strip (row.iedIp.getD "") = ip

/-- The hints of an address show it in a role, and the clients of that role. -/
def PortHint.Shows (info : PortHint) (own ip : String) : Prop :=
  nonBlank info.hints ≠ []
    ∧ (info.IsLdapServer ∧ (ip = own ∨ ip ∈ nonBlank info.ldapClientIps)
      ∨ ¬ info.IsLdapServer ∧ info.IsDnsServer ∧ (ip = own ∨ ip ∈ nonBlank info.dnsClientIps)
      ∨ ¬ info.IsLdapServer ∧ ¬ info.IsDnsServer ∧ info.HasWindows ∧ ip = own)

/-- Neither end of the pair is blank. -/
def CompletePair (pair : String × String) : Prop := strip pair.1 ≠ "" ∧ strip pair.2 ≠ ""

/-- A pair shows its source, and a destination that is RFC 1918. -/
def PairShows (tables : UnicodeTables) (pair : String × String) (ip : String) : Prop :=
  CompletePair pair
    ∧ (ip = strip pair.1 ∨ isRfc1918 tables (strip pair.2) = true ∧ ip = strip pair.2)

/-- The observed block and the port hints show an address as an asset. -/
def ShowsAsset (tables : UnicodeTables) (observed : Observed) (portHints : Dict String PortHint)
    (ip : String) : Prop :=
  (∃ row ∈ observed.modbusServers, ModbusServer.Shows row ip)
    ∨ (∃ row ∈ observed.mmsIeds, MmsIed.Shows row ip)
    ∨ (∃ entry ∈ portHints, entry.2.Shows entry.1 ip)
    ∨ ∃ pair ∈ observed.commPairs, PairShows tables pair ip

theorem touchedIps_cons_touch (args : Touch) (calls : List TopologyCall) :
    touchedIps (.touch args :: calls) = args.ip :: touchedIps calls := rfl

theorem touchedIps_modbusClientCalls (portHints : Dict String PortHint) (serverIp client : String) :
    touchedIps (modbusClientCalls portHints serverIp client)
      = if strip client = "" then [] else [strip client] := by
  unfold modbusClientCalls
  simp only
  split
  · rfl
  · rfl

theorem touchedIps_clientCalls (portHints : Dict String PortHint) (serverIp protocol cip : String) :
    touchedIps (clientCalls portHints serverIp protocol cip) = [cip] := rfl

theorem mem_touchedIps_modbusCalls {portHints : Dict String PortHint} {row : ModbusServer}
    {ip : String} : ip ∈ touchedIps (modbusCalls portHints row) ↔ row.Shows ip := by
  unfold modbusCalls ModbusServer.Shows
  simp only
  by_cases hblank : strip row.serverIp = ""
  · rw [if_pos hblank]
    exact iff_of_false List.not_mem_nil fun h => h.1 hblank
  · rw [if_neg hblank, touchedIps_cons_touch, List.mem_cons, mem_touchedIps_flatMap]
    -- a blank client touches nothing, any other its own address
    have hclient : ∀ client,
        ip ∈ touchedIps (modbusClientCalls portHints (strip row.serverIp) client) ↔ ip ≠ "" ∧ strip client = ip := by
      intro client
      rw [touchedIps_modbusClientCalls]
      by_cases hempty : strip client = ""
      · rw [if_pos hempty]
        refine iff_of_false List.not_mem_nil ?_
        rintro ⟨hne, rfl⟩
        exact hne hempty
      · rw [if_neg hempty, List.mem_singleton]
        constructor
        · rintro rfl
          exact ⟨hempty, rfl⟩
        · exact fun h => h.2.symm
    simp only [hclient]
    constructor
    · rintro (h | ⟨client, hmem, hne, heq⟩)
      · exact ⟨hblank, .inl h⟩
      · exact ⟨hblank, .inr ⟨hne, client, hmem, heq⟩⟩
    · rintro ⟨_, h | ⟨hne, client, hmem, heq⟩⟩
      · exact .inl h
      · exact .inr ⟨client, hmem, hne, heq⟩

theorem mem_touchedIps_mmsCalls {row : MmsIed} {ip : String} :
    ip ∈ touchedIps (mmsCalls row) ↔ row.Shows ip := by
  unfold mmsCalls MmsIed.Shows
  simp only
  by_cases hblank : strip (row.iedIp.getD "") = ""
  · rw [if_pos hblank]
    refine iff_of_false List.not_mem_nil ?_
    rintro ⟨hne, rfl⟩
    exact hne hblank
  · rw [if_neg hblank]
    show ip ∈ [strip (row.iedIp.getD "")] ↔ _
    rw [List.mem_singleton]
    constructor
    · rintro rfl
      exact ⟨hblank, rfl⟩
    · exact fun h => h.2.symm

theorem mem_touchedIps_clients {portHints : Dict String PortHint} {serverIp protocol ip : String}
    {cips : List String} :
    ip ∈ touchedIps (cips.flatMap (clientCalls portHints serverIp protocol)) ↔ ip ∈ cips := by
  rw [mem_touchedIps_flatMap]
  simp only [touchedIps_clientCalls, List.mem_singleton]
  constructor
  · rintro ⟨cip, hcip, rfl⟩
    exact hcip
  · intro h
    exact ⟨ip, h, rfl⟩

theorem mem_touchedIps_hintCalls {portHints : Dict String PortHint} {entry : String × PortHint}
    {ip : String} : ip ∈ touchedIps (hintCalls portHints entry) ↔ entry.2.Shows entry.1 ip := by
  unfold hintCalls PortHint.Shows
  simp only
  by_cases hempty : nonBlank entry.2.hints = []
  · rw [if_pos hempty]
    exact iff_of_false List.not_mem_nil fun h => h.1 hempty
  · rw [if_neg hempty]
    -- role by role, in the order the code asks
    by_cases hldap : entry.2.IsLdapServer
    · rw [if_pos hldap, touchedIps_cons_touch, List.mem_cons, mem_touchedIps_clients]
      tauto
    · rw [if_neg hldap]
      by_cases hdns : entry.2.IsDnsServer
      · rw [if_pos hdns, touchedIps_cons_touch, List.mem_cons, mem_touchedIps_clients]
        tauto
      · rw [if_neg hdns]
        by_cases hwindows : entry.2.HasWindows
        · rw [if_pos hwindows]
          show ip ∈ [entry.1] ↔ _
          rw [List.mem_singleton]
          tauto
        · rw [if_neg hwindows]
          refine iff_of_false List.not_mem_nil ?_
          tauto

theorem mem_touchedIps_pairCalls {platform : Platform} {pair : String × String} {ip : String} :
    ip ∈ touchedIps (pairCalls platform pair) ↔ PairShows platform.tables pair ip := by
  unfold pairCalls PairShows CompletePair
  simp only
  by_cases hblank : strip pair.1 = "" ∨ strip pair.2 = ""
  · rw [if_pos hblank]
    refine iff_of_false List.not_mem_nil ?_
    rintro ⟨⟨hsrc, hdst⟩, _⟩
    exact hblank.elim hsrc hdst
  · have hcomplete : strip pair.1 ≠ "" ∧ strip pair.2 ≠ "" := not_or.mp hblank
    rw [if_neg hblank, touchedIps_cons_touch, List.mem_cons]
    by_cases hprivate : isRfc1918 platform.tables (strip pair.2) = true
    · rw [if_pos hprivate]
      show _ ∨ ip ∈ [strip pair.2] ↔ _
      rw [List.mem_singleton]
      constructor
      · rintro (h | h)
        · exact ⟨hcomplete, .inl h⟩
        · exact ⟨hcomplete, .inr ⟨hprivate, h⟩⟩
      · rintro ⟨_, h | ⟨_, h⟩⟩
        · exact .inl h
        · exact .inr h
    · rw [if_neg hprivate]
      show _ ∨ ip ∈ ([] : List String) ↔ _
      constructor
      · rintro (h | h)
        · exact ⟨hcomplete, .inl h⟩
        · cases h
      · rintro ⟨_, h | ⟨htrue, _⟩⟩
        · exact .inl h
        · exact absurd htrue hprivate

/-- The passes touch exactly the addresses shown as assets. -/
theorem mem_touchedIps_topologyCalls {platform : Platform} {observed : Observed}
    {portHints : Dict String PortHint} {ip : String} :
    ip ∈ touchedIps (topologyCalls platform observed portHints)
      ↔ ShowsAsset platform.tables observed portHints ip := by
  unfold topologyCalls ShowsAsset
  simp only [touchedIps_append, List.mem_append, mem_touchedIps_flatMap,
    mem_touchedIps_modbusCalls, mem_touchedIps_mmsCalls, mem_touchedIps_hintCalls,
    mem_touchedIps_pairCalls, or_assoc]

/-! ## Egress -/

theorem egress_modbusCalls {portHints : Dict String PortHint} {row : ModbusServer}
    {src dst : String} : .egress src dst ∉ modbusCalls portHints row := by
  intro h
  unfold modbusCalls at h
  simp only at h
  split at h
  · cases h
  · rcases List.mem_cons.mp h with h | h
    · cases h
    · obtain ⟨client, _, h⟩ := List.mem_flatMap.mp h
      unfold modbusClientCalls at h
      simp only at h
      split at h
      · cases h
      · simp at h

theorem egress_mmsCalls {row : MmsIed} {src dst : String} : .egress src dst ∉ mmsCalls row := by
  intro h
  unfold mmsCalls at h
  simp only at h
  split at h
  · cases h
  · simp at h

theorem egress_clients {portHints : Dict String PortHint} {serverIp protocol : String}
    {cips : List String} {src dst : String} :
    .egress src dst ∉ cips.flatMap (clientCalls portHints serverIp protocol) := by
  intro h
  obtain ⟨cip, _, h⟩ := List.mem_flatMap.mp h
  simp [clientCalls] at h

theorem egress_hintCalls {portHints : Dict String PortHint} {entry : String × PortHint}
    {src dst : String} : .egress src dst ∉ hintCalls portHints entry := by
  intro h
  unfold hintCalls at h
  simp only at h
  split at h
  · cases h
  · split at h
    · exact (List.mem_cons.mp h).elim (fun h => by cases h) egress_clients
    · split at h
      · exact (List.mem_cons.mp h).elim (fun h => by cases h) egress_clients
      · split at h
        · simp at h
        · cases h

theorem egress_pairCalls {platform : Platform} {pair : String × String} {src dst : String} :
    .egress src dst ∈ pairCalls platform pair
      ↔ CompletePair pair ∧ isRfc1918 platform.tables (strip pair.2) = false
        ∧ src = strip pair.1 ∧ dst = strip pair.2 := by
  unfold pairCalls CompletePair
  simp only
  by_cases hblank : strip pair.1 = "" ∨ strip pair.2 = ""
  · rw [if_pos hblank]
    refine iff_of_false List.not_mem_nil ?_
    rintro ⟨⟨hsrc, hdst⟩, _⟩
    exact hblank.elim hsrc hdst
  · have hcomplete : strip pair.1 ≠ "" ∧ strip pair.2 ≠ "" := not_or.mp hblank
    rw [if_neg hblank]
    cases hprivate : isRfc1918 platform.tables (strip pair.2) with
    | true =>
      rw [if_pos rfl]
      refine iff_of_false ?_ fun h => Bool.false_ne_true h.2.1.symm
      simp
    | false =>
      rw [if_neg Bool.false_ne_true]
      simp only [List.mem_cons, List.not_mem_nil, or_false, reduceCtorEq, false_or,
        TopologyCall.egress.injEq]
      exact ⟨fun h => ⟨hcomplete, trivial, h⟩, fun h => h.2.2⟩

/-- What leads out of the site is a complete pair with a destination that is not RFC 1918. -/
theorem egress_topologyCalls {platform : Platform} {observed : Observed}
    {portHints : Dict String PortHint} {src dst : String} :
    .egress src dst ∈ topologyCalls platform observed portHints
      ↔ ∃ pair ∈ observed.commPairs, CompletePair pair
        ∧ isRfc1918 platform.tables (strip pair.2) = false
        ∧ src = strip pair.1 ∧ dst = strip pair.2 := by
  unfold topologyCalls
  simp only [List.mem_append, List.mem_flatMap, egress_modbusCalls, egress_mmsCalls,
    egress_hintCalls, egress_pairCalls, and_false, exists_false, false_or]

/-! ## Conduits run between touched addresses -/

/-- The ends of a conduit that are assets are among the addresses. -/
def TopologyCall.GroundedIn (ips : List String) : TopologyCall → Prop
  | .touch _ => True
  | .link l => l.srcIp ∈ ips ∧ l.dstIp ∈ ips
  | .egress src _ => src ∈ ips

/-- The calls connect only what they touch. -/
def Grounded (calls : List TopologyCall) : Prop :=
  ∀ call ∈ calls, call.GroundedIn (touchedIps calls)

theorem TopologyCall.GroundedIn.mono {ips ips' : List String} {call : TopologyCall}
    (h : call.GroundedIn ips) (hsub : ∀ ip ∈ ips, ip ∈ ips') : call.GroundedIn ips' := by
  cases call with
  | touch args => trivial
  | link l => exact ⟨hsub _ h.1, hsub _ h.2⟩
  | egress src dst => exact hsub _ h

theorem Grounded.append {calls calls' : List TopologyCall} (h : Grounded calls)
    (h' : Grounded calls') : Grounded (calls ++ calls') := by
  intro call hcall
  rw [touchedIps_append]
  rcases List.mem_append.mp hcall with hcall | hcall
  · exact (h call hcall).mono fun ip hip => List.mem_append_left _ hip
  · exact (h' call hcall).mono fun ip hip => List.mem_append_right _ hip

theorem Grounded.flatMap {α : Type} {rows : List α} {f : α → List TopologyCall}
    (h : ∀ row ∈ rows, Grounded (f row)) : Grounded (rows.flatMap f) := by
  intro call hcall
  obtain ⟨row, hrow, hcall⟩ := List.mem_flatMap.mp hcall
  exact (h row hrow call hcall).mono fun ip hip => mem_touchedIps_flatMap.mpr ⟨row, hrow, hip⟩

/-- A server and what is connected to it. -/
theorem grounded_server {args : Touch} {calls : List TopologyCall}
    (h : ∀ call ∈ calls, call.GroundedIn (args.ip :: touchedIps calls)) :
    Grounded (.touch args :: calls) := by
  intro call hcall
  rw [touchedIps_cons_touch]
  rcases List.mem_cons.mp hcall with rfl | hcall
  · trivial
  · exact h call hcall

theorem grounded_modbusCalls (portHints : Dict String PortHint) (row : ModbusServer) :
    Grounded (modbusCalls portHints row) := by
  unfold modbusCalls
  simp only
  split
  · exact fun call hcall => absurd hcall List.not_mem_nil
  · refine grounded_server fun call hcall => ?_
    obtain ⟨client, hclient, hcall'⟩ := List.mem_flatMap.mp hcall
    have hone : call.GroundedIn (strip row.serverIp
        :: touchedIps (modbusClientCalls portHints (strip row.serverIp) client)) := by
      rw [touchedIps_modbusClientCalls]
      unfold modbusClientCalls at hcall'
      simp only at hcall'
      split at hcall'
      · cases hcall'
      · next hne =>
        rw [if_neg hne]
        rcases List.mem_cons.mp hcall' with rfl | hcall'
        · trivial
        · rw [List.mem_singleton.mp hcall']
          exact ⟨List.mem_cons_of_mem _ List.mem_cons_self, List.mem_cons_self⟩
    refine hone.mono fun ip hip => ?_
    rcases List.mem_cons.mp hip with rfl | hip
    · exact List.mem_cons_self
    · exact List.mem_cons_of_mem _ (mem_touchedIps_flatMap.mpr ⟨client, hclient, hip⟩)

theorem grounded_mmsCalls (row : MmsIed) : Grounded (mmsCalls row) := by
  unfold mmsCalls
  simp only
  split
  · exact fun call hcall => absurd hcall List.not_mem_nil
  · exact grounded_server fun call hcall => absurd hcall List.not_mem_nil

theorem groundedIn_clients {portHints : Dict String PortHint} {serverIp protocol : String}
    {cips : List String} {call : TopologyCall}
    (h : call ∈ cips.flatMap (clientCalls portHints serverIp protocol)) :
    call.GroundedIn
      (serverIp :: touchedIps (cips.flatMap (clientCalls portHints serverIp protocol))) := by
  obtain ⟨cip, hcip, hcall⟩ := List.mem_flatMap.mp h
  rcases List.mem_cons.mp hcall with rfl | hcall
  · trivial
  · rw [List.mem_singleton.mp hcall]
    exact ⟨List.mem_cons_of_mem _ (mem_touchedIps_clients.mpr hcip), List.mem_cons_self⟩

theorem grounded_hintCalls (portHints : Dict String PortHint) (entry : String × PortHint) :
    Grounded (hintCalls portHints entry) := by
  have hnone : Grounded [] := fun call hcall => absurd hcall List.not_mem_nil
  unfold hintCalls
  simp only
  split
  · exact hnone
  · split
    · exact grounded_server fun call hcall => groundedIn_clients hcall
    · split
      · exact grounded_server fun call hcall => groundedIn_clients hcall
      · split
        · exact grounded_server fun call hcall => absurd hcall List.not_mem_nil
        · exact hnone

theorem grounded_pairCalls (platform : Platform) (pair : String × String) :
    Grounded (pairCalls platform pair) := by
  unfold pairCalls
  simp only
  split
  · exact fun call hcall => absurd hcall List.not_mem_nil
  · refine grounded_server fun call hcall => ?_
    split at hcall
    · next hprivate =>
      rw [if_pos hprivate]
      rcases List.mem_cons.mp hcall with rfl | hcall
      · trivial
      · rw [List.mem_singleton.mp hcall]
        exact ⟨List.mem_cons_self, List.mem_cons_of_mem _ List.mem_cons_self⟩
    · rw [List.mem_singleton.mp hcall]
      exact List.mem_cons_self

/-- The passes connect only what they touch. -/
theorem grounded_topologyCalls (platform : Platform) (observed : Observed)
    (portHints : Dict String PortHint) :
    Grounded (topologyCalls platform observed portHints) := by
  unfold topologyCalls
  refine (Grounded.append (Grounded.append (Grounded.append ?_ ?_) ?_) ?_)
  · exact .flatMap fun row _ => grounded_modbusCalls portHints row
  · exact .flatMap fun row _ => grounded_mmsCalls row
  · exact .flatMap fun entry _ => grounded_hintCalls portHints entry
  · exact .flatMap fun pair _ => grounded_pairCalls platform pair

/-! ## No conduit twice -/

theorem conduitKeys_cons_touch (args : Touch) (calls : List TopologyCall) :
    conduitKeys (.touch args :: calls) = conduitKeys calls := rfl

theorem conduitKeys_flatMap {α : Type} (rows : List α) (f : α → List TopologyCall) :
    conduitKeys (rows.flatMap f) = rows.flatMap fun row => conduitKeys (f row) := by
  induction rows with
  | nil => rfl
  | cons row rows ih =>
    rw [List.flatMap_cons, List.flatMap_cons, conduitKeys_append, ih]

/-- Rows that are told apart by what each of their items repeats. -/
theorem nodup_flatMap_of_tag {α β κ : Type} {rows : List α} {f : α → List β} (own : α → κ)
    (tag : β → κ) (hrows : (rows.map own).Nodup) (hf : ∀ row ∈ rows, (f row).Nodup)
    (htag : ∀ row ∈ rows, ∀ item ∈ f row, tag item = own row) : (rows.flatMap f).Nodup := by
  induction rows with
  | nil => exact List.nodup_nil
  | cons row rows ih =>
    rw [List.map_cons, List.nodup_cons] at hrows
    rw [List.flatMap_cons, List.nodup_append]
    refine ⟨hf row List.mem_cons_self, ?_, ?_⟩
    · exact ih hrows.2 (fun r hr => hf r (List.mem_cons_of_mem _ hr))
        fun r hr => htag r (List.mem_cons_of_mem _ hr)
    · rintro item hitem item' hitem' rfl
      obtain ⟨row', hrow', hitem'⟩ := List.mem_flatMap.mp hitem'
      apply hrows.1
      rw [← htag row List.mem_cons_self item hitem,
        htag row' (List.mem_cons_of_mem _ hrow') item hitem']
      exact List.mem_map_of_mem hrow'

theorem conduitKeys_modbusClientCalls (portHints : Dict String PortHint)
    (serverIp client : String) :
    conduitKeys (modbusClientCalls portHints serverIp client)
      = if strip client = "" then []
        else [⟨strip client, .asset, serverIp, "modbus-tcp"⟩] := by
  unfold modbusClientCalls
  simp only
  split
  · rfl
  · rfl

theorem mem_conduitKeys_modbusCalls {portHints : Dict String PortHint} {row : ModbusServer}
    {key : ConduitKey} (h : key ∈ conduitKeys (modbusCalls portHints row)) :
    key.kind = .asset ∧ key.dst = strip row.serverIp ∧ key.protocol = "modbus-tcp" := by
  unfold modbusCalls at h
  simp only at h
  split at h
  · cases h
  · rw [conduitKeys_cons_touch, conduitKeys_flatMap] at h
    obtain ⟨client, _, hkey⟩ := List.mem_flatMap.mp h
    rw [conduitKeys_modbusClientCalls] at hkey
    split at hkey
    · cases hkey
    · rw [List.mem_singleton.mp hkey]
      exact ⟨rfl, rfl, rfl⟩

theorem nodup_modbusCalls {portHints : Dict String PortHint} {row : ModbusServer}
    (hnodup : row.allowedClients.Nodup)
    (htext : ∀ client ∈ row.allowedClients, strip client = client) :
    (conduitKeys (modbusCalls portHints row)).Nodup := by
  unfold modbusCalls
  simp only
  split
  · exact List.nodup_nil
  · rw [conduitKeys_cons_touch, conduitKeys_flatMap]
    simp only [conduitKeys_modbusClientCalls]
    refine nodup_flatMap_of_tag id ConduitKey.src ?_ (fun client _ => ?_)
      fun client hclient key hkey => ?_
    · rw [List.map_id]
      exact hnodup
    · split
      · exact List.nodup_nil
      · exact List.nodup_singleton _
    · split at hkey
      · cases hkey
      · rw [List.mem_singleton.mp hkey]
        exact htext client hclient

theorem conduitKeys_clientCalls (portHints : Dict String PortHint)
    (serverIp protocol : String) (cips : List String) :
    conduitKeys (cips.flatMap (clientCalls portHints serverIp protocol))
      = cips.map fun cip => ⟨cip, .asset, serverIp, protocol⟩ := by
  rw [conduitKeys_flatMap, List.map_eq_flatMap]
  rfl

theorem conduitKeys_mmsCalls (row : MmsIed) : conduitKeys (mmsCalls row) = [] := by
  unfold mmsCalls
  simp only
  split
  · rfl
  · rfl

/-- The hints of an address connect clients to it, over LDAP or DNS. -/
theorem conduitKeys_hintCalls (portHints : Dict String PortHint) (entry : String × PortHint) :
    ∃ cips protocol, (cips = [] ∨ cips = nonBlank entry.2.ldapClientIps
        ∨ cips = nonBlank entry.2.dnsClientIps)
      ∧ (protocol = "ldap" ∨ protocol = "dns")
      ∧ conduitKeys (hintCalls portHints entry)
        = cips.map fun cip => ⟨cip, .asset, entry.1, protocol⟩ := by
  unfold hintCalls
  simp only
  split
  · exact ⟨[], "ldap", .inl rfl, .inl rfl, rfl⟩
  · split
    · refine ⟨_, "ldap", .inr (.inl rfl), .inl rfl, ?_⟩
      rw [conduitKeys_cons_touch, conduitKeys_clientCalls]
    · split
      · refine ⟨_, "dns", .inr (.inr rfl), .inr rfl, ?_⟩
        rw [conduitKeys_cons_touch, conduitKeys_clientCalls]
      · split
        · exact ⟨[], "ldap", .inl rfl, .inl rfl, rfl⟩
        · exact ⟨[], "ldap", .inl rfl, .inl rfl, rfl⟩

/-- A pair connects its two ends, inside the site or out of it. -/
theorem conduitKeys_pairCalls (platform : Platform) (pair : String × String) :
    conduitKeys (pairCalls platform pair) = []
      ∨ conduitKeys (pairCalls platform pair)
        = [⟨strip pair.1, .asset, strip pair.2, "unknown"⟩]
      ∨ conduitKeys (pairCalls platform pair)
        = [⟨strip pair.1, .external, strip pair.2, "egress"⟩] := by
  unfold pairCalls
  simp only
  split
  · exact .inl rfl
  · rw [conduitKeys_cons_touch]
    split
    · exact .inr (.inl rfl)
    · exact .inr (.inr rfl)

/-- What a collector hands to the classifier: every server, every client of a server, every
pair and every address with hints once, and no text with white space around it. -/
structure CollectorShape (observed : Observed) (portHints : Dict String PortHint) : Prop where
  servers : (observed.modbusServers.map (·.serverIp)).Nodup
  clients : ∀ row ∈ observed.modbusServers, row.allowedClients.Nodup
  pairs : observed.commPairs.Nodup
  hints : (portHints.map (·.1)).Nodup
  ldapClients : ∀ entry ∈ portHints, entry.2.ldapClientIps.Nodup
  dnsClients : ∀ entry ∈ portHints, entry.2.dnsClientIps.Nodup
  serverText : ∀ row ∈ observed.modbusServers, strip row.serverIp = row.serverIp
  clientText : ∀ row ∈ observed.modbusServers, ∀ client ∈ row.allowedClients,
    strip client = client
  pairText : ∀ pair ∈ observed.commPairs, strip pair.1 = pair.1 ∧ strip pair.2 = pair.2

variable {platform : Platform} {observed : Observed} {portHints : Dict String PortHint}

theorem nodup_modbusPass (h : CollectorShape observed portHints) :
    (conduitKeys (observed.modbusServers.flatMap (modbusCalls portHints))).Nodup := by
  rw [conduitKeys_flatMap]
  refine nodup_flatMap_of_tag (·.serverIp) ConduitKey.dst h.servers ?_ ?_
  · intro row hrow
    exact nodup_modbusCalls (h.clients row hrow) (h.clientText row hrow)
  · intro row hrow key hkey
    rw [(mem_conduitKeys_modbusCalls hkey).2.1]
    exact h.serverText row hrow

theorem nodup_hintPass (h : CollectorShape observed portHints) :
    (conduitKeys (portHints.flatMap (hintCalls portHints))).Nodup := by
  rw [conduitKeys_flatMap]
  refine nodup_flatMap_of_tag (·.1) ConduitKey.dst h.hints ?_ ?_
  · intro entry hentry
    obtain ⟨cips, protocol, hcips, _, hkeys⟩ := conduitKeys_hintCalls portHints entry
    have hnodup : cips.Nodup := by
      rcases hcips with rfl | rfl | rfl
      · exact List.nodup_nil
      · exact (h.ldapClients entry hentry).filter _
      · exact (h.dnsClients entry hentry).filter _
    rw [hkeys]
    exact hnodup.map fun cip cip' heq => (ConduitKey.mk.inj heq).1
  · intro entry _ key hkey
    obtain ⟨cips, protocol, _, _, hkeys⟩ := conduitKeys_hintCalls portHints entry
    rw [hkeys] at hkey
    obtain ⟨cip, _, rfl⟩ := List.mem_map.mp hkey
    rfl

theorem nodup_pairPass (h : CollectorShape observed portHints) :
    (conduitKeys (observed.commPairs.flatMap (pairCalls platform))).Nodup := by
  rw [conduitKeys_flatMap]
  refine nodup_flatMap_of_tag id (fun key : ConduitKey => (key.src, key.dst)) ?_ ?_ ?_
  · rw [List.map_id]
    exact h.pairs
  · intro pair _
    rcases conduitKeys_pairCalls platform pair with hkeys | hkeys | hkeys
    · rw [hkeys]
      exact List.nodup_nil
    · rw [hkeys]
      exact List.nodup_singleton _
    · rw [hkeys]
      exact List.nodup_singleton _
  · intro pair hpair key hkey
    obtain ⟨hsrc, hdst⟩ := h.pairText pair hpair
    rcases conduitKeys_pairCalls platform pair with hkeys | hkeys | hkeys
    · rw [hkeys] at hkey
      cases hkey
    · rw [hkeys, List.mem_singleton] at hkey
      rw [hkey, hsrc, hdst]
      rfl
    · rw [hkeys, List.mem_singleton] at hkey
      rw [hkey, hsrc, hdst]
      rfl

/-! The protocol of a conduit tells the pass that appended it, and whether it leads out. -/

theorem protocol_modbusPass {key : ConduitKey}
    (h : key ∈ conduitKeys (observed.modbusServers.flatMap (modbusCalls portHints))) :
    key.kind = .asset ∧ key.protocol = "modbus-tcp" := by
  rw [conduitKeys_flatMap] at h
  obtain ⟨row, _, hkey⟩ := List.mem_flatMap.mp h
  obtain ⟨hkind, _, hprotocol⟩ := mem_conduitKeys_modbusCalls hkey
  exact ⟨hkind, hprotocol⟩

theorem conduitKeys_mmsPass (rows : List MmsIed) : conduitKeys (rows.flatMap mmsCalls) = [] := by
  rw [conduitKeys_flatMap]
  exact List.flatMap_eq_nil_iff.mpr fun row _ => conduitKeys_mmsCalls row

theorem protocol_hintPass {key : ConduitKey}
    (h : key ∈ conduitKeys (portHints.flatMap (hintCalls portHints))) :
    key.kind = .asset ∧ (key.protocol = "ldap" ∨ key.protocol = "dns") := by
  rw [conduitKeys_flatMap] at h
  obtain ⟨entry, _, hkey⟩ := List.mem_flatMap.mp h
  obtain ⟨cips, protocol, _, hprotocol, hkeys⟩ := conduitKeys_hintCalls portHints entry
  rw [hkeys] at hkey
  obtain ⟨cip, _, rfl⟩ := List.mem_map.mp hkey
  exact ⟨rfl, hprotocol⟩

theorem protocol_pairPass {key : ConduitKey}
    (h : key ∈ conduitKeys (observed.commPairs.flatMap (pairCalls platform))) :
    key.kind = .asset ∧ key.protocol = "unknown"
      ∨ key.kind = .external ∧ key.protocol = "egress" := by
  rw [conduitKeys_flatMap] at h
  obtain ⟨pair, _, hkey⟩ := List.mem_flatMap.mp h
  rcases conduitKeys_pairCalls platform pair with hkeys | hkeys | hkeys
  · rw [hkeys] at hkey
    cases hkey
  · rw [hkeys, List.mem_singleton] at hkey
    exact .inl (by rw [hkey]; exact ⟨rfl, rfl⟩)
  · rw [hkeys, List.mem_singleton] at hkey
    exact .inr (by rw [hkey]; exact ⟨rfl, rfl⟩)

theorem conduitKeys_topologyCalls :
    conduitKeys (topologyCalls platform observed portHints)
      = conduitKeys (observed.modbusServers.flatMap (modbusCalls portHints))
        ++ conduitKeys (portHints.flatMap (hintCalls portHints))
        ++ conduitKeys (observed.commPairs.flatMap (pairCalls platform)) := by
  unfold topologyCalls
  rw [conduitKeys_append, conduitKeys_append, conduitKeys_append, conduitKeys_mmsPass,
    List.append_nil]

/-- Only a conduit that leads out has the protocol of one. -/
theorem external_iff_egress {key : ConduitKey}
    (h : key ∈ conduitKeys (topologyCalls platform observed portHints)) :
    key.kind = .external ↔ key.protocol = "egress" := by
  rw [conduitKeys_topologyCalls] at h
  rcases List.mem_append.mp h with h | h
  · rcases List.mem_append.mp h with h | h
    · obtain ⟨hkind, hprotocol⟩ := protocol_modbusPass h
      rw [hkind, hprotocol]
      decide
    · obtain ⟨hkind, hprotocol | hprotocol⟩ := protocol_hintPass h
      · rw [hkind, hprotocol]
        decide
      · rw [hkind, hprotocol]
        decide
  · rcases protocol_pairPass h with ⟨hkind, hprotocol⟩ | ⟨hkind, hprotocol⟩
    · rw [hkind, hprotocol]
      decide
    · rw [hkind, hprotocol]
      decide

/-- The passes connect nothing twice. -/
theorem nodup_conduitKeys (h : CollectorShape observed portHints) :
    (conduitKeys (topologyCalls platform observed portHints)).Nodup := by
  rw [conduitKeys_topologyCalls, List.nodup_append, List.nodup_append]
  refine ⟨⟨nodup_modbusPass h, nodup_hintPass h, ?_⟩, nodup_pairPass h, ?_⟩
  · -- two passes share no conduit: their protocols differ
    rintro key hkey key' hkey' rfl
    obtain ⟨_, hprotocol⟩ := protocol_modbusPass hkey
    obtain ⟨_, hother⟩ := protocol_hintPass hkey'
    rw [hprotocol] at hother
    exact absurd hother (by decide)
  · rintro key hkey key' hkey' rfl
    have hother := protocol_pairPass hkey'
    rcases List.mem_append.mp hkey with hkey | hkey
    · obtain ⟨_, hprotocol⟩ := protocol_modbusPass hkey
      rw [hprotocol] at hother
      exact hother.elim (fun h => absurd h.2 (by decide)) fun h => absurd h.2 (by decide)
    · obtain ⟨_, hprotocol | hprotocol⟩ := protocol_hintPass hkey
      · rw [hprotocol] at hother
        exact hother.elim (fun h => absurd h.2 (by decide)) fun h => absurd h.2 (by decide)
      · rw [hprotocol] at hother
        exact hother.elim (fun h => absurd h.2 (by decide)) fun h => absurd h.2 (by decide)

end EdgeSensor.Sensor
