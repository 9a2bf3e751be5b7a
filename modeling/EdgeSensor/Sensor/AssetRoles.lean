import EdgeSensor.Sensor.AssetEvidence
import Mathlib.Tactic.NormNum

/-!
# The roles of an address

The passes give an address a standing for each role it plays: Modbus server, Modbus client,
IED, LDAP or DNS server, client of such a server, Windows host, end of a communication pair.
`mem_standings_topologyCalls` names them all, in terms of the input. The confidences are such
that two roles of the same confidence have the same level, but for a Modbus client and an
LDAP or DNS server; there the Modbus pass comes first (`Settles.level_unique`). The type is
not settled so: it is the last one named (`type_of_rows`, `rows_reordered`).
-/

namespace EdgeSensor.Sensor

open EdgeSensor.Lib EdgeSensor.Py

namespace Standing

def plc : Standing := ⟨"plc", some "L1", none, 85 / 100⟩

/-- A Modbus client, on a Windows host or not. -/
def operator (windows : Bool) : Standing :=
  ⟨"hmi", some "L2", if windows then some "windows" else none,
    if windows then 78 / 100 else 75 / 100⟩

def ied : Standing := ⟨"ied", some "L1", none, 80 / 100⟩

/-- An LDAP or DNS server, by its type. -/
def server (type : String) : Standing := ⟨type, some "L4", none, 75 / 100⟩

/-- A client of an LDAP or DNS server. -/
def client : Standing := ⟨"hmi", some "L2", none, 70 / 100⟩

def windowsHost : Standing := ⟨"hmi", some "L2", some "windows", 78 / 100⟩

/-- One end of a communication pair. -/
def peer : Standing := ⟨"unknown", none, none, 40 / 100⟩

end Standing

/-! ## Roles, in terms of the input -/

/-- A Modbus client of the server. -/
def ModbusServer.PolledBy (row : ModbusServer) (ip : String) : Prop :=
  strip row.serverIp ≠ "" ∧ ip ≠ "" ∧ ∃ client ∈ row.allowedClients, strip client = ip

/-- The type of the server the hints make the address. -/
def PortHint.serviceType (info : PortHint) : Option String :=
  if nonBlank info.hints = [] then none
  else if info.IsLdapServer then some "ad_server"
  else if info.IsDnsServer then some "dns_server"
  else none

/-- The clients of that server. -/
def PortHint.served (info : PortHint) : List String :=
  if nonBlank info.hints = [] then []
  else if info.IsLdapServer then nonBlank info.ldapClientIps
  else if info.IsDnsServer then nonBlank info.dnsClientIps
  else []

/-- The hints make the address a Windows host and nothing else. -/
def PortHint.IsWindowsHost (info : PortHint) : Prop :=
  nonBlank info.hints ≠ [] ∧ info.serviceType = none ∧ info.HasWindows

instance (info : PortHint) : Decidable info.IsWindowsHost := inferInstanceAs (Decidable (_ ∧ _))

section Roles

variable (observed : Observed) (portHints : Dict String PortHint) (ip : String)

/-- The address is a Modbus server. -/
def ServesModbus : Prop := ip ≠ "" ∧ ∃ row ∈ observed.modbusServers, strip row.serverIp = ip

/-- The address is a Modbus client. -/
def PollsModbus : Prop := ∃ row ∈ observed.modbusServers, row.PolledBy ip

/-- The address is an IED. -/
def IsIed : Prop := ∃ row ∈ observed.mmsIeds, MmsIed.Shows row ip

/-- The hints make the address an LDAP or DNS server of a type. -/
def ServesAs (type : String) : Prop :=
  ∃ info, (ip, info) ∈ portHints ∧ info.serviceType = some type

/-- The hints make the address a client of an LDAP or DNS server. -/
def IsServed : Prop := ∃ entry ∈ portHints, ip ∈ entry.2.served

/-- The hints make the address a Windows host. -/
def IsWindowsHost : Prop := ∃ info, (ip, info) ∈ portHints ∧ info.IsWindowsHost

/-- The hints of the address speak of a Windows operator station. -/
def LooksWindows : Bool := "smb" ∈ hintsForIp portHints ip ∨ "rdp" ∈ hintsForIp portHints ip

/-- The address is one end of a communication pair. -/
def IsPeer (tables : UnicodeTables) : Prop :=
  ∃ pair ∈ observed.commPairs, PairShows tables pair ip

end Roles

/-! ## The standings of a row -/

variable {portHints : Dict String PortHint} {ip : String} {s : Standing}

theorem standings_modbusClientCalls (serverIp client : String) :
    standings ip (modbusClientCalls portHints serverIp client)
      = if ip ≠ "" ∧ strip client = ip then [.operator (LooksWindows portHints ip)] else [] := by
  unfold modbusClientCalls
  simp only
  by_cases hblank : strip client = ""
  · rw [if_pos hblank, if_neg]
    · rfl
    · rintro ⟨hne, rfl⟩
      exact hne hblank
  · rw [if_neg hblank, standings_cons_touch]
    by_cases hip : strip client = ip
    · rw [if_pos hip, if_pos (⟨hip ▸ hblank, hip⟩ : ip ≠ "" ∧ strip client = ip), hip]
      unfold Touch.standing Standing.operator LooksWindows
      simp only [decide_eq_true_eq]
      rfl
    · rw [if_neg hip, if_neg fun h => hip h.2]
      rfl

theorem mem_standings_clients {row : ModbusServer} {serverIp : String} :
    s ∈ standings ip (row.allowedClients.flatMap (modbusClientCalls portHints serverIp))
      ↔ s = .operator (LooksWindows portHints ip)
        ∧ ip ≠ "" ∧ ∃ client ∈ row.allowedClients, strip client = ip := by
  rw [standings_flatMap, List.mem_flatMap]
  simp only [standings_modbusClientCalls]
  constructor
  · rintro ⟨client, hclient, hs⟩
    split at hs
    · next h => exact ⟨List.mem_singleton.mp hs, h.1, client, hclient, h.2⟩
    · cases hs
  · rintro ⟨rfl, hne, client, hclient, hip⟩
    refine ⟨client, hclient, ?_⟩
    rw [if_pos ⟨hne, hip⟩]
    exact List.mem_cons_self

/-- A Modbus server gives its own standing first, then those of its clients. -/
theorem standings_modbusCalls (row : ModbusServer) :
    standings ip (modbusCalls portHints row)
      = (if ip ≠ "" ∧ strip row.serverIp = ip then [.plc] else [])
        ++ standings ip (if strip row.serverIp = "" then []
          else row.allowedClients.flatMap (modbusClientCalls portHints (strip row.serverIp))) := by
  unfold modbusCalls
  simp only
  by_cases hblank : strip row.serverIp = ""
  · rw [if_pos hblank, if_pos hblank, if_neg]
    · rfl
    · rintro ⟨hne, rfl⟩
      exact hne hblank
  · rw [if_neg hblank, if_neg hblank, standings_cons_touch]
    by_cases hip : strip row.serverIp = ip
    · rw [if_pos hip, if_pos (⟨hip ▸ hblank, hip⟩ : ip ≠ "" ∧ strip row.serverIp = ip)]
      rfl
    · rw [if_neg hip, if_neg fun h => hip h.2]

/-- A touched address has a standing, and no other has. -/
theorem mem_touchedIps_iff {calls : List TopologyCall} :
    ip ∈ touchedIps calls ↔ ∃ s, s ∈ standings ip calls := by
  unfold standings
  simp only [mem_touchedIps, List.mem_map, mem_touchesOf]
  constructor
  · rintro ⟨args, hcall, hip⟩
    exact ⟨_, args, ⟨hcall, hip⟩, rfl⟩
  · rintro ⟨_, args, h, _⟩
    exact ⟨args, h⟩

/-- Calls that give one standing only give it to every address they touch. -/
theorem mem_standings_of_only {calls : List TopologyCall} {only : Standing}
    (h : ∀ args, .touch args ∈ calls → args.standing = only) :
    s ∈ standings ip calls ↔ s = only ∧ ip ∈ touchedIps calls := by
  have honly : ∀ s ∈ standings ip calls, s = only := by
    intro s hs
    obtain ⟨args, hargs, rfl⟩ := List.mem_map.mp hs
    exact h args (mem_touchesOf.mp hargs).1
  rw [mem_touchedIps_iff]
  constructor
  · exact fun hs => ⟨honly s hs, s, hs⟩
  · rintro ⟨rfl, s', hs'⟩
    rw [← honly s' hs']
    exact hs'

theorem mem_standings_mmsCalls {row : MmsIed} :
    s ∈ standings ip (mmsCalls row) ↔ s = .ied ∧ row.Shows ip := by
  rw [mem_standings_of_only, mem_touchedIps_mmsCalls]
  intro args hargs
  unfold mmsCalls at hargs
  simp only at hargs
  split at hargs
  · cases hargs
  · cases List.mem_singleton.mp hargs
    rfl

theorem mem_standings_pairCalls {platform : Platform} {pair : String × String} :
    s ∈ standings ip (pairCalls platform pair) ↔ s = .peer ∧ PairShows platform.tables pair ip := by
  rw [mem_standings_of_only, mem_touchedIps_pairCalls]
  intro args hargs
  unfold pairCalls at hargs
  simp only at hargs
  split at hargs
  · cases hargs
  · rcases List.mem_cons.mp hargs with hargs | hargs
    · cases hargs
      rfl
    · split at hargs
      · rcases List.mem_cons.mp hargs with hargs | hargs
        · cases hargs
          rfl
        · cases List.mem_singleton.mp hargs
      · cases List.mem_singleton.mp hargs

/-! ## The standings the hints give -/

/-- The hints of a server touch it, then its clients. -/
theorem hintCalls_service {entry : String × PortHint} {type : String}
    (h : entry.2.serviceType = some type) :
    ∃ args protocol, args.ip = entry.1 ∧ args.standing = .server type
      ∧ hintCalls portHints entry
        = .touch args :: entry.2.served.flatMap (clientCalls portHints entry.1 protocol) := by
  unfold PortHint.serviceType at h
  unfold hintCalls PortHint.served
  simp only
  split at h
  · cases h
  · next hhints =>
    rw [if_neg hhints, if_neg hhints]
    split at h
    · next hldap =>
      cases h
      rw [if_pos hldap, if_pos hldap]
      exact ⟨_, _, rfl, rfl, rfl⟩
    · next hldap =>
      rw [if_neg hldap, if_neg hldap]
      split at h
      · next hdns =>
        cases h
        rw [if_pos hdns, if_pos hdns]
        exact ⟨_, _, rfl, rfl, rfl⟩
      · cases h

/-- Without a server, the hints touch a Windows host, or nothing. -/
theorem hintCalls_host {entry : String × PortHint} (h : entry.2.serviceType = none) :
    ∃ args, args.ip = entry.1 ∧ args.standing = .windowsHost
      ∧ hintCalls portHints entry = if entry.2.IsWindowsHost then [.touch args] else [] := by
  refine ⟨{
    ip := entry.1
    assetType := "hmi"
    purdueLevel := some "L2"
    protocolHints := nonBlank entry.2.hints
    osFamily := some "windows"
    confidence := 78 / 100
    evidence := ["it_protocol_fingerprint"] }, rfl, rfl, ?_⟩
  have hhost : entry.2.IsWindowsHost ↔ nonBlank entry.2.hints ≠ [] ∧ entry.2.HasWindows := by
    unfold PortHint.IsWindowsHost
    rw [h]
    exact and_congr_right fun _ => and_iff_right rfl
  simp only [hhost]
  unfold PortHint.serviceType at h
  unfold hintCalls
  simp only
  by_cases hhints : nonBlank entry.2.hints = []
  · rw [if_pos hhints, if_neg fun h => h.1 hhints]
  · rw [if_neg hhints] at h ⊢
    split at h
    · cases h
    · next hldap =>
      rw [if_neg hldap]
      split at h
      · cases h
      · next hdns =>
        rw [if_neg hdns]
        by_cases hwindows : entry.2.HasWindows
        · rw [if_pos hwindows, if_pos ⟨hhints, hwindows⟩]
        · rw [if_neg hwindows, if_neg fun h => hwindows h.2]

theorem served_eq_nil {info : PortHint} (h : info.serviceType = none) : info.served = [] := by
  unfold PortHint.serviceType at h
  unfold PortHint.served
  split at h
  · next hhints => rw [if_pos hhints]
  · next hhints =>
    rw [if_neg hhints]
    split at h
    · cases h
    · next hldap =>
      rw [if_neg hldap]
      split at h
      · cases h
      · next hdns => rw [if_neg hdns]

theorem mem_standings_served {serverIp protocol : String} {cips : List String} :
    s ∈ standings ip (cips.flatMap (clientCalls portHints serverIp protocol))
      ↔ s = .client ∧ ip ∈ cips := by
  rw [mem_standings_of_only, mem_touchedIps_clients]
  intro args hargs
  obtain ⟨cip, _, hargs⟩ := List.mem_flatMap.mp hargs
  rcases List.mem_cons.mp hargs with hargs | hargs
  · cases hargs
    rfl
  · cases List.mem_singleton.mp hargs

theorem mem_standings_hintCalls {entry : String × PortHint} :
    s ∈ standings ip (hintCalls portHints entry)
      ↔ (∃ type, s = .server type ∧ entry.1 = ip ∧ entry.2.serviceType = some type)
        ∨ s = .client ∧ ip ∈ entry.2.served
        ∨ s = .windowsHost ∧ entry.1 = ip ∧ entry.2.IsWindowsHost := by
  cases htype : entry.2.serviceType with
  | some type =>
    obtain ⟨args, protocol, hip, hstanding, hcalls⟩ := @hintCalls_service portHints _ _ htype
    have hhost : ¬ entry.2.IsWindowsHost := fun h => by cases htype.symm.trans h.2.1
    rw [hcalls, standings_cons_touch, List.mem_append, mem_standings_served, hip, hstanding]
    constructor
    · rintro (hs | hs)
      · split at hs
        · next heq => exact .inl ⟨type, List.mem_singleton.mp hs, heq, rfl⟩
        · cases hs
      · exact .inr (.inl hs)
    · rintro (⟨_, rfl, heq, hother⟩ | hs | hs)
      · cases hother
        rw [if_pos heq]
        exact .inl List.mem_cons_self
      · exact .inr hs
      · exact absurd hs.2.2 hhost
  | none =>
    obtain ⟨args, hip, hstanding, hcalls⟩ := @hintCalls_host portHints _ htype
    rw [hcalls, served_eq_nil htype]
    constructor
    · intro hs
      split at hs
      · next hhost =>
        rw [standings_cons_touch, hip, hstanding] at hs
        rcases List.mem_append.mp hs with hs | hs
        · split at hs
          · next heq => exact .inr (.inr ⟨List.mem_singleton.mp hs, heq, hhost⟩)
          · cases hs
        · cases hs
      · cases hs
    · rintro (⟨_, _, _, hother⟩ | ⟨_, hs⟩ | ⟨rfl, heq, hhost⟩)
      · cases hother
      · cases hs
      · rw [if_pos hhost, standings_cons_touch, hip, hstanding, if_pos heq]
        exact List.mem_append_left _ List.mem_cons_self

/-! ## The standings of an address, pass by pass -/

theorem mem_standings_modbusCalls {row : ModbusServer} :
    s ∈ standings ip (modbusCalls portHints row)
      ↔ s = .plc ∧ ip ≠ "" ∧ strip row.serverIp = ip
        ∨ s = .operator (LooksWindows portHints ip) ∧ row.PolledBy ip := by
  rw [standings_modbusCalls, List.mem_append]
  refine or_congr ?_ ?_
  · split
    · next h => rw [List.mem_singleton, and_iff_left h]
    · next h => exact iff_of_false List.not_mem_nil fun hs => h hs.2
  · unfold ModbusServer.PolledBy
    split
    · next h => exact iff_of_false List.not_mem_nil fun hs => hs.2.1 h
    · next h => rw [mem_standings_clients, and_iff_right h]

variable {observed : Observed} {platform : Platform}

theorem mem_standings_modbusPass :
    s ∈ standings ip (observed.modbusServers.flatMap (modbusCalls portHints))
      ↔ s = .plc ∧ ServesModbus observed ip
        ∨ s = .operator (LooksWindows portHints ip) ∧ PollsModbus observed ip := by
  rw [standings_flatMap, List.mem_flatMap]
  simp only [mem_standings_modbusCalls]
  constructor
  · rintro ⟨row, hrow, ⟨hs, hne, hip⟩ | ⟨hs, hpolled⟩⟩
    · exact .inl ⟨hs, hne, row, hrow, hip⟩
    · exact .inr ⟨hs, row, hrow, hpolled⟩
  · rintro (⟨hs, hne, row, hrow, hip⟩ | ⟨hs, row, hrow, hpolled⟩)
    · exact ⟨row, hrow, .inl ⟨hs, hne, hip⟩⟩
    · exact ⟨row, hrow, .inr ⟨hs, hpolled⟩⟩

theorem mem_standings_mmsPass :
    s ∈ standings ip (observed.mmsIeds.flatMap mmsCalls) ↔ s = .ied ∧ IsIed observed ip := by
  rw [standings_flatMap, List.mem_flatMap]
  simp only [mem_standings_mmsCalls]
  constructor
  · rintro ⟨row, hrow, hs, hshows⟩
    exact ⟨hs, row, hrow, hshows⟩
  · rintro ⟨hs, row, hrow, hshows⟩
    exact ⟨row, hrow, hs, hshows⟩

theorem mem_standings_hintPass :
    s ∈ standings ip (portHints.flatMap (hintCalls portHints))
      ↔ (∃ type, s = .server type ∧ ServesAs portHints ip type)
        ∨ s = .client ∧ IsServed portHints ip
        ∨ s = .windowsHost ∧ IsWindowsHost portHints ip := by
  rw [standings_flatMap, List.mem_flatMap]
  simp only [mem_standings_hintCalls]
  constructor
  · rintro ⟨⟨own, info⟩, hentry, ⟨type, hs, rfl, htype⟩ | ⟨hs, hserved⟩ | ⟨hs, rfl, hhost⟩⟩
    · exact .inl ⟨type, hs, info, hentry, htype⟩
    · exact .inr (.inl ⟨hs, _, hentry, hserved⟩)
    · exact .inr (.inr ⟨hs, info, hentry, hhost⟩)
  · rintro (⟨type, hs, info, hentry, htype⟩ | ⟨hs, entry, hentry, hserved⟩
      | ⟨hs, info, hentry, hhost⟩)
    · exact ⟨_, hentry, .inl ⟨type, hs, rfl, htype⟩⟩
    · exact ⟨entry, hentry, .inr (.inl ⟨hs, hserved⟩)⟩
    · exact ⟨_, hentry, .inr (.inr ⟨hs, rfl, hhost⟩)⟩

theorem mem_standings_pairPass :
    s ∈ standings ip (observed.commPairs.flatMap (pairCalls platform))
      ↔ s = .peer ∧ IsPeer observed ip platform.tables := by
  rw [standings_flatMap, List.mem_flatMap]
  simp only [mem_standings_pairCalls]
  constructor
  · rintro ⟨pair, hpair, hs, hshows⟩
    exact ⟨hs, pair, hpair, hshows⟩
  · rintro ⟨hs, pair, hpair, hshows⟩
    exact ⟨pair, hpair, hs, hshows⟩

/-- The standings the roles of an address give it. -/
inductive Plays (tables : UnicodeTables) (observed : Observed)
    (portHints : Dict String PortHint) (ip : String) : Standing → Prop where
  | plc : ServesModbus observed ip → Plays tables observed portHints ip .plc
  | operator : PollsModbus observed ip →
      Plays tables observed portHints ip (.operator (LooksWindows portHints ip))
  | ied : IsIed observed ip → Plays tables observed portHints ip .ied
  | server (type : String) : ServesAs portHints ip type →
      Plays tables observed portHints ip (.server type)
  | client : IsServed portHints ip → Plays tables observed portHints ip .client
  | windowsHost : IsWindowsHost portHints ip → Plays tables observed portHints ip .windowsHost
  | peer : IsPeer observed ip tables → Plays tables observed portHints ip .peer

/-- The passes give an address the standings of its roles, and no other. -/
theorem mem_standings_topologyCalls :
    s ∈ standings ip (topologyCalls platform observed portHints)
      ↔ Plays platform.tables observed portHints ip s := by
  unfold topologyCalls
  rw [standings_append, standings_append, standings_append, List.mem_append, List.mem_append,
    List.mem_append, mem_standings_modbusPass, mem_standings_mmsPass, mem_standings_hintPass,
    mem_standings_pairPass]
  constructor
  · rintro ((((⟨rfl, h⟩ | ⟨rfl, h⟩) | ⟨rfl, h⟩) | (⟨type, rfl, h⟩ | ⟨rfl, h⟩ | ⟨rfl, h⟩))
      | ⟨rfl, h⟩)
    · exact .plc h
    · exact .operator h
    · exact .ied h
    · exact .server type h
    · exact .client h
    · exact .windowsHost h
    · exact .peer h
  · intro h
    cases h with
    | plc h => exact .inl (.inl (.inl (.inl ⟨rfl, h⟩)))
    | operator h => exact .inl (.inl (.inl (.inr ⟨rfl, h⟩)))
    | ied h => exact .inl (.inl (.inr ⟨rfl, h⟩))
    | server type h => exact .inl (.inr (.inl ⟨type, rfl, h⟩))
    | client h => exact .inl (.inr (.inr (.inl ⟨rfl, h⟩)))
    | windowsHost h => exact .inl (.inr (.inr (.inr ⟨rfl, h⟩)))
    | peer h => exact .inr ⟨rfl, h⟩

theorem serviceType_cases {info : PortHint} {type : String} (h : info.serviceType = some type) :
    type = "ad_server" ∨ type = "dns_server" := by
  unfold PortHint.serviceType at h
  split at h
  · cases h
  · split at h
    · exact .inl (Option.some.inj h).symm
    · split at h
      · exact .inr (Option.some.inj h).symm
      · cases h

theorem Plays.given {tables : UnicodeTables} (h : Plays tables observed portHints ip s) :
    s.Given := by
  cases h with
  | plc h => exact ⟨.inr ⟨_, rfl, by decide, by decide, by norm_num [Standing.plc]⟩, .inl rfl⟩
  | operator h =>
    cases LooksWindows portHints ip with
    | false => exact ⟨.inr ⟨_, rfl, by decide, by decide, by norm_num [Standing.operator]⟩, .inl rfl⟩
    | true => exact ⟨.inr ⟨_, rfl, by decide, by decide, by norm_num [Standing.operator]⟩, .inr rfl⟩
  | ied h => exact ⟨.inr ⟨_, rfl, by decide, by decide, by norm_num [Standing.ied]⟩, .inl rfl⟩
  | server type h =>
    exact ⟨.inr ⟨_, rfl, by decide, by decide, by norm_num [Standing.server]⟩, .inl rfl⟩
  | client h => exact ⟨.inr ⟨_, rfl, by decide, by decide, by norm_num [Standing.client]⟩, .inl rfl⟩
  | windowsHost h =>
    exact ⟨.inr ⟨_, rfl, by decide, by decide, by norm_num [Standing.windowsHost]⟩, .inr rfl⟩
  | peer h => exact ⟨.inl ⟨rfl, rfl⟩, .inl rfl⟩

/-! ## The strongest role -/

/-- A standing of the address that no other of its standings is stronger than. -/
def Strongest (tables : UnicodeTables) (observed : Observed) (portHints : Dict String PortHint)
    (ip : String) (s : Standing) : Prop :=
  Plays tables observed portHints ip s
    ∧ ∀ s', Plays tables observed portHints ip s' → s'.confidence ≤ s.confidence

/-- The strongest standing that settles the level: a Modbus client comes before a server that
is no stronger. -/
def Settles (tables : UnicodeTables) (observed : Observed) (portHints : Dict String PortHint)
    (ip : String) (s : Standing) : Prop :=
  Strongest tables observed portHints ip s
    ∧ (PollsModbus observed ip → ∀ type, s ≠ .server type)

theorem operator_confidence (windows : Bool) :
    75 / 100 ≤ (Standing.operator windows).confidence
      ∧ (Standing.operator windows).confidence ≤ 78 / 100 := by
  cases windows with
  | false => norm_num [Standing.operator]
  | true => norm_num [Standing.operator]

/-- The level an address is concluded to be at is that of a standing that settles it. -/
theorem exists_settles {row : Standing}
    (h : Concludes (standings ip (topologyCalls platform observed portHints)) row) :
    ∃ s, Settles platform.tables observed portHints ip s
      ∧ row.purdueLevel = s.purdueLevel ∧ row.confidence = s.confidence := by
  obtain ⟨m, hm, hconfidence⟩ := Option.map_eq_some_iff.mp h.confidence
  have hmem : Plays platform.tables observed portHints ip m :=
    mem_standings_topologyCalls.mp (List.argmax_mem hm)
  have hmax : ∀ s', Plays platform.tables observed portHints ip s' →
      s'.confidence ≤ m.confidence :=
    fun s' hs' => List.le_of_mem_argmax (mem_standings_topologyCalls.mpr hs') hm
  refine ⟨m, ⟨⟨hmem, hmax⟩, ?_⟩, ?_, hconfidence.symm⟩
  · rintro hpolls type rfl
    -- the strongest of the Modbus pass is found first
    have hsplit : topologyCalls platform observed portHints
        = observed.modbusServers.flatMap (modbusCalls portHints)
          ++ (observed.mmsIeds.flatMap mmsCalls ++ (portHints.flatMap (hintCalls portHints)
            ++ observed.commPairs.flatMap (pairCalls platform))) := by
      unfold topologyCalls
      simp only [List.append_assoc]
    rw [hsplit, standings_append] at hm
    have hoperator : Standing.operator (LooksWindows portHints ip)
        ∈ standings ip (observed.modbusServers.flatMap (modbusCalls portHints)) :=
      mem_standings_modbusPass.mpr (.inr ⟨rfl, hpolls⟩)
    obtain ⟨first, hfirst⟩ : ∃ first, (standings ip
        (observed.modbusServers.flatMap (modbusCalls portHints))).argmax (·.confidence)
          = some first := by
      refine Option.ne_none_iff_exists'.mp fun hnone => ?_
      rw [List.argmax_eq_none.mp hnone] at hoperator
      cases hoperator
    have hstrong : 75 / 100 ≤ first.confidence :=
      (operator_confidence _).1.trans (List.le_of_mem_argmax hoperator hfirst)
    have hfound := argmax_append_of_le hfirst fun s' hs' =>
      (hmax s' (mem_standings_topologyCalls.mp (by
        rw [hsplit, standings_append]
        exact List.mem_append_right _ hs'))).trans hstrong
    cases hfound.symm.trans hm
    rcases mem_standings_modbusPass.mp (List.argmax_mem hfirst) with ⟨heq, _⟩ | ⟨heq, _⟩
    · exact absurd (congrArg (·.purdueLevel) heq) (by simp [Standing.server, Standing.plc])
    · exact absurd (congrArg (·.purdueLevel) heq) (by simp [Standing.server, Standing.operator])
  · rw [h.purdueLevel, hm]
    rfl

end EdgeSensor.Sensor
