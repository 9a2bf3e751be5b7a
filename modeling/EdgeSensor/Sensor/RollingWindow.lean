import EdgeSensor.Sensor.CollectorFeeds
import EdgeSensor.Sensor.TopologyIntegrity

/-!
# The rolling window

A candidate with a window should identify what a new collector would, fed the calls of the
window alone. Publishers, IEDs, the clients of IEDs, pairs, and the clients of LDAP and DNS
servers have stamps of their own, and age. The clients of a Modbus server and the hints of
an address have none: once learned they stay for as long as the process runs.
`rolling_window_iff` says when that shows.
-/

namespace EdgeSensor.Sensor

open EdgeSensor.Lib EdgeSensor.Parser EdgeSensor.Py

namespace SiteCollector

variable (tenantId sensorId : String) {h : History Rat Feed} {limit : Rat}

/-- The peers of one side in a history. -/
def peers (sides : Feed → Option (String × String)) (ip : String) (h : History Rat Feed) :
    Finset String :=
  (h.filterMap fun e => ((sides e.2).filter (·.1 = ip)).map (·.2)).toFinset

theorem mem_peers {sides : Feed → Option (String × String)} {ip peer : String} :
    peer ∈ peers sides ip h ↔ h.Ever fun call => sides call = some (ip, peer) := by
  unfold peers History.Ever
  rw [List.mem_toFinset, List.mem_filterMap]
  refine exists_congr fun e => and_congr_right fun _ => ?_
  cases hsides : sides e.2 with
  | none => simp [hsides]
  | some s =>
    obtain ⟨own, other⟩ := s
    by_cases hown : own = ip
    · simp [hsides, hown]
    · simp [hsides, hown]

/-! ## What is fresh -/

/-- A stamp of a collector is fresh if the window has a call that sets it. -/
theorem stamp_fresh {p : Feed → Prop} [DecidablePred p]
    (read : SiteCollector → Option Rat)
    (h0 : read { tenantId := tenantId, sensorId := sensorId } = none)
    (hstep : ∀ c call, read (c.feed call) = if p call.2 then some call.1 else read c)
    (hchron : h.Chronological) :
    (∃ t, read (collect tenantId sensorId h) = some t ∧ limit ≤ t) ↔ (h.since limit).Ever p := by
  have hrun : read (collect tenantId sensorId h) = h.lastSeen p :=
    History.foldl_lastSeen read h0 hstep h
  rw [hrun]
  exact History.fresh_lastSeen hchron

section Fresh

variable (hchron : h.Chronological)
include hchron

theorem publisher_fresh (key : String) :
    (∃ obs, (collect tenantId sensorId h).goose.get? key = some obs ∧ limit ≤ obs.lastSeen)
      ↔ (h.since limit).Ever fun call => call.publisher = some key := by
  rw [← stamp_fresh tenantId sensorId (fun c => (c.goose.get? key).map (·.lastSeen)) rfl
    (publisher_feed key) hchron]
  simp

theorem ied_fresh (ip : String) :
    (∃ rec, (collect tenantId sensorId h).mms.get? ip = some rec ∧ limit ≤ rec.lastSeen)
      ↔ (h.since limit).Ever fun call => call.ied.map (·.1) = some ip := by
  rw [← stamp_fresh tenantId sensorId (fun c => (c.mms.get? ip).map (·.lastSeen)) rfl
    (ied_feed ip) hchron]
  simp

theorem server_fresh (ip : String) :
    (∃ rec, (collect tenantId sensorId h).modbus.get? ip = some rec ∧ limit ≤ rec.lastSeen)
      ↔ (h.since limit).Ever fun call => call.server.map (·.1) = some ip := by
  rw [← stamp_fresh tenantId sensorId (fun c => (c.modbus.get? ip).map (·.lastSeen)) rfl
    (server_feed ip) hchron]
  simp

theorem mem_fresh_iedClients (ip client : String) :
    client ∈ freshKeys (iedClients (collect tenantId sensorId h).toBaselineCollector ip)
        (some limit)
      ↔ (h.since limit).Ever fun call => call.iedClient = some (ip, client) := by
  rw [mem_freshKeys ((distinct_collect tenantId sensorId h).clients ip)]
  exact stamp_fresh tenantId sensorId
    (fun c => (iedClients c.toBaselineCollector ip).get? client) rfl (iedClient_feed ip client) hchron

theorem mem_commPairsFresh (pair : String × String) :
    pair ∈ (collect tenantId sensorId h).commPairsFresh (some limit)
      ↔ (h.since limit).Ever fun call => call.pair = some pair := by
  unfold commPairsFresh
  rw [List.mem_mergeSort, mem_freshKeys (distinct_collect tenantId sensorId h).pairs]
  exact stamp_fresh tenantId sensorId (fun c => c.commPairs.get? pair) rfl (pair_feed pair) hchron

theorem mem_fresh_ldapClients (server client : String) :
    client ∈ freshKeys (((collect tenantId sensorId h).ldapClients.get? server).getD [])
        (some limit)
      ↔ (h.since limit).Ever fun call => call.service = some ("ldap", server, client) := by
  rw [mem_freshKeys ((distinct_collect tenantId sensorId h).ldap server)]
  exact stamp_fresh tenantId sensorId (fun c => ((c.ldapClients.get? server).getD []).get? client)
    rfl (ldapClient_feed server client) hchron

theorem mem_fresh_dnsClients (server client : String) :
    client ∈ freshKeys (((collect tenantId sensorId h).dnsClients.get? server).getD [])
        (some limit)
      ↔ (h.since limit).Ever fun call => call.service = some ("dns", server, client) := by
  rw [mem_freshKeys ((distinct_collect tenantId sensorId h).dns server)]
  exact stamp_fresh tenantId sensorId (fun c => ((c.dnsClients.get? server).getD []).get? client)
    rfl (dnsClient_feed server client) hchron

end Fresh

/-! ## What is never forgotten -/

theorem mem_serverClients (ip client : String) :
    client ∈ serverClients (collect tenantId sensorId h).toBaselineCollector ip
      ↔ h.Ever fun call => call.serverClient = some (ip, client) := by
  refine History.foldl_ever
    (fun c : SiteCollector => client ∈ serverClients c.toBaselineCollector ip) ?_
    (serverClient_feed ip client) h
  exact Finset.notMem_empty client

theorem mem_hintsAt (ip hint : String) :
    hint ∈ (collect tenantId sensorId h).hintsAt ip ↔ h.Ever (Feed.HintsAt ip hint) := by
  refine History.foldl_ever (fun c : SiteCollector => hint ∈ c.hintsAt ip) ?_
    (hintsAt_feed ip hint) h
  exact Finset.notMem_empty hint

theorem ipHints_isSome (ip : String) :
    ((collect tenantId sensorId h).ipHints.get? ip).isSome
      ↔ h.Ever fun call => ∃ hint, call.HintsAt ip hint := by
  refine History.foldl_ever (fun c : SiteCollector => ((c.ipHints.get? ip).isSome = true)) ?_
    (ipHints_feed ip) h
  exact Bool.false_ne_true

/-! ## The identities of a candidate -/

theorem mem_publishers (hchron : h.Chronological) {key : String} :
    key ∈ ((collect tenantId sensorId h).observedBlock (some limit)).identities.publishers
      ↔ (h.since limit).Ever fun call => call.publisher = some key := by
  have hkeyed := (distinct_collect tenantId sensorId h).records.goose
  rw [← publisher_fresh tenantId sensorId hchron]
  unfold Observed.identities
  simp only [List.mem_toFinset, List.mem_map]
  constructor
  · rintro ⟨entry, hentry, rfl⟩
    obtain ⟨i, obs, hobs, hfresh, rfl⟩ := BaselineCollector.mem_goosePublishers hentry
    exact ⟨obs, hkeyed.get?_key hobs, fresh_some.mp hfresh⟩
  · rintro ⟨obs, hobs, hfresh⟩
    obtain ⟨i, hi⟩ := BaselineCollector.exists_publisherEntry hobs (fresh_some.mpr hfresh)
    exact ⟨_, hi, hkeyed.key_of_get? hobs⟩

theorem toFinset_allowedMmsClients (cutoff : Option Rat) (i : Nat) (rec : MmsObs) :
    (BaselineCollector.iedEntry cutoff i rec).allowedMmsClients.toFinset
      = (freshKeys rec.clients cutoff).toFinset := by
  ext client
  show client ∈ (List.mergeSort _ _).toFinset ↔ _
  rw [List.mem_toFinset, List.mem_mergeSort, List.mem_toFinset]
  rfl

theorem mem_ieds (hchron : h.Chronological) {ip : Option String} {clients : Finset String} :
    (ip, clients) ∈ ((collect tenantId sensorId h).observedBlock (some limit)).identities.ieds
      ↔ ∃ own, ip = some own ∧ ((h.since limit).Ever fun call => call.ied.map (·.1) = some own)
        ∧ clients = peers Feed.iedClient own (h.since limit) := by
  have hkeyed := (distinct_collect tenantId sensorId h).records.mms
  -- the clients of a record are those of the window
  have hclients : ∀ {own rec}, (collect tenantId sensorId h).mms.get? own = some rec →
      (freshKeys rec.clients (some limit)).toFinset = peers Feed.iedClient own (h.since limit) := by
    intro own rec hrec
    ext client
    have hown : iedClients (collect tenantId sensorId h).toBaselineCollector own = rec.clients := by
      unfold iedClients
      rw [hrec]
      rfl
    rw [List.mem_toFinset, mem_peers, ← hown]
    exact mem_fresh_iedClients tenantId sensorId hchron own client
  simp only [← ied_fresh tenantId sensorId hchron]
  unfold Observed.identities
  simp only [List.mem_toFinset, List.mem_map, Prod.mk.injEq]
  constructor
  · rintro ⟨entry, hentry, rfl, rfl⟩
    obtain ⟨i, rec, hrec, hfresh, rfl⟩ := BaselineCollector.mem_mmsIeds hentry
    have hget := hkeyed.get?_key hrec
    refine ⟨rec.iedIp, rfl, ⟨rec, hget, fresh_some.mp hfresh⟩, ?_⟩
    rw [toFinset_allowedMmsClients, hclients hget]
  · rintro ⟨own, rfl, ⟨rec, hrec, hfresh⟩, rfl⟩
    obtain ⟨i, hi⟩ := BaselineCollector.exists_iedEntry hrec (fresh_some.mpr hfresh)
    refine ⟨_, hi, congrArg some (hkeyed.key_of_get? hrec), ?_⟩
    rw [toFinset_allowedMmsClients, hclients hrec]

theorem mem_servers (hchron : h.Chronological) {ip : String} {clients : Finset String} :
    (ip, clients) ∈ ((collect tenantId sensorId h).observedBlock (some limit)).identities.servers
      ↔ ((h.since limit).Ever fun call => call.server.map (·.1) = some ip)
        ∧ clients = peers Feed.serverClient ip h := by
  have hkeyed := (distinct_collect tenantId sensorId h).records.modbus
  -- the clients of a record are those of the whole history
  have hclients : ∀ {rec}, (collect tenantId sensorId h).modbus.get? ip = some rec →
      rec.clients = peers Feed.serverClient ip h := by
    intro rec hrec
    ext client
    have hever := mem_serverClients tenantId sensorId (h := h) ip client
    unfold serverClients at hever
    rw [hrec] at hever
    rw [mem_peers]
    exact hever
  rw [← server_fresh tenantId sensorId hchron]
  unfold Observed.identities observedBlock BaselineCollector.modbusServers
  simp only [List.mem_toFinset, List.mem_map, List.mem_mergeSort, List.mem_filter, Prod.mk.injEq]
  constructor
  · rintro ⟨entry, ⟨rec, ⟨⟨kv, hkv, rfl⟩, hfresh⟩, rfl⟩, rfl, rfl⟩
    have hget := hkeyed.get?_key (List.mem_map_of_mem hkv)
    refine ⟨⟨kv.2, hget, fresh_some.mp (of_decide_eq_true hfresh)⟩, ?_⟩
    show (Finset.sort kv.2.clients _).toFinset = _
    rw [Finset.sort_toFinset, hclients hget]
  · rintro ⟨⟨rec, hrec, hfresh⟩, rfl⟩
    refine ⟨_, ⟨rec, ⟨⟨_, Dict.mem_of_get? hrec, rfl⟩, decide_eq_true ?_⟩, rfl⟩,
      hkeyed.key_of_get? hrec, ?_⟩
    · exact fresh_some.mpr hfresh
    · show (Finset.sort rec.clients _).toFinset = _
      rw [Finset.sort_toFinset, hclients hrec]

end SiteCollector

/-! ## Who is shown as an asset -/

/-- Two clients or more look the address up over LDAP. -/
def LdapServerIn (ip : String) (h : History Rat Feed) : Prop :=
  ∃ a b, a ≠ b ∧ (h.Ever fun call => call.service = some ("ldap", ip, a))
    ∧ h.Ever fun call => call.service = some ("ldap", ip, b)

/-- Some client asks the address for names. -/
def DnsServerIn (ip : String) (h : History Rat Feed) : Prop :=
  ∃ client, h.Ever fun call => call.service = some ("dns", ip, client)

/-- The address takes part in a flow that only Windows hosts have. -/
def WindowsHost (ip : String) (h : History Rat Feed) : Prop :=
  ∃ hint ∈ ["smb", "rdp", "msrpc", "netbios"], h.Ever (Feed.HintsAt ip hint)

/-- The role of an address in the flows of a history shows it, and its clients. An LDAP
server is not looked at as a DNS server, nor a server as a mere Windows host; the hints that
make one are those of a history of their own. -/
def RoleShows (h hints : History Rat Feed) (own ip : String) : Prop :=
  LdapServerIn own h ∧ (ip = own
      ∨ strip ip ≠ "" ∧ h.Ever fun call => call.service = some ("ldap", own, ip))
    ∨ ¬ LdapServerIn own h ∧ DnsServerIn own h ∧ (ip = own
      ∨ strip ip ≠ "" ∧ h.Ever fun call => call.service = some ("dns", own, ip))
    ∨ ¬ LdapServerIn own h ∧ ¬ DnsServerIn own h ∧ WindowsHost own hints ∧ ip = own

/-- Some role shows the address: its own, or that of its server. -/
def ServiceShows (h hints : History Rat Feed) (ip : String) : Prop :=
  LdapServerIn ip h ∨ DnsServerIn ip h ∨ WindowsHost ip hints
    ∨ strip ip ≠ "" ∧ ((∃ server, LdapServerIn server h
        ∧ h.Ever fun call => call.service = some ("ldap", server, ip))
      ∨ ∃ server, ¬ LdapServerIn server h
        ∧ h.Ever fun call => call.service = some ("dns", server, ip))

namespace SiteCollector

variable (tenantId sensorId : String) {h : History Rat Feed} {limit : Rat}

theorem hintsAt_of_service {call : Feed} {hint server client : String}
    (hservice : call.service = some (hint, server, client)) : call.HintsAt server hint :=
  ⟨_, hservice, rfl, .inl rfl⟩

/-- A hint of an address is among those that are not blank. -/
theorem mem_nonBlank_hints {hints : Finset String} {hint : String} (hne : strip hint ≠ "") :
    hint ∈ nonBlank (hints.sort (· ≤ ·)) ↔ hint ∈ hints := by
  unfold nonBlank
  rw [List.mem_filter, Finset.mem_sort, decide_eq_true_eq]
  exact and_iff_left hne

theorem windows_ne_blank : ∀ hint ∈ ["smb", "rdp", "msrpc", "netbios"], strip hint ≠ "" := by
  decide

section Hints

variable (hchron : h.Chronological) {own : String} {hints : Finset String}
include hchron

theorem isLdapServer_iff :
    ((collect tenantId sensorId h).portHint (some limit) own hints).IsLdapServer
      ↔ LdapServerIn own (h.since limit) := by
  have hcard : ((collect tenantId sensorId h).portHint (some limit) own hints).IsLdapServer
      ↔ 1 < (freshKeys (((collect tenantId sensorId h).ldapClients.get? own).getD [])
        (some limit)).toFinset.card := by
    unfold PortHint.IsLdapServer portHint LDAP_SERVER_MIN_CLIENTS
    simp only [decide_eq_true_eq]
    omega
  rw [hcard, Finset.one_lt_card]
  unfold LdapServerIn
  simp only [List.mem_toFinset, mem_fresh_ldapClients tenantId sensorId hchron]
  constructor
  · rintro ⟨a, ha, b, hb, hne⟩
    exact ⟨a, b, hne, ha, hb⟩
  · rintro ⟨a, b, hne, ha, hb⟩
    exact ⟨a, ha, b, hb, hne⟩

theorem isDnsServer_iff :
    ((collect tenantId sensorId h).portHint (some limit) own hints).IsDnsServer
      ↔ DnsServerIn own (h.since limit) := by
  have hcard : ((collect tenantId sensorId h).portHint (some limit) own hints).IsDnsServer
      ↔ 0 < (freshKeys (((collect tenantId sensorId h).dnsClients.get? own).getD [])
        (some limit)).toFinset.card := by
    unfold PortHint.IsDnsServer portHint DNS_SERVER_MIN_CLIENTS
    simp only [decide_eq_true_eq]
    omega
  rw [hcard, Finset.card_pos]
  unfold DnsServerIn Finset.Nonempty
  simp only [List.mem_toFinset, mem_fresh_dnsClients tenantId sensorId hchron]

omit hchron in
theorem hasWindows_iff (hhints : (collect tenantId sensorId h).ipHints.get? own = some hints) :
    ((collect tenantId sensorId h).portHint (some limit) own hints).HasWindows
      ↔ WindowsHost own h := by
  have hmem : ∀ hint, hint ∈ hints ↔ h.Ever (Feed.HintsAt own hint) := by
    intro hint
    rw [← mem_hintsAt tenantId sensorId, hintsAt, hhints, Option.getD_some]
  unfold PortHint.HasWindows WindowsHost
  constructor
  · rintro ⟨hint, hin, hwindows⟩
    have hne : strip hint ≠ "" := of_decide_eq_true (List.mem_filter.mp hin).2
    exact ⟨hint, hwindows, (hmem hint).mp ((mem_nonBlank_hints hne).mp hin)⟩
  · rintro ⟨hint, hwindows, hever⟩
    have hne := windows_ne_blank hint hwindows
    exact ⟨hint, (mem_nonBlank_hints hne).mpr ((hmem hint).mpr hever), hwindows⟩

theorem mem_ldapClientIps {ip : String} :
    ip ∈ nonBlank ((collect tenantId sensorId h).portHint (some limit) own hints).ldapClientIps
      ↔ strip ip ≠ "" ∧ (h.since limit).Ever fun call => call.service = some ("ldap", own, ip) := by
  unfold nonBlank portHint
  rw [List.mem_filter, Finset.mem_sort, List.mem_toFinset, decide_eq_true_eq,
    mem_fresh_ldapClients tenantId sensorId hchron]
  exact and_comm

theorem mem_dnsClientIps {ip : String} :
    ip ∈ nonBlank ((collect tenantId sensorId h).portHint (some limit) own hints).dnsClientIps
      ↔ strip ip ≠ "" ∧ (h.since limit).Ever fun call => call.service = some ("dns", own, ip) := by
  unfold nonBlank portHint
  rw [List.mem_filter, Finset.mem_sort, List.mem_toFinset, decide_eq_true_eq,
    mem_fresh_dnsClients tenantId sensorId hchron]
  exact and_comm

end Hints

theorem LdapServerIn.hintsAt {ip : String} (hserver : LdapServerIn ip (h.since limit)) :
    h.Ever (Feed.HintsAt ip "ldap") := by
  obtain ⟨a, _, _, ⟨e, hmem, hservice⟩, _⟩ := hserver
  exact ⟨e, (List.mem_filter.mp hmem).1, hintsAt_of_service hservice⟩

theorem DnsServerIn.hintsAt {ip : String} (hserver : DnsServerIn ip (h.since limit)) :
    h.Ever (Feed.HintsAt ip "dns") := by
  obtain ⟨a, e, hmem, hservice⟩ := hserver
  exact ⟨e, (List.mem_filter.mp hmem).1, hintsAt_of_service hservice⟩

/-- An address with a hint has its entry, and no other address has one. -/
theorem mem_portHintIndex {own : String} {info : PortHint} :
    (own, info) ∈ (collect tenantId sensorId h).portHintIndex (some limit)
      ↔ ∃ hints, (collect tenantId sensorId h).ipHints.get? own = some hints
        ∧ (collect tenantId sensorId h).portHint (some limit) own hints = info := by
  unfold portHintIndex
  rw [List.mem_map]
  constructor
  · rintro ⟨kv, hkv, heq⟩
    cases heq
    exact ⟨kv.2, Dict.get?_of_mem (distinct_collect tenantId sensorId h).hints hkv, rfl⟩
  · rintro ⟨hints, hget, rfl⟩
    exact ⟨(own, hints), Dict.mem_of_get? hget, rfl⟩

/-- What the entry of an address shows, in terms of flows. -/
theorem shows_portHint (hchron : h.Chronological) {own ip : String} {hints : Finset String}
    (hget : (collect tenantId sensorId h).ipHints.get? own = some hints) :
    ((collect tenantId sensorId h).portHint (some limit) own hints).Shows own ip
      ↔ RoleShows (h.since limit) h own ip := by
  unfold PortHint.Shows RoleShows
  rw [isLdapServer_iff tenantId sensorId hchron, isDnsServer_iff tenantId sensorId hchron,
    hasWindows_iff tenantId sensorId hget, mem_ldapClientIps tenantId sensorId hchron,
    mem_dnsClientIps tenantId sensorId hchron]
  refine and_iff_right_of_imp fun hrole => ?_
  -- each role comes with a hint that is not blank
  have hnonBlank : ∀ hint, strip hint ≠ "" → h.Ever (Feed.HintsAt own hint) →
      nonBlank ((collect tenantId sensorId h).portHint (some limit) own hints).hints ≠ [] := by
    intro hint hne hever
    rw [← mem_hintsAt tenantId sensorId, hintsAt, hget, Option.getD_some] at hever
    exact List.ne_nil_of_mem ((mem_nonBlank_hints hne).mpr hever)
  rcases hrole with ⟨hldap, _⟩ | ⟨_, hdns, _⟩ | ⟨_, _, ⟨hint, hwindows, hever⟩, _⟩
  · exact hnonBlank "ldap" (by decide) (LdapServerIn.hintsAt hldap)
  · exact hnonBlank "dns" (by decide) (DnsServerIn.hintsAt hdns)
  · exact hnonBlank hint (windows_ne_blank hint hwindows) hever

/-- The entries of the hint index show what the flows of the window show, and the Windows
hosts of the whole history. -/
theorem hintIndex_shows (hchron : h.Chronological) {ip : String} :
    (∃ entry ∈ (collect tenantId sensorId h).portHintIndex (some limit), entry.2.Shows entry.1 ip)
      ↔ ServiceShows (h.since limit) h ip := by
  -- an address with a hint has an entry
  have hentry : ∀ own hint, h.Ever (Feed.HintsAt own hint) →
      ∃ hints, (collect tenantId sensorId h).ipHints.get? own = some hints := by
    rintro own hint ⟨e, hmem, hever⟩
    exact Option.isSome_iff_exists.mp
      ((ipHints_isSome tenantId sensorId own).mpr ⟨e, hmem, hint, hever⟩)
  constructor
  · rintro ⟨⟨own, info⟩, hmem, hshows⟩
    obtain ⟨hints, hget, rfl⟩ := (mem_portHintIndex tenantId sensorId).mp hmem
    rcases (shows_portHint tenantId sensorId hchron hget).mp hshows with
      ⟨hldap, rfl | ⟨hne, hclient⟩⟩ | ⟨hno, hdns, rfl | ⟨hne, hclient⟩⟩ | ⟨_, _, hwindows, rfl⟩
    · exact .inl hldap
    · exact .inr (.inr (.inr ⟨hne, .inl ⟨own, hldap, hclient⟩⟩))
    · exact .inr (.inl hdns)
    · exact .inr (.inr (.inr ⟨hne, .inr ⟨own, hno, hclient⟩⟩))
    · exact .inr (.inr (.inl hwindows))
  · intro hshows
    -- the address whose entry it is, and the hint that comes with its role
    have hown : ∃ own hint, h.Ever (Feed.HintsAt own hint)
        ∧ RoleShows (h.since limit) h own ip := by
      by_cases hldap : LdapServerIn ip (h.since limit)
      · exact ⟨ip, "ldap", LdapServerIn.hintsAt hldap, .inl ⟨hldap, .inl rfl⟩⟩
      · by_cases hdns : DnsServerIn ip (h.since limit)
        · exact ⟨ip, "dns", DnsServerIn.hintsAt hdns, .inr (.inl ⟨hldap, hdns, .inl rfl⟩)⟩
        · rcases hshows with hshows | hshows | ⟨hint, hwindows, hever⟩ | ⟨hne, hserver⟩
          · exact absurd hshows hldap
          · exact absurd hshows hdns
          · exact ⟨ip, hint, hever, .inr (.inr ⟨hldap, hdns, ⟨hint, hwindows, hever⟩, rfl⟩)⟩
          · rcases hserver with ⟨server, hserver, hclient⟩ | ⟨server, hno, hclient⟩
            · exact ⟨server, "ldap", LdapServerIn.hintsAt hserver,
                .inl ⟨hserver, .inr ⟨hne, hclient⟩⟩⟩
            · exact ⟨server, "dns", DnsServerIn.hintsAt ⟨ip, hclient⟩,
                .inr (.inl ⟨hno, ⟨ip, hclient⟩, .inr ⟨hne, hclient⟩⟩)⟩
    obtain ⟨own, hint, hever, hrole⟩ := hown
    obtain ⟨hints, hget⟩ := hentry own hint hever
    exact ⟨(own, _), (mem_portHintIndex tenantId sensorId).mpr ⟨hints, hget, rfl⟩,
      (shows_portHint tenantId sensorId hchron hget).mpr hrole⟩

end SiteCollector

/-- The calls of a history show the address as an asset. What has no stamp, the clients of
Modbus servers and the hints of Windows hosts, is that of a history of its own. -/
def ShownBy (tables : UnicodeTables) (h unstamped : History Rat Feed) (ip : String) : Prop :=
  (∃ server, (h.Ever fun call => call.server.map (·.1) = some server) ∧ strip server ≠ ""
      ∧ (ip = strip server ∨ ip ≠ "" ∧ ∃ client,
        (unstamped.Ever fun call => call.serverClient = some (server, client))
          ∧ strip client = ip))
    ∨ (∃ own, (h.Ever fun call => call.ied.map (·.1) = some own) ∧ ip ≠ "" ∧ strip own = ip)
    ∨ ServiceShows h unstamped ip
    ∨ ∃ pair, (h.Ever fun call => call.pair = some pair) ∧ PairShows tables pair ip

namespace SiteCollector

variable (tenantId sensorId : String) {h : History Rat Feed} {limit : Rat}

theorem servers_show (hchron : h.Chronological) {ip : String} :
    (∃ row ∈ (collect tenantId sensorId h).modbusServers (some limit), ModbusServer.Shows row ip)
      ↔ ∃ server, ((h.since limit).Ever fun call => call.server.map (·.1) = some server)
        ∧ strip server ≠ "" ∧ (ip = strip server ∨ ip ≠ "" ∧ ∃ client,
          (h.Ever fun call => call.serverClient = some (server, client)) ∧ strip client = ip) := by
  have hrows : ∀ server clients,
      (∃ row ∈ (collect tenantId sensorId h).modbusServers (some limit),
        row.serverIp = server ∧ row.allowedClients.toFinset = clients)
      ↔ ((h.since limit).Ever fun call => call.server.map (·.1) = some server)
        ∧ clients = peers Feed.serverClient server h := by
    intro server clients
    rw [← mem_servers tenantId sensorId hchron]
    simp [Observed.identities, observedBlock]
  unfold ModbusServer.Shows
  constructor
  · rintro ⟨row, hrow, hne, hshows⟩
    obtain ⟨hever, hclients⟩ := (hrows _ _).mp ⟨row, hrow, rfl, rfl⟩
    refine ⟨row.serverIp, hever, hne, hshows.imp_right ?_⟩
    rintro ⟨hip, client, hclient, heq⟩
    rw [← List.mem_toFinset, hclients, mem_peers] at hclient
    exact ⟨hip, client, hclient, heq⟩
  · rintro ⟨server, hever, hne, hshows⟩
    obtain ⟨row, hrow, rfl, hclients⟩ := (hrows _ _).mpr ⟨hever, rfl⟩
    refine ⟨row, hrow, hne, hshows.imp_right ?_⟩
    rintro ⟨hip, client, hclient, heq⟩
    rw [← mem_peers, ← hclients, List.mem_toFinset] at hclient
    exact ⟨hip, client, hclient, heq⟩

theorem ieds_show (hchron : h.Chronological) {ip : String} :
    (∃ row ∈ (collect tenantId sensorId h).mmsIeds (some limit), MmsIed.Shows row ip)
      ↔ ∃ own, ((h.since limit).Ever fun call => call.ied.map (·.1) = some own)
        ∧ ip ≠ "" ∧ strip own = ip := by
  have hkeyed := (distinct_collect tenantId sensorId h).records.mms
  unfold MmsIed.Shows
  simp only [← ied_fresh tenantId sensorId hchron]
  constructor
  · rintro ⟨row, hrow, hip, heq⟩
    obtain ⟨i, rec, hrec, hfresh, rfl⟩ := BaselineCollector.mem_mmsIeds hrow
    exact ⟨rec.iedIp, ⟨rec, hkeyed.get?_key hrec, fresh_some.mp hfresh⟩, hip, heq⟩
  · rintro ⟨own, ⟨rec, hrec, hfresh⟩, hip, heq⟩
    obtain ⟨i, hi⟩ := BaselineCollector.exists_iedEntry hrec (fresh_some.mpr hfresh)
    refine ⟨_, hi, hip, ?_⟩
    show strip rec.iedIp = ip
    rw [hkeyed.key_of_get? hrec]
    exact heq

theorem shows_iff (hchron : h.Chronological) {tables : UnicodeTables} {ip : String} :
    ShowsAsset tables ((collect tenantId sensorId h).observedBlock (some limit))
        ((collect tenantId sensorId h).portHintIndex (some limit)) ip
      ↔ ShownBy tables (h.since limit) h ip := by
  unfold ShowsAsset ShownBy
  refine or_congr (servers_show tenantId sensorId hchron) (or_congr
    (ieds_show tenantId sensorId hchron) (or_congr (hintIndex_shows tenantId sensorId hchron) ?_))
  refine exists_congr fun pair => and_congr_left fun _ => ?_
  exact mem_commPairsFresh tenantId sensorId hchron pair

/-- The ids of the assets are those of the addresses shown. -/
theorem mem_assetIds {platform : Platform} {observed : Observed}
    {portHints : Dict String PortHint} {id : String} :
    id ∈ (buildObservedTopology platform tenantId sensorId observed portHints).assets.map
        (·.assetId)
      ↔ ∃ ip, ShowsAsset platform.tables observed portHints ip
        ∧ assetIdOf platform tenantId sensorId ip = id := by
  have hbuilt := built_topology platform tenantId sensorId observed portHints
  simp only [← mem_touchedIps_topologyCalls]
  rw [← hbuilt.listed]
  show id ∈ ((builtTopology platform tenantId sensorId observed portHints).assets.map
    (·.2)).map (·.assetId) ↔ _
  constructor
  · intro hmem
    obtain ⟨asset, hasset, rfl⟩ := List.mem_map.mp hmem
    rw [hbuilt.assets.get?_key hasset]
    rfl
  · intro hsome
    obtain ⟨asset, hasset⟩ := Option.isSome_iff_exists.mp hsome
    exact List.mem_map.mpr ⟨asset, List.mem_map.mpr ⟨_, Dict.mem_of_get? hasset, rfl⟩,
      hbuilt.assets.key_of_get? hasset⟩

theorem collect_site (tenantId sensorId : String) (h : History Rat Feed) :
    (collect tenantId sensorId h).tenantId = tenantId
      ∧ (collect tenantId sensorId h).sensorId = sensorId := by
  refine History.foldl_inv (fun c : SiteCollector =>
    c.tenantId = tenantId ∧ c.sensorId = sensorId) ⟨rfl, rfl⟩ (fun c call hc => ?_) h
  obtain ⟨now, call⟩ := call
  cases call with
  | endpoints | goose | mms | modbus => exact hc
  | transport flow =>
    show (c.feedTransport now flow).tenantId = _ ∧ (c.feedTransport now flow).sensorId = _
    rw [feedTransport_eq]
    split
    next => exact hc
    next => exact hc

/-- What a candidate identifies, after a history. -/
def identitiesAt (platform : Platform) (tenantId sensorId : String) (now : Rat)
    (generatedAt : String) (args : CandidateArgs) (h : History Rat Feed) : Identities :=
  ((collect tenantId sensorId h).toCandidate platform now generatedAt args).observed.identities

section Candidate

variable (platform : Platform) (now : Rat) (generatedAt : String) {args : CandidateArgs}
  {windowSec : Rat} (hargs : args.windowSec = some windowSec) (hwindow : 0 < windowSec)
include hargs hwindow

/-- The observed block, and the topology built of it if the site has its two names. -/
theorem toCandidate_observed (h : History Rat Feed) :
    ((collect tenantId sensorId h).toCandidate platform now generatedAt args).observed =
      let c := collect tenantId sensorId h
      let observed := c.observedBlock (some (now - windowSec))
      { observed with
        topology := if tenantId ≠ "" ∧ sensorId ≠ "" then
            some (buildObservedTopology platform tenantId sensorId observed
              (c.portHintIndex (some (now - windowSec))))
          else none } := by
  obtain ⟨htenant, hsensor⟩ := collect_site tenantId sensorId h
  have hcutoff : (args.windowSec.filter (· ≠ 0)).map (fun windowSec => now - windowSec)
      = some (now - windowSec) := by
    rw [hargs, Option.filter_some, if_pos (decide_eq_true hwindow.ne')]
    rfl
  unfold toCandidate
  simp only [hcutoff, htenant, hsensor]

/-- Apart from the assets, the identities are those of the block. -/
theorem identitiesAt_eq (h : History Rat Feed) :
    identitiesAt platform tenantId sensorId now generatedAt args h =
      { ((collect tenantId sensorId h).observedBlock (some (now - windowSec))).identities with
        assets := (identitiesAt platform tenantId sensorId now generatedAt args h).assets } := by
  unfold identitiesAt
  rw [toCandidate_observed tenantId sensorId platform now generatedAt hargs hwindow]
  rfl

/-- Its assets are the addresses shown, if the site has its two names. -/
theorem mem_assets (hchron : h.Chronological) (id : String) :
    id ∈ (identitiesAt platform tenantId sensorId now generatedAt args h).assets
      ↔ (tenantId ≠ "" ∧ sensorId ≠ "")
        ∧ ∃ ip, ShownBy platform.tables (h.since (now - windowSec)) h ip
          ∧ assetIdOf platform tenantId sensorId ip = id := by
  unfold identitiesAt
  rw [toCandidate_observed tenantId sensorId platform now generatedAt hargs hwindow]
  simp only [← shows_iff tenantId sensorId hchron]
  unfold Observed.identities
  simp only
  by_cases hsite : tenantId ≠ "" ∧ sensorId ≠ ""
  · rw [if_pos hsite]
    simp only [List.mem_toFinset]
    rw [mem_assetIds]
    exact (and_iff_right hsite).symm
  · -- without both names there is no topology
    rw [if_neg hsite]
    exact iff_of_false (Finset.notMem_empty id) fun h => hsite h.1

end Candidate

end SiteCollector

/-! ## When the window is exact -/

/-- The window that starts at `limit` has every client of the Modbus servers it has. -/
def NoStaleModbusClient (h : History Rat Feed) (limit : Rat) : Prop :=
  ∀ server client, ((h.since limit).Ever fun call => call.server.map (·.1) = some server) →
    (h.Ever fun call => call.serverClient = some (server, client)) →
    (h.since limit).Ever fun call => call.serverClient = some (server, client)

/-- Every address that was ever a Windows host has the id of one the window shows. -/
def NoStaleWindowsHost (platform : Platform) (tenantId sensorId : String) (h : History Rat Feed)
    (limit : Rat) : Prop :=
  ∀ ip, WindowsHost ip h → ∃ shown, ShownBy platform.tables (h.since limit) (h.since limit) shown
    ∧ assetIdOf platform tenantId sensorId shown = assetIdOf platform tenantId sensorId ip

theorem ShownBy.mono {tables : UnicodeTables} {h unstamped unstamped' : History Rat Feed}
    (hsub : ∀ p : Feed → Prop, unstamped.Ever p → unstamped'.Ever p) {ip : String}
    (hshown : ShownBy tables h unstamped ip) : ShownBy tables h unstamped' ip := by
  rcases hshown with ⟨server, hever, hne, hip⟩ | hied | hservice | hpair
  · refine .inl ⟨server, hever, hne, hip.imp_right ?_⟩
    rintro ⟨hip, client, hclient, heq⟩
    exact ⟨hip, client, hsub _ hclient, heq⟩
  · exact .inr (.inl hied)
  · refine .inr (.inr (.inl ?_))
    rcases hservice with hldap | hdns | ⟨hint, hwindows, hever⟩ | hclient
    · exact .inl hldap
    · exact .inr (.inl hdns)
    · exact .inr (.inr (.inl ⟨hint, hwindows, hsub _ hever⟩))
    · exact .inr (.inr (.inr hclient))
  · exact .inr (.inr (.inr hpair))

/-- What is shown by the clients and hints of a whole history is shown by those of the
window, or is a Windows host. -/
theorem ShownBy.of_noStale {tables : UnicodeTables} {h : History Rat Feed} {limit : Rat}
    (hclients : NoStaleModbusClient h limit) {ip : String}
    (hshown : ShownBy tables (h.since limit) h ip) :
    ShownBy tables (h.since limit) (h.since limit) ip ∨ WindowsHost ip h := by
  rcases hshown with ⟨server, hever, hne, hip⟩ | hied | hservice | hpair
  · refine .inl (.inl ⟨server, hever, hne, hip.imp_right ?_⟩)
    rintro ⟨hip, client, hclient, heq⟩
    exact ⟨hip, client, hclients server client hever hclient, heq⟩
  · exact .inl (.inr (.inl hied))
  · rcases hservice with hldap | hdns | hwindows | hclient
    · exact .inl (.inr (.inr (.inl (.inl hldap))))
    · exact .inl (.inr (.inr (.inl (.inr (.inl hdns)))))
    · exact .inr hwindows
    · exact .inl (.inr (.inr (.inl (.inr (.inr (.inr hclient))))))
  · exact .inl (.inr (.inr (.inr hpair)))

section Window

open SiteCollector

variable (platform : Platform) (tenantId sensorId : String) (h : History Rat Feed) (now : Rat)
  (generatedAt : String) (args : CandidateArgs) (windowSec : Rat)

/-- What a collector of the window alone identifies. -/
def windowAlone : Identities :=
  identitiesAt platform tenantId sensorId now generatedAt args (h.since (now - windowSec))

variable {h args windowSec}

theorem servers_eq_iff (limit : Rat) (hchron : h.Chronological) :
    ((collect tenantId sensorId h).observedBlock (some limit)).identities.servers
        = ((collect tenantId sensorId (h.since limit)).observedBlock (some limit)).identities.servers
      ↔ NoStaleModbusClient h limit := by
  have hwindow := hchron.since limit
  constructor
  · -- the row of the whole history, in the window's block: its clients are the window's
    intro heq server client hserver hclient
    have hmem : (server, peers Feed.serverClient server h)
        ∈ ((collect tenantId sensorId h).observedBlock (some limit)).identities.servers :=
      (mem_servers tenantId sensorId hchron).mpr ⟨hserver, rfl⟩
    rw [heq, mem_servers tenantId sensorId hwindow] at hmem
    rw [← mem_peers, ← hmem.2]
    exact mem_peers.mpr hclient
  · intro hclients
    ext ⟨server, clients⟩
    rw [mem_servers tenantId sensorId hchron, mem_servers tenantId sensorId hwindow,
      History.since_since]
    refine and_congr_right fun hserver => ?_
    have hpeers : peers Feed.serverClient server h
        = peers Feed.serverClient server (h.since limit) := by
      ext client
      rw [mem_peers, mem_peers]
      exact ⟨hclients server client hserver, History.Ever.of_since⟩
    rw [hpeers]

theorem noStale_of_eq (hchron : h.Chronological) (hargs : args.windowSec = some windowSec)
    (hwindow : 0 < windowSec)
    (heq : identitiesAt platform tenantId sensorId now generatedAt args h
      = windowAlone platform tenantId sensorId h now generatedAt args windowSec) :
    NoStaleModbusClient h (now - windowSec) := by
  unfold windowAlone at heq
  rw [identitiesAt_eq tenantId sensorId platform now generatedAt hargs hwindow h,
    identitiesAt_eq tenantId sensorId platform now generatedAt hargs hwindow
      (h.since (now - windowSec))] at heq
  have hsame := congrArg Identities.servers heq
  exact (servers_eq_iff tenantId sensorId (now - windowSec) hchron).mp hsame

/-- A candidate with a window identifies what a collector of the window alone does exactly
when no client of a Modbus server of the window is from before it, and neither is, as far as
the assets tell, a Windows host. -/
theorem rolling_window_iff (hchron : h.Chronological) (hargs : args.windowSec = some windowSec)
    (hwindow : 0 < windowSec) :
    identitiesAt platform tenantId sensorId now generatedAt args h
        = windowAlone platform tenantId sensorId h now generatedAt args windowSec
      ↔ NoStaleModbusClient h (now - windowSec)
        ∧ (tenantId ≠ "" → sensorId ≠ "" →
          NoStaleWindowsHost platform tenantId sensorId h (now - windowSec)) := by
  have hsince := hchron.since (now - windowSec)
  have hassets := mem_assets tenantId sensorId platform now generatedAt hargs hwindow hchron
  have hassets' := mem_assets tenantId sensorId platform now generatedAt hargs hwindow hsince
  have hservers := servers_eq_iff tenantId sensorId (now - windowSec) hchron
  simp only [History.since_since] at hassets'
  constructor
  · intro heq
    refine ⟨noStale_of_eq platform tenantId sensorId now generatedAt hchron hargs hwindow heq,
      fun htenant hsensor ip hwindows => ?_⟩
    have hmem := (hassets _).mpr
      ⟨⟨htenant, hsensor⟩, ip, .inr (.inr (.inl (.inr (.inr (.inl hwindows))))), rfl⟩
    rw [heq] at hmem
    exact ((hassets' _).mp hmem).2
  · rintro ⟨hclients, hhosts⟩
    have hids : (identitiesAt platform tenantId sensorId now generatedAt args h).assets
        = (identitiesAt platform tenantId sensorId now generatedAt args
          (h.since (now - windowSec))).assets := by
      ext id
      rw [hassets, hassets']
      refine and_congr_right fun hsite => ?_
      constructor
      · rintro ⟨ip, hshown, rfl⟩
        rcases hshown.of_noStale hclients with hshown | hwindows
        · exact ⟨ip, hshown, rfl⟩
        · exact hhosts hsite.1 hsite.2 ip hwindows
      · rintro ⟨ip, hshown, rfl⟩
        exact ⟨ip, hshown.mono fun _ => History.Ever.of_since, rfl⟩
    unfold windowAlone
    rw [identitiesAt_eq tenantId sensorId platform now generatedAt hargs hwindow h,
      identitiesAt_eq tenantId sensorId platform now generatedAt hargs hwindow
        (h.since (now - windowSec)), hids]
    -- what has stamps of its own is the same on both sides
    ext x
    · simp only [mem_publishers tenantId sensorId hchron, mem_publishers tenantId sensorId hsince,
        History.since_since]
    · obtain ⟨ip, clients⟩ := x
      simp only [mem_ieds tenantId sensorId hchron, mem_ieds tenantId sensorId hsince,
        History.since_since]
    · rw [hservers.mpr hclients]
    · show x ∈ (SiteCollector.commPairsFresh _ _).toFinset
        ↔ x ∈ (SiteCollector.commPairsFresh _ _).toFinset
      rw [List.mem_toFinset, List.mem_toFinset, mem_commPairsFresh tenantId sensorId hchron,
        mem_commPairsFresh tenantId sensorId hsince, History.since_since]
    · rfl

end Window

/-- A read of a PLC by a client. -/
def readBy (client : String) : Feed :=
  .modbus ⟨client, "10.0.0.1", 50000, Modbus.MODBUS_PORT, 1, 1, 3, false⟩

/-- A client that comes again within the window. -/
theorem rolling_window_iff_sameClient :
    SiteCollector.identitiesAt samplePlatform "tenant" "sensor" 100 "" { windowSec := some 60 }
          [(0, readBy "10.0.0.2"), (100, readBy "10.0.0.2")]
        = windowAlone samplePlatform "tenant" "sensor"
          [(0, readBy "10.0.0.2"), (100, readBy "10.0.0.2")] 100 "" { windowSec := some 60 } 60
      ↔ NoStaleModbusClient [(0, readBy "10.0.0.2"), (100, readBy "10.0.0.2")] (100 - 60)
        ∧ ("tenant" ≠ "" → "sensor" ≠ "" →
          NoStaleWindowsHost samplePlatform "tenant" "sensor"
            [(0, readBy "10.0.0.2"), (100, readBy "10.0.0.2")] (100 - 60)) :=
  rolling_window_iff samplePlatform "tenant" "sensor" 100 "" (by decide) rfl (by norm_num)

/-- Another client a hundred seconds before: with a window of sixty it is still allowed. -/
theorem stale_modbusClient :
    SiteCollector.identitiesAt samplePlatform "tenant" "sensor" 100 "" { windowSec := some 60 }
        [(0, readBy "10.0.0.3"), (100, readBy "10.0.0.2")]
      ≠ windowAlone samplePlatform "tenant" "sensor"
        [(0, readBy "10.0.0.3"), (100, readBy "10.0.0.2")] 100 "" { windowSec := some 60 } 60 := by
  intro heq
  have hclients := noStale_of_eq samplePlatform "tenant" "sensor" 100 "" (by decide) rfl
    (by norm_num) heq
  have hwindow : History.since [(0, readBy "10.0.0.3"), (100, readBy "10.0.0.2")]
      ((100 : Rat) - 60) = [(100, readBy "10.0.0.2")] := by
    norm_num [History.since]
  have hstale := hclients "10.0.0.1" "10.0.0.3"
  rw [hwindow] at hstale
  revert hstale
  decide

end EdgeSensor.Sensor
