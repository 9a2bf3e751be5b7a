import EdgeSensor.Sensor.SiteCollector

/-!
# What one feed changes

Each call of a feed API tells something: a publisher, an IED with its peer, a Modbus server
with its peer, a pair, a hint. For each stamp and each mark a collector keeps there is one
lemma: the calls that tell of it set it, and no other call changes it. The dictionaries keep
distinct keys throughout (`Distinct`).
-/

namespace EdgeSensor.Sensor

open EdgeSensor.Lib EdgeSensor.Parser EdgeSensor.Py

/-! ## What a call tells -/

/-- The side on a port, and its peer. -/
def sidesOn (port : Nat) (srcIp dstIp : String) (srcPort dstPort : Nat) :
    Option (String × String) :=
  if dstPort = port then some (dstIp, srcIp)
  else if srcPort = port then some (srcIp, dstIp)
  else none

namespace Feed

/-- The publisher of a GOOSE frame. -/
def publisher : Feed → Option String
  | .goose frame => some (publisherKey frame.publisherMac frame.appid frame.gocbRef)
  | _ => none

/-- The IED of an MMS flow, and its peer. -/
def ied : Feed → Option (String × String)
  | .mms obs => sidesOn Mms.MMS_PORT obs.srcIp obs.dstIp obs.srcPort obs.dstPort
  | _ => none

/-- The server of a Modbus flow, and its peer. -/
def server : Feed → Option (String × String)
  | .modbus frame => sidesOn Modbus.MODBUS_PORT frame.srcIp frame.dstIp frame.srcPort frame.dstPort
  | _ => none

/-- The two ends of a packet. -/
def pair : Feed → Option (String × String)
  | .endpoints _ srcIp dstIp => do
    let src ← present srcIp
    let dst ← present dstIp
    some (src, dst)
  | _ => none

/-- The hint of a flow, its server and its client. -/
def service : Feed → Option (String × String × String)
  | .transport flow => do
    let hint ← hintForPort flow.dstPort
    if flow.srcIp = "" ∨ flow.dstIp = "" then none else some (hint, flow.dstIp, flow.srcIp)
  | _ => none

/-- An IED with a client. -/
def iedClient (call : Feed) : Option (String × String) := call.ied.filter (·.2 ≠ "")

/-- A Modbus server with a client. -/
def serverClient (call : Feed) : Option (String × String) := call.server.filter (·.2 ≠ "")

/-- The call gives an address a hint. -/
def HintsAt (ip hint : String) (call : Feed) : Prop :=
  ∃ s ∈ call.service, s.1 = hint ∧ (s.2.1 = ip ∨ s.2.2 = ip)

instance (ip hint : String) : DecidablePred (HintsAt ip hint) :=
  fun call => inferInstanceAs (Decidable (∃ s ∈ call.service, _))

theorem iedClient_eq_some {call : Feed} {ip client : String} :
    call.iedClient = some (ip, client) ↔ call.ied = some (ip, client) ∧ client ≠ "" := by
  unfold iedClient
  rw [Option.filter_eq_some_iff, decide_eq_true_eq]

theorem serverClient_eq_some {call : Feed} {ip client : String} :
    call.serverClient = some (ip, client) ↔ call.server = some (ip, client) ∧ client ≠ "" := by
  unfold serverClient
  rw [Option.filter_eq_some_iff, decide_eq_true_eq]

end Feed

namespace SiteCollector

variable {c : SiteCollector}

/-! ## What one call changes -/

/-- The two sides of a Modbus frame are recorded. -/
def recordModbus (now : Rat) (serverIp clientIp : String) (frame : Modbus.ModbusFrame)
    (c : BaselineCollector) : BaselineCollector :=
  let count := ModbusObs.count now clientIp frame
  { c with modbus := c.modbus.upsert serverIp { serverIp := serverIp } count }

theorem feedMms_eq (now : Rat) (obs : Mms.MmsObservation) (c : BaselineCollector) :
    c.feedMms now obs = match Feed.ied (.mms obs) with
      | none => c
      | some sides => c.recordMms now sides.1 sides.2 obs.pduType := by
  unfold BaselineCollector.feedMms Feed.ied sidesOn
  by_cases hdst : obs.dstPort = Mms.MMS_PORT
  · simp only [if_pos hdst]
  · by_cases hsrc : obs.srcPort = Mms.MMS_PORT
    · simp only [if_neg hdst, if_pos hsrc]
    · simp only [if_neg hdst, if_neg hsrc]

theorem feedModbus_eq (now : Rat) (frame : Modbus.ModbusFrame) (c : BaselineCollector) :
    c.feedModbus now frame = match Feed.server (.modbus frame) with
      | none => c
      | some sides => recordModbus now sides.1 sides.2 frame c := by
  unfold BaselineCollector.feedModbus Feed.server sidesOn recordModbus
  by_cases hdst : frame.dstPort = Modbus.MODBUS_PORT
  · simp only [if_pos hdst]
  · by_cases hsrc : frame.srcPort = Modbus.MODBUS_PORT
    · simp only [if_neg hdst, if_pos hsrc]
    · simp only [if_neg hdst, if_neg hsrc]

theorem feedTransport_eq (now : Rat) (flow : FlowTuple) (c : SiteCollector) :
    c.feedTransport now flow = match Feed.service (.transport flow) with
      | none => c
      | some s => c.recordHint now s.1 s.2.1 s.2.2 := by
  unfold feedTransport Feed.service
  cases hhint : hintForPort flow.dstPort with
  | none => simp [hhint]
  | some hint =>
    by_cases hblank : flow.srcIp = "" ∨ flow.dstIp = ""
    · simp [hhint, hblank]
    · simp [hhint, hblank]

/-! A call changes what its kind is about, and nothing else. -/

theorem feedMms_frame (now : Rat) (obs : Mms.MmsObservation) (c : BaselineCollector) :
    (c.feedMms now obs).goose = c.goose ∧ (c.feedMms now obs).modbus = c.modbus := by
  rw [feedMms_eq]
  split
  next => exact ⟨rfl, rfl⟩
  next => exact ⟨rfl, rfl⟩

theorem feedModbus_frame (now : Rat) (frame : Modbus.ModbusFrame) (c : BaselineCollector) :
    (c.feedModbus now frame).goose = c.goose ∧ (c.feedModbus now frame).mms = c.mms := by
  rw [feedModbus_eq]
  split
  next => exact ⟨rfl, rfl⟩
  next => exact ⟨rfl, rfl⟩

theorem feedTransport_frame (now : Rat) (flow : FlowTuple) (c : SiteCollector) :
    (c.feedTransport now flow).toBaselineCollector = c.toBaselineCollector
      ∧ (c.feedTransport now flow).commPairs = c.commPairs := by
  rw [feedTransport_eq]
  split
  next => exact ⟨rfl, rfl⟩
  next => exact ⟨rfl, rfl⟩

theorem goose_feed (c : SiteCollector) (call : Rat × Feed) : (c.feed call).goose =
    match call.2 with
    | .goose frame => (c.toBaselineCollector.feedGoose call.1 frame).goose
    | _ => c.goose := by
  obtain ⟨now, call⟩ := call
  cases call with
  | endpoints srcMac srcIp dstIp => rfl
  | goose frame => rfl
  | mms obs => exact (feedMms_frame now obs _).1
  | modbus frame => exact (feedModbus_frame now frame _).1
  | transport flow => exact congrArg (·.goose) (feedTransport_frame now flow c).1

theorem mms_feed (c : SiteCollector) (call : Rat × Feed) : (c.feed call).mms =
    match call.2 with
    | .mms obs => (c.toBaselineCollector.feedMms call.1 obs).mms
    | _ => c.mms := by
  obtain ⟨now, call⟩ := call
  cases call with
  | endpoints srcMac srcIp dstIp => rfl
  | goose frame => rfl
  | mms obs => rfl
  | modbus frame => exact (feedModbus_frame now frame _).2
  | transport flow => exact congrArg (·.mms) (feedTransport_frame now flow c).1

theorem modbus_feed (c : SiteCollector) (call : Rat × Feed) : (c.feed call).modbus =
    match call.2 with
    | .modbus frame => (c.toBaselineCollector.feedModbus call.1 frame).modbus
    | _ => c.modbus := by
  obtain ⟨now, call⟩ := call
  cases call with
  | endpoints srcMac srcIp dstIp => rfl
  | goose frame => rfl
  | mms obs => exact (feedMms_frame now obs _).2
  | modbus frame => rfl
  | transport flow => exact congrArg (·.modbus) (feedTransport_frame now flow c).1

/-! The stamps and the marks, one by one: a call of the kind sets it, no other call does. -/

theorem publisher_feed (key : String) (c : SiteCollector) (call : Rat × Feed) :
    ((c.feed call).goose.get? key).map (·.lastSeen)
      = if call.2.publisher = some key then some call.1
        else (c.goose.get? key).map (·.lastSeen) := by
  rw [goose_feed]
  obtain ⟨now, call⟩ := call
  cases call with
  | goose frame =>
    unfold BaselineCollector.feedGoose
    simp only [Dict.get?_upsert, Feed.publisher, Option.some.injEq]
    split
    next => rfl
    next => rfl
  | endpoints | mms | modbus | transport => rfl

theorem ied_feed (ip : String) (c : SiteCollector) (call : Rat × Feed) :
    ((c.feed call).mms.get? ip).map (·.lastSeen)
      = if call.2.ied.map (·.1) = some ip then some call.1
        else (c.mms.get? ip).map (·.lastSeen) := by
  rw [mms_feed]
  obtain ⟨now, call⟩ := call
  cases call with
  | mms obs =>
    simp only [feedMms_eq]
    cases Feed.ied (.mms obs) with
    | none => rfl
    | some sides =>
      unfold BaselineCollector.recordMms
      simp only [Dict.get?_upsert, Option.map_some, Option.some.injEq]
      split
      next => rfl
      next => rfl
  | endpoints | goose | modbus | transport => rfl

/-- When the clients of an IED were last seen. -/
def iedClients (c : BaselineCollector) (ip : String) : Dict String Rat :=
  ((c.mms.get? ip).map (·.clients)).getD []

/-- The clients of a Modbus server. -/
def serverClients (c : BaselineCollector) (ip : String) : Finset String :=
  ((c.modbus.get? ip).map (·.clients)).getD ∅

theorem iedClients_recordMms (now : Rat) (iedIp clientIp : String) (pduType : Mms.PduType)
    (c : BaselineCollector) (ip client : String) :
    (iedClients (c.recordMms now iedIp clientIp pduType) ip).get? client
      = if iedIp = ip ∧ clientIp = client ∧ client ≠ "" then some now
        else (iedClients c ip).get? client := by
  unfold iedClients BaselineCollector.recordMms
  simp only [Dict.get?_upsert]
  by_cases hied : iedIp = ip
  · subst hied
    have hbefore : ((c.mms.get? iedIp).getD { iedIp := iedIp }).clients
        = ((c.mms.get? iedIp).map (·.clients)).getD [] := by
      cases c.mms.get? iedIp with
      | none => rfl
      | some rec => rfl
    rw [if_pos rfl, Option.map_some, Option.getD_some]
    unfold MmsObs.count
    simp only [hbefore, true_and]
    -- a blank client has no stamp
    by_cases hblank : clientIp = ""
    · rw [if_neg (not_not.mpr hblank), if_neg ?_]
      rintro ⟨rfl, hne⟩
      exact hne hblank
    · rw [if_pos hblank, Dict.get?_set]
      by_cases hclient : clientIp = client
      · subst hclient
        rw [if_pos rfl, if_pos ⟨rfl, hblank⟩]
      · rw [if_neg hclient, if_neg fun h => hclient h.1]
  · rw [if_neg hied, if_neg fun h => hied h.1]

theorem serverClients_recordModbus (now : Rat) (serverIp clientIp : String)
    (frame : Modbus.ModbusFrame) (c : BaselineCollector) (ip client : String) :
    client ∈ serverClients (recordModbus now serverIp clientIp frame c) ip
      ↔ (serverIp = ip ∧ clientIp = client ∧ client ≠ "") ∨ client ∈ serverClients c ip := by
  unfold serverClients recordModbus
  simp only [Dict.get?_upsert]
  by_cases hserver : serverIp = ip
  · subst hserver
    have hbefore : ((c.modbus.get? serverIp).getD { serverIp := serverIp }).clients
        = ((c.modbus.get? serverIp).map (·.clients)).getD ∅ := by
      cases c.modbus.get? serverIp with
      | none => rfl
      | some rec => rfl
    rw [if_pos rfl, Option.map_some, Option.getD_some]
    unfold ModbusObs.count
    simp only [hbefore, true_and]
    -- a blank client is in no set
    by_cases hblank : clientIp = ""
    · rw [if_neg (not_not.mpr hblank)]
      refine ⟨.inr, fun h => h.resolve_left ?_⟩
      rintro ⟨rfl, hne⟩
      exact hne hblank
    · rw [if_pos hblank, Finset.mem_insert]
      constructor
      · rintro (rfl | h)
        · exact .inl ⟨rfl, hblank⟩
        · exact .inr h
      · rintro (⟨rfl, _⟩ | h)
        · exact .inl rfl
        · exact .inr h
  · rw [if_neg hserver]
    exact ⟨.inr, fun h => h.resolve_left fun h => hserver h.1⟩

theorem iedClient_feed (ip client : String) (c : SiteCollector) (call : Rat × Feed) :
    (iedClients (c.feed call).toBaselineCollector ip).get? client
      = if call.2.iedClient = some (ip, client) then some call.1
        else (iedClients c.toBaselineCollector ip).get? client := by
  simp only [Feed.iedClient_eq_some]
  obtain ⟨now, call⟩ := call
  cases call with
  | mms obs =>
    show (iedClients (c.toBaselineCollector.feedMms now obs) ip).get? client = _
    rw [feedMms_eq]
    cases Feed.ied (.mms obs) with
    | none => simp
    | some sides => simp only [iedClients_recordMms, Option.some.injEq, Prod.ext_iff, and_assoc]
  | endpoints | goose => rfl
  | modbus frame =>
    unfold iedClients
    rw [mms_feed]
    rfl
  | transport flow =>
    unfold iedClients
    rw [mms_feed]
    rfl

theorem server_feed (ip : String) (c : SiteCollector) (call : Rat × Feed) :
    ((c.feed call).modbus.get? ip).map (·.lastSeen)
      = if call.2.server.map (·.1) = some ip then some call.1
        else (c.modbus.get? ip).map (·.lastSeen) := by
  rw [modbus_feed]
  obtain ⟨now, call⟩ := call
  cases call with
  | modbus frame =>
    simp only [feedModbus_eq]
    cases Feed.server (.modbus frame) with
    | none => rfl
    | some sides =>
      unfold recordModbus
      simp only [Dict.get?_upsert, Option.map_some, Option.some.injEq]
      split
      next => rfl
      next => rfl
  | endpoints | goose | mms | transport => rfl

theorem serverClient_feed (ip client : String) (c : SiteCollector) (call : Rat × Feed) :
    client ∈ serverClients (c.feed call).toBaselineCollector ip
      ↔ call.2.serverClient = some (ip, client)
        ∨ client ∈ serverClients c.toBaselineCollector ip := by
  simp only [Feed.serverClient_eq_some]
  obtain ⟨now, call⟩ := call
  have hframe : ∀ {c' : BaselineCollector}, c'.modbus = c.modbus → Feed.server call = none →
      (client ∈ serverClients c' ip ↔ (call.server = some (ip, client) ∧ client ≠ "")
        ∨ client ∈ serverClients c.toBaselineCollector ip) := by
    intro c' hmodbus hnone
    unfold serverClients
    rw [hmodbus, hnone]
    exact ⟨.inr, fun h => h.resolve_left fun h => by cases h.1⟩
  cases call with
  | modbus frame =>
    show client ∈ serverClients (c.toBaselineCollector.feedModbus now frame) ip ↔ _
    rw [feedModbus_eq]
    cases Feed.server (.modbus frame) with
    | none => simp
    | some sides =>
      simp only [serverClients_recordModbus, Option.some.injEq, Prod.ext_iff, and_assoc]
  | endpoints | goose => exact hframe rfl rfl
  | mms obs => exact hframe (modbus_feed c (now, .mms obs)) rfl
  | transport flow => exact hframe (modbus_feed c (now, .transport flow)) rfl

theorem pair_feed (pair : String × String) (c : SiteCollector) (call : Rat × Feed) :
    (c.feed call).commPairs.get? pair
      = if call.2.pair = some pair then some call.1 else c.commPairs.get? pair := by
  obtain ⟨now, call⟩ := call
  cases call with
  | endpoints srcMac srcIp dstIp =>
    show (c.feedEndpoints now srcMac srcIp dstIp).commPairs.get? pair = _
    unfold feedEndpoints
    cases hsrc : present srcIp with
    | none => simp [Feed.pair, hsrc]
    | some src =>
      cases hdst : present dstIp with
      | none => simp [Feed.pair, hsrc, hdst]
      | some dst => simp [Feed.pair, hsrc, hdst, Dict.get?_set]
  | goose | mms | modbus => rfl
  | transport flow =>
    show (c.feedTransport now flow).commPairs.get? pair = _
    rw [(feedTransport_frame now flow c).2]
    rfl

/-- The calls that are no transport flow leave the hints as they are. -/
theorem feed_frame {call : Rat × Feed} (hnone : call.2.service = none) (c : SiteCollector) :
    (c.feed call).ipHints = c.ipHints ∧ (c.feed call).ldapClients = c.ldapClients
      ∧ (c.feed call).dnsClients = c.dnsClients := by
  obtain ⟨now, call⟩ := call
  cases call with
  | endpoints | goose | mms | modbus => exact ⟨rfl, rfl, rfl⟩
  | transport flow =>
    show (c.feedTransport now flow).ipHints = _ ∧ (c.feedTransport now flow).ldapClients = _
      ∧ (c.feedTransport now flow).dnsClients = _
    rw [feedTransport_eq, hnone]
    exact ⟨rfl, rfl, rfl⟩

theorem feed_service {call : Rat × Feed} {s : String × String × String}
    (hservice : call.2.service = some s) (c : SiteCollector) :
    c.feed call = c.recordHint call.1 s.1 s.2.1 s.2.2 := by
  obtain ⟨now, call⟩ := call
  cases call with
  | endpoints | goose | mms | modbus => cases hservice
  | transport flow =>
    show c.feedTransport now flow = _
    rw [feedTransport_eq, hservice]

/-- The hints of an address. -/
def hintsAt (c : SiteCollector) (ip : String) : Finset String := (c.ipHints.get? ip).getD ∅

theorem mem_upsert_insert (d : Dict String (Finset String)) (ip own key hint : String) :
    hint ∈ ((d.upsert key ∅ (insert own)).get? ip).getD ∅
      ↔ (key = ip ∧ own = hint) ∨ hint ∈ (d.get? ip).getD ∅ := by
  rw [Dict.get?_upsert]
  by_cases hip : key = ip
  · subst hip
    rw [if_pos rfl, Option.getD_some, Finset.mem_insert]
    simp [eq_comm]
  · rw [if_neg hip]
    simp [hip]

theorem hintsAt_feed (ip hint : String) (c : SiteCollector) (call : Rat × Feed) :
    hint ∈ (c.feed call).hintsAt ip ↔ call.2.HintsAt ip hint ∨ hint ∈ c.hintsAt ip := by
  unfold Feed.HintsAt hintsAt
  cases hservice : call.2.service with
  | none =>
    rw [(feed_frame hservice c).1]
    simp
  | some s =>
    rw [feed_service hservice]
    unfold recordHint
    simp only [mem_upsert_insert, Option.mem_def, Option.some.injEq, exists_eq_left']
    tauto

/-- The hints of an address are there once it has any. -/
theorem ipHints_feed (ip : String) (c : SiteCollector) (call : Rat × Feed) :
    ((c.feed call).ipHints.get? ip).isSome
      ↔ (∃ hint, call.2.HintsAt ip hint) ∨ (c.ipHints.get? ip).isSome := by
  unfold Feed.HintsAt
  cases hservice : call.2.service with
  | none =>
    rw [(feed_frame hservice c).1]
    simp
  | some s =>
    rw [feed_service hservice]
    unfold recordHint
    simp only [Dict.get?_upsert, Option.mem_def, Option.some.injEq, exists_eq_left']
    by_cases hserver : s.2.1 = ip
    · by_cases hclient : s.2.2 = ip <;> simp [hserver, hclient]
    · by_cases hclient : s.2.2 = ip <;> simp [hserver, hclient]

/-- The stamps of one of the two services: only its own hint sets one. -/
theorem get?_stampsOf (stamps : Dict String (Dict String Rat)) (now : Rat)
    (name hint own peer server client : String) :
    (((if hint = name then stamps.setIn own peer now else stamps).get? server).getD []).get? client
      = if some (hint, own, peer) = some (name, server, client) then some now
        else ((stamps.get? server).getD []).get? client := by
  by_cases hname : hint = name
  · simp [hname, Dict.get?_setIn]
  · simp [hname]

theorem ldapClient_feed (server client : String) (c : SiteCollector) (call : Rat × Feed) :
    (((c.feed call).ldapClients.get? server).getD []).get? client
      = if call.2.service = some ("ldap", server, client) then some call.1
        else ((c.ldapClients.get? server).getD []).get? client := by
  cases hservice : call.2.service with
  | none =>
    rw [(feed_frame hservice c).2.1]
    rfl
  | some s =>
    rw [feed_service hservice]
    exact get?_stampsOf c.ldapClients call.1 "ldap" s.1 s.2.1 s.2.2 server client

theorem dnsClient_feed (server client : String) (c : SiteCollector) (call : Rat × Feed) :
    (((c.feed call).dnsClients.get? server).getD []).get? client
      = if call.2.service = some ("dns", server, client) then some call.1
        else ((c.dnsClients.get? server).getD []).get? client := by
  cases hservice : call.2.service with
  | none =>
    rw [(feed_frame hservice c).2.2]
    rfl
  | some s =>
    rw [feed_service hservice]
    exact get?_stampsOf c.dnsClients call.1 "dns" s.1 s.2.1 s.2.2 server client

/-! ## Distinct keys -/

/-- Every dictionary of the collector has each of its keys once. -/
structure Distinct (c : SiteCollector) : Prop where
  records : c.toBaselineCollector.Ok
  clients : ∀ ip, ((iedClients c.toBaselineCollector ip).map (·.1)).Nodup
  pairs : (c.commPairs.map (·.1)).Nodup
  hints : (c.ipHints.map (·.1)).Nodup
  ldap : Dict.NodupIn c.ldapClients
  dns : Dict.NodupIn c.dnsClients

theorem nodup_iedClients_recordMms {c : BaselineCollector} {ip : String}
    (h : ((iedClients c ip).map (·.1)).Nodup) (now : Rat) (iedIp clientIp : String)
    (pduType : Mms.PduType) :
    ((iedClients (c.recordMms now iedIp clientIp pduType) ip).map (·.1)).Nodup := by
  unfold iedClients BaselineCollector.recordMms at *
  simp only [Dict.get?_upsert]
  by_cases hied : iedIp = ip
  · subst hied
    have hbefore : (((c.mms.get? iedIp).getD { iedIp := iedIp }).clients.map (·.1)).Nodup := by
      cases hget : c.mms.get? iedIp with
      | none => exact List.nodup_nil
      | some rec =>
        rw [hget] at h
        exact h
    rw [if_pos rfl]
    show (List.map _ (if clientIp ≠ "" then _ else _)).Nodup
    split
    next => exact Dict.nodup_set hbefore _ _
    next => exact hbefore
  · rw [if_neg hied]
    exact h

theorem Distinct.recordHint (h : c.Distinct) (now : Rat) (hint serverIp clientIp : String) :
    (c.recordHint now hint serverIp clientIp).Distinct := by
  refine ⟨h.records, h.clients, h.pairs, ?_, ?_, ?_⟩
  · exact Dict.nodup_set (Dict.nodup_set h.hints _ _) _ _
  · show Dict.NodupIn (if hint = "ldap" then _ else _)
    split
    next => exact h.ldap.setIn _ _ _
    next => exact h.ldap
  · show Dict.NodupIn (if hint = "dns" then _ else _)
    split
    next => exact h.dns.setIn _ _ _
    next => exact h.dns

theorem Distinct.feed (h : c.Distinct) (call : Rat × Feed) : (c.feed call).Distinct := by
  cases hservice : call.2.service with
  | some s =>
    rw [feed_service hservice]
    exact h.recordHint _ _ _ _
  | none =>
    -- the hints stay, so only what the call's own kind keeps has to be looked at
    obtain ⟨hhints, hldap, hdns⟩ := feed_frame hservice c
    have hrest := And.intro (hhints ▸ h.hints) (And.intro (hldap ▸ h.ldap) (hdns ▸ h.dns))
    obtain ⟨now, call⟩ := call
    cases call with
    | endpoints srcMac srcIp dstIp =>
      refine ⟨h.records, h.clients, ?_, hrest.1, hrest.2.1, hrest.2.2⟩
      show ((c.feedEndpoints now srcMac srcIp dstIp).commPairs.map _).Nodup
      unfold feedEndpoints
      simp only
      split
      next => exact Dict.nodup_set h.pairs _ _
      next => exact h.pairs
    | goose frame => exact ⟨h.records.feedGoose now frame, h.clients, h.pairs, hrest.1, hrest.2.1,
        hrest.2.2⟩
    | mms obs =>
      refine ⟨h.records.feedMms now obs, fun ip => ?_, h.pairs, hrest.1, hrest.2.1, hrest.2.2⟩
      show ((iedClients (c.toBaselineCollector.feedMms now obs) ip).map _).Nodup
      rw [feedMms_eq]
      split
      next => exact h.clients ip
      next => exact nodup_iedClients_recordMms (h.clients ip) _ _ _ _
    | modbus frame =>
      refine ⟨h.records.feedModbus now frame, fun ip => ?_, h.pairs, hrest.1, hrest.2.1,
        hrest.2.2⟩
      unfold iedClients
      rw [mms_feed]
      exact h.clients ip
    | transport flow =>
      -- a flow without a hint changes nothing
      have hsame : c.feed (now, .transport flow) = c := by
        show c.feedTransport now flow = c
        rw [feedTransport_eq, hservice]
      rw [hsame]
      exact h

theorem distinct_collect (tenantId sensorId : String) (h : History Rat Feed) :
    (collect tenantId sensorId h).Distinct := by
  refine History.foldl_inv Distinct ?_ (fun c call hc => hc.feed call) h
  exact ⟨BaselineCollector.ok_new, fun _ => List.nodup_nil, List.nodup_nil, List.nodup_nil,
    fun _ => List.nodup_nil, fun _ => List.nodup_nil⟩

/-- A key is fresh if its stamp is. -/
theorem mem_freshKeys {κ : Type} [DecidableEq κ] {stamps : Dict κ Rat} {limit : Rat} {k : κ}
    (hnodup : (stamps.map (·.1)).Nodup) :
    k ∈ freshKeys stamps (some limit) ↔ ∃ t, stamps.get? k = some t ∧ limit ≤ t := by
  unfold freshKeys
  rw [List.mem_map]
  constructor
  · rintro ⟨kv, hkv, rfl⟩
    obtain ⟨hmem, hfresh⟩ := List.mem_filter.mp hkv
    exact ⟨kv.2, Dict.get?_of_mem hnodup hmem, fresh_some.mp (of_decide_eq_true hfresh)⟩
  · rintro ⟨t, ht, hfresh⟩
    refine ⟨(k, t), List.mem_filter.mpr ⟨Dict.mem_of_get? ht, decide_eq_true ?_⟩, rfl⟩
    exact fresh_some.mpr hfresh

end SiteCollector

end EdgeSensor.Sensor
