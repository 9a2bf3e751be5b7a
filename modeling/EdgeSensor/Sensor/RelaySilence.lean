import EdgeSensor.Sensor.MvpRun

/-!
# What OT-009 knows of a silent relay

`_check_relay_offline` (`src/detection/mvp.py`) reads `last_seen_by_ip`, and `observe`
stamps the destination of a packet as well as its source. So an address counts as heard
of while anybody sends to it (`heardOf_run_iff`); and the check walks over single
addresses, so that one of them that is not heard of is enough to report the asset
(`exists_relaySilent`). `relay_offline_iff` says when the two effects leave the right
answer: the asset spoke exactly when all its addresses were heard of.

Mirroring notes:
- An asset alerts under its id, or under each address where it has none; the names of an
  asset may be those of another (`relayName`).
- The empty text is no address, as in `observe`.
-/

namespace EdgeSensor.Sensor

open EdgeSensor.Lib

/-- The name a relay alerts under: `asset.get("asset_id", address)`. -/
def relayName (relay : String × Asset) : String := relay.2.assetId.getD relay.1

/-- The names an asset alerts under. -/
def Asset.names (asset : Asset) : List String :=
  asset.addresses.map fun address => relayName (address, asset)

namespace MvpDetector

namespace Call

/-- The call is a packet from the address. -/
def From (address : String) : Call → Prop
  | .packet _ _ obs _ => truthy obs.srcIp = some address
  | .window _ _ => False

/-- The call is a packet from the address or to it. -/
def Touches (address : String) : Call → Prop
  | .packet _ _ obs _ => truthy obs.srcIp = some address ∨ truthy obs.dstIp = some address
  | .window _ _ => False

instance (address : String) : DecidablePred (From address)
  | .packet _ _ obs _ => inferInstanceAs (Decidable (truthy obs.srcIp = some address))
  | .window _ _ => inferInstanceAs (Decidable False)

instance (address : String) : DecidablePred (Touches address)
  | .packet _ _ obs _ =>
    inferInstanceAs (Decidable (truthy obs.srcIp = some address ∨ truthy obs.dstIp = some address))
  | .window _ _ => inferInstanceAs (Decidable False)

end Call

/-- A packet from or to the address was processed less than `silence_sec` ago. -/
def HeardIn (h : History Rat Call) (now : Rat) (address : String) : Prop :=
  ∃ e ∈ h, now - e.1 < silenceSec ∧ e.2.Touches address

/-- A packet from one of the asset's addresses was. -/
def SpokeIn (h : History Rat Call) (now : Rat) (asset : Asset) : Prop :=
  ∃ address ∈ asset.addresses, ∃ e ∈ h, now - e.1 < silenceSec ∧ e.2.From address

instance (h : History Rat Call) (now : Rat) (address : String) : Decidable (HeardIn h now address) :=
  inferInstanceAs (Decidable (∃ e ∈ h, _ ∧ _))

instance (h : History Rat Call) (now : Rat) (asset : Asset) : Decidable (SpokeIn h now asset) :=
  inferInstanceAs (Decidable (∃ address ∈ asset.addresses, ∃ e ∈ h, _ ∧ _))

/-! ## The stamps of a run -/

theorem get?_seen (ip : Option String) (now : Rat) (lastSeen : Dict String Rat) (address : String) :
    (AssetInventory.seen ip now lastSeen).get? address
      = if truthy ip = some address then some now else lastSeen.get? address := by
  unfold AssetInventory.seen
  cases hip : truthy ip with
  | none => simp
  | some a =>
    simp only [Dict.get?_set, Option.some.injEq]

theorem evaluateWindow_lastSeen (doc : PolicyDoc) (clock : Clock) (now : Rat) (windowSec : Int) :
    (evaluateWindow doc clock now windowSec).Preserves (·.inventory.lastSeenByIp) :=
  (whenEnabled_preserves ((checkTrafficRate_frame doc clock windowSec).comp (·.1.1))).andThen <|
    (whenEnabled_preserves ((checkRelayOffline_frame doc clock now).comp (·.1.1))).andThen
      fun _ => rfl

theorem evaluateWindow_setup (doc : PolicyDoc) (clock : Clock) (now : Rat) (windowSec : Int) :
    (evaluateWindow doc clock now windowSec).Preserves fun d => (d.rulesEnabled, d.startedAt) :=
  (whenEnabled_preserves ((checkTrafficRate_frame doc clock windowSec).comp (·.2.2))).andThen <|
    (whenEnabled_preserves ((checkRelayOffline_frame doc clock now).comp (·.2))).andThen
      fun _ => rfl

/-- A packet stamps its two addresses, a window none. -/
theorem lastSeen_call (doc : PolicyDoc) (address : String) (d : MvpDetector) (e : Rat × Call) :
    (call doc d e).inventory.lastSeenByIp.get? address
      = if e.2.Touches address then some e.1 else d.inventory.lastSeenByIp.get? address := by
  obtain ⟨now, c⟩ := e
  cases c with
  | packet whitelisted clock obs modbus =>
    have hobserved : (call doc d (now, .packet whitelisted clock obs modbus)).inventory.lastSeenByIp
        = AssetInventory.seen obs.dstIp now
          (AssetInventory.seen obs.srcIp now d.inventory.lastSeenByIp) :=
      congrArg (·.1.1) (call_packet_traffic doc d now whitelisted clock obs modbus)
    rw [hobserved, get?_seen, get?_seen]
    simp only [Call.Touches]
    by_cases hdst : truthy obs.dstIp = some address
    · simp [hdst]
    · simp [hdst]
  | window clock windowSec =>
    have hkept : (call doc d (now, .window clock windowSec)).inventory.lastSeenByIp
        = d.inventory.lastSeenByIp := evaluateWindow_lastSeen doc clock now windowSec d
    rw [hkept]
    simp [Call.Touches]

/-- After a run the detector takes an address for heard of when it was a packet's source
or destination lately. -/
theorem heardOf_run_iff (doc : PolicyDoc) {d : MvpDetector} (hfresh : d.inventory.lastSeenByIp = [])
    {h : History Rat Call} (hchron : h.Chronological) (now : Rat) (address : String) :
    (run doc d h).HeardOf now address ↔ HeardIn h now address := by
  have hstamp : (run doc d h).inventory.lastSeenByIp.get? address
      = h.lastSeen (Call.Touches address) :=
    History.foldl_lastSeen (fun d : MvpDetector => d.inventory.lastSeenByIp.get? address)
      (by rw [hfresh]; rfl) (lastSeen_call doc address) h
  unfold HeardOf HeardIn
  rw [hstamp]
  have hlater : ∀ a b : Rat, a ≤ b → now - a < silenceSec → now - b < silenceSec := by
    intro a b hle hlt
    exact lt_of_le_of_lt (sub_le_sub_left hle now) hlt
  exact History.lastSeen_upward (q := fun t => now - t < silenceSec) hlater hchron

/-! ## The check -/

theorem relaySilent_emitsOnly (clock : Clock) (now : Rat) (relay : String × Asset) :
    (relaySilent clock now relay).EmitsOnly
      (fun e => e.ruleId = .ot009 ∧ e.assetId = relayName relay) := by
  intro d e he
  unfold relaySilent at he
  simp only at he
  split at he
  · cases he
  · split at he
    · cases he
    · rw [List.mem_singleton.mp he]
      exact ⟨rfl, rfl⟩

/-- The first relay of a name that is not heard of is reported. -/
theorem exists_relaySilent (clock : Clock) (now : Rat) (name : String)
    (relays : List (String × Asset)) (d : MvpDetector) (hnew : name ∉ d.alertedOffline) :
    (∃ e ∈ (Emitter.forEach (relaySilent clock now) relays d).2, e.assetId = name)
      ↔ ∃ relay ∈ relays, relayName relay = name ∧ ¬ d.HeardOf now relay.1 := by
  induction relays generalizing d with
  | nil => simp [Emitter.forEach]
  | cons relay relays ih =>
    have hheard : ∀ address, (relaySilent clock now relay d).1.HeardOf now address
        ↔ d.HeardOf now address := by
      intro address
      unfold HeardOf
      rw [show (relaySilent clock now relay d).1.inventory.lastSeenByIp = d.inventory.lastSeenByIp
        from congrArg (·.1.1) (relaySilent_frame clock now relay d)]
    rw [Emitter.exists_mem_forEach_cons, List.exists_mem_cons_iff]
    by_cases hname : relayName relay = name
    · by_cases hsilent : d.HeardOf now relay.1
      · have hstep : relaySilent clock now relay d = (d, []) := by
          unfold relaySilent
          simp only [hsilent, if_true, ite_self]
        rw [hstep, ih d hnew]
        simp [hsilent]
      · have hfires : ∃ e ∈ (relaySilent clock now relay d).2, e.assetId = name := by
          rw [← hname] at hnew
          unfold relaySilent
          simp only [if_neg (show relay.2.assetId.getD relay.1 ∉ d.alertedOffline from hnew),
            if_neg hsilent]
          exact ⟨_, List.mem_singleton_self _, hname⟩
        exact iff_of_true (.inl hfires) (.inl ⟨hname, hsilent⟩)
    · have hquiet : ¬ ∃ e ∈ (relaySilent clock now relay d).2, e.assetId = name := by
        rintro ⟨e, he, hid⟩
        exact hname ((relaySilent_emitsOnly clock now relay d e he).2.symm.trans hid)
      have hnew' : name ∉ (relaySilent clock now relay d).1.alertedOffline := by
        unfold relaySilent
        simp only
        split
        · exact hnew
        · split
          · exact hnew
          · exact fun hmem => (Finset.mem_insert.mp hmem).elim (fun heq => hname heq.symm) hnew
      rw [ih _ hnew']
      simp only [hheard]
      rw [or_iff_right hquiet, or_iff_right fun h => hname h.1]

/-- The window reports that the asset is offline. -/
def RaisesOffline (doc : PolicyDoc) (clock : Clock) (now : Rat) (windowSec : Int) (asset : Asset)
    (d : MvpDetector) : Prop :=
  ∃ e ∈ (evaluateWindow doc clock now windowSec d).2, e.ruleId = .ot009 ∧ e.assetId ∈ asset.names

theorem checkTrafficRate_emitsOnly (doc : PolicyDoc) (clock : Clock) (windowSec : Int) :
    (checkTrafficRate doc clock windowSec).EmitsOnly (·.ruleId = .ot008) := by
  refine Emitter.forEach_emitsOnly fun asset _ d e he => ?_
  unfold assetRate at he
  split at he
  · cases he
  · split at he
    · cases he
    · exact event_emitsOnly _ _ _ _ e he

theorem checkRelayOffline_emitsOnly (doc : PolicyDoc) (clock : Clock) (now : Rat) :
    (checkRelayOffline doc clock now).EmitsOnly (·.ruleId = .ot009) := by
  intro d e he
  unfold checkRelayOffline at he
  split at he
  · cases he
  · exact Emitter.forEach_emitsOnly
      (fun relay _ d e he => (relaySilent_emitsOnly clock now relay d e he).1) d e he

/-- The window reports an asset that has not alerted yet when a relay under one of its
names is not heard of. -/
theorem raisesOffline_iff (doc : PolicyDoc) (clock : Clock) (now : Rat) (windowSec : Int)
    (asset : Asset) (d : MvpDetector) (hon : enabled d.rulesEnabled .ot009)
    (hstart : silenceSec ≤ now - d.startedAt) (hnew : ∀ name ∈ asset.names, name ∉ d.alertedOffline) :
    RaisesOffline doc clock now windowSec asset d
      ↔ ∃ relay ∈ doc.relayAddresses, relayName relay ∈ asset.names ∧ ¬ d.HeardOf now relay.1 := by
  -- the check runs behind OT-008, which touches nothing it reads
  obtain ⟨d', hd', hframe⟩ : ∃ d' : MvpDetector,
      d' = (whenEnabled .ot008 (checkTrafficRate doc clock windowSec) d).1
        ∧ d'.traffic = d.traffic :=
    ⟨_, rfl, whenEnabled_preserves (checkTrafficRate_frame doc clock windowSec) d⟩
  have hseen : d'.inventory.lastSeenByIp = d.inventory.lastSeenByIp := congrArg (·.1.1) hframe
  have halerted : d'.alertedOffline = d.alertedOffline := congrArg (·.2.1) hframe
  have hrules : d'.rulesEnabled = d.rulesEnabled := congrArg (·.2.2.1) hframe
  have hstarted : d'.startedAt = d.startedAt := congrArg (·.2.2.2) hframe
  have hcheck : whenEnabled .ot009 (checkRelayOffline doc clock now) d'
      = Emitter.forEach (relaySilent clock now) doc.relayAddresses d' := by
    unfold whenEnabled checkRelayOffline
    rw [if_pos (hrules ▸ hon), if_neg (by rw [hstarted]; exact not_lt.mpr hstart)]
  have hmem : ∀ e : SecurityEvent, e.ruleId = .ot009 →
      (e ∈ (evaluateWindow doc clock now windowSec d).2
        ↔ e ∈ (Emitter.forEach (relaySilent clock now) doc.relayAddresses d').2) := by
    intro e hrule
    unfold evaluateWindow
    rw [Emitter.mem_andThen_skip (whenEnabled_emitsOnly
        (checkTrafficRate_emitsOnly doc clock windowSec)) hrule (by decide),
      Emitter.mem_andThen_left (p := (·.ruleId = .ot009)) (fun _ _ he => absurd he List.not_mem_nil)
        hrule, ← hd', hcheck]
  have hall : (Emitter.forEach (relaySilent clock now) doc.relayAddresses).EmitsOnly
      (·.ruleId = .ot009) :=
    Emitter.forEach_emitsOnly fun relay _ d e he => (relaySilent_emitsOnly clock now relay d e he).1
  have hname : ∀ name ∈ asset.names,
      (∃ e ∈ (Emitter.forEach (relaySilent clock now) doc.relayAddresses d').2, e.assetId = name)
        ↔ ∃ relay ∈ doc.relayAddresses, relayName relay = name ∧ ¬ d.HeardOf now relay.1 := by
    intro name hname
    rw [exists_relaySilent clock now name doc.relayAddresses d' (halerted ▸ hnew name hname)]
    simp only [HeardOf, hseen]
  constructor
  · rintro ⟨e, he, hrule, hid⟩
    obtain ⟨relay, hrelay, heq, hsilent⟩ := (hname _ hid).mp ⟨e, (hmem e hrule).mp he, rfl⟩
    exact ⟨relay, hrelay, heq ▸ hid, hsilent⟩
  · rintro ⟨relay, hrelay, hid, hsilent⟩
    obtain ⟨e, he, heq⟩ := (hname _ hid).mpr ⟨relay, hrelay, rfl, hsilent⟩
    exact ⟨e, (hmem e (hall d' e he)).mpr he, hall d' e he, heq ▸ hid⟩

/-- What no call changes. -/
theorem run_setup (doc : PolicyDoc) (d : MvpDetector) (h : History Rat Call) :
    (run doc d h).rulesEnabled = d.rulesEnabled ∧ (run doc d h).startedAt = d.startedAt := by
  refine History.foldl_inv
    (fun s : MvpDetector => s.rulesEnabled = d.rulesEnabled ∧ s.startedAt = d.startedAt) ⟨rfl, rfl⟩ ?_ h
  rintro s ⟨now, c⟩ ⟨hrules, hstarted⟩
  cases c with
  | packet whitelisted clock obs modbus =>
    have hkept := call_packet_traffic doc s now whitelisted clock obs modbus
    exact ⟨(congrArg (·.2.2.1) hkept).trans hrules, (congrArg (·.2.2.2) hkept).trans hstarted⟩
  | window clock windowSec =>
    have hkept := evaluateWindow_setup doc clock now windowSec s
    exact ⟨(congrArg (·.1) hkept).trans hrules, (congrArg (·.2) hkept).trans hstarted⟩

/-- At a window after any run, at least `silence_sec` after the start, an asset that has not
alerted yet is reported exactly when none of its addresses has sent a packet lately, if
and only if it has sent one exactly when all addresses that alert under its names were the
source or the destination of one. -/
theorem relay_offline_iff (doc : PolicyDoc) (d : MvpDetector) (hfresh : d.inventory.lastSeenByIp = [])
    (hon : enabled d.rulesEnabled .ot009) (h : History Rat Call) (hchron : h.Chronological)
    (now : Rat) (clock : Clock) (windowSec : Int) (hstart : silenceSec ≤ now - d.startedAt)
    (asset : Asset) (hnew : ∀ name ∈ asset.names, name ∉ (run doc d h).alertedOffline) :
    (RaisesOffline doc clock now windowSec asset (run doc d h) ↔ ¬ SpokeIn h now asset)
      ↔ (SpokeIn h now asset ↔ ∀ relay ∈ doc.relayAddresses,
          relayName relay ∈ asset.names → HeardIn h now relay.1) := by
  obtain ⟨hrules, hstarted⟩ := run_setup doc d h
  rw [raisesOffline_iff doc clock now windowSec asset _ (hrules ▸ hon) (hstarted ▸ hstart) hnew]
  simp only [heardOf_run_iff doc hfresh hchron now]
  have hsilent : (∃ relay ∈ doc.relayAddresses, relayName relay ∈ asset.names
        ∧ ¬ HeardIn h now relay.1)
      ↔ ¬ ∀ relay ∈ doc.relayAddresses, relayName relay ∈ asset.names → HeardIn h now relay.1 := by
    push Not
    rfl
  rw [hsilent, not_iff_not]
  exact iff_comm

/-- A relay with an address in use and a spare one. -/
def spareRelay : Asset where
  assetId := some "relay-1"
  addresses := ["10.0.0.1", "10.0.0.9"]

/-- A relay with one address. -/
def plainRelay : Asset where
  assetId := some "relay-2"
  addresses := ["10.0.0.3"]

def relayDoc : PolicyDoc where
  body := { assets := some [spareRelay, plainRelay] }

/-- A detector started at time 0, all rules on. -/
def startedDetector : MvpDetector := { siteId := "site", sensorId := "sensor", policy := {} }

def wallClock : Clock :=
  ⟨0, 0, 0, fun _ => 0, fun _ => 0, "20260101", "2026-01-01T00:00:00+00:00"⟩

/-- A packet from one address to another. -/
def packetBetween (src dst : String) : Call :=
  .packet (fun _ => false) wallClock
    { srcMac := none, srcIp := some src, dstIp := some dst, dstPort := none, protocol := none } none

/-- The HMI polls the plain relay, which is dead, and the other relay sends a packet. -/
def pollingRun : History Rat Call :=
  [(100, packetBetween "10.0.0.2" "10.0.0.3"), (101, packetBetween "10.0.0.1" "10.0.0.2")]

/-- The dead relay at the end of the window. -/
theorem relay_offline_polled :
    (RaisesOffline relayDoc wallClock 130 30 plainRelay (run relayDoc startedDetector pollingRun)
        ↔ ¬ SpokeIn pollingRun 130 plainRelay)
      ↔ (SpokeIn pollingRun 130 plainRelay ↔ ∀ relay ∈ relayDoc.relayAddresses,
          relayName relay ∈ plainRelay.names → HeardIn pollingRun 130 relay.1) :=
  relay_offline_iff relayDoc startedDetector rfl (.inl rfl) pollingRun (by decide +kernel) 130
    wallClock 30 (by decide +kernel) plainRelay (by decide +kernel)

/-- The dead relay is not reported, since it is polled; the live one is, since it has an
address nobody uses. -/
theorem relay_offline_wrong :
    (¬ RaisesOffline relayDoc wallClock 130 30 plainRelay (run relayDoc startedDetector pollingRun)
        ∧ ¬ SpokeIn pollingRun 130 plainRelay)
      ∧ RaisesOffline relayDoc wallClock 130 30 spareRelay (run relayDoc startedDetector pollingRun)
        ∧ SpokeIn pollingRun 130 spareRelay := by
  have hchron : History.Chronological pollingRun := by decide +kernel
  have hon : enabled (run relayDoc startedDetector pollingRun).rulesEnabled .ot009 :=
    (run_setup relayDoc startedDetector pollingRun).1 ▸ .inl rfl
  have hstart : silenceSec ≤ 130 - (run relayDoc startedDetector pollingRun).startedAt := by
    rw [(run_setup relayDoc startedDetector pollingRun).2]
    decide +kernel
  have hheard := fun address => heardOf_run_iff relayDoc (d := startedDetector) rfl hchron 130 address
  refine ⟨⟨?_, by decide +kernel⟩, ?_, by decide +kernel⟩
  · rw [raisesOffline_iff _ _ _ _ _ _ hon hstart (by decide +kernel)]
    simp only [hheard]
    decide +kernel
  · rw [raisesOffline_iff _ _ _ _ _ _ hon hstart (by decide +kernel)]
    simp only [hheard]
    decide +kernel

end MvpDetector

end EdgeSensor.Sensor
