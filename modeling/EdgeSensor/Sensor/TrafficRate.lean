import EdgeSensor.Sensor.RelaySilence
import Mathlib.Algebra.Order.Archimedean.Basic

/-!
# Whose packets OT-008 counts

`_check_traffic_rate` (`src/detection/mvp.py`) compares the rate an asset normally has with
`window_packet_count`, and `observe` counts every packet there, whoever sent it. So the
verdict on an asset depends on all of the traffic (`raisesRate_run_iff`), and
`traffic_rate_own_iff` says when the rest of it makes no difference: when the asset's own
packets are too many already, or no number of packets is.

Mirroring notes:
- The entries of a policy under one id are one asset.
-/

namespace EdgeSensor.Sensor.MvpDetector

open EdgeSensor.Lib

/-- The calls of one window are packets. -/
def OnlyPackets (h : History Rat Call) : Prop :=
  ∀ e ∈ h, ∃ whitelisted clock obs modbus, e.2 = .packet whitelisted clock obs modbus

/-- The packet is from or to an address of the asset. -/
def Own (asset : Asset) (c : Call) : Prop := ∃ address ∈ asset.addresses, c.Touches address

instance (asset : Asset) : DecidablePred (Own asset) := fun c =>
  inferInstanceAs (Decidable (∃ address ∈ asset.addresses, c.Touches address))

/-- The packets from and to the asset. -/
def ownPackets (asset : Asset) (h : History Rat Call) : History Rat Call :=
  h.filter fun e => Own asset e.2

/-- The window reports the rate of the asset. -/
def RaisesRate (doc : PolicyDoc) (clock : Clock) (now : Rat) (windowSec : Int) (asset : Asset)
    (d : MvpDetector) : Prop :=
  ∃ e ∈ (evaluateWindow doc clock now windowSec d).2,
    e.ruleId = .ot008 ∧ e.assetId = asset.assetId.getD ""

/-- The entries of the policy under the asset's id. -/
def entriesOf (doc : PolicyDoc) (asset : Asset) : List Asset :=
  doc.assetList.filter fun entry => entry.assetId.getD "" = asset.assetId.getD ""

/-- So many packets in a window are too many for the asset. -/
def TooMany (doc : PolicyDoc) (windowSec : Int) (asset : Asset) (count : Nat) : Prop :=
  ∃ entry ∈ entriesOf doc asset, ∃ maxRate ∈ entry.normalPacketRateMax,
    maxRate * trafficRateMultiplier doc < count * (60 / (max windowSec 1 : Int))

section Rate

variable (doc : PolicyDoc) (clock : Clock) (now : Rat) (windowSec : Int)

theorem perPacket_pos : (0 : Rat) < 60 / (max windowSec 1 : Int) := by
  have hmax : (0 : Rat) < (max windowSec 1 : Int) := by
    exact_mod_cast lt_of_lt_of_le Int.one_pos (le_max_right windowSec 1)
  exact div_pos (by norm_num) hmax

/-- More packets are no fewer. -/
theorem TooMany.mono {doc : PolicyDoc} {windowSec : Int} {asset : Asset} {m n : Nat}
    (h : TooMany doc windowSec asset m) (hle : m ≤ n) : TooMany doc windowSec asset n := by
  obtain ⟨entry, hentry, maxRate, hrate, hlt⟩ := h
  refine ⟨entry, hentry, maxRate, hrate, lt_of_lt_of_le hlt ?_⟩
  exact mul_le_mul_of_nonneg_right (Nat.cast_le.mpr hle) (le_of_lt (perPacket_pos windowSec))

/-- Where a rate is given at all, some number of packets is too many. -/
theorem exists_tooMany {asset entry : Asset} (hentry : entry ∈ entriesOf doc asset) {maxRate : Rat}
    (hrate : entry.normalPacketRateMax = some maxRate) (k : Nat) :
    ∃ n, TooMany doc windowSec asset (k + n) := by
  obtain ⟨n, hn⟩ := exists_nat_gt
    (maxRate * trafficRateMultiplier doc / (60 / (max windowSec 1 : Int)))
  rw [div_lt_iff₀ (perPacket_pos windowSec)] at hn
  have htoo : TooMany doc windowSec asset n := ⟨entry, hentry, maxRate, hrate, hn⟩
  exact ⟨n, htoo.mono (Nat.le_add_left n k)⟩

/-- An entry is reported when the packets of the window are too many for it. -/
theorem exists_assetRate (id : String) (assets : List Asset) (d : MvpDetector) :
    (∃ e ∈ (Emitter.forEach (assetRate doc clock windowSec) assets d).2, e.assetId = id)
      ↔ ∃ entry ∈ assets, entry.assetId.getD "" = id ∧ ∃ maxRate ∈ entry.normalPacketRateMax,
        maxRate * trafficRateMultiplier doc < d.observedPerMin windowSec := by
  induction assets generalizing d with
  | nil => simp [Emitter.forEach]
  | cons entry assets ih =>
    have hcount : (assetRate doc clock windowSec entry d).1.observedPerMin windowSec
        = d.observedPerMin windowSec := by
      unfold observedPerMin
      rw [show (assetRate doc clock windowSec entry d).1.inventory.windowPacketCount
        = d.inventory.windowPacketCount from
        congrArg (·.1.2) (assetRate_frame doc clock windowSec entry d)]
    have hentry : (∃ e ∈ (assetRate doc clock windowSec entry d).2, e.assetId = id)
        ↔ entry.assetId.getD "" = id ∧ ∃ maxRate ∈ entry.normalPacketRateMax,
          maxRate * trafficRateMultiplier doc < d.observedPerMin windowSec := by
      unfold assetRate
      cases entry.normalPacketRateMax with
      | none => simp
      | some maxRate =>
        by_cases hfew : d.observedPerMin windowSec ≤ maxRate * trafficRateMultiplier doc
        · simp [hfew]
        · simp [hfew, event, not_le.mp hfew]
    rw [Emitter.exists_mem_forEach_cons, List.exists_mem_cons_iff, hentry, ih, hcount]

/-- The window reports the asset when its packets, whoever sent them, are too many for it. -/
theorem raisesRate_iff (asset : Asset) (d : MvpDetector) :
    RaisesRate doc clock now windowSec asset d ↔ enabled d.rulesEnabled .ot008
      ∧ TooMany doc windowSec asset d.inventory.windowPacketCount := by
  -- OT-008 is the first rule of the window
  have hrest : ((whenEnabled .ot009 (checkRelayOffline doc clock now)).andThen fun d =>
      ({ d with inventory := d.inventory.resetWindow }, [])).EmitsOnly (¬ ·.ruleId = .ot008) := by
    refine Emitter.EmitsOnly.andThen ?_ fun _ _ he => absurd he List.not_mem_nil
    exact whenEnabled_emitsOnly ((checkRelayOffline_emitsOnly doc clock now).other (by decide))
  have hmem : ∀ e : SecurityEvent, e.ruleId = .ot008 →
      (e ∈ (evaluateWindow doc clock now windowSec d).2
        ↔ e ∈ (whenEnabled .ot008 (checkTrafficRate doc clock windowSec) d).2) := by
    intro e hrule
    unfold evaluateWindow
    rw [Emitter.mem_andThen_left (p := (·.ruleId = .ot008)) hrest hrule]
  have hwindow : RaisesRate doc clock now windowSec asset d
      ↔ ∃ e ∈ (whenEnabled .ot008 (checkTrafficRate doc clock windowSec) d).2,
        e.ruleId = .ot008 ∧ e.assetId = asset.assetId.getD "" :=
    exists_congr fun e => ⟨fun h => ⟨(hmem e h.2.1).mp h.1, h.2⟩, fun h => ⟨(hmem e h.2.1).mpr h.1, h.2⟩⟩
  rw [hwindow]
  unfold whenEnabled
  by_cases hon : enabled d.rulesEnabled .ot008
  · rw [if_pos hon]
    have hreports := exists_assetRate doc clock windowSec (asset.assetId.getD "") doc.assetList d
    have htoo : TooMany doc windowSec asset d.inventory.windowPacketCount
        ↔ ∃ entry ∈ doc.assetList, entry.assetId.getD "" = asset.assetId.getD ""
          ∧ ∃ maxRate ∈ entry.normalPacketRateMax,
            maxRate * trafficRateMultiplier doc < d.observedPerMin windowSec := by
      simp only [TooMany, entriesOf, List.mem_filter, decide_eq_true_eq, and_assoc]
      rfl
    rw [htoo, ← hreports, and_iff_right hon]
    constructor
    · rintro ⟨e, he, -, hid⟩
      exact ⟨e, he, hid⟩
    · rintro ⟨e, he, hid⟩
      exact ⟨e, he, checkTrafficRate_emitsOnly doc clock windowSec d e he, hid⟩
  · rw [if_neg hon]
    constructor
    · rintro ⟨e, he, -⟩
      cases he
    · intro h
      exact absurd h.1 hon

end Rate

/-! ## The packets of a window -/

/-- Every packet counts. -/
theorem count_run (doc : PolicyDoc) (d : MvpDetector) {h : History Rat Call} (hpackets : OnlyPackets h) :
    (run doc d h).inventory.windowPacketCount = d.inventory.windowPacketCount + h.length := by
  induction h generalizing d with
  | nil => rfl
  | cons e h ih =>
    obtain ⟨whitelisted, clock, obs, modbus, hcall⟩ := hpackets e List.mem_cons_self
    have hone : (call doc d e).inventory.windowPacketCount = d.inventory.windowPacketCount + 1 := by
      obtain ⟨now, c⟩ := e
      simp only at hcall
      subst hcall
      exact congrArg (·.1.2) (call_packet_traffic doc d now whitelisted clock obs modbus)
    have hrest := ih (call doc d e) fun e he => hpackets e (List.mem_cons_of_mem _ he)
    rw [List.length_cons]
    unfold run at hrest ⊢
    rw [List.foldl_cons, hrest, hone]
    omega

/-- A packet of nobody's. -/
def strayPacket : Rat × Call :=
  (0, .packet (fun _ => false) wallClock
    { srcMac := none, srcIp := none, dstIp := none, dstPort := none, protocol := none } none)

theorem not_own_strayPacket (asset : Asset) : ¬ Own asset strayPacket.2 := by
  rintro ⟨address, -, htouches⟩
  rcases htouches with h | h
  · cases h
  · cases h

theorem ownPackets_ownPackets (asset : Asset) (h : History Rat Call) :
    ownPackets asset (ownPackets asset h) = ownPackets asset h := by
  unfold ownPackets
  rw [List.filter_filter]
  simp

/-- Packets of nobody's can be added without changing what is the asset's own. -/
theorem ownPackets_stray (asset : Asset) (h : History Rat Call) (n : Nat) :
    ownPackets asset (ownPackets asset h ++ List.replicate n strayPacket) = ownPackets asset h := by
  have hstray : ownPackets asset (List.replicate n strayPacket) = [] := by
    refine List.filter_eq_nil_iff.mpr fun e he => ?_
    rw [List.eq_of_mem_replicate he, decide_eq_true_eq]
    exact not_own_strayPacket asset
  calc ownPackets asset (ownPackets asset h ++ List.replicate n strayPacket)
      = ownPackets asset (ownPackets asset h)
        ++ ownPackets asset (List.replicate n strayPacket) := List.filter_append _ _
    _ = ownPackets asset h := by rw [ownPackets_ownPackets, hstray, List.append_nil]

theorem OnlyPackets.own {h : History Rat Call} (hpackets : OnlyPackets h) (asset : Asset) :
    OnlyPackets (ownPackets asset h) :=
  fun e he => hpackets e (List.mem_filter.mp he).1

theorem OnlyPackets.stray {h : History Rat Call} (hpackets : OnlyPackets h) (n : Nat) :
    OnlyPackets (h ++ List.replicate n strayPacket) := by
  intro e he
  rcases List.mem_append.mp he with he | he
  · exact hpackets e he
  · rw [List.eq_of_mem_replicate he]
    exact ⟨_, _, _, _, rfl⟩

/-- The verdict at the end of a window depends on the number of its packets. -/
theorem raisesRate_run_iff (doc : PolicyDoc) {d : MvpDetector}
    (hstart : d.inventory.windowPacketCount = 0) (clock : Clock) (now : Rat) (windowSec : Int)
    (asset : Asset) {h : History Rat Call} (hpackets : OnlyPackets h) :
    RaisesRate doc clock now windowSec asset (run doc d h)
      ↔ enabled d.rulesEnabled .ot008 ∧ TooMany doc windowSec asset h.length := by
  rw [raisesRate_iff, count_run doc d hpackets, hstart, (run_setup doc d h).1, Nat.zero_add]

/-- Whatever else there is in a window, the verdict on an asset is the same, exactly when the
rule is off, or the policy gives the asset no rate, or its own packets are too many already. -/
theorem traffic_rate_own_iff (doc : PolicyDoc) (d : MvpDetector)
    (hstart : d.inventory.windowPacketCount = 0) (clock : Clock) (now : Rat) (windowSec : Int)
    (asset : Asset) (h : History Rat Call) (hpackets : OnlyPackets h) :
    (∀ h', OnlyPackets h' → ownPackets asset h' = ownPackets asset h →
        (RaisesRate doc clock now windowSec asset (run doc d h)
          ↔ RaisesRate doc clock now windowSec asset (run doc d h')))
      ↔ ¬ enabled d.rulesEnabled .ot008
        ∨ (∀ entry ∈ entriesOf doc asset, entry.normalPacketRateMax = none)
        ∨ TooMany doc windowSec asset (ownPackets asset h).length := by
  constructor
  · intro hsame
    by_contra hnot
    rw [not_or, not_or, not_not] at hnot
    obtain ⟨hon, hrate, hfew⟩ := hnot
    push Not at hrate
    obtain ⟨entry, hentry, hsome⟩ := hrate
    obtain ⟨maxRate, hmax⟩ := Option.ne_none_iff_exists'.mp hsome
    obtain ⟨n, hn⟩ := exists_tooMany doc windowSec hentry hmax (ownPackets asset h).length
    -- the asset's packets alone, and with enough others
    have halone := hsame (ownPackets asset h) (hpackets.own asset) (ownPackets_ownPackets asset h)
    have hcrowd := hsame _ ((hpackets.own asset).stray n) (ownPackets_stray asset h n)
    rw [halone, raisesRate_run_iff doc hstart clock now windowSec asset (hpackets.own asset),
      raisesRate_run_iff doc hstart clock now windowSec asset ((hpackets.own asset).stray n),
      List.length_append, List.length_replicate] at hcrowd
    exact hfew (hcrowd.mpr ⟨hon, hn⟩).2
  · intro hcases h' hpackets' hown
    rw [raisesRate_run_iff doc hstart clock now windowSec asset hpackets,
      raisesRate_run_iff doc hstart clock now windowSec asset hpackets']
    rcases hcases with hoff | hnone | hmany
    · exact iff_of_false (fun h => hoff h.1) (fun h => hoff h.1)
    · have hnever : ∀ n, ¬ TooMany doc windowSec asset n := by
        rintro n ⟨entry, hentry, maxRate, hrate, -⟩
        rw [hnone entry hentry] at hrate
        cases hrate
      exact iff_of_false (fun h => hnever _ h.2) (fun h => hnever _ h.2)
    · have hleft := hmany.mono (List.length_filter_le _ h)
      have hright : TooMany doc windowSec asset h'.length := by
        rw [← hown] at hmany
        exact hmany.mono (List.length_filter_le _ h')
      simp only [hleft, hright]

/-- A relay with at most one packet a minute. -/
def quietRelay : Asset where
  assetId := some "relay-1"
  addresses := ["10.0.0.1"]
  normalPacketRateMax := some 1

def quietDoc : PolicyDoc where
  body := { assets := some [quietRelay] }

/-- A window with four packets of the relay. -/
theorem traffic_rate_own_busy :
    (∀ h', OnlyPackets h' → ownPackets quietRelay h'
          = ownPackets quietRelay (List.replicate 4 (1, packetBetween "10.0.0.1" "10.0.0.2")) →
        (RaisesRate quietDoc wallClock 60 60 quietRelay
            (run quietDoc startedDetector (List.replicate 4 (1, packetBetween "10.0.0.1" "10.0.0.2")))
          ↔ RaisesRate quietDoc wallClock 60 60 quietRelay (run quietDoc startedDetector h')))
      ↔ ¬ enabled startedDetector.rulesEnabled .ot008
        ∨ (∀ entry ∈ entriesOf quietDoc quietRelay, entry.normalPacketRateMax = none)
        ∨ TooMany quietDoc 60 quietRelay (ownPackets quietRelay
          (List.replicate 4 (1, packetBetween "10.0.0.1" "10.0.0.2"))).length :=
  traffic_rate_own_iff quietDoc startedDetector rfl wallClock 60 60 quietRelay _ (by
    intro e he
    rw [List.eq_of_mem_replicate he]
    exact ⟨_, _, _, _, rfl⟩)

/-- Four packets between others are reported as the traffic of the relay. -/
theorem traffic_rate_of_others :
    OnlyPackets [] ∧ OnlyPackets (List.replicate 4 (1, packetBetween "10.0.0.7" "10.0.0.8"))
      ∧ ownPackets quietRelay (List.replicate 4 (1, packetBetween "10.0.0.7" "10.0.0.8"))
        = ownPackets quietRelay []
      ∧ ¬ (RaisesRate quietDoc wallClock 60 60 quietRelay (run quietDoc startedDetector [])
        ↔ RaisesRate quietDoc wallClock 60 60 quietRelay (run quietDoc startedDetector
          (List.replicate 4 (1, packetBetween "10.0.0.7" "10.0.0.8")))) := by
  have hnone : OnlyPackets [] := fun e he => absurd he List.not_mem_nil
  have hfour : OnlyPackets (List.replicate 4 (1, packetBetween "10.0.0.7" "10.0.0.8")) := by
    intro e he
    rw [List.eq_of_mem_replicate he]
    exact ⟨_, _, _, _, rfl⟩
  refine ⟨hnone, hfour, rfl, ?_⟩
  rw [raisesRate_run_iff quietDoc rfl wallClock 60 60 quietRelay hnone,
    raisesRate_run_iff quietDoc rfl wallClock 60 60 quietRelay hfour]
  unfold TooMany
  decide +kernel

end EdgeSensor.Sensor.MvpDetector
