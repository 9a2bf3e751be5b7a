import EdgeSensor.Sensor.Mvp

/-!
# The rules of a window

`MvpDetector.evaluate_window` of `src/detection/mvp.py`, called once per feature window
and when the capture ends: the packet rate against the baseline of every asset (OT-008),
and the assets nothing has been heard of (OT-009). Both walk over the assets of the
policy, so a policy without assets silences them.

Mirroring notes:
- Rates are exact rationals; the source computes them in floats.
- `now` is the one reading of the monotonic clock, in `_check_relay_offline`.
-/

namespace EdgeSensor.Sensor

open EdgeSensor.Lib EdgeSensor.Py

/-- `round(q)`: to the nearest integer, a half to the even one. -/
def roundHalfEven (q : Rat) : Int :=
  if q - ⌊q⌋ < 1 / 2 then ⌊q⌋
  else if 1 / 2 < q - ⌊q⌋ then ⌊q⌋ + 1
  else if ⌊q⌋ % 2 = 0 then ⌊q⌋
  else ⌊q⌋ + 1

/-- `round(q, 1)`. -/
def roundTenth (q : Rat) : Rat := roundHalfEven (q * 10) / 10

/-- `_assets`. -/
def PolicyDoc.assetList (doc : PolicyDoc) : List Asset := doc.body.assets.getD []

/-- `_relay_addresses`. -/
def PolicyDoc.relayAddresses (doc : PolicyDoc) : List (String × Asset) :=
  doc.assetList.flatMap fun asset => asset.addresses.map fun address => (address, asset)

/-- `float(self._threshold("traffic_rate_multiplier", 3.0))`. -/
def trafficRateMultiplier (doc : PolicyDoc) : Rat := doc.threshold "traffic_rate_multiplier" 3

/-- The `silence_sec` of `_check_relay_offline`. -/
def silenceSec : Rat := 120

namespace MvpDetector

/-- `window_packet_count * (60.0 / max(window_sec, 1))`. -/
def observedPerMin (d : MvpDetector) (windowSec : Int) : Rat :=
  d.inventory.windowPacketCount * (60 / (max windowSec 1 : Int))

/-- One asset in `_check_traffic_rate`. -/
def assetRate (doc : PolicyDoc) (clock : Clock) (windowSec : Int) (asset : Asset) :
    Emitter MvpDetector SecurityEvent := fun d =>
  match asset.normalPacketRateMax with
  | none => (d, [])
  | some maxRate =>
    if d.observedPerMin windowSec ≤ maxRate * trafficRateMultiplier doc then (d, [])
    else
      event clock .ot008
        { assetId := asset.assetId.getD ""
          evidence := [("observed_packets_per_min", .number (roundTenth (d.observedPerMin windowSec))),
            ("baseline_max_per_min", .number maxRate),
            ("multiplier", .number (trafficRateMultiplier doc)), ("window_sec", .int windowSec)] } d

/-- `_check_traffic_rate` (OT-008). -/
def checkTrafficRate (doc : PolicyDoc) (clock : Clock) (windowSec : Int) :
    Emitter MvpDetector SecurityEvent :=
  Emitter.forEach (assetRate doc clock windowSec) doc.assetList

/-- Something was heard from the address less than `silence_sec` ago. -/
def HeardOf (d : MvpDetector) (now : Rat) (address : String) : Prop :=
  ∃ seen ∈ d.inventory.lastSeenByIp.get? address, now - seen < silenceSec

instance (d : MvpDetector) (now : Rat) (address : String) : Decidable (d.HeardOf now address) :=
  inferInstanceAs (Decidable (∃ seen ∈ d.inventory.lastSeenByIp.get? address, _))

/-- One address in `_check_relay_offline`; the asset alerts once. -/
def relaySilent (clock : Clock) (now : Rat) (relay : String × Asset) :
    Emitter MvpDetector SecurityEvent := fun d =>
  let assetId := relay.2.assetId.getD relay.1
  if assetId ∈ d.alertedOffline then (d, [])
  else if d.HeardOf now relay.1 then (d, [])
  else
    event clock .ot009
      { assetId := assetId
        dstIp := relay.1
        evidence := [("relay_ip", .text relay.1), ("silence_sec", .number silenceSec),
          ("last_seen_monotonic",
            ((d.inventory.lastSeenByIp.get? relay.1).map EvidenceValue.number).getD .null)]
        riskScore := 88 }
      { d with alertedOffline := insert assetId d.alertedOffline }

/-- `_check_relay_offline` (OT-009); a young process has no opinion yet. -/
def checkRelayOffline (doc : PolicyDoc) (clock : Clock) (now : Rat) :
    Emitter MvpDetector SecurityEvent := fun d =>
  if now - d.startedAt < silenceSec then (d, [])
  else Emitter.forEach (relaySilent clock now) doc.relayAddresses d

/-- `if self._enabled(rule): events.extend(...)`. -/
def whenEnabled (rule : RuleId) (f : Emitter MvpDetector SecurityEvent) :
    Emitter MvpDetector SecurityEvent := fun d =>
  if enabled d.rulesEnabled rule then f d else (d, [])

/-- `evaluate_window`. -/
def evaluateWindow (doc : PolicyDoc) (clock : Clock) (now : Rat) (windowSec : Int) :
    Emitter MvpDetector SecurityEvent :=
  (whenEnabled .ot008 (checkTrafficRate doc clock windowSec)).andThen <|
    (whenEnabled .ot009 (checkRelayOffline doc clock now)).andThen fun d =>
      ({ d with inventory := d.inventory.resetWindow }, [])

/-! ## What a window leaves alone, and what it reports -/

section Window

variable (doc : PolicyDoc) (clock : Clock) (now : Rat) (windowSec : Int)

theorem assetRate_spec (asset : Asset) :
    (assetRate doc clock windowSec asset).Preserves latchState
      ∧ (assetRate doc clock windowSec asset).EmitsOnly (·.ruleId.phase = .window) := by
  refine ⟨fun d => ?_, fun d e he => ?_⟩
  · unfold assetRate
    split
    · rfl
    · split <;> rfl
  · unfold assetRate at he
    split at he
    · cases he
    · split at he
      · cases he
      · exact congrArg RuleId.phase (event_emitsOnly _ _ _ _ e he)

theorem relaySilent_spec (relay : String × Asset) :
    (relaySilent clock now relay).Preserves latchState
      ∧ (relaySilent clock now relay).EmitsOnly (·.ruleId.phase = .window) := by
  refine ⟨fun d => ?_, fun d e he => ?_⟩
  · unfold relaySilent
    simp only
    split
    · rfl
    · split <;> rfl
  · unfold relaySilent at he
    simp only at he
    split at he
    · cases he
    · split at he
      · cases he
      · exact congrArg RuleId.phase (event_emitsOnly _ _ _ _ e he)

theorem checkTrafficRate_spec : (checkTrafficRate doc clock windowSec).Preserves latchState
    ∧ (checkTrafficRate doc clock windowSec).EmitsOnly (·.ruleId.phase = .window) :=
  ⟨Emitter.forEach_preserves (fun asset => (assetRate_spec doc clock windowSec asset).1) _,
    Emitter.forEach_emitsOnly fun asset _ => (assetRate_spec doc clock windowSec asset).2⟩

theorem checkRelayOffline_spec : (checkRelayOffline doc clock now).Preserves latchState
    ∧ (checkRelayOffline doc clock now).EmitsOnly (·.ruleId.phase = .window) := by
  refine ⟨fun d => ?_, fun d e he => ?_⟩
  · unfold checkRelayOffline
    split
    · rfl
    · exact Emitter.forEach_preserves (fun relay => (relaySilent_spec clock now relay).1) _ d
  · unfold checkRelayOffline at he
    split at he
    · cases he
    · exact Emitter.forEach_emitsOnly (fun relay _ => (relaySilent_spec clock now relay).2) d e he

theorem whenEnabled_spec {β : Type} {rule : RuleId} {f : Emitter MvpDetector SecurityEvent}
    {proj : MvpDetector → β} {p : SecurityEvent → Prop} (h : f.Preserves proj ∧ f.EmitsOnly p) :
    (whenEnabled rule f).Preserves proj ∧ (whenEnabled rule f).EmitsOnly p := by
  refine ⟨fun d => ?_, fun d e he => ?_⟩
  · unfold whenEnabled
    split
    · exact h.1 d
    · rfl
  · unfold whenEnabled at he
    split at he
    · exact h.2 d e he
    · cases he

/-- The end of a window touches what the rules of the packets remember in no way. -/
theorem evaluateWindow_preserves :
    (evaluateWindow doc clock now windowSec).Preserves latchState :=
  (whenEnabled_spec (checkTrafficRate_spec doc clock windowSec)).1.andThen <|
    (whenEnabled_spec (checkRelayOffline_spec doc clock now)).1.andThen fun _ => rfl

theorem evaluateWindow_emitsOnly :
    (evaluateWindow doc clock now windowSec).EmitsOnly (·.ruleId.phase = .window) :=
  (whenEnabled_spec (checkTrafficRate_spec doc clock windowSec)).2.andThen <|
    (whenEnabled_spec (checkRelayOffline_spec doc clock now)).2.andThen
      fun _ _ he => absurd he List.not_mem_nil

end Window

end MvpDetector

end EdgeSensor.Sensor
