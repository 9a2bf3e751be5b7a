import EdgeSensor.Agent.SightingReporter

/-!
# The payload of a sighting (`build_sighting_ingest_payload` in `sighting/reporter.py`)

An indicator that the sensor has seen on the mirror port, or an alert of Snort or Suricata with
a signature id of the CTI range, becomes the body of a POST. Every other event is left alone.

Mirroring notes:
- `int(x)` of a float or a text is `SightingText.toInt`; its `TypeError` and `ValueError` are
  caught where the source catches them.
-/

namespace EdgeSensor.Agent

open EdgeSensor.Py

/-- The part of the configuration that the payloads are made with. -/
structure SightingReportConfig where
  sensorId : PyStr
  siteId : PyStr
  sourceSystem : PyStr
  snortSightingEnabled : Bool := false
  suricataSightingEnabled : Bool := false
  snortCtiSidMin : Int := 0
  snortCtiSidMax : Int := 0

section Payload

variable (text : SightingText) (config : SightingReportConfig)

/-- `int(x)`. -/
def intOf : Value → Except PyErr Int
  | .int n => .ok n
  | .bool b => .ok (if b then 1 else 0)
  | .float x => text.toInt (.float x)
  | .str s => text.toInt (.str s)
  | _ => .error (.typeError "int() argument must be a string or a real number")

/-- `int(x)`, and the default where that is a `TypeError` or a `ValueError`: `_as_confidence`. -/
def asConfidence (x : Value) (default : Int) : Except PyErr Int :=
  match intOf text x with
  | .ok n => .ok n
  | .error (.typeError _) => .ok default
  | .error (.valueError _) => .ok default
  | .error e => .error e

/-- `max(0, min(100, n))`. -/
def clampPercent (n : Int) : Int := max 0 (min 100 n)

/-- `x or default`. -/
def valueOr (x default : Value) : Value := if x.truthy then x else default

/-- `str(x or "")`. -/
def strOrNone (x : Value) : PyStr := if x.truthy then text.text.str x else []

/-- `event["evidence"]`, where that is a dict. -/
def evidenceOf (event : Value) : Value :=
  if (event.get "evidence").isObj then event.get "evidence" else .obj []

/-- `_build_ot019_payload`. -/
def buildOt019Payload (event : Value) : Except PyErr (Option (List (PyStr × Value))) :=
  if strOrNone text (event.get "rule_id") ≠ lit "OT-019" then .ok none
  else
    let evidence := evidenceOf event
    let iocType :=
      text.text.lower (text.text.str (valueOr (evidence.get "ioc_type") (.str (lit "ipv4"))))
    let iocValue := PyStr.strip (strOrNone text (evidence.get "ioc_value"))
    if iocValue = [] then .ok none
    else do
      let confidence := match evidence.get "confidence" with
        | .null => event.getD "risk_score" (.int 80)
        | x => x
      let confidence ← asConfidence text confidence 80
      let severity ← asConfidence text (event.getD "risk_score" (.int confidence)) confidence
      .ok (some [
        (lit "source_system", .str config.sourceSystem),
        (lit "raw_event", .obj [
          (lit "event_id", .str (strOrNone text (event.get "event_id"))),
          (lit "event_type", .str (lit "cti_ioc_observed")),
          (lit "timestamp", event.get "timestamp"),
          (lit "sensor_id", .str config.sensorId),
          (lit "site_id", .str config.siteId),
          (lit "ioc_type", .str iocType),
          (lit "ioc_value", .str iocValue),
          (lit "intel_item_id", evidence.get "intel_item_id"),
          (lit "artifact_version", evidence.get "artifact_version"),
          (lit "direction", evidence.get "direction"),
          (lit "mirror_passive", evidence.getD "mirror_passive" (.bool true)),
          (lit "description", valueOr (event.get "description")
            (.str (lit "SenseL OT Edge passive IoC match on mirror"))),
          (lit "src_ip", event.get "src_ip"),
          (lit "dst_ip", event.get "dst_ip"),
          (lit "dst_port", event.get "dst_port"),
          (lit "protocol", event.get "protocol"),
          (lit "asset_name", .str config.sensorId)]),
        (lit "defaults", .obj [
          (lit "source_event_type", .str (lit "CTI_IOC_OBSERVED")),
          (lit "confidence", .int (clampPercent confidence)),
          (lit "severity", .int (clampPercent severity))])])

/-- `x or None`, of a text. -/
def strOrNull (s : PyStr) : Value := if s = [] then .null else .str s

/-- `_build_external_cti_payload`, for an engine, its name in capitals, and its flag. -/
def buildExternalCtiPayload (event : Value) (engine upper : PyStr) (enabled : Bool) :
    Except PyErr (Option (List (PyStr × Value))) :=
  if !enabled || config.snortCtiSidMax ≤ 0 then .ok none
  else
    let evidence := evidenceOf event
    match intOf text (evidence.get "sid") with
    | .error (.typeError _) => .ok none
    | .error (.valueError _) => .ok none
    | .error e => .error e
    | .ok sid =>
      if ¬ (config.snortCtiSidMin ≤ sid ∧ sid ≤ config.snortCtiSidMax) then .ok none
      else
        let dstIp := PyStr.strip (strOrNone text (event.get "dst_ip"))
        let srcIp := PyStr.strip (strOrNone text (event.get "src_ip"))
        let found :=
          if dstIp ≠ [] then some (dstIp, lit "dst_ip")
          else if srcIp ≠ [] then some (srcIp, lit "src_ip") else none
        match found with
        | none => .ok none
        | some (iocValue, matchedField) => do
          let confidence ← asConfidence text (event.get "risk_score") 80
          .ok (some [
            (lit "source_system", .str config.sourceSystem),
            (lit "raw_event", .obj [
              (lit "event_id", .str (strOrNone text (event.get "event_id"))),
              (lit "event_type", .str (engine ++ lit "_cti_observed")),
              (lit "timestamp", event.get "timestamp"),
              (lit "sensor_id", .str config.sensorId),
              (lit "site_id", .str config.siteId),
              (lit "ioc_type", .str (lit "ipv4")),
              (lit "ioc_value", .str iocValue),
              (lit "matched_field", .str matchedField),
              (lit "engine", .str engine),
              (lit "rule_id", event.get "rule_id"),
              (lit "sid", .int sid),
              (lit "gid", evidence.get "gid"),
              (lit "classtype", valueOr (evidence.get "classtype") (evidence.get "category")),
              (lit "description", valueOr (event.get "description")
                (.str (lit "SenseL NDR Edge " ++ engine ++ lit " CTI rule hit"))),
              (lit "src_ip", strOrNull srcIp),
              (lit "dst_ip", strOrNull dstIp),
              (lit "dst_port", event.get "dst_port"),
              (lit "protocol", event.get "protocol"),
              (lit "asset_name", .str config.sensorId)]),
            (lit "defaults", .obj [
              (lit "source_event_type", .str (upper ++ lit "_CTI_OBSERVED")),
              (lit "confidence", .int (clampPercent confidence)),
              (lit "severity", .int (clampPercent confidence))])])

/-- `build_sighting_ingest_payload`. -/
def buildSightingIngestPayload (event : Value) : Except PyErr (Option (List (PyStr × Value))) :=
  if !event.isObj then .error (.attributeError "object has no attribute 'get'")
  else
    let eventType := strOrNone text (event.get "event_type")
    if eventType = lit "CTI_IOC_OBSERVED" then buildOt019Payload text config event
    else if eventType = lit "SNORT_ALERT" then
      buildExternalCtiPayload text config event (lit "snort") (lit "SNORT") config.snortSightingEnabled
    else if eventType = lit "SURICATA_ALERT" then
      buildExternalCtiPayload text config event (lit "suricata") (lit "SURICATA")
        config.suricataSightingEnabled
    else .ok none

variable {text config} {event : Value} {fields : List (PyStr × Value)}

/-- The event id in a payload. -/
def payloadEventId (fields : List (PyStr × Value)) : Value :=
  ((Value.obj fields).get "raw_event").get "event_id"

theorem buildOt019Payload_eventId (h : buildOt019Payload text config event = .ok (some fields)) :
    payloadEventId fields = .str (strOrNone text (event.get "event_id")) := by
  unfold buildOt019Payload at h
  split at h
  next => cases h
  next =>
    simp only at h
    split at h
    next => cases h
    next =>
      obtain ⟨confidence, -, h⟩ := bind_eq_ok.mp h
      obtain ⟨severity, -, h⟩ := bind_eq_ok.mp h
      cases h
      rfl

theorem buildExternalCtiPayload_eventId {engine upper : PyStr} {enabled : Bool}
    (h : buildExternalCtiPayload text config event engine upper enabled = .ok (some fields)) :
    payloadEventId fields = .str (strOrNone text (event.get "event_id")) := by
  unfold buildExternalCtiPayload at h
  split at h
  next => cases h
  next =>
    simp only at h
    split at h
    next => cases h
    next => cases h
    next => cases h
    next =>
      split at h
      next => cases h
      next =>
        split at h
        next => cases h
        next =>
          obtain ⟨confidence, -, h⟩ := bind_eq_ok.mp h
          cases h
          rfl

/-- A payload carries the id of its event. -/
theorem buildSightingIngestPayload_eventId
    (h : buildSightingIngestPayload text config event = .ok (some fields)) :
    payloadEventId fields = .str (strOrNone text (event.get "event_id")) := by
  unfold buildSightingIngestPayload at h
  split at h
  next => cases h
  next =>
    simp only at h
    split at h
    next => exact buildOt019Payload_eventId h
    next =>
      split at h
      next => exact buildExternalCtiPayload_eventId h
      next =>
        split at h
        next => exact buildExternalCtiPayload_eventId h
        next => cases h

/-- A sighting is posted under its event's own id: the id in the payload is never another one. -/
theorem sightingOf_eventId {cfg : SightingConfig} {arrival : Arrival} {payload : Value} {eventId : PyStr}
    (hbuild : cfg.build = buildSightingIngestPayload text config)
    (h : sightingOf text cfg arrival = .ok (some (payload, eventId))) :
    eventId = strOrNone text (arrival.event.get "event_id") := by
  unfold sightingOf at h
  split at h
  next => cases h
  next =>
    rw [hbuild] at h
    cases hbuilt : buildSightingIngestPayload text config arrival.event with
    | error e =>
      rw [hbuilt] at h
      cases h
    | ok built =>
      rw [hbuilt] at h
      cases built with
      | none => cases h
      | some fields =>
        have hinner : ((Value.obj fields).get "raw_event").get "event_id" = _ :=
          buildSightingIngestPayload_eventId hbuilt
        simp only [Except.map, Option.bind_some, Except.ok.injEq] at h
        rw [hinner] at h
        unfold strOrNone at h ⊢
        by_cases hown : (arrival.event.get "event_id").truthy = true
        · rw [if_pos hown] at h
          rw [if_pos hown]
          split at h
          next => cases h
          next =>
            cases h
            rfl
        · -- then the payload has no id either
          rw [if_neg hown, if_neg hown] at h
          cases h

end Payload

end EdgeSensor.Agent
