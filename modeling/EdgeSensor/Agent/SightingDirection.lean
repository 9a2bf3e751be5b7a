import EdgeSensor.Agent.SightingBudget
import EdgeSensor.Agent.SightingPayload
import EdgeSensor.Py.IpAddress

/-!
# The indicator of an alert (`_build_external_cti_payload` in `sighting/reporter.py`)

An alert of the CTI range is reported with the external address as the indicator. The code takes
the destination wherever there is one, so which end is external does not enter:
`reports_external_iff` says that the report is right of outbound packets only.

Mirroring notes:
- An address is external if it is in none of the networks of RFC 1918. Every public address is.
-/

namespace EdgeSensor.Agent

open EdgeSensor.Py

/-- The networks of RFC 1918. -/
def rfc1918Networks : List IpNetwork :=
  [networkOf false 32 0x0A000000 8, networkOf false 32 0xAC100000 12,
    networkOf false 32 0xC0A80000 16]

def isPrivate (address : IpAddress) : Bool := rfc1918Networks.any (·.contains address)

/-- The engines whose alerts can be sightings. -/
inductive CtiEngine where
  | snort
  | suricata

def CtiEngine.eventType : CtiEngine → PyStr
  | .snort => lit "SNORT_ALERT"
  | .suricata => lit "SURICATA_ALERT"

def CtiEngine.enabled (config : SightingReportConfig) : CtiEngine → Bool
  | .snort => config.snortSightingEnabled
  | .suricata => config.suricataSightingEnabled

/-- The two ends of a packet. -/
inductive Endpoint where
  | dst
  | src

/-- The field of the event that an end is in. -/
def Endpoint.field : Endpoint → String
  | .dst => "dst_ip"
  | .src => "src_ip"

section Direction

variable (text : SightingText) (config : SightingReportConfig) (event : Value)

/-- `str(event.get(field) or "").strip()`. -/
def endpointText (x : Endpoint) : PyStr := PyStr.strip (strOrNone text (event.get x.field))

/-- The end has an address, and that is a private one or not. -/
def HasAddress (x : Endpoint) (inside : Bool) : Prop :=
  ∃ address, ipAddress (endpointText text event x) = some address ∧ isPrivate address = inside

/-- One end is private and the other external. -/
def CrossesBoundary : Prop :=
  HasAddress text event .src true ∧ HasAddress text event .dst false
    ∨ HasAddress text event .src false ∧ HasAddress text event .dst true

/-- An alert of an engine that is on, with a signature id of the CTI range; there is no such range
unless its upper end is positive. -/
structure CtiAlert (engine : CtiEngine) : Prop where
  obj : event.isObj = true
  type : strOrNone text (event.get "event_type") = engine.eventType
  enabled : engine.enabled config = true
  sid : ∃ sid, intOf text ((evidenceOf event).get "sid") = .ok sid ∧ 0 < config.snortCtiSidMax
    ∧ config.snortCtiSidMin ≤ sid ∧ sid ≤ config.snortCtiSidMax

/-- A field of `payload["raw_event"]`. -/
def rawField (fields : List (PyStr × Value)) (key : String) : Value :=
  ((Value.obj fields).get "raw_event").get key

/-- A sighting is built, its indicator is the external end, and it names the field of that end. -/
def ReportsExternal : Prop :=
  ∃ fields, buildSightingIngestPayload text config event = .ok (some fields)
    ∧ ∃ x : Endpoint, HasAddress text event x false
      ∧ rawField fields "ioc_value" = .str (endpointText text event x)
      ∧ rawField fields "matched_field" = .str (lit x.field)

variable {text config event} {engine : CtiEngine}

theorem endpointText_ne_nil {x : Endpoint} {inside : Bool} (h : HasAddress text event x inside) :
    endpointText text event x ≠ [] := by
  obtain ⟨address, haddress, -⟩ := h
  intro hnil
  have hnone : ipAddress [] = none := by decide +kernel
  rw [hnil, hnone] at haddress
  cases haddress

/-- An alert of the range goes to the builder of its engine. -/
theorem buildSightingIngestPayload_alert (h : CtiAlert text config event engine) :
    ∃ name upper, buildSightingIngestPayload text config event
      = buildExternalCtiPayload text config event name upper true := by
  obtain ⟨hobj, htype, henabled, -⟩ := h
  unfold buildSightingIngestPayload
  rw [hobj, htype]
  cases engine with
  | snort =>
    exact ⟨lit "snort", lit "SNORT",
      congrArg (buildExternalCtiPayload text config event _ _) henabled⟩
  | suricata =>
    exact ⟨lit "suricata", lit "SURICATA",
      congrArg (buildExternalCtiPayload text config event _ _) henabled⟩

/-- What is reported of an alert with a destination: the destination. -/
theorem buildExternalCtiPayload_dst (h : CtiAlert text config event engine)
    (hdst : endpointText text event .dst ≠ []) (name upper : PyStr) :
    (∃ e, asConfidence text (event.get "risk_score") 80 = .error e
        ∧ buildExternalCtiPayload text config event name upper true = .error e)
      ∨ ∃ n fields, asConfidence text (event.get "risk_score") 80 = .ok n
        ∧ buildExternalCtiPayload text config event name upper true = .ok (some fields)
        ∧ rawField fields "ioc_value" = .str (endpointText text event .dst)
        ∧ rawField fields "matched_field" = .str (lit "dst_ip") := by
  obtain ⟨sid, hsid, hmax, hrange⟩ := h.sid
  have hdst' : PyStr.strip (strOrNone text (event.get "dst_ip")) ≠ [] := hdst
  unfold buildExternalCtiPayload
  simp only [Bool.not_true, Bool.false_or, decide_eq_true_eq, if_neg (not_le.mpr hmax), hsid,
    if_neg (not_not.mpr hrange), if_pos hdst']
  cases hconfidence : asConfidence text (event.get "risk_score") 80 with
  | error e => exact .inl ⟨e, rfl, rfl⟩
  | ok n => exact .inr ⟨n, _, rfl, rfl, rfl, rfl⟩

/-- The external end is reported of the packets that go out, and of no other: of a packet that
comes in, the indicator is the host that it was sent to. -/
theorem reports_external_iff (h : CtiAlert text config event engine)
    (hcross : CrossesBoundary text event) :
    ReportsExternal text config event
      ↔ HasAddress text event .dst false
        ∧ ∃ n, asConfidence text (event.get "risk_score") 80 = .ok n := by
  have hdst : endpointText text event .dst ≠ [] := by
    rcases hcross with ⟨-, hdst⟩ | ⟨-, hdst⟩
    · exact endpointText_ne_nil hdst
    · exact endpointText_ne_nil hdst
  obtain ⟨name, upper, hbuild⟩ := buildSightingIngestPayload_alert h
  unfold ReportsExternal
  rw [hbuild]
  rcases buildExternalCtiPayload_dst h hdst name upper with
    ⟨e, hrisk, he⟩ | ⟨n, fields, hrisk, hok, hioc, hfield⟩
  · rw [he, hrisk]
    exact iff_of_false nofun nofun
  · rw [hok]
    constructor
    · rintro ⟨_, ⟨⟩, x, haddress, -, hmatched⟩
      rw [hfield] at hmatched
      cases x with
      | dst => exact ⟨haddress, n, hrisk⟩
      | src => exact absurd (Value.str.inj hmatched) (by decide)
    · rintro ⟨haddress, -⟩
      exact ⟨fields, rfl, .dst, haddress, hioc, hfield⟩

end Direction

/-- An alert on a packet between two addresses. -/
def sampleAlert (src dst : String) : Value :=
  .obj [(lit "event_type", .str (lit "SNORT_ALERT")), (lit "src_ip", .str (lit src)),
    (lit "dst_ip", .str (lit dst)), (lit "evidence", .obj [(lit "sid", .int 9000001)])]

def sampleReportConfig : SightingReportConfig :=
  { sensorId := lit "edge-1", siteId := lit "site-1", sourceSystem := lit "ndr"
    snortSightingEnabled := true, snortCtiSidMin := 9000000, snortCtiSidMax := 9999999 }

theorem sampleAlert_cti (src dst : String) :
    CtiAlert sampleSightingText sampleReportConfig (sampleAlert src dst) .snort :=
  ⟨rfl, rfl, rfl, 9000001, rfl, by decide, by decide⟩

theorem reports_external_outbound :
    ReportsExternal sampleSightingText sampleReportConfig (sampleAlert "10.0.0.5" "8.8.8.8") :=
  (reports_external_iff (sampleAlert_cti _ _)
    (.inl ⟨⟨.v4 0x0A000005, by decide +kernel, by decide +kernel⟩,
      .v4 0x08080808, by decide +kernel, by decide +kernel⟩)).mpr
    ⟨⟨.v4 0x08080808, by decide +kernel, by decide +kernel⟩, 80, rfl⟩

/-- A packet that comes in: the host inside is reported. -/
theorem inbound_reports_own_host :
    CtiAlert sampleSightingText sampleReportConfig (sampleAlert "8.8.8.8" "10.0.0.5") .snort
      ∧ CrossesBoundary sampleSightingText (sampleAlert "8.8.8.8" "10.0.0.5")
      ∧ ¬ ReportsExternal sampleSightingText sampleReportConfig
        (sampleAlert "8.8.8.8" "10.0.0.5") := by
  refine ⟨sampleAlert_cti _ _, .inr ⟨⟨.v4 0x08080808, by decide +kernel, by decide +kernel⟩,
    .v4 0x0A000005, by decide +kernel, by decide +kernel⟩, ?_⟩
  rintro ⟨fields, hbuild, x, ⟨address, haddress, houtside⟩, -, hmatched⟩
  have hfield : ((buildSightingIngestPayload sampleSightingText sampleReportConfig
      (sampleAlert "8.8.8.8" "10.0.0.5")).toOption.bind id).map (rawField · "matched_field")
        = some (.str (lit "dst_ip")) := by rfl
  rw [hbuild] at hfield
  have hdst := (Option.some.inj hfield).symm.trans hmatched
  cases x with
  | src => exact absurd (Value.str.inj hdst) (by decide)
  | dst =>
    have hinside : (ipAddress (endpointText sampleSightingText (sampleAlert "8.8.8.8" "10.0.0.5")
        .dst)).all isPrivate = true := by decide +kernel
    rw [haddress, Option.all_some, houtside] at hinside
    cases hinside

end EdgeSensor.Agent
