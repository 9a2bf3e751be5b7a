import EdgeSensor.Agent.EventTailer
import EdgeSensor.Py.Value
import EdgeSensor.Sensor.Mvp

/-!
# Snort and Suricata (`detection/external_engine`)

Two engines of other make write alerts, one JSON object a line; a source tails each file
and appends a security event for every alert. The two bridges differ in the fields they
read; the reading of lines, the append and the offset are one program, `pollOnce`, with
the mapper as its parameter.

`poll_once` is all or nothing. Every line is mapped before the first event is written and
the offset saved after that, so an exception anywhere in a batch leaves file and offset as
they were, and the next call meets the same batch.

Mirroring notes:
- A line is anybody's JSON, hence `Value`. Conversion of text (decoding, `json.loads`,
  `str` of a float or a container, `lower`, `int` of a string, the two timestamp formats)
  is the parameter `EngineText`. Its laws say that none of them makes half a surrogate
  pair.
- The mapper draws an event id before it converts the port and the timestamp, so an alert
  that fails at those costs a number.
- The clock is read anew for every alert: `clock` by the number of lines still to come.
- The output file is the list of the objects in it. An append is encoded as a whole
  before anything is written.
-/

namespace EdgeSensor.Sensor

open EdgeSensor.Lib EdgeSensor.Py EdgeSensor.Agent

/-- The text functions of the standard library that the bridges go through. -/
structure EngineText where
  decode : Bytes → PyStr
  /-- `json.loads`; the error `none` is a `JSONDecodeError`, `some e` any other. -/
  loads : PyStr → Except (Option PyErr) Value
  repr : Value → PyStr
  lower : PyStr → PyStr
  readInt : PyStr → Option Int
  /-- `datetime.fromisoformat`, printed again in UTC and seconds; `none` is a `ValueError`. -/
  fromIso : PyStr → Option PyStr
  /-- `datetime.strptime` with Snort's format, printed likewise. -/
  strptime : PyStr → Option PyStr
  /-- How many containers within one another `json.dumps` can write. -/
  maxDepth : Nat
  repr_encodable : ∀ x, (repr x).encodable = true
  lower_encodable : ∀ s, PyStr.encodable s = true → (lower s).encodable = true
  fromIso_encodable : ∀ s t, fromIso s = some t → PyStr.encodable t = true
  strptime_encodable : ∀ s t, strptime s = some t → PyStr.encodable t = true

/-- The clock as one alert reads it. -/
structure EngineClock where
  day : String
  now : String
  year : Nat

/-- The configuration of a bridge. -/
structure EngineConfig where
  siteId : String
  sensorId : String

section Conversion

variable (text : EngineText)

/-- `str(x)`. -/
def toStr : Value → PyStr
  | .null => lit "None"
  | .bool true => lit "True"
  | .bool false => lit "False"
  | .int n => lit (toString n)
  | .str s => s
  | x => text.repr x

/-- `str(x or default)`. -/
def strOr (x : Value) (default : String) : PyStr :=
  if x.truthy then toStr text x else lit default

/-- `int(x)`. -/
def toInt : Value → Except PyErr Int
  | .bool b => .ok (if b then 1 else 0)
  | .int n => .ok n
  | .float (.finite q) => .ok (truncate q)
  | .float .negZero => .ok 0
  | .float (.inf _) => .error (.overflowError "cannot convert float infinity to integer")
  | .float .nan => .error (.valueError "cannot convert float NaN to integer")
  | .str s =>
    match text.readInt s with
    | some n => .ok n
    | none => .error (.valueError "invalid literal for int() with base 10")
  | _ => .error (.typeError "int() argument must be a string, a bytes-like object or a real number")

/-- `int(x)` with `TypeError` and `ValueError` caught, which an `OverflowError` is not. -/
def tryInt (x : Value) : Except PyErr (Option Int) :=
  match toInt text x with
  | .ok n => .ok (some n)
  | .error (.typeError _) => .ok none
  | .error (.valueError _) => .ok none
  | .error e => .error e

/-- `map_severity`. -/
def mapSeverity (rank : Value) : Except PyErr String :=
  (tryInt text rank).map fun
    | some 1 => "high"
    | some 2 => "medium"
    | some 3 => "low"
    | _ => "medium"

/-- `_SEVERITY_TO_RISK`. -/
def severityRisk : String → Int
  | "critical" => 95
  | "high" => 85
  | "medium" => 60
  | _ => 40

/-- `_coerce_port`. -/
def coercePort : Value → Except PyErr (Option Int)
  | .null => .ok none
  | .str [] => .ok none
  | x => tryInt text x

/-- A colon into an offset `+HHMM`. -/
def colonOffset (s : PyStr) : PyStr :=
  if 5 ≤ s.length ∧ (s[s.length - 5]? = some 43 ∨ s[s.length - 5]? = some 45)
      ∧ s[s.length - 3]? ≠ some 58 then
    s.take (s.length - 2) ++ lit ":" ++ s.drop (s.length - 2)
  else s

/-- `parse_eve_timestamp`. -/
def parseEveTimestamp (clock : EngineClock) (raw : Value) : Except PyErr Value :=
  if !raw.truthy then .ok (.str (lit clock.now))
  else
    match raw with
    | .str s => .ok (.str ((text.fromIso (colonOffset s.strip)).getD (lit clock.now)))
    | _ => .error (.attributeError "object has no attribute 'strip'")

/-- `"T" in raw`, of what can be searched. -/
def containsT : Value → Option Bool
  | .str s => some (s.contains 84)
  | .arr xs => some (xs.any fun
    | .str s => s == lit "T"
    | _ => false)
  | .obj fields => some (fields.any (·.1 == lit "T"))
  | _ => none

/-- `parse_snort_timestamp`. -/
def parseSnortTimestamp (clock : EngineClock) (raw : Value) : Except PyErr Value :=
  if !raw.truthy then .ok (.str (lit clock.now))
  else
    match containsT raw with
    | none => .error (.typeError "argument is not iterable")
    | some true => .ok raw
    | some false =>
      .ok (.str ((text.strptime (lit (toString clock.year) ++ lit "/" ++ toStr text raw)).getD
        (lit clock.now)))

end Conversion

/-! ## Events -/

/-- The `SecurityEvent` of a bridge. -/
structure EngineEvent where
  eventId : String
  siteId : String
  sensorId : String
  eventType : String
  severity : String
  ruleId : PyStr
  protocol : PyStr
  description : PyStr
  srcIp : PyStr
  dstIp : PyStr
  dstPort : Option Int
  riskScore : Int
  evidence : List (String × Value)
  timestamp : Value

/-- `to_dict`. -/
def EngineEvent.toDict (event : EngineEvent) : Value :=
  .obj ([
    (lit "event_id", .str (lit event.eventId)),
    (lit "site_id", .str (lit event.siteId)),
    (lit "sensor_id", .str (lit event.sensorId)),
    (lit "event_type", .str (lit event.eventType)),
    (lit "severity", .str (lit event.severity)),
    (lit "rule_id", .str event.ruleId),
    (lit "protocol", .str event.protocol),
    (lit "description", .str event.description),
    (lit "timestamp", event.timestamp),
    (lit "risk_score", .int event.riskScore),
    (lit "evidence", .obj (event.evidence.map fun kv => (lit kv.1, kv.2)))]
    ++ (if event.srcIp = [] then [] else [(lit "src_ip", .str event.srcIp)])
    ++ (if event.dstIp = [] then [] else [(lit "dst_ip", .str event.dstIp)])
    ++ (match event.dstPort with
      | none => []
      | some port => [(lit "dst_port", .int port)]))

/-- `json.dumps` gives up on what is nested too deep. -/
def dumps (text : EngineText) (x : Value) : Except PyErr Value :=
  if text.maxDepth < x.depth then
    .error (.recursionError "maximum recursion depth exceeded while encoding a JSON object")
  else .ok x

/-- `handle.write` of some lines: they are encoded, then written. -/
def writeLines (out lines : List Value) : Except PyErr (List Value) :=
  if lines.all Value.encodable then .ok (out ++ lines)
  else .error (.unicodeEncodeError "'utf-8' codec can't encode: surrogates not allowed")

/-- What maps a record: an event for an alert, nothing for a record of another type; and
the sequence number after it. -/
abbrev EngineMap := Nat → EngineClock → Value → Except PyErr (Option EngineEvent) × Nat

/-- The `SecurityEvent(..)` call of both mappers: the severity is there, an id is drawn,
the port and the timestamp are converted. -/
def assemble (seq : Nat) (severity : Except PyErr String) (port : Except PyErr (Option Int))
    (timestamp : Except PyErr Value)
    (event : Nat → String → Option Int → Value → EngineEvent) :
    Except PyErr (Option EngineEvent) × Nat :=
  match severity with
  | .error e => (.error e, seq)
  | .ok severity =>
    match port with
    | .error e => (.error e, seq + 1)
    | .ok port =>
      match timestamp with
      | .error e => (.error e, seq + 1)
      | .ok timestamp => (.ok (some (event (seq + 1) severity port timestamp)), seq + 1)

namespace SuricataEveMapper

/-- `str(record.get("event_type") or "") == "alert"`. -/
def isAlert (text : EngineText) (record : Value) : Bool :=
  strOr text (record.get "event_type") "" == lit "alert"

/-- `record.get("alert")`, if that is an object. -/
def alertOf (record : Value) : Value :=
  if (record.get "alert").isObj then record.get "alert" else .obj []

/-- `_next_event_id`. -/
def eventId (clock : EngineClock) (seq : Nat) : String := s!"evt-{clock.day}-suricata-{pad5 seq}"

/-- The event of an alert, the conversions that can fail done. -/
def event (text : EngineText) (config : EngineConfig) (clock : EngineClock) (record : Value)
    (seq : Nat) (severity : String) (port : Option Int) (timestamp : Value) : EngineEvent where
  eventId := eventId clock seq
  siteId := config.siteId
  sensorId := config.sensorId
  eventType := "SURICATA_ALERT"
  severity := severity
  ruleId := lit "suricata-" ++ toStr text ((alertOf record).getD "gid" (.int 1)) ++ lit "-"
    ++ toStr text ((alertOf record).getD "signature_id" (.int 0))
  protocol := text.lower (strOr text (record.get "proto") "ip")
  description := strOr text ((alertOf record).get "signature") "Suricata alert"
  srcIp := strOr text (record.get "src_ip") ""
  dstIp := strOr text (record.get "dest_ip") ""
  dstPort := port
  riskScore := severityRisk severity
  evidence := [
    ("engine", .str (lit "suricata")),
    ("sid", (alertOf record).getD "signature_id" (.int 0)),
    ("gid", (alertOf record).getD "gid" (.int 1)),
    ("rev", (alertOf record).get "rev"),
    ("severity", (alertOf record).get "severity"),
    ("category", (alertOf record).get "category"),
    ("action", (alertOf record).get "action"),
    ("app_proto", record.get "app_proto"),
    ("flow_id", record.get "flow_id"),
    ("src_port", record.get "src_port"),
    ("raw_event", record)]
  timestamp := timestamp

/-- `SuricataEveMapper.map`. -/
def map (text : EngineText) (config : EngineConfig) : EngineMap := fun seq clock record =>
  if !record.isObj then (.error (.attributeError "object has no attribute 'get'"), seq)
  else if !isAlert text record then (.ok none, seq)
  else
    assemble seq (mapSeverity text ((alertOf record).get "severity"))
      (coercePort text (record.get "dest_port"))
      (parseEveTimestamp text clock (record.get "timestamp")) (event text config clock record)

end SuricataEveMapper

namespace SnortAlertMapper

/-- `_next_event_id`. -/
def eventId (clock : EngineClock) (seq : Nat) : String := s!"evt-{clock.day}-snort-{pad5 seq}"

/-- The event of an alert, the conversions that can fail done. -/
def event (text : EngineText) (config : EngineConfig) (clock : EngineClock) (alert : Value)
    (seq : Nat) (severity : String) (port : Option Int) (timestamp : Value) : EngineEvent where
  eventId := eventId clock seq
  siteId := config.siteId
  sensorId := config.sensorId
  eventType := "SNORT_ALERT"
  severity := severity
  ruleId := lit "snort-" ++ toStr text (alert.getD "gid" (.int 1)) ++ lit "-"
    ++ toStr text (alert.getD "sid" (.int 0))
  protocol := text.lower (strOr text (alert.get "proto") "ip")
  description := strOr text (alert.get "msg") "Snort alert"
  srcIp := strOr text (alert.get "src_addr") ""
  dstIp := strOr text (alert.get "dst_addr") ""
  dstPort := port
  riskScore := severityRisk severity
  evidence := [
    ("engine", .str (lit "snort")),
    ("sid", alert.getD "sid" (.int 0)),
    ("gid", alert.getD "gid" (.int 1)),
    ("rev", alert.get "rev"),
    ("priority", alert.get "priority"),
    ("classtype", alert.get "class"),
    ("action", alert.get "action"),
    ("service", alert.get "service"),
    ("src_port", alert.get "src_port"),
    ("iface", alert.get "iface"),
    ("snort_pkt_num", alert.get "pkt_num"),
    ("raw_event", alert)]
  timestamp := timestamp

/-- `SnortAlertMapper.map`. -/
def map (text : EngineText) (config : EngineConfig) : EngineMap := fun seq clock alert =>
  if !alert.isObj then (.error (.attributeError "object has no attribute 'get'"), seq)
  else
    assemble seq (mapSeverity text (alert.get "priority")) (coercePort text (alert.get "dst_port"))
      (parseSnortTimestamp text clock (alert.get "timestamp")) (event text config clock alert)

end SnortAlertMapper

/-! ## Polling -/

/-- A line's record; nothing for a blank or malformed line. -/
def parseLine (text : EngineText) (line : Bytes) : Except PyErr (Option Value) :=
  let stripped := (text.decode line).strip
  if stripped = [] then .ok none
  else
    match text.loads stripped with
    | .ok record => .ok (some record)
    | .error none => .ok none
    | .error (some e) => .error e

/-- The loop over the complete lines: the objects to write, and the sequence number. -/
def mapLines (text : EngineText) (map : EngineMap) (clock : Nat → EngineClock) :
    Nat → List Bytes → Except PyErr (List Value) × Nat
  | seq, [] => (.ok [], seq)
  | seq, line :: lines =>
    match parseLine text line with
    | .error e => (.error e, seq)
    | .ok none => mapLines text map clock seq lines
    | .ok (some record) =>
      match map seq (clock lines.length) record with
      | (.error e, seq') => (.error e, seq')
      | (.ok none, seq') => mapLines text map clock seq' lines
      | (.ok (some event), seq') =>
        match dumps text event.toDict with
        | .error e => (.error e, seq')
        | .ok object =>
          let rest := mapLines text map clock seq' lines
          (rest.1.map (object :: ·), rest.2)

/-- One turn of the loop: the object of a line, if it has one. -/
def mapLine (text : EngineText) (map : EngineMap) (clock : EngineClock) (seq : Nat)
    (line : Bytes) : Except PyErr (Option Value) × Nat :=
  match parseLine text line with
  | .error e => (.error e, seq)
  | .ok none => (.ok none, seq)
  | .ok (some record) =>
    match map seq clock record with
    | (.error e, seq') => (.error e, seq')
    | (.ok none, seq') => (.ok none, seq')
    | (.ok (some event), seq') => ((dumps text event.toDict).map some, seq')

theorem mapLines_cons (text : EngineText) (map : EngineMap) (clock : Nat → EngineClock) (seq : Nat)
    (line : Bytes) (lines : List Bytes) :
    mapLines text map clock seq (line :: lines)
      = match mapLine text map (clock lines.length) seq line with
        | (.error e, seq') => (.error e, seq')
        | (.ok none, seq') => mapLines text map clock seq' lines
        | (.ok (some object), seq') => ((mapLines text map clock seq' lines).1.map (object :: ·),
            (mapLines text map clock seq' lines).2) := by
  rw [mapLines, mapLine]
  cases parseLine text line with
  | error e => rfl
  | ok record =>
    cases record with
    | none => rfl
    | some record =>
      simp only
      rcases map seq (clock lines.length) record with ⟨_ | _ | event, seq'⟩
      · rfl
      · rfl
      · simp only
        cases dumps text event.toDict with
        | error e => rfl
        | ok object => rfl

/-- A source: its offset, the offset file, the mapper's sequence number, the output file. -/
structure EngineSource where
  offset : Nat := 0
  offsetFile : Option Nat := none
  seq : Nat := 0
  out : List Value := []

namespace EngineSource

/-- `__init__`, on the files an earlier process left. -/
def init (offsetFile : Option Nat) (out : List Value) : EngineSource where
  offset := offsetFile.getD 0
  offsetFile := offsetFile
  seq := 0
  out := out

/-- `poll_once`, with the number of events written. -/
def pollOnce (text : EngineText) (map : EngineMap) (clock : Nat → EngineClock) (file : Option Bytes)
    (src : EngineSource) : Except PyErr Nat × EngineSource :=
  match file with
  | none => (.ok 0, src)
  | some data =>
    let start := startOffset data src.offset
    if data.drop start = [] then (.ok 0, { src with offset := start })
    else
      match mapLines text map clock src.seq (takenLines data src.offset) with
      | (.error e, seq) => (.error e, { src with offset := start, seq := seq })
      | (.ok objects, seq) =>
        match writeLines src.out objects with
        | .error e => (.error e, { src with offset := start, seq := seq })
        | .ok out =>
          (.ok objects.length, {
            offset := nextOffset data src.offset
            offsetFile := some (nextOffset data src.offset)
            seq := seq
            out := out })

end EngineSource

/-- `SuricataEveSource.poll_once`. -/
def SuricataEveSource.pollOnce (text : EngineText) (config : EngineConfig) :=
  EngineSource.pollOnce text (SuricataEveMapper.map text config)

/-- `SnortAlertSource.poll_once`. -/
def SnortAlertSource.pollOnce (text : EngineText) (config : EngineConfig) :=
  EngineSource.pollOnce text (SnortAlertMapper.map text config)

end EdgeSensor.Sensor
