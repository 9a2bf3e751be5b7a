import EdgeSensor.Agent.EventContext
import EdgeSensor.Agent.EventTailer
import EdgeSensor.Agent.UploadBuffer
import EdgeSensor.Lib.Prog
import EdgeSensor.Py.Text

/-!
# Uploading events (`main.py`, `northbound/mqtt.py`)

The main loop's delivery part as programs over the steps that touch something outside
the process: reading an event file, saving an offset, a whitelist check, an MQTT or
HTTP attempt, a transaction on the buffer. A crash can fall between any two of them.

`World` holds what survives a crash, and a ledger of what was observed from outside:
events handed out, attempts, whitelist hits, trimmed rows. The ledger is never read.

Mirroring notes:
- What the sensor and the engines write is `stream`; at each read some more of it has
  been written, as the environment chooses (`Choice.written`).
- The whitelist, the context files and the peers answer anew at every step.
- A buffer operation is one transaction. `remove_by_event_id` is a query and a
  `remove`, each committed, for every hit.
- `dict(event)` of JSON that is not an object, possible only without an enforcer, is a
  parameter (`dictOf`).
- Logging and the runtime snapshot file are left out.
-/

namespace EdgeSensor.Agent

open EdgeSensor.Lib EdgeSensor.Py

/-- The three event files, each with a tailer. -/
inductive Feed where
  | packet
  | snort
  | suricata
  deriving DecidableEq

inductive Transport where
  | mqtt
  | http
  deriving DecidableEq

/-- One delivery attempt: of a buffered entry, or straight from a tailer. -/
structure Attempt where
  entry : Option Nat
  transport : Transport
  kind : String
  payload : Obj
  acked : Bool

/-- What survives the process, and the ledger. -/
structure World where
  buffer : UploadBuffer
  saved : Feed → Nat
  written : Feed → Option Nat
  returned : Feed → List Json := fun _ => []
  /-- The batch handed out last. -/
  batch : List Json := []
  attempts : List Attempt := []
  suppressed : List Obj := []
  /-- The rows trimmed, each with the last id at that moment. -/
  trimmed : List (Row × Nat) := []

/-- What stays as it is during a run: the standard library's text functions, the
configuration, and the bytes that end up in the event files. -/
structure AgentEnv where
  text : JsonText
  dictOf : Json → Except PyErr Obj
  enforcer : Bool
  qosEvents : Nat
  stream : Feed → Bytes

/-- What an MQTT publish runs into. -/
structure MqttState where
  requireTenant : Bool := false
  tenantId : String := ""
  client : Bool := true
  connected : Bool := true
  raised : Bool := false
  rc : Int := 0
  published : Bool := true

/-- What the environment decides at one step. -/
structure Choice where
  written : Option Nat := none
  whitelisted : Bool := false
  files : ContextFiles := {}
  mqttEnabled : Bool := true
  mqtt : MqttState := {}
  http : Option PyErr := none

instance : Inhabited Choice := ⟨{}⟩

/-- `publish_json`. -/
def publishJson (qos : Nat) (s : MqttState) : Bool :=
  if !s.client then false
  else if !s.connected then false
  else if s.raised then false
  else if s.rc ≠ 0 || (qos > 0 && !s.published) then false
  else true

/-- `publish_security_event`. -/
def publishSecurityEvent (qosEvents : Nat) (s : MqttState) : Bool :=
  if s.requireTenant && (strip s.tenantId = "" || strip s.tenantId = "default") then false
  else publishJson qosEvents s

/-! ## The steps -/

inductive AgentOp where
  | loadOffset (feed : Feed)
  | readEvents (feed : Feed)
  | saveOffset (feed : Feed) (offset : Nat) (events : List Json)
  | isWhitelisted (event : Obj)
  | readContext
  | mqttEnabled
  | publish (entry : Option Nat) (event : Obj)
  | post (entry : Option Nat) (kind : String) (payload : Obj)
  | pending
  | enqueue (kind : String) (payload : Obj)
  | remove (entryId : Nat)

@[reducible] def AgentOp.Answer : AgentOp → Type
  | .loadOffset _ => Nat
  | .readEvents _ => Option Bytes
  | .saveOffset .. => Unit
  | .isWhitelisted _ => Bool
  | .readContext => ContextFiles
  | .mqttEnabled => Bool
  | .publish .. => Bool
  | .post .. => Unit
  | .pending => List Row
  | .enqueue .. => Unit
  | .remove _ => Unit

namespace World

variable (w : World)

/-- More of a feed has been written. -/
def grow (feed : Feed) (written : Option Nat) : World :=
  match written with
  | none => w
  | some n => { w with written := fun f =>
      if f = feed then some (max ((w.written f).getD 0) n) else w.written f }

/-- An offset is saved, and the events before it are handed out. -/
def hand (feed : Feed) (offset : Nat) (events : List Json) : World :=
  { w with
    saved := fun f => if f = feed then offset else w.saved f
    returned := fun f => if f = feed then w.returned f ++ events else w.returned f
    batch := events }

def suppress (event : Obj) : World := { w with suppressed := w.suppressed ++ [event] }

def attempt (a : Attempt) : World := { w with attempts := w.attempts ++ [a] }

def enqueue (kind : String) (payload : Obj) : World :=
  { w with
    buffer := w.buffer.enqueue kind payload
    trimmed := w.trimmed ++ (w.buffer.trimmed kind payload).map (·, w.buffer.lastId + 1) }

def remove (entryId : Nat) : World := { w with buffer := w.buffer.remove entryId }

end World

/-- What each step does. -/
def AgentEnv.step (env : AgentEnv) :
    (op : AgentOp) → Choice → World → Except PyErr op.Answer × World
  | .loadOffset feed, _, w => (.ok (w.saved feed), w)
  | .readEvents feed, c, w =>
    (.ok (((w.grow feed c.written).written feed).map fun n => (env.stream feed).take n),
      w.grow feed c.written)
  | .saveOffset feed offset events, _, w => (.ok (), w.hand feed offset events)
  | .isWhitelisted event, c, w =>
    (.ok c.whitelisted, if c.whitelisted then w.suppress event else w)
  | .readContext, c, w => (.ok c.files, w)
  | .mqttEnabled, c, w => (.ok c.mqttEnabled, w)
  | .publish entry event, c, w =>
    (.ok (publishSecurityEvent env.qosEvents c.mqtt),
      w.attempt ⟨entry, .mqtt, "event", event, publishSecurityEvent env.qosEvents c.mqtt⟩)
  | .post entry kind payload, c, w =>
    match c.http with
    | none => (.ok (), w.attempt ⟨entry, .http, kind, payload, true⟩)
    | some e => (.error e, w.attempt ⟨entry, .http, kind, payload, false⟩)
  | .pending, _, w => (.ok w.buffer.pending, w)
  | .enqueue kind payload, _, w => (.ok (), w.enqueue kind payload)
  | .remove entryId, _, w => (.ok (), w.remove entryId)

def AgentEnv.machine (env : AgentEnv) : Machine AgentOp AgentOp.Answer PyErr Choice World :=
  ⟨env.step⟩

/-- A program of the agent. -/
abbrev Proc (α : Type) := Prog AgentOp AgentOp.Answer PyErr α

namespace Uplink

def loadOffset (feed : Feed) : Proc Nat := .perform (AgentOp.loadOffset feed)
def readEvents (feed : Feed) : Proc (Option Bytes) := .perform (AgentOp.readEvents feed)
def saveOffset (feed : Feed) (offset : Nat) (events : List Json) : Proc Unit :=
  .perform (AgentOp.saveOffset feed offset events)
def isWhitelisted (event : Obj) : Proc Bool := .perform (AgentOp.isWhitelisted event)
def readContext : Proc ContextFiles := .perform AgentOp.readContext
def mqttEnabled : Proc Bool := .perform AgentOp.mqttEnabled
def publish (entry : Option Nat) (event : Obj) : Proc Bool := .perform (AgentOp.publish entry event)
def post (entry : Option Nat) (kind : String) (payload : Obj) : Proc Unit :=
  .perform (AgentOp.post entry kind payload)
def pending : Proc (List Row) := .perform AgentOp.pending
def enqueue (kind : String) (payload : Obj) : Proc Unit := .perform (AgentOp.enqueue kind payload)
def remove (entryId : Nat) : Proc Unit := .perform (AgentOp.remove entryId)

variable (env : AgentEnv)

/-! ## `_flush_buffer` -/

/-- The HTTP end of a flush. -/
def flushHttp (row : Row) : Proc Bool := do
  post (some row.id) row.kind row.payload
  remove row.id
  return true

/-- An event that is not whitelisted: MQTT, then HTTP. -/
def flushEvent (row : Row) : Proc Bool := do
  if ← mqttEnabled then
    let files ← readContext
    if ← publish (some row.id) (enrichSecurityEvent env.text.repr files row.payload) then
      remove row.id
      return true
    else flushHttp row
  else flushHttp row

/-- The body of the loop; an exception breaks out of it. -/
def flushEntry (row : Row) : Proc Bool :=
  Prog.attempt
    (if row.kind = "event" then
      if env.enforcer then do
        if ← isWhitelisted row.payload then
          remove row.id
          return true
        else flushEvent env row
      else flushEvent env row
    else if row.kind = "health" then flushHttp row
    else do
      remove row.id
      return true)
    fun _ => pure false

/-- `_flush_buffer`. -/
def flushBuffer : Proc Unit := do
  let rows ← pending
  Prog.forWhile rows (flushEntry env)

/-! ## `_upload_pending_events` -/

/-- `pending_events`, with the tailer's offset before and after. -/
def pendingEvents (feed : Feed) (offset : Nat) : Proc (Nat × List Json) := do
  match ← readEvents feed with
  | none => return (offset, [])
  | some data =>
    if data.drop (startOffset data offset) = [] then return (startOffset data offset, [])
    else
      let events := (takenLines data offset).filterMap (lineEvent env.text)
      saveOffset feed (nextOffset data offset) events
      return (nextOffset data offset, events)

/-- `remove_by_event_id`. -/
def removeByEventId (eventId : String) : Proc Unit :=
  if eventId = "" then pure ()
  else do
    let rows ← pending
    Prog.forEach rows fun row =>
      if UploadBuffer.isEvent env.text.repr eventId row then remove row.id else pure ()

/-- HTTP, and the buffer if that fails. -/
def uploadHttp (enriched : Obj) : Proc Unit :=
  Prog.attempt
    (do
      post none "event" enriched
      removeByEventId env (eventId env.text.repr enriched))
    fun _ => enqueue "event" enriched

/-- An event that is not whitelisted: MQTT, then HTTP, then the buffer. -/
def upload (event : Obj) : Proc Unit := do
  let files ← readContext
  let enriched := enrichSecurityEvent env.text.repr files event
  if ← mqttEnabled then
    if ← publish none enriched then removeByEventId env (eventId env.text.repr enriched)
    else uploadHttp env enriched
  else uploadHttp env enriched

/-- `dict(event)`. -/
def toDict : Json → Except PyErr Obj
  | .obj fields => .ok fields
  | event => env.dictOf event

/-- What `event.get` raises on a value that has no such attribute. -/
def noGet (event : Json) : PyErr :=
  .attributeError ("\x27" ++ event.typeName ++ "\x27 object has no attribute \x27get\x27")

/-- The body of the loop. -/
def uploadEvent (event : Json) : Proc Unit :=
  if env.enforcer then
    match event.fields? with
    | none => .raise (noGet event)
    | some fields => do
      if ← isWhitelisted fields then return ()
      else upload env fields
  else
    match toDict env event with
    | .error e => .raise e
    | .ok fields => upload env fields

/-- `_upload_pending_events`, with the tailer's offset before and after. -/
def uploadPendingEvents (feed : Feed) (offset : Nat) : Proc Nat := do
  let (offset', events) ← pendingEvents env feed offset
  Prog.forEach events (uploadEvent env)
  return offset'

/-! ## The main loop -/

/-- The offsets of the three tailers. -/
structure Tailers where
  packet : Nat
  snort : Nat
  suricata : Nat

/-- One turn of the loop: flush, then upload from each tailer. -/
def iteration (t : Tailers) : Proc Tailers := do
  flushBuffer env
  let packet ← uploadPendingEvents env .packet t.packet
  let snort ← uploadPendingEvents env .snort t.snort
  let suricata ← uploadPendingEvents env .suricata t.suricata
  return ⟨packet, snort, suricata⟩

/-- The health report: HTTP, and the buffer if that fails. -/
def reportHealth (health : Obj) : Proc Unit :=
  Prog.attempt (post none "health" health) fun _ => enqueue "health" health

/-- What the loop does next. -/
inductive Move where
  | iterate
  | health (payload : Obj)

/-- The main loop for a while. -/
def mainLoop : List Move → Tailers → Proc Tailers
  | [], t => pure t
  | .iterate :: moves, t => do
    let t' ← iteration env t
    mainLoop moves t'
  | .health payload :: moves, t => do
    reportHealth payload
    mainLoop moves t

/-- The tailers as their constructors leave them. -/
def startTailers : Proc Tailers := do
  let packet ← loadOffset .packet
  let snort ← loadOffset .snort
  let suricata ← loadOffset .suricata
  return ⟨packet, snort, suricata⟩

/-- The process: start, then the main loop for a while. -/
def session (moves : List Move) : Proc Tailers := do
  let t ← startTailers
  mainLoop env moves t

end Uplink

end EdgeSensor.Agent
