import EdgeSensor.Agent.SightingQueue
import EdgeSensor.Lib.RetryBudget
import EdgeSensor.Lib.Run

/-!
# The sighting reporter (`sighting/reporter.py`)

A new event that is a sighting is posted at once. What cannot be posted waits in the queue;
`flush_queue` posts again what is due, and after `max_attempts` failures it is dropped. The
attempts are counted in two places, `_submit` and `flush_queue`, and the queue is written
anew from a list that was read before the POSTs.

`retry_budget` is what holds between calls: a sighting has been ingested, or waits once in the
queue with the number of its failures, or has failed `max_attempts` times and is gone.

Mirroring notes:
- An `PostAttempt` is what becomes of a POST: when it goes out, its result, and when a retry is
  scheduled. In `flush_queue` there is one for each item.
- A POST has a result: `post_ingest` turns what can go wrong in httpx into one.
- `build` is `build_sighting_ingest_payload`: the payload's fields, `none` for an event that is no
  sighting, or an exception. What holds between calls holds for any; `SightingPayload` has the real
  one.
- The backoff stays within the years that `datetime` has.
-/

namespace EdgeSensor.Agent

open EdgeSensor.Lib EdgeSensor.Py

/-- `config.sighting_report`, and the payload of an event. -/
structure SightingConfig where
  enabled : Bool := true
  maxAttempts : Int := 10
  backoffBaseSec : Int := 5
  backoffMaxSec : Int := 300
  build : Value → Except PyErr (Option (List (PyStr × Value)))

/-- `SightingIngestResult`, as far as it decides. -/
inductive IngestResult where
  | ok
  | failed (error : Option PyStr)

/-- What becomes of a POST. -/
structure PostAttempt where
  now : Int
  result : IngestResult
  after : Int

/-- A POST: of a new sighting, or of an item of the queue. -/
structure SightingPost where
  eventId : PyStr
  ok : Bool
  sentAt : Int
  item : Option QueuedSighting := none

/-- A new event, whether it is on the whitelist, and what becomes of its POST. -/
structure Arrival where
  event : Value
  whitelisted : Bool := false
  attempt : PostAttempt

/-- The queue file and the POSTs so far. -/
structure SightingState where
  lines : List Value := []
  posts : List SightingPost := []

section Reporter

variable (text : SightingText) (cfg : SightingConfig)

/-- `_backoff_sec`. -/
def SightingConfig.backoffSec (attempts : Int) : Int :=
  min cfg.backoffMaxSec (cfg.backoffBaseSec * 2 ^ (attempts - 1).toNat)

/-- `_schedule_retry`. -/
def scheduleRetry (item : QueuedSighting) (error : PyStr) (now : Int) : QueuedSighting :=
  { item with
    attempts := item.attempts + 1
    nextRetryAt := text.iso (now + cfg.backoffSec (item.attempts + 1) * 1000000)
    lastError := some (error.take 500) }

/-- `_retry_due`. -/
def retryDue (item : QueuedSighting) (now : Int) : Bool :=
  match text.fromIso item.nextRetryAt with
  | some due => due ≤ now
  | none => true

/-- `result.error or "unknown error"`. -/
def errorText (error : Option PyStr) : PyStr :=
  match error with
  | some s => if s = [] then lit "unknown error" else s
  | none => lit "unknown error"

/-! ## New events -/

/-- What `_submit` does to the queue file once it has posted, and what it returns. -/
def submitQueue (payload : Value) (eventId : PyStr) (attempt : PostAttempt) (lines : List Value) :
    Except PyErr (List Value × Bool) :=
  let now := text.iso attempt.after
  match attempt.result with
  | .ok => (removeQueued text now eventId lines).map fun lines => (lines, true)
  | .failed error => do
    let items ← loadAll text now lines
    let existing := items.find? fun item => item.eventId = eventId
    if existing.any fun item => cfg.maxAttempts ≤ item.attempts then
      (removeQueued text now eventId lines).map fun lines => (lines, false)
    else
      let item := existing.getD
        { eventId := eventId, payload := payload, queuedAt := now, nextRetryAt := now }
      let updated := scheduleRetry text cfg item (errorText error) attempt.after
      if cfg.maxAttempts ≤ updated.attempts then
        (removeQueued text now eventId lines).map fun lines => (lines, false)
      else do
        let lines ← rewriteQueue ((items.filter fun item => item.eventId ≠ eventId) ++ [updated])
        .ok (lines, false)

/-- `_submit`. -/
def submit (s : SightingState) (payload : Value) (eventId : PyStr) (attempt : PostAttempt) :
    SightingState × Except PyErr Bool :=
  let ok := match attempt.result with
    | .ok => true
    | .failed _ => false
  let posts := s.posts ++ [{ eventId := eventId, ok := ok, sentAt := attempt.now }]
  match submitQueue text cfg payload eventId attempt s.lines with
  | .ok (lines, submitted) => ({ lines := lines, posts := posts }, .ok submitted)
  | .error e => ({ s with posts := posts }, .error e)

/-- The payload and the event id of an event that is to be posted. -/
def sightingOf (arrival : Arrival) : Except PyErr (Option (Value × PyStr)) :=
  if arrival.whitelisted then .ok none
  else
    (cfg.build arrival.event).map fun payload =>
      payload.bind fun fields =>
        let inner := ((Value.obj fields).get "raw_event").get "event_id"
        let own := arrival.event.get "event_id"
        let eventId :=
          if own.truthy then text.text.str own
          else if inner.truthy then text.text.str inner else []
        if eventId = [] then none else some (.obj fields, eventId)

/-- The loop of `process_new_events` over the events of its tailers. -/
def processEvents (s : SightingState) : List Arrival → SightingState × Except PyErr Nat
  | [] => (s, .ok 0)
  | arrival :: arrivals =>
    match sightingOf text cfg arrival with
    | .error e => (s, .error e)
    | .ok none => processEvents s arrivals
    | .ok (some (payload, eventId)) =>
      match submit text cfg s payload eventId arrival.attempt with
      | (s, .error e) => (s, .error e)
      | (s, .ok submitted) =>
        let (s, count) := processEvents s arrivals
        (s, count.map fun n => if submitted then n + 1 else n)

/-- `process_new_events`. -/
def processNewEvents (s : SightingState) (arrivals : List Arrival) :
    SightingState × Except PyErr Nat :=
  if cfg.enabled then processEvents text cfg s arrivals else (s, .ok 0)

/-! ## The queue -/

/-- An item in `flush_queue`: what remains of it, and its POST. -/
def flushItem (item : QueuedSighting) (attempt : PostAttempt) :
    Option QueuedSighting × Option SightingPost :=
  if cfg.maxAttempts ≤ item.attempts then (none, none)
  else if !retryDue text item attempt.now then (some item, none)
  else
    match attempt.result with
    | .ok => (none, some ⟨item.eventId, true, attempt.now, some item⟩)
    | .failed error =>
      let updated := scheduleRetry text cfg item (errorText error) attempt.after
      (if cfg.maxAttempts ≤ updated.attempts then none else some updated,
        some ⟨item.eventId, false, attempt.now, some item⟩)

/-- `flush_queue`. -/
def flushQueue (s : SightingState) (now : Int) (attempt : QueuedSighting → PostAttempt) :
    SightingState × Except PyErr Nat :=
  if !cfg.enabled then (s, .ok 0)
  else
    match loadAll text (text.iso now) s.lines with
    | .error e => (s, .error e)
    | .ok [] => (s, .ok 0)
    | .ok (item :: items) =>
      let results := (item :: items).map fun item => flushItem text cfg item (attempt item)
      let posts := s.posts ++ results.filterMap (·.2)
      match rewriteQueue (results.filterMap (·.1)) with
      | .ok lines =>
        ({ lines := lines, posts := posts }, .ok ((results.filterMap (·.2)).countP (·.ok)))
      | .error e => ({ s with posts := posts }, .error e)

/-- A call, with what becomes of its POSTs. -/
inductive SightingCall where
  | newEvents (arrivals : List Arrival)
  | flush (now : Int) (attempt : QueuedSighting → PostAttempt)

def SightingCall.next (s : SightingState) : SightingCall → SightingState
  | .newEvents arrivals => (processNewEvents text cfg s arrivals).1
  | .flush now attempt => (flushQueue text cfg s now attempt).1

end Reporter

end EdgeSensor.Agent
