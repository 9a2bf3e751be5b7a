import EdgeSensor.Py.Lines

/-!
# The sighting queue (`sighting/queue.py`)

Sightings that could not be posted wait in a JSONL file. Each change reads the whole file,
makes the new list of items and writes it to the file again.

What was written is what is read, item by item (`loadAll_written`), if each item was made with
an event id and a payload and has no text in which a line would end.

Mirroring notes:
- A line is the value it holds. One with a bare line break in a text falls apart when it is
  read: no part of it is an item again. `SightingFile` has the text of the lines.
- An item with half a surrogate pair cannot be encoded, and then nothing is replaced.
- `isoformat`, `fromisoformat`, `str` and `int` are the parameter `SightingText`; of
  `isoformat` it says that the text is ASCII and not empty.
-/

namespace EdgeSensor.Agent

open EdgeSensor.Lib EdgeSensor.Py

/-- The text functions of the standard library that the queue goes through. Times are in
microseconds since 1970. -/
structure SightingText where
  text : Value.Text
  /-- `int(x)` of a float or a text. -/
  toInt : Value → Except PyErr Int
  /-- `datetime.fromtimestamp(t, tz=timezone.utc).isoformat()`. -/
  iso : Int → PyStr
  /-- `datetime.fromisoformat`, with `Z` as well, in UTC where no zone is named. -/
  fromIso : PyStr → Option Int
  iso_ascii : ∀ t, ∀ c ∈ iso t, c < 128
  iso_ne_nil : ∀ t, iso t ≠ []

/-- `QueuedSighting`. -/
structure QueuedSighting where
  eventId : PyStr
  payload : Value
  attempts : Int := 0
  queuedAt : PyStr
  nextRetryAt : PyStr
  lastError : Option PyStr := none

namespace QueuedSighting

/-- A text or `None`. -/
def textOrNull : Option PyStr → Value
  | some s => .str s
  | none => .null

/-- `to_dict`. -/
def toDict (item : QueuedSighting) : Value :=
  .obj [
    (lit "event_id", .str item.eventId),
    (lit "payload", item.payload),
    (lit "attempts", .int item.attempts),
    (lit "queued_at", .str item.queuedAt),
    (lit "next_retry_at", .str item.nextRetryAt),
    (lit "last_error", textOrNull item.lastError)]

/-- `int(x or 0)`. -/
def readAttempts (text : SightingText) (x : Value) : Except PyErr Int :=
  if x.truthy then
    match x with
    | .int n => .ok n
    | .bool b => .ok (if b then 1 else 0)
    | x => text.toInt x
  else .ok 0

/-- `raw.get("event_id") or payload.get("raw_event", {}).get("event_id") or ""`, as a text. -/
def readEventId (text : SightingText) (raw payload : Value) : Except PyErr PyStr :=
  if (raw.get "event_id").truthy then .ok (text.text.str (raw.get "event_id"))
  else if (payload.getD "raw_event" (.obj [])).isObj then
    let inner := (payload.getD "raw_event" (.obj [])).get "event_id"
    .ok (if inner.truthy then text.text.str inner else [])
  else .error (.attributeError "object has no attribute 'get'")

/-- `str(x or default)`. -/
def strOr (text : SightingText) (x : Value) (default : PyStr) : PyStr :=
  if x.truthy then text.text.str x else default

/-- `from_dict`; `now` is the clock. -/
def fromDict (text : SightingText) (now : PyStr) (raw : Value) :
    Except PyErr (Option QueuedSighting) :=
  if !raw.isObj then .ok none
  else if !(raw.get "payload").isObj then .ok none
  else do
    let eventId ← readEventId text raw (raw.get "payload")
    if eventId = [] then .ok none
    else do
      let attempts ← readAttempts text (raw.get "attempts")
      .ok (some {
        eventId := eventId
        payload := raw.get "payload"
        attempts := attempts
        queuedAt := strOr text (raw.get "queued_at") now
        nextRetryAt := strOr text (raw.get "next_retry_at") now
        lastError := if (raw.get "last_error").truthy then some (text.text.str (raw.get "last_error"))
          else none })

end QueuedSighting

/-! ## The file -/

/-- `load_all`: the items of the lines that have not fallen apart. -/
def loadAll (text : SightingText) (now : PyStr) : List Value → Except PyErr (List QueuedSighting)
  | [] => .ok []
  | line :: lines =>
    if line.unbroken then do
      let item ← QueuedSighting.fromDict text now line
      let items ← loadAll text now lines
      .ok (item.toList ++ items)
    else loadAll text now lines

/-- `rewrite`: the lines of the file, none for an empty queue. -/
def rewriteQueue (items : List QueuedSighting) : Except PyErr (List Value) :=
  if items.all fun item => item.toDict.encodable then .ok (items.map QueuedSighting.toDict)
  else .error (.unicodeEncodeError "surrogates not allowed")

/-- `remove`. -/
def removeQueued (text : SightingText) (now eventId : PyStr) (lines : List Value) :
    Except PyErr (List Value) :=
  if eventId = [] then .ok lines
  else do
    let items ← loadAll text now lines
    rewriteQueue (items.filter fun item => item.eventId ≠ eventId)

/-! ## What is written is what is read -/

/-- Made with an event id, a payload and times, and plain in all its texts. -/
structure QueuedSighting.Proper (item : QueuedSighting) : Prop where
  eventId : item.eventId ≠ []
  payload : item.payload.isObj = true
  queuedAt : item.queuedAt ≠ []
  nextRetryAt : item.nextRetryAt ≠ []
  lastError : item.lastError ≠ some []
  plain : item.toDict.plain = true

section Written

variable {text : SightingText} {now : PyStr} {item : QueuedSighting} {items : List QueuedSighting}

theorem truthy_str {s : PyStr} (h : s ≠ []) : (Value.str s).truthy = true := by
  cases s with
  | nil => exact absurd rfl h
  | cons c s => rfl

theorem strOr_str (s default : PyStr) :
    QueuedSighting.strOr text (.str s) default = if s = [] then default else s := by
  unfold QueuedSighting.strOr
  by_cases hs : s = []
  · subst hs
    rfl
  · rw [if_pos (truthy_str hs), if_neg hs]
    rfl

theorem readAttempts_int (n : Int) : QueuedSighting.readAttempts text (.int n) = .ok n := by
  unfold QueuedSighting.readAttempts
  by_cases hn : n = 0
  · rw [hn]
    rfl
  · rw [if_pos (show (Value.int n).truthy = true from decide_eq_true hn)]

/-- What is read of what was written of an item. -/
def QueuedSighting.reread (now : PyStr) (item : QueuedSighting) : QueuedSighting :=
  { item with
    queuedAt := if item.queuedAt = [] then now else item.queuedAt
    nextRetryAt := if item.nextRetryAt = [] then now else item.nextRetryAt
    lastError := if item.lastError = some [] then none else item.lastError }

theorem reread_eq (hqueued : item.queuedAt ≠ []) (hnext : item.nextRetryAt ≠ [])
    (hlast : item.lastError ≠ some []) : item.reread now = item := by
  unfold QueuedSighting.reread
  rw [if_neg hqueued, if_neg hnext, if_neg hlast]

theorem reread_eq_iff (hnow : now ≠ []) : item.reread now = item
    ↔ item.queuedAt ≠ [] ∧ item.nextRetryAt ≠ [] ∧ item.lastError ≠ some [] := by
  constructor
  · intro h
    refine ⟨fun hempty => ?_, fun hempty => ?_, fun hempty => ?_⟩
    · have hqueued := congrArg QueuedSighting.queuedAt h
      rw [QueuedSighting.reread, hempty] at hqueued
      exact hnow hqueued
    · have hnext := congrArg QueuedSighting.nextRetryAt h
      rw [QueuedSighting.reread, hempty] at hnext
      exact hnow hnext
    · have hlast := congrArg QueuedSighting.lastError h
      rw [QueuedSighting.reread, hempty] at hlast
      cases hlast
  · rintro ⟨hqueued, hnext, hlast⟩
    exact reread_eq hqueued hnext hlast

theorem errorOf_textOrNull (error : Option PyStr) :
    (if (QueuedSighting.textOrNull error).truthy then
      some (text.text.str (QueuedSighting.textOrNull error)) else none)
        = if error = some [] then none else error := by
  cases error with
  | none => rfl
  | some s =>
    by_cases hs : s = []
    · subst hs
      rfl
    · rw [if_neg fun h => hs (Option.some.inj h)]
      exact if_pos (truthy_str hs)

/-- **An item comes back**, but for its empty texts. -/
theorem fromDict_reread (hid : item.eventId ≠ []) (hpayload : item.payload.isObj = true) :
    QueuedSighting.fromDict text now item.toDict = .ok (some (item.reread now)) := by
  have hget : item.toDict.get "event_id" = .str item.eventId
      ∧ item.toDict.get "payload" = item.payload ∧ item.toDict.get "attempts" = .int item.attempts
      ∧ item.toDict.get "queued_at" = .str item.queuedAt
      ∧ item.toDict.get "next_retry_at" = .str item.nextRetryAt
      ∧ item.toDict.get "last_error" = QueuedSighting.textOrNull item.lastError :=
    ⟨rfl, rfl, rfl, rfl, rfl, rfl⟩
  obtain ⟨hgetId, hgetPayload, hattempts, hqueued, hnext, herror⟩ := hget
  unfold QueuedSighting.fromDict QueuedSighting.readEventId
  rw [hgetId, hgetPayload, hattempts, hqueued, hnext, herror, hpayload, readAttempts_int,
    if_pos (truthy_str hid), strOr_str, strOr_str, errorOf_textOrNull]
  show (if item.eventId = [] then _ else _) = _
  rw [if_neg hid]
  rfl

/-- A proper item comes back as it was. -/
theorem fromDict_toDict (h : item.Proper) :
    QueuedSighting.fromDict text now item.toDict = .ok (some item) := by
  rw [fromDict_reread h.eventId h.payload, reread_eq h.queuedAt h.nextRetryAt h.lastError]

/-- The lines of proper items. -/
theorem loadAll_written (h : ∀ item ∈ items, item.Proper) :
    loadAll text now (items.map QueuedSighting.toDict) = .ok items := by
  induction items with
  | nil => rfl
  | cons item items ih =>
    have hitem := h item List.mem_cons_self
    have hline : item.toDict.unbroken = true := (Bool.and_eq_true _ _ ▸ hitem.plain).2
    rw [List.map_cons, loadAll, if_pos hline, fromDict_toDict hitem,
      ih fun item hmem => h item (List.mem_cons_of_mem _ hmem)]
    rfl

theorem rewriteQueue_proper (h : ∀ item ∈ items, item.Proper) :
    rewriteQueue items = .ok (items.map QueuedSighting.toDict) := by
  unfold rewriteQueue
  rw [if_pos]
  exact List.all_eq_true.mpr fun item hmem => (Bool.and_eq_true _ _ ▸ (h item hmem).plain).1

theorem removeQueued_written (h : ∀ item ∈ items, item.Proper) {eventId : PyStr}
    (hid : eventId ≠ []) :
    removeQueued text now eventId (items.map QueuedSighting.toDict)
      = .ok ((items.filter fun item => item.eventId ≠ eventId).map QueuedSighting.toDict) := by
  unfold removeQueued
  rw [if_neg hid, loadAll_written h]
  exact rewriteQueue_proper fun item hmem => h item (List.mem_of_mem_filter hmem)

end Written

end EdgeSensor.Agent
