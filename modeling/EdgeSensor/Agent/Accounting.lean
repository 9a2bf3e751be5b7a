import EdgeSensor.Agent.UploadRules

/-!
# The account of every event id

For each id: the events handed out are those acknowledged, those in the buffer, those
trimmed from it, those suppressed by the whitelist, and those still in the hands of
the upload loop (`Accounted.law`). Every step moves one event from one column to
another, or none; while ids are handed out once, `remove_by_event_id` never has
anything to remove.

`Tailed` is the tailers' side: what has been handed out is what the lines between the
first offset and the saved one hold.
-/

namespace EdgeSensor.Agent

open EdgeSensor.Lib EdgeSensor.Lib.Prog EdgeSensor.Py

/-- The id of a parsed line; empty for anything but an object. -/
def idOf (repr : Json → String) (event : Json) : String := eventId repr (event.fields?.getD [])

/-- A non-empty string in the id field. -/
def HasId (event : Obj) : Prop := ∃ s, Obj.get event "event_id" = .str s ∧ s ≠ ""

theorem HasId.eventId_eq {event : Obj} (h : HasId event) (repr : Json → String) :
    eventId repr event = (Obj.get event "event_id").toStr repr ∧ eventId repr event ≠ "" := by
  obtain ⟨s, hget, hne⟩ := h
  have htruthy : (Json.str s).truthy = true := by simpa [Json.truthy] using hne
  unfold eventId Json.toStrOr
  rw [hget, if_pos htruthy]
  exact ⟨rfl, hne⟩

theorem HasId.enrich {event : Obj} (h : HasId event) (repr : Json → String) (files : ContextFiles) :
    HasId (enrichSecurityEvent repr files event) := by
  obtain ⟨s, hget, hne⟩ := h
  exact ⟨s, by rw [enrich_get_eventId, hget], hne⟩

theorem eventId_enrich (repr : Json → String) (files : ContextFiles) (event : Obj) :
    eventId repr (enrichSecurityEvent repr files event) = eventId repr event :=
  (Enriched.again files .plain).eventId_eq

/-! ## Columns -/

/-- An event row of this id. -/
def rowHas (repr : Json → String) (id : String) (row : Row) : Bool :=
  row.kind = "event" && eventId repr row.payload = id

/-- An acknowledged event attempt of this id. -/
def ackHas (repr : Json → String) (id : String) (a : Attempt) : Bool :=
  a.acked && a.kind = "event" && eventId repr a.payload = id

namespace World

variable (w : World) (repr : Json → String) (id : String)

def returnedAll : List Json := w.returned .packet ++ w.returned .snort ++ w.returned .suricata

def returnedCount : Nat := w.returnedAll.countP fun e => idOf repr e = id
def ackedCount : Nat := w.attempts.countP (ackHas repr id)
def bufferedCount : Nat := w.buffer.rows.countP (rowHas repr id)
def trimmedCount : Nat := w.trimmed.countP fun t => rowHas repr id t.1
def suppressedCount : Nat := w.suppressed.countP fun e => eventId repr e = id

end World

/-- The events of this id still in hand. -/
def inHand (repr : Json → String) (id : String) (hand : List Json) : Nat :=
  hand.countP fun e => idOf repr e = id

/-- The account, with `hand` still to be dealt with. -/
structure Accounted (repr : Json → String) (hand : List Json) (w : World) : Prop where
  law : ∀ id, w.returnedCount repr id
    = w.ackedCount repr id + w.bufferedCount repr id + w.trimmedCount repr id
      + w.suppressedCount repr id + inHand repr id hand
  once : ∀ id, w.returnedCount repr id ≤ 1
  rows : ∀ row ∈ w.buffer.rows, row.kind = "event" → HasId row.payload
  trims : ∀ t ∈ w.trimmed, (t.1.id : Int) + w.buffer.maxEvents ≤ t.2
  hand : ∀ e ∈ hand, ∃ o, e = .obj o ∧ HasId o

section Steps

variable {repr : Json → String} {hand : List Json} {w : World} {event : Obj}

theorem inHand_cons (id : String) :
    inHand repr id (.obj event :: hand)
      = inHand repr id hand + if eventId repr event = id then 1 else 0 := by
  have hid : idOf repr (.obj event) = eventId repr event := rfl
  unfold inHand
  rw [List.countP_cons, hid]
  simp only [decide_eq_true_eq]

theorem ackedCount_attempt (a : Attempt) (id : String) :
    (w.attempt a).ackedCount repr id
      = w.ackedCount repr id + if ackHas repr id a = true then 1 else 0 := by
  unfold World.ackedCount World.attempt
  rw [List.countP_append, List.countP_singleton]

theorem suppressedCount_suppress (id : String) :
    (w.suppress event).suppressedCount repr id
      = w.suppressedCount repr id + if eventId repr event = id then 1 else 0 := by
  unfold World.suppressedCount World.suppress
  rw [List.countP_append, List.countP_singleton]
  simp only [decide_eq_true_eq]

theorem counts_enqueue (kind : String) (payload : Obj) (id : String) :
    (w.enqueue kind payload).bufferedCount repr id + (w.enqueue kind payload).trimmedCount repr id
      = w.bufferedCount repr id + w.trimmedCount repr id
        + if rowHas repr id (w.buffer.newRow kind payload) = true then 1 else 0 := by
  have hmoved := w.buffer.countP_enqueue (rowHas repr id) kind payload
  have htrimmed : (w.enqueue kind payload).trimmedCount repr id
      = w.trimmedCount repr id + (w.buffer.trimmed kind payload).countP (rowHas repr id) := by
    unfold World.trimmedCount World.enqueue
    rw [List.countP_append, List.countP_map]
    rfl
  rw [List.countP_singleton] at hmoved
  rw [htrimmed]
  show (w.buffer.enqueue kind payload).rows.countP (rowHas repr id) + _
    = w.buffer.rows.countP (rowHas repr id) + _ + _
  omega

theorem bufferedCount_remove {row : Row} (hrow : row ∈ w.buffer.rows) (id : String) :
    (w.remove row.id).bufferedCount repr id + (if rowHas repr id row = true then 1 else 0)
      = w.bufferedCount repr id := by
  have hremoved := w.buffer.countP_remove (rowHas repr id) hrow
  rw [List.countP_singleton] at hremoved
  exact hremoved

/-- What the hand holds is in no other column. -/
theorem Accounted.only_in_hand (h : Accounted repr (.obj event :: hand) w) :
    w.bufferedCount repr (eventId repr event) = 0 := by
  have hlaw := h.law (eventId repr event)
  have honce := h.once (eventId repr event)
  rw [inHand_cons, if_pos rfl] at hlaw
  omega

/-- An event in hand turns out to be whitelisted. -/
theorem Accounted.suppress (h : Accounted repr (.obj event :: hand) w) :
    Accounted repr hand (w.suppress event) := by
  refine ⟨fun id => ?_, h.once, h.rows, h.trims, fun e he => h.hand e (List.mem_cons_of_mem _ he)⟩
  have hlaw := h.law id
  rw [inHand_cons] at hlaw
  show w.returnedCount repr id
    = w.ackedCount repr id + w.bufferedCount repr id + w.trimmedCount repr id
      + (w.suppress event).suppressedCount repr id + inHand repr id hand
  rw [suppressedCount_suppress]
  omega

/-- An attempt that fails, or is not about an event. -/
theorem Accounted.attempt (h : Accounted repr hand w) {a : Attempt}
    (hnone : a.acked = false ∨ a.kind ≠ "event") : Accounted repr hand (w.attempt a) := by
  refine ⟨fun id => ?_, h.once, h.rows, h.trims, h.hand⟩
  have hno : ¬ ackHas repr id a = true := by
    unfold ackHas
    rcases hnone with hfail | hkind
    · simp [hfail]
    · simp [hkind]
  show w.returnedCount repr id
    = (w.attempt a).ackedCount repr id + w.bufferedCount repr id + w.trimmedCount repr id
      + w.suppressedCount repr id + inHand repr id hand
  rw [ackedCount_attempt, if_neg hno]
  exact h.law id

theorem ackHas_eq {a : Attempt} (hacked : a.acked = true) (hkind : a.kind = "event") (id : String) :
    ackHas repr id a = true ↔ eventId repr a.payload = id := by
  unfold ackHas
  rw [hacked]
  simp [hkind]

/-- An event in hand is acknowledged. -/
theorem Accounted.deliver (h : Accounted repr (.obj event :: hand) w) {a : Attempt}
    (hacked : a.acked = true) (hkind : a.kind = "event")
    (hid : eventId repr a.payload = eventId repr event) : Accounted repr hand (w.attempt a) := by
  refine ⟨fun id => ?_, h.once, h.rows, h.trims, fun e he => h.hand e (List.mem_cons_of_mem _ he)⟩
  have hlaw := h.law id
  rw [inHand_cons] at hlaw
  show w.returnedCount repr id
    = (w.attempt a).ackedCount repr id + w.bufferedCount repr id + w.trimmedCount repr id
      + w.suppressedCount repr id + inHand repr id hand
  simp only [ackedCount_attempt, ackHas_eq hacked hkind, hid]
  omega

/-- Enqueuing keeps the side conditions. -/
theorem enqueue_sides {kind : String} {payload : Obj}
    (hrows : ∀ row ∈ w.buffer.rows, row.kind = "event" → HasId row.payload)
    (htrims : ∀ t ∈ w.trimmed, (t.1.id : Int) + w.buffer.maxEvents ≤ t.2)
    (hid : kind = "event" → HasId payload) :
    (∀ row ∈ (w.enqueue kind payload).buffer.rows, row.kind = "event" → HasId row.payload)
      ∧ ∀ t ∈ (w.enqueue kind payload).trimmed,
        (t.1.id : Int) + (w.enqueue kind payload).buffer.maxEvents ≤ t.2 := by
  refine ⟨fun row hrow => ?_, fun t ht => ?_⟩
  · have hmem : row ∈ w.buffer.rows ++ [w.buffer.newRow kind payload] := by
      rw [← w.buffer.trimmed_append_rows kind payload]
      exact List.mem_append_right _ hrow
    rcases List.mem_append.mp hmem with hold | hnew
    · exact hrows row hold
    · rw [List.mem_singleton.mp hnew]
      exact hid
  · rcases List.mem_append.mp ht with hold | hnew
    · exact htrims t hold
    · obtain ⟨row, hrow, rfl⟩ := List.mem_map.mp hnew
      exact w.buffer.trimmed_newer kind payload row hrow

/-- An event in hand is buffered. -/
theorem Accounted.buffer (h : Accounted repr (.obj event :: hand) w) {payload : Obj}
    (hid : eventId repr payload = eventId repr event) (hhas : HasId payload) :
    Accounted repr hand (w.enqueue "event" payload) := by
  obtain ⟨hrows, htrims⟩ := enqueue_sides h.rows h.trims fun _ => hhas
  refine ⟨fun id => ?_, h.once, hrows, htrims, fun e he => h.hand e (List.mem_cons_of_mem _ he)⟩
  have hlaw := h.law id
  have hcounts := @counts_enqueue repr w "event" payload id
  have hnew : rowHas repr id (w.buffer.newRow "event" payload) = true
      ↔ eventId repr event = id := by
    unfold rowHas UploadBuffer.newRow
    simp [hid]
  rw [inHand_cons] at hlaw
  simp only [hnew] at hcounts
  show w.returnedCount repr id
    = w.ackedCount repr id + (w.enqueue "event" payload).bufferedCount repr id
      + (w.enqueue "event" payload).trimmedCount repr id + w.suppressedCount repr id
      + inHand repr id hand
  omega

/-- Something else is buffered. -/
theorem Accounted.enqueue (h : Accounted repr hand w) {kind : String} (hkind : kind ≠ "event")
    (payload : Obj) : Accounted repr hand (w.enqueue kind payload) := by
  have hid : kind = "event" → HasId payload := fun heq => absurd heq hkind
  obtain ⟨hrows, htrims⟩ := enqueue_sides h.rows h.trims hid
  refine ⟨fun id => ?_, h.once, hrows, htrims, h.hand⟩
  have hlaw := h.law id
  have hcounts := @counts_enqueue repr w kind payload id
  have hno : ¬ rowHas repr id (w.buffer.newRow kind payload) = true := by
    unfold rowHas UploadBuffer.newRow
    simp [hkind]
  rw [if_neg hno] at hcounts
  show w.returnedCount repr id
    = w.ackedCount repr id + (w.enqueue kind payload).bufferedCount repr id
      + (w.enqueue kind payload).trimmedCount repr id + w.suppressedCount repr id
      + inHand repr id hand
  omega

/-- The rows that stay are rows there were. -/
theorem remove_sides (entryId : Nat)
    (hrows : ∀ row ∈ w.buffer.rows, row.kind = "event" → HasId row.payload) :
    ∀ row ∈ (w.remove entryId).buffer.rows, row.kind = "event" → HasId row.payload :=
  fun row hrow => hrows row (List.mem_of_mem_filter hrow)

/-- A buffered event turns out to be whitelisted. -/
theorem Accounted.suppress_remove (h : Accounted repr hand w) {row : Row}
    (hrow : row ∈ w.buffer.rows) (hkind : row.kind = "event") :
    Accounted repr hand ((w.suppress row.payload).remove row.id) := by
  refine ⟨fun id => ?_, h.once, remove_sides row.id h.rows, h.trims, h.hand⟩
  have hlaw := h.law id
  have hbuffered := @bufferedCount_remove repr w row hrow id
  have hhas : rowHas repr id row = true ↔ eventId repr row.payload = id := by
    unfold rowHas
    simp [hkind]
  simp only [hhas] at hbuffered
  show w.returnedCount repr id
    = w.ackedCount repr id + (w.remove row.id).bufferedCount repr id + w.trimmedCount repr id
      + (w.suppress row.payload).suppressedCount repr id + inHand repr id hand
  rw [suppressedCount_suppress]
  omega

/-- A buffered entry is acknowledged. -/
theorem Accounted.deliver_remove (h : Accounted repr hand w) {row : Row}
    (hrow : row ∈ w.buffer.rows) {a : Attempt} (hacked : a.acked = true) (hkind : a.kind = row.kind)
    (hid : eventId repr a.payload = eventId repr row.payload) :
    Accounted repr hand ((w.attempt a).remove row.id) := by
  refine ⟨fun id => ?_, h.once, remove_sides row.id h.rows, h.trims, h.hand⟩
  have hlaw := h.law id
  have hbuffered := @bufferedCount_remove repr w row hrow id
  have hhas : rowHas repr id row = ackHas repr id a := by
    unfold rowHas ackHas
    rw [hacked, hkind, hid, Bool.true_and]
  rw [hhas] at hbuffered
  show w.returnedCount repr id
    = (w.attempt a).ackedCount repr id + (w.remove row.id).bufferedCount repr id
      + w.trimmedCount repr id + w.suppressedCount repr id + inHand repr id hand
  rw [ackedCount_attempt]
  omega

/-- An entry that is no event is dropped. -/
theorem Accounted.remove (h : Accounted repr hand w) {row : Row} (hrow : row ∈ w.buffer.rows)
    (hkind : row.kind ≠ "event") : Accounted repr hand (w.remove row.id) := by
  refine ⟨fun id => ?_, h.once, remove_sides row.id h.rows, h.trims, h.hand⟩
  have hlaw := h.law id
  have hbuffered := @bufferedCount_remove repr w row hrow id
  have hno : ¬ rowHas repr id row = true := by
    unfold rowHas
    simp [hkind]
  rw [if_neg hno] at hbuffered
  show w.returnedCount repr id
    = w.ackedCount repr id + (w.remove row.id).bufferedCount repr id
      + w.trimmedCount repr id + w.suppressedCount repr id + inHand repr id hand
  omega

theorem Accounted.grow (h : Accounted repr hand w) (feed : Feed) (written : Option Nat) :
    Accounted repr hand (w.grow feed written) := by
  unfold World.grow
  split
  next => exact h
  next => exact ⟨h.law, h.once, h.rows, h.trims, h.hand⟩

end Steps

/-! ## What the tailers have handed out -/

/-- The events on the lines finished in the first `n` bytes of a feed. -/
def eventsUpTo (env : AgentEnv) (feed : Feed) (n : Nat) : List Json :=
  (records LF ((env.stream feed).take n)).filterMap (lineEvent env.text)

/-- The saved offsets stand at line ends that have been written, and since `start` the
events in between have been handed out. -/
structure Tailed (env : AgentEnv) (start saved : Feed → Nat) (written : Feed → Option Nat)
    (returned : Feed → List Json) : Prop where
  line : ∀ f, AtLine (env.stream f) (saved f)
  written : ∀ f, saved f ≤ (written f).getD 0
  returned : ∀ f, eventsUpTo env f (saved f) = eventsUpTo env f (start f) ++ returned f

section Tailing

variable {env : AgentEnv} {start : Feed → Nat} {w : World}

theorem Tailed.grow (h : Tailed env start w.saved w.written w.returned) (feed : Feed)
    (written : Option Nat) :
    Tailed env start (w.grow feed written).saved (w.grow feed written).written
      (w.grow feed written).returned := by
  unfold World.grow
  split
  next => exact h
  next n =>
    refine ⟨h.line, fun f => ?_, h.returned⟩
    have hold := h.written f
    dsimp only
    split
    next => exact Nat.le_trans hold (Nat.le_max_left _ _)
    next => exact hold

/-- A read from the saved offset finds a chunk that starts there. -/
theorem Tailed.startOffset_eq (h : Tailed env start w.saved w.written w.returned) {feed : Feed}
    {n : Nat} (hwritten : w.written feed = some n) :
    startOffset ((env.stream feed).take n) (w.saved feed) = w.saved feed := by
  have hle := h.written feed
  rw [hwritten, Option.getD_some] at hle
  refine if_neg (Nat.not_lt.mpr ?_)
  rw [List.length_take]
  exact Nat.le_min.mpr ⟨hle, (h.line feed).le⟩

/-- A read hands out what the newly finished lines hold. -/
theorem Tailed.hand (hcr : ∀ f, CR ∉ env.stream f)
    (h : Tailed env start w.saved w.written w.returned) {feed : Feed} {n : Nat}
    (hwritten : w.written feed = some n) :
    let data := (env.stream feed).take n
    let events := (takenLines data (w.saved feed)).filterMap (lineEvent env.text)
    let w' := w.hand feed (nextOffset data (w.saved feed)) events
    Tailed env start w'.saved w'.written w'.returned
      ∧ eventsUpTo env feed (w'.saved feed) = eventsUpTo env feed n := by
  have hle := h.written feed
  rw [hwritten, Option.getD_some] at hle
  obtain ⟨hline, hnext, hrecords, hall⟩ := readLines_spec (hcr feed) (h.line feed) hle
  refine ⟨⟨fun f => ?_, fun f => ?_, fun f => ?_⟩, ?_⟩
  · unfold World.hand
    dsimp only
    split
    next hf =>
      rw [hf]
      exact hline
    next => exact h.line f
  · unfold World.hand
    dsimp only
    split
    next hf =>
      rw [hf, hwritten, Option.getD_some]
      exact hnext
    next => exact h.written f
  · unfold World.hand
    dsimp only
    split
    next hf =>
      rw [hf, ← List.append_assoc, ← h.returned feed]
      unfold eventsUpTo
      rw [hrecords, List.filterMap_append]
    next => exact h.returned f
  · unfold World.hand eventsUpTo
    dsimp only
    rw [if_pos rfl, hall]

/-- What has been handed out is part of what the file ends up with. -/
theorem Tailed.returned_sublist (h : Tailed env start w.saved w.written w.returned) (f : Feed) :
    (w.returned f).Sublist ((records LF (env.stream f)).filterMap (lineEvent env.text)) := by
  have hupTo : (w.returned f).Sublist (eventsUpTo env f (w.saved f)) := by
    rw [h.returned f]
    exact List.sublist_append_right _ _
  refine hupTo.trans ?_
  unfold eventsUpTo
  have hsplit := records_append_of_boundary (h.line f).boundary ((env.stream f).drop (w.saved f))
  rw [List.take_append_drop] at hsplit
  rw [hsplit, List.filterMap_append]
  exact List.sublist_append_left _ _

theorem mem_hand_returned {feed : Feed} {offset : Nat} {events : List Json} {e : Json}
    (h : e ∈ events) : e ∈ (w.hand feed offset events).returned feed := by
  unfold World.hand
  dsimp only
  rw [if_pos rfl]
  exact List.mem_append_right _ h

end Tailing

theorem grow_saved (w : World) (feed : Feed) (written : Option Nat) :
    (w.grow feed written).saved = w.saved := by
  unfold World.grow
  split
  next => rfl
  next => rfl

/-- The offset of one feed moves. -/
def moved (saved : Feed → Nat) (feed : Feed) (offset : Nat) : Feed → Nat :=
  fun f => if f = feed then offset else saved f

theorem moved_self (saved : Feed → Nat) (feed : Feed) : moved saved feed (saved feed) = saved := by
  funext f
  unfold moved
  split
  next hf => rw [hf]
  next => rfl

/-- The offsets of the tailers, feed by feed. -/
def Uplink.Tailers.offset (t : Uplink.Tailers) : Feed → Nat
  | .packet => t.packet
  | .snort => t.snort
  | .suricata => t.suricata

/-! ## A sample -/

/-- ASCII text, and one JSON line: an event with the id `a1`. -/
def sampleText : JsonText where
  decode := fun line => String.ofList (line.map fun b => Char.ofNat b.toNat)
  loads := fun s => if s = "\x7b\x22event_id\x22: \x22a1\x22\x7d" then some (.obj [("event_id", .str "a1")]) else none
  repr := fun _ => ""

/-- The line, and the LF that ends it. -/
def sampleLine : Bytes :=
  [123, 34, 101, 118, 101, 110, 116, 95, 105, 100, 34, 58, 32, 34, 97, 49, 34, 125, 10]

/-- An agent whose packet sensor writes the line. -/
def sampleEnv : AgentEnv where
  text := sampleText
  dictOf := fun _ => .error (.typeError "object is not iterable")
  enforcer := true
  qosEvents := 1
  stream := fun f => if f = .packet then sampleLine else []

/-- Nothing read, nothing buffered. -/
def sampleStart : World where
  buffer := { maxEvents := 1000 }
  saved := fun _ => 0
  written := fun _ => none

end EdgeSensor.Agent
