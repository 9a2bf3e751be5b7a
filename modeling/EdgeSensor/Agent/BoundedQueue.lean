import EdgeSensor.Agent.UploadBuffer
import EdgeSensor.Lib.RowidTable

/-!
# The upload buffer as a bounded queue

`PendingUploads` is `UploadBuffer` as the statements of `upload/buffer.py` execute it: a table
with an automatic key, trimmed by count with a sub-query, deleted from the middle by id.
`Queue` says what it is for: a list that is appended to, cut from the front down to
`max_events`, and taken out of. Every run of calls leaves both with the same entries
(`pending_refines_queue`). The model the uploader uses, `UploadBuffer`, is the same table
read in id order (`Represents`).

Mirroring notes:
- The payload column holds the object, as in `UploadBuffer`, so every payload can be read.
- The rows `remove_by_event_id` selects are fetched before the first is removed.
- SQLite binds entry ids of 64 bits only; it hands out no other.
-/

namespace EdgeSensor.Agent

open EdgeSensor.Lib EdgeSensor.Py

/-- A call of the buffer. -/
inductive BufferCall where
  | enqueue (kind : String) (payload : Obj)
  | remove (entryId : Int)
  | removeByEventId (eventId : String)
  | pending

/-! ## The table -/

/-- `UploadBuffer` over its table. -/
structure PendingUploads where
  maxEvents : Int
  table : RowidTable (String × Obj) := .empty

namespace PendingUploads

/-- A row of the table, as `pending` returns it. -/
def toRow (kv : Nat × String × Obj) : Row := ⟨kv.1, kv.2.1, kv.2.2⟩

/-- `enqueue`. -/
def enqueue (kind : String) (payload : Obj) (b : PendingUploads) : PendingUploads :=
  let table := b.table.insert (kind, payload)
  let count : Int := table.rows.length
  if b.maxEvents < count then
    let overflow := count - b.maxEvents
    { b with table := table.deleteFirst overflow.toNat }
  else { b with table := table }

/-- `pending`. -/
def pending (b : PendingUploads) : List Row := b.table.rows.map toRow

/-- `remove`. -/
def remove (entryId : Int) (b : PendingUploads) : PendingUploads :=
  { b with table := b.table.delete fun id _ => (id : Int) = entryId }

/-- One round of the loop in `remove_by_event_id`. -/
def removeIf (repr : Json → String) (eventId : String) (b : PendingUploads)
    (kv : Nat × String × Obj) : PendingUploads :=
  if (Obj.get kv.2.2 "event_id").toStr repr = eventId then b.remove kv.1 else b

/-- `remove_by_event_id`. -/
def removeByEventId (repr : Json → String) (eventId : String) (b : PendingUploads) :
    PendingUploads :=
  if eventId = "" then b
  else (b.table.rows.filter fun kv => kv.2.1 = "event").foldl (removeIf repr eventId) b

/-- One call. -/
def step (repr : Json → String) (b : PendingUploads) : BufferCall → PendingUploads
  | .enqueue kind payload => b.enqueue kind payload
  | .remove entryId => b.remove entryId
  | .removeByEventId eventId => b.removeByEventId repr eventId
  | .pending => b

/-- The rows the calls insert, each under the id it is given. -/
def inserted (repr : Json → String) : PendingUploads → List BufferCall → List Row
  | _, [] => []
  | b, .enqueue kind payload :: calls =>
    ⟨(b.enqueue kind payload).table.lastId, kind, payload⟩
      :: inserted repr (b.enqueue kind payload) calls
  | b, call :: calls => inserted repr (b.step repr call) calls

end PendingUploads

/-! ## The queue -/

/-- What the buffer is for: the entries in the order they came, and the next number. -/
structure Queue where
  entries : List Row := []
  nextId : Nat := 1

namespace Queue

/-- The last `m` of a list. -/
def lastOf (m : Nat) (entries : List Row) : List Row := entries.drop (entries.length - m)

/-- One call. -/
def step (repr : Json → String) (m : Nat) (q : Queue) : BufferCall → Queue
  | .enqueue kind payload =>
    ⟨lastOf m (q.entries ++ [⟨q.nextId, kind, payload⟩]), q.nextId + 1⟩
  | .remove entryId => { q with entries := q.entries.filter fun row => (row.id : Int) ≠ entryId }
  | .removeByEventId eventId =>
    if eventId = "" then q
    else { q with entries := q.entries.filter fun row => !UploadBuffer.isEvent repr eventId row }
  | .pending => q

end Queue

/-! ## What each statement does to what is pending -/

namespace PendingUploads

variable {repr : Json → String} {b : PendingUploads}

theorem pending_enqueue (kind : String) (payload : Obj) :
    (b.enqueue kind payload).pending
      = (b.pending ++ [(⟨b.table.lastId + 1, kind, payload⟩ : Row)]).drop
        ((b.pending.length : Int) + 1 - b.maxEvents).toNat := by
  have hcount : ((b.table.insert (kind, payload)).rows.length : Int) = b.pending.length + 1 := by
    rw [RowidTable.rows_insert, List.length_append, List.length_singleton]
    unfold pending
    rw [List.length_map]
    rfl
  have hinserted : (b.table.insert (kind, payload)).rows.map toRow
      = b.pending ++ [⟨b.table.lastId + 1, kind, payload⟩] := by
    rw [RowidTable.rows_insert, List.map_append]
    rfl
  unfold enqueue
  simp only [hcount]
  split
  · show ((b.table.insert (kind, payload)).deleteFirst _).rows.map toRow = _
    rw [RowidTable.rows_deleteFirst, List.map_drop, hinserted]
  · next hfits =>
    -- nothing is over
    have hzero : ((b.pending.length : Int) + 1 - b.maxEvents).toNat = 0 := by omega
    rw [hzero, List.drop_zero]
    exact hinserted

theorem lastId_enqueue (kind : String) (payload : Obj) :
    (b.enqueue kind payload).table.lastId = b.table.lastId + 1 := by
  unfold enqueue
  simp only
  split
  · rfl
  · rfl

theorem maxEvents_enqueue (kind : String) (payload : Obj) :
    (b.enqueue kind payload).maxEvents = b.maxEvents := by
  unfold enqueue
  simp only
  split
  · rfl
  · rfl

theorem pending_remove (entryId : Int) :
    (b.remove entryId).pending = b.pending.filter fun row => (row.id : Int) ≠ entryId := by
  unfold pending remove
  rw [RowidTable.rows_delete, List.filter_map]
  refine congrArg _ (List.filter_congr fun kv _ => ?_)
  exact (decide_not (p := ((kv.1 : Int) = entryId))).symm

/-- The test of the loop. -/
def hit (repr : Json → String) (eventId : String) (kv : Nat × String × Obj) : Bool :=
  (Obj.get kv.2.2 "event_id").toStr repr = eventId

/-- The loop removes the ids of the rows it finds, and hands out none. -/
theorem foldl_removeIf (eventId : String) (kvs : List (Nat × String × Obj)) :
    (kvs.foldl (removeIf repr eventId) b).pending
      = b.pending.filter (fun row => row.id ∉ (kvs.filter (hit repr eventId)).map (·.1))
    ∧ (kvs.foldl (removeIf repr eventId) b).table.lastId = b.table.lastId
    ∧ (kvs.foldl (removeIf repr eventId) b).maxEvents = b.maxEvents := by
  induction kvs generalizing b with
  | nil => exact ⟨(List.filter_eq_self.mpr fun row _ => by simp).symm, rfl, rfl⟩
  | cons kv kvs ih =>
    rw [List.foldl_cons]
    obtain ⟨hpending, hid, hmax⟩ := @ih (removeIf repr eventId b kv)
    by_cases hhit : (Obj.get kv.2.2 "event_id").toStr repr = eventId
    · have hremove : removeIf repr eventId b kv = b.remove kv.1 := if_pos hhit
      rw [hremove] at hpending hid hmax ⊢
      refine ⟨?_, hid, hmax⟩
      have hfound : hit repr eventId kv = true := decide_eq_true hhit
      rw [hpending, pending_remove, List.filter_filter, List.filter_cons_of_pos hfound]
      refine List.filter_congr fun row _ => ?_
      rw [List.map_cons, ← Bool.decide_and, decide_eq_decide, List.mem_cons, not_or, and_comm]
      exact and_congr_left fun _ => not_congr Int.natCast_inj
    · have hskip : removeIf repr eventId b kv = b := if_neg hhit
      have hpass : ¬ hit repr eventId kv = true := fun h => hhit (of_decide_eq_true h)
      rw [hskip] at hpending hid hmax ⊢
      rw [List.filter_cons_of_neg hpass]
      exact ⟨hpending, hid, hmax⟩

/-- An id is that of one row. -/
theorem eq_of_id {kv kv' : Nat × String × Obj} (h : kv ∈ b.table.rows) (h' : kv' ∈ b.table.rows)
    (hid : kv.1 = kv'.1) : kv = kv' := by
  have hnodup : (b.table.rows.map (·.1)).Nodup :=
    List.pairwise_map.mpr (b.table.rows_rising.imp Nat.ne_of_lt)
  exact List.inj_on_of_nodup_map hnodup h h' hid

/-- The event rows with the event's id are removed, wherever they are. -/
theorem pending_removeByEventId {eventId : String} (hid : eventId ≠ "") :
    (b.removeByEventId repr eventId).pending
      = b.pending.filter fun row => !UploadBuffer.isEvent repr eventId row := by
  unfold removeByEventId
  rw [if_neg hid, (foldl_removeIf eventId _).1]
  refine List.filter_congr fun row hrow => ?_
  obtain ⟨kv, hkv, rfl⟩ := List.mem_map.mp hrow
  have hmem : (toRow kv).id ∈ (((b.table.rows.filter fun kv => kv.2.1 = "event").filter
        (hit repr eventId)).map (·.1))
      ↔ UploadBuffer.isEvent repr eventId (toRow kv) = true := by
    rw [List.mem_map]
    constructor
    · rintro ⟨kv', hkv', hsame⟩
      obtain ⟨hevent, hhit⟩ := List.mem_filter.mp hkv'
      obtain ⟨hrows, hkind⟩ := List.mem_filter.mp hevent
      -- the row with the id is the row itself
      cases eq_of_id hrows hkv hsame
      exact (Bool.and_eq_true _ _).mpr ⟨hkind, hhit⟩
    · intro hevent
      obtain ⟨hkind, hhit⟩ := (Bool.and_eq_true _ _).mp hevent
      exact ⟨kv, List.mem_filter.mpr ⟨List.mem_filter.mpr ⟨hkv, hkind⟩, hhit⟩, rfl⟩
  rw [decide_not]
  refine congrArg (!·) ?_
  rw [Bool.eq_iff_iff, decide_eq_true_eq]
  exact hmem

theorem lastId_removeByEventId (eventId : String) :
    (b.removeByEventId repr eventId).table.lastId = b.table.lastId
      ∧ (b.removeByEventId repr eventId).maxEvents = b.maxEvents := by
  unfold removeByEventId
  split
  · exact ⟨rfl, rfl⟩
  · exact (foldl_removeIf eventId _).2

/-! ## The model of the uploader -/

/-- The table, read in id order, is the model the uploader uses. -/
structure Represents (b : PendingUploads) (model : UploadBuffer) : Prop where
  pending : b.pending = model.pending
  lastId : b.table.lastId = model.lastId
  maxEvents : b.maxEvents = model.maxEvents

theorem Represents.enqueue {model : UploadBuffer} (h : b.Represents model) (kind : String)
    (payload : Obj) : (b.enqueue kind payload).Represents (model.enqueue kind payload) := by
  refine ⟨?_, ?_, (maxEvents_enqueue kind payload).trans h.maxEvents⟩
  · rw [pending_enqueue, h.pending, h.lastId, h.maxEvents]
    rfl
  · rw [lastId_enqueue, h.lastId]
    rfl

theorem Represents.remove {model : UploadBuffer} (h : b.Represents model) (entryId : Nat) :
    (b.remove entryId).Represents (model.remove entryId) := by
  refine ⟨?_, h.lastId, h.maxEvents⟩
  rw [pending_remove, h.pending]
  refine List.filter_congr fun row _ => ?_
  rw [decide_eq_decide]
  exact not_congr Int.natCast_inj

/-! ## Runs -/

/-- A call inserts an entry or none, and keeps some of those there were in their order. -/
theorem pending_step (call : BufferCall) :
    (b.step repr call).pending.Sublist (b.pending ++ inserted repr b [call]) := by
  cases call with
  | enqueue kind payload =>
    show (b.enqueue kind payload).pending.Sublist
      (b.pending ++ [⟨(b.enqueue kind payload).table.lastId, kind, payload⟩])
    rw [pending_enqueue, lastId_enqueue]
    exact List.drop_sublist _ _
  | remove entryId =>
    show (b.remove entryId).pending.Sublist (b.pending ++ [])
    rw [pending_remove, List.append_nil]
    exact List.filter_sublist
  | removeByEventId eventId =>
    show (b.removeByEventId repr eventId).pending.Sublist (b.pending ++ [])
    rw [List.append_nil]
    by_cases hid : eventId = ""
    · unfold removeByEventId
      rw [if_pos hid]
    · rw [pending_removeByEventId hid]
      exact List.filter_sublist
  | pending =>
    show b.pending.Sublist (b.pending ++ [])
    rw [List.append_nil]

theorem inserted_cons (call : BufferCall) (calls : List BufferCall) :
    inserted repr b (call :: calls) = inserted repr b [call] ++ inserted repr (b.step repr call) calls := by
  cases call with
  | enqueue kind payload => rfl
  | remove entryId => rfl
  | removeByEventId eventId => rfl
  | pending => rfl

/-- What is pending after a run was pending before it or inserted by it, in that order. -/
theorem pending_run (calls : List BufferCall) :
    (calls.foldl (step repr) b).pending.Sublist (b.pending ++ inserted repr b calls) := by
  induction calls generalizing b with
  | nil =>
    rw [show inserted repr b [] = [] from rfl, List.append_nil]
    exact List.Sublist.refl _
  | cons call calls ih =>
    rw [List.foldl_cons, inserted_cons, ← List.append_assoc]
    exact (ih (b := b.step repr call)).trans ((pending_step call).append_right _)

/-- A call hands out the next id, or none. -/
theorem inserted_step (call : BufferCall) :
    (inserted repr b [call]).map (·.id)
        = List.range' (b.table.lastId + 1) (inserted repr b [call]).length
      ∧ (b.step repr call).table.lastId = b.table.lastId + (inserted repr b [call]).length := by
  cases call with
  | enqueue kind payload =>
    refine ⟨?_, lastId_enqueue kind payload⟩
    show [(b.enqueue kind payload).table.lastId] = [b.table.lastId + 1]
    rw [lastId_enqueue]
  | remove entryId => exact ⟨rfl, rfl⟩
  | removeByEventId eventId => exact ⟨rfl, (lastId_removeByEventId eventId).1⟩
  | pending => exact ⟨rfl, rfl⟩

/-- The ids a run hands out are the next ones, in turn. -/
theorem inserted_ids (calls : List BufferCall) :
    (inserted repr b calls).map (·.id)
      = List.range' (b.table.lastId + 1) (inserted repr b calls).length := by
  induction calls generalizing b with
  | nil => rfl
  | cons call calls ih =>
    obtain ⟨hids, hlast⟩ := @inserted_step repr b call
    rw [inserted_cons, List.map_append, List.length_append, hids, ih, hlast, Nat.add_right_comm,
      List.range'_append_1]

/-- The table and the queue hold the same entries, and give the same number next. -/
structure Refines (m : Nat) (b : PendingUploads) (q : Queue) : Prop where
  entries : b.pending = q.entries
  nextId : b.table.lastId + 1 = q.nextId
  maxEvents : b.maxEvents = m
  bound : q.entries.length ≤ m

theorem length_lastOf_le (m : Nat) (entries : List Row) : (Queue.lastOf m entries).length ≤ m := by
  unfold Queue.lastOf
  rw [List.length_drop]
  omega

/-- A call of the buffer is a call of the queue. -/
theorem Refines.step {m : Nat} {q : Queue} (h : b.Refines m q) (call : BufferCall) :
    (b.step repr call).Refines m (q.step repr m call) := by
  cases call with
  | enqueue kind payload =>
    refine ⟨?_, ?_, (maxEvents_enqueue kind payload).trans h.maxEvents, length_lastOf_le m _⟩
    · show (b.enqueue kind payload).pending = Queue.lastOf m (q.entries ++ [⟨q.nextId, kind, payload⟩])
      have hover : ((q.entries.length : Int) + 1 - m).toNat = q.entries.length + 1 - m := by omega
      rw [pending_enqueue, h.entries, h.nextId, h.maxEvents, hover]
      unfold Queue.lastOf
      rw [List.length_append, List.length_singleton]
    · show (b.enqueue kind payload).table.lastId + 1 = q.nextId + 1
      rw [lastId_enqueue, h.nextId]
  | remove entryId =>
    refine ⟨?_, h.nextId, h.maxEvents, Nat.le_trans (List.length_filter_le _ _) h.bound⟩
    show (b.remove entryId).pending = _
    rw [pending_remove, h.entries]
    rfl
  | removeByEventId eventId =>
    obtain ⟨hlast, hmax⟩ := @lastId_removeByEventId repr b eventId
    by_cases hid : eventId = ""
    · have hskip : q.step repr m (.removeByEventId eventId) = q := if_pos hid
      have hstays : b.removeByEventId repr eventId = b := if_pos hid
      rw [hskip]
      show (b.removeByEventId repr eventId).Refines m q
      rw [hstays]
      exact h
    · have hfilter : q.step repr m (.removeByEventId eventId)
          = ⟨q.entries.filter fun row => !UploadBuffer.isEvent repr eventId row, q.nextId⟩ :=
        if_neg hid
      rw [hfilter]
      refine ⟨?_, ?_, hmax.trans h.maxEvents, Nat.le_trans (List.length_filter_le _ _) h.bound⟩
      · show (b.removeByEventId repr eventId).pending = _
        rw [pending_removeByEventId hid, h.entries]
      · show (b.removeByEventId repr eventId).table.lastId + 1 = q.nextId
        rw [hlast, h.nextId]
  | pending => exact h

theorem Refines.run {m : Nat} {q : Queue} (h : b.Refines m q) (calls : List BufferCall) :
    (calls.foldl (PendingUploads.step repr) b).Refines m (calls.foldl (Queue.step repr m) q) := by
  induction calls generalizing b q with
  | nil => exact h
  | cons call calls ih => exact ih (h.step call)

/-- Every run of calls on a new buffer leaves it with the entries of the queue: at most
`max_events`, in the order they were enqueued, each under an id no other is ever given. -/
theorem pending_refines_queue (repr : Json → String) (m : Nat) (calls : List BufferCall) :
    (calls.foldl (PendingUploads.step repr) { maxEvents := m }).pending
        = (calls.foldl (Queue.step repr m) {}).entries
      ∧ (calls.foldl (PendingUploads.step repr) { maxEvents := m }).pending.length ≤ m
      ∧ (calls.foldl (PendingUploads.step repr) { maxEvents := m }).pending.Sublist
        (inserted repr { maxEvents := m } calls)
      ∧ ((inserted repr { maxEvents := m } calls).map (·.id)).Nodup := by
  have hstart : Refines m { maxEvents := (m : Int) } {} := ⟨rfl, rfl, rfl, Nat.zero_le _⟩
  have hrun := @Refines.run repr _ m _ hstart calls
  refine ⟨hrun.entries, ?_, pending_run calls, ?_⟩
  · rw [hrun.entries]
    exact hrun.bound
  · rw [inserted_ids]
    exact List.nodup_range'

end PendingUploads

end EdgeSensor.Agent
