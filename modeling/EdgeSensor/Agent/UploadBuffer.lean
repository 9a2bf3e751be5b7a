import EdgeSensor.Py.Json

/-!
# The upload buffer (`upload/buffer.py`)

The `pending_uploads` table: rows in the order of their ids, and the last id SQLite
has handed out. `AUTOINCREMENT` never hands one out twice, so the ids of the rows
rise and stay under the last one; the structure carries both facts.

`enqueue` commits once, after the insert and the trimming delete, so it is one step.
What it trims is `trimmed`: the oldest rows, each followed by at least `max_events`
newer entries (`trimmed_newer`).

Mirroring notes:
- The payload column holds `json.dumps` of an object and is read with `json.loads`;
  the two are inverse on parsed JSON, so a row holds the object.
- `created_at` is written and never read.
-/

namespace EdgeSensor.Agent

open EdgeSensor.Lib EdgeSensor.Py

/-- A row of `pending_uploads`. -/
structure Row where
  id : Nat
  kind : String
  payload : Obj

/-- Rows with rising ids above `lo` and up to `hi` are at most `hi - lo`. -/
theorem length_le_of_sorted {rows : List Row} {lo hi : Nat} (hsorted : rows.Pairwise (·.id < ·.id))
    (hbounded : ∀ row ∈ rows, row.id ≤ hi) (habove : ∀ row ∈ rows, lo < row.id) (hle : lo ≤ hi) :
    lo + rows.length ≤ hi := by
  induction rows generalizing lo with
  | nil => exact hle
  | cons row rows ih =>
    rw [List.pairwise_cons] at hsorted
    have hrow := habove row List.mem_cons_self
    have hrest := ih hsorted.2 (fun r hr => hbounded r (List.mem_cons_of_mem _ hr)) hsorted.1
      (hbounded row List.mem_cons_self)
    rw [List.length_cons]
    omega

/-- No row behind another has its id. -/
theorem filter_id_ne_of_lt {row : Row} {rest : List Row} (h : ∀ r ∈ rest, row.id < r.id) :
    rest.filter (fun r => r.id ≠ row.id) = rest := by
  refine List.filter_eq_self.mpr fun r hr => ?_
  rw [decide_eq_true_eq]
  exact Nat.ne_of_gt (h r hr)

/-- `UploadBuffer`: the table in id order, and the last id handed out. -/
structure UploadBuffer where
  maxEvents : Int
  rows : List Row := []
  lastId : Nat := 0
  sorted : rows.Pairwise (·.id < ·.id) := by exact List.Pairwise.nil
  bounded : ∀ row ∈ rows, row.id ≤ lastId := by exact fun _ h => absurd h List.not_mem_nil

namespace UploadBuffer

variable (b : UploadBuffer)

/-- The row `enqueue` inserts. -/
def newRow (kind : String) (payload : Obj) : Row := ⟨b.lastId + 1, kind, payload⟩

/-- The table after the insert. -/
def inserted (kind : String) (payload : Obj) : List Row := b.rows ++ [b.newRow kind payload]

/-- How many rows are over `max_events` after the insert. -/
def overflow : Nat := ((b.rows.length : Int) + 1 - b.maxEvents).toNat

theorem inserted_sorted (kind : String) (payload : Obj) :
    (b.inserted kind payload).Pairwise (·.id < ·.id) := by
  unfold inserted newRow
  rw [List.pairwise_append]
  refine ⟨b.sorted, List.pairwise_singleton _ _, fun row hrow new hnew => ?_⟩
  rw [List.mem_singleton] at hnew
  rw [hnew]
  exact Nat.lt_succ_of_le (b.bounded row hrow)

theorem inserted_bounded (kind : String) (payload : Obj) :
    ∀ row ∈ b.inserted kind payload, row.id ≤ b.lastId + 1 := by
  intro row hrow
  rcases List.mem_append.mp hrow with hold | hnew
  · exact Nat.le_succ_of_le (b.bounded row hold)
  · rw [List.mem_singleton.mp hnew]
    exact Nat.le_refl _

/-- `enqueue`: insert, and delete the oldest rows over `max_events`. -/
def enqueue (kind : String) (payload : Obj) : UploadBuffer where
  maxEvents := b.maxEvents
  rows := (b.inserted kind payload).drop b.overflow
  lastId := b.lastId + 1
  sorted := (b.inserted_sorted kind payload).drop
  bounded := fun row hrow => b.inserted_bounded kind payload row (List.mem_of_mem_drop hrow)

/-- The rows `enqueue` deletes. -/
def trimmed (kind : String) (payload : Obj) : List Row :=
  (b.inserted kind payload).take b.overflow

/-- `pending`. -/
def pending : List Row := b.rows

/-- `remove`. -/
def remove (entryId : Nat) : UploadBuffer where
  maxEvents := b.maxEvents
  rows := b.rows.filter fun row => row.id ≠ entryId
  lastId := b.lastId
  sorted := b.sorted.filter _
  bounded := fun row hrow => b.bounded row (List.mem_of_mem_filter hrow)

/-- The test of `remove_by_event_id`: `str(payload.get("event_id")) == event_id`, in an
event row. -/
def isEvent (repr : Json → String) (eventId : String) (row : Row) : Bool :=
  row.kind = "event" && (Obj.get row.payload "event_id").toStr repr = eventId

variable {b}

theorem remove_rows (entryId : Nat) :
    (b.remove entryId).rows = b.rows.filter fun row => row.id ≠ entryId := rfl

/-- What is trimmed and what stays is the old table with the new row. -/
theorem trimmed_append_rows (kind : String) (payload : Obj) :
    b.trimmed kind payload ++ (b.enqueue kind payload).rows
      = b.rows ++ [b.newRow kind payload] :=
  List.take_append_drop _ _

/-- **An entry is trimmed only under `max_events` newer ones**: at least that many ids
have been handed out after its own. -/
theorem trimmed_newer (kind : String) (payload : Obj) :
    ∀ row ∈ b.trimmed kind payload, (row.id : Int) + b.maxEvents ≤ b.lastId + 1 := by
  intro row hrow
  have hsplit := b.trimmed_append_rows kind payload
  have hsorted : (b.trimmed kind payload ++ (b.enqueue kind payload).rows).Pairwise
      (·.id < ·.id) := by
    rw [hsplit]
    exact b.inserted_sorted kind payload
  have hle : row.id ≤ b.lastId + 1 := by
    have hmem : row ∈ b.rows ++ [b.newRow kind payload] := by
      rw [← hsplit]
      exact List.mem_append_left _ hrow
    exact b.inserted_bounded kind payload row hmem
  have hlen : (b.trimmed kind payload).length + (b.enqueue kind payload).rows.length
      = b.rows.length + 1 := by
    rw [← List.length_append, hsplit, List.length_append, List.length_singleton]
  have htrim : (b.trimmed kind payload).length = min b.overflow (b.rows.length + 1) := by
    unfold trimmed inserted
    rw [List.length_take, List.length_append, List.length_singleton]
  have hpos : 0 < (b.trimmed kind payload).length := List.length_pos_of_mem hrow
  -- each row that stays has an id of its own above this one's
  have hroom : row.id + (b.enqueue kind payload).rows.length ≤ b.lastId + 1 := by
    have habove : ∀ kept ∈ (b.enqueue kind payload).rows, row.id < kept.id :=
      fun kept hkept => (List.pairwise_append.mp hsorted).2.2 row hrow kept hkept
    exact length_le_of_sorted (b.enqueue kind payload).sorted (b.enqueue kind payload).bounded
      habove hle
  unfold overflow at htrim
  omega

/-- Whatever is counted, inserting and trimming only move it. -/
theorem countP_enqueue (p : Row → Bool) (kind : String) (payload : Obj) :
    (b.trimmed kind payload).countP p + (b.enqueue kind payload).rows.countP p
      = b.rows.countP p + [b.newRow kind payload].countP p := by
  rw [← List.countP_append, b.trimmed_append_rows kind payload, List.countP_append]

/-- Rows with an id of their own: only the row itself has it. -/
theorem eq_of_id_eq {row row' : Row} (h : row ∈ b.rows) (h' : row' ∈ b.rows)
    (hid : row'.id = row.id) : row' = row := by
  obtain ⟨i, hi, rfl⟩ := List.getElem_of_mem h
  obtain ⟨j, hj, rfl⟩ := List.getElem_of_mem h'
  have hrising := List.pairwise_iff_getElem.mp b.sorted
  rcases Nat.lt_trichotomy i j with hlt | rfl | hgt
  · exact absurd hid (Nat.ne_of_gt (hrising i j hi hj hlt))
  · rfl
  · exact absurd hid (Nat.ne_of_lt (hrising j i hj hi hgt))

/-- Removing a row takes exactly that row out of a count. -/
theorem countP_remove (p : Row → Bool) {row : Row} (h : row ∈ b.rows) :
    (b.remove row.id).rows.countP p + [row].countP p = b.rows.countP p := by
  rw [remove_rows]
  have hsorted := b.sorted
  revert h hsorted
  generalize b.rows = rows
  intro h hsorted
  induction rows with
  | nil => exact absurd h List.not_mem_nil
  | cons first rest ih =>
    rw [List.pairwise_cons] at hsorted
    rcases List.mem_cons.mp h with rfl | hrest
    · rw [List.filter_cons_of_neg (by simp), filter_id_ne_of_lt hsorted.1,
        ← List.singleton_append (l := rest), List.countP_append]
      exact Nat.add_comm _ _
    · have hne : first.id ≠ row.id := Nat.ne_of_lt (hsorted.1 row hrest)
      rw [List.filter_cons_of_pos (by simpa using hne), ← List.singleton_append,
        ← List.singleton_append (l := rest), List.countP_append, List.countP_append, Nat.add_assoc,
        ih hrest hsorted.2]

end UploadBuffer

end EdgeSensor.Agent
