import Mathlib.Data.List.Nodup

/-!
# Tables with an automatic key

A table whose key an `INTEGER PRIMARY KEY AUTOINCREMENT` hands out: what is stored under
each id, and the last id handed out. `SELECT … ORDER BY id ASC` reads the ids in turn
(`rows`). An insert appends to what is read, a delete takes out of it (`rows_insert`,
`rows_delete`), and a delete of the first rows by a sub-query drops them (`rows_deleteFirst`).
-/

namespace EdgeSensor.Lib

/-- A table: what is stored under each id, and the last id handed out. -/
structure RowidTable (α : Type) where
  record : Nat → Option α
  lastId : Nat
  unused : ∀ id, lastId < id → record id = none

namespace RowidTable

variable {α : Type}

/-- `CREATE TABLE`. -/
def empty : RowidTable α where
  record := fun _ => none
  lastId := 0
  unused := fun _ _ => rfl

variable (t : RowidTable α)

/-- `SELECT … ORDER BY id ASC`. -/
def rows : List (Nat × α) :=
  (List.range (t.lastId + 1)).filterMap fun id => (t.record id).map fun v => (id, v)

/-- `INSERT`. -/
def insert (v : α) : RowidTable α where
  record := fun id => if id = t.lastId + 1 then some v else t.record id
  lastId := t.lastId + 1
  unused := fun id hid => by
    rw [if_neg (Nat.ne_of_gt hid)]
    exact t.unused id (Nat.lt_of_succ_lt hid)

/-- `DELETE … WHERE`. -/
def delete (p : Nat → α → Bool) : RowidTable α where
  record := fun id => (t.record id).filter fun v => !p id v
  lastId := t.lastId
  unused := fun id hid => by
    rw [t.unused id hid]
    rfl

/-- `DELETE … WHERE id IN (SELECT id … ORDER BY id ASC LIMIT n)`. -/
def deleteFirst (n : Nat) : RowidTable α :=
  t.delete fun id _ => id ∈ (t.rows.take n).map (·.1)

/-- The ids are read in rising order. -/
theorem rows_rising : t.rows.Pairwise (·.1 < ·.1) := by
  unfold rows
  refine List.Pairwise.filterMap _ ?_ List.pairwise_lt_range
  rintro id id' hlt kv hkv kv' hkv'
  obtain ⟨v, _, rfl⟩ := Option.map_eq_some_iff.mp hkv
  obtain ⟨v', _, rfl⟩ := Option.map_eq_some_iff.mp hkv'
  exact hlt

theorem rows_insert (v : α) : (t.insert v).rows = t.rows ++ [(t.lastId + 1, v)] := by
  unfold rows
  rw [show (t.insert v).lastId + 1 = t.lastId + 1 + 1 from rfl, List.range_succ,
    List.filterMap_append]
  congr 1
  · -- an earlier id is not the new one
    refine List.filterMap_congr fun id hid => ?_
    show (if id = t.lastId + 1 then some v else t.record id).map _ = _
    rw [if_neg (Nat.ne_of_lt (List.mem_range.mp hid))]
  · show List.filterMap (fun id =>
      (if id = t.lastId + 1 then some v else t.record id).map fun v => (id, v)) [t.lastId + 1] = _
    rw [List.filterMap_cons_some (by rw [if_pos rfl]; rfl)]
    rfl

theorem rows_delete (p : Nat → α → Bool) :
    (t.delete p).rows = t.rows.filter fun kv => !p kv.1 kv.2 := by
  unfold rows
  rw [List.filter_filterMap]
  refine List.filterMap_congr fun id _ => ?_
  show ((t.record id).filter fun v => !p id v).map _ = _
  cases t.record id with
  | none => rfl
  | some v => cases h : p id v <;> simp [h, Option.filter]

/-- What has the key of none of the first is what comes after them. -/
theorem filter_notMem_take {β κ : Type} [DecidableEq κ] {l : List β} {key : β → κ}
    (h : (l.map key).Nodup) (n : Nat) :
    l.filter (fun x => !decide (key x ∈ (l.take n).map key)) = l.drop n := by
  induction l generalizing n with
  | nil => simp
  | cons x l ih =>
    rw [List.map_cons, List.nodup_cons] at h
    cases n with
    | zero => exact List.filter_eq_self.mpr fun y _ => rfl
    | succ n =>
      rw [List.take_succ_cons, List.map_cons, List.drop_succ_cons,
        List.filter_cons_of_neg (by simp), ← ih h.2 n]
      refine List.filter_congr fun y hy => ?_
      have hne : key y ≠ key x := fun heq => h.1 (heq ▸ List.mem_map_of_mem hy)
      simp only [List.mem_cons, hne, false_or]

theorem rows_deleteFirst (n : Nat) : (t.deleteFirst n).rows = t.rows.drop n := by
  unfold deleteFirst
  rw [rows_delete]
  refine filter_notMem_take ?_ n
  exact List.pairwise_map.mpr (t.rows_rising.imp Nat.ne_of_lt)

end RowidTable

end EdgeSensor.Lib
