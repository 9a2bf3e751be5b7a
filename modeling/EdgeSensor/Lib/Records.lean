import Mathlib.Data.List.Basic
import Mathlib.Data.List.Induction

/-!
# Append-only logs of terminated records

A log is a list of symbols in which `sep` ends a record; what follows the last `sep`
is a record still being written. `records` are the finished ones, `partialRecord` the
unfinished end, and the log is the two put back together (`flatten_records`).

A reader keeps an offset. At a `Boundary` the offset is the end of a finished record,
and then reading is splitting what lies beyond it (`records_append_of_boundary`):
nothing is read twice and nothing is left out, however the log has grown.
-/

namespace EdgeSensor.Lib

variable {α : Type} [DecidableEq α]

/-- The finished records, with `cur` read of the first one already. -/
def recordsFrom (sep : α) (cur : List α) : List α → List (List α)
  | [] => []
  | x :: xs => if x = sep then cur :: recordsFrom sep [] xs else recordsFrom sep (cur ++ [x]) xs

/-- The unfinished record at the end, with `cur` read of it already. -/
def partialFrom (sep : α) (cur : List α) : List α → List α
  | [] => cur
  | x :: xs => if x = sep then partialFrom sep [] xs else partialFrom sep (cur ++ [x]) xs

/-- The finished records of a log. -/
def records (sep : α) (log : List α) : List (List α) := recordsFrom sep [] log

/-- The unfinished record at the end of a log. -/
def partialRecord (sep : α) (log : List α) : List α := partialFrom sep [] log

/-- Records written out, each with its terminator. -/
def writeRecords (sep : α) (rs : List (List α)) : List α := rs.flatMap (· ++ [sep])

/-- A log that ends with a finished record, or is empty. -/
def Boundary (sep : α) (log : List α) : Prop := partialRecord sep log = []

variable {sep : α}

theorem recordsFrom_append (cur a b : List α) :
    recordsFrom sep cur (a ++ b)
      = recordsFrom sep cur a ++ recordsFrom sep (partialFrom sep cur a) b := by
  induction a generalizing cur with
  | nil => rfl
  | cons x a ih =>
    simp only [List.cons_append, recordsFrom, partialFrom]
    split
    next => rw [ih, List.cons_append]
    next => exact ih _

theorem partialFrom_append (cur a b : List α) :
    partialFrom sep cur (a ++ b) = partialFrom sep (partialFrom sep cur a) b := by
  induction a generalizing cur with
  | nil => rfl
  | cons x a ih =>
    simp only [List.cons_append, partialFrom]
    split
    next => exact ih _
    next => exact ih _

/-- The log is its records with their terminators, then the unfinished one. -/
theorem flatten_recordsFrom (cur log : List α) :
    writeRecords sep (recordsFrom sep cur log) ++ partialFrom sep cur log = cur ++ log := by
  induction log generalizing cur with
  | nil => simp [recordsFrom, partialFrom, writeRecords]
  | cons x log ih =>
    simp only [recordsFrom, partialFrom]
    split
    next h =>
      have hrest := ih []
      unfold writeRecords at hrest ⊢
      rw [List.flatMap_cons, List.append_assoc, hrest, h]
      simp
    next =>
      rw [ih]
      simp

theorem flatten_records (log : List α) :
    writeRecords sep (records sep log) ++ partialRecord sep log = log :=
  flatten_recordsFrom [] log

/-- No finished record contains the terminator. -/
theorem not_mem_recordsFrom {cur log : List α} (hcur : sep ∉ cur) :
    (∀ r ∈ recordsFrom sep cur log, sep ∉ r) ∧ sep ∉ partialFrom sep cur log := by
  induction log generalizing cur with
  | nil => exact ⟨fun r hr => absurd hr List.not_mem_nil, hcur⟩
  | cons x log ih =>
    simp only [recordsFrom, partialFrom]
    split
    next =>
      obtain ⟨hrecords, hunfinished⟩ := ih (List.not_mem_nil : sep ∉ [])
      refine ⟨fun r hr => ?_, hunfinished⟩
      rcases List.mem_cons.mp hr with rfl | hr
      · exact hcur
      · exact hrecords r hr
    next h =>
      refine ih fun hmem => ?_
      rcases List.mem_append.mp hmem with hmem | hmem
      · exact hcur hmem
      · exact h (List.mem_singleton.mp hmem).symm

theorem recordsFrom_of_not_mem {cur log : List α} (h : sep ∉ log) :
    recordsFrom sep cur log = [] ∧ partialFrom sep cur log = cur ++ log := by
  induction log generalizing cur with
  | nil => exact ⟨rfl, (List.append_nil cur).symm⟩
  | cons x log ih =>
    rw [List.mem_cons, not_or] at h
    obtain ⟨hrecords, hunfinished⟩ := ih h.2
    simp only [recordsFrom, partialFrom, if_neg (Ne.symm h.1)]
    refine ⟨hrecords, ?_⟩
    rw [hunfinished, List.append_assoc]
    rfl

theorem boundary_nil : Boundary sep ([] : List α) := rfl

/-- Past a boundary, a log's records are those before it and those beyond it. -/
theorem records_append_of_boundary {a : List α} (h : Boundary sep a) (b : List α) :
    records sep (a ++ b) = records sep a ++ records sep b := by
  have hunfinished : partialFrom sep [] a = [] := h
  unfold records
  rw [recordsFrom_append, hunfinished]

theorem partialRecord_append_of_boundary {a : List α} (h : Boundary sep a) (b : List α) :
    partialRecord sep (a ++ b) = partialRecord sep b := by
  have hunfinished : partialFrom sep [] a = [] := h
  unfold partialRecord
  rw [partialFrom_append, hunfinished]

theorem boundary_terminated (r : List α) : Boundary sep (r ++ [sep]) := by
  unfold Boundary partialRecord
  rw [partialFrom_append]
  simp [partialFrom]

/-- Written records end at a boundary. -/
theorem boundary_writeRecords (rs : List (List α)) : Boundary sep (writeRecords sep rs) := by
  induction rs with
  | nil => rfl
  | cons r rs ih =>
    unfold Boundary writeRecords at *
    rw [List.flatMap_cons, partialRecord_append_of_boundary (boundary_terminated r)]
    exact ih

theorem Boundary.append {a b : List α} (ha : Boundary sep a) (hb : Boundary sep b) :
    Boundary sep (a ++ b) := by
  unfold Boundary
  rw [partialRecord_append_of_boundary ha]
  exact hb

/-- The records of written records are the records. -/
theorem records_writeRecords {rs : List (List α)} (h : ∀ r ∈ rs, sep ∉ r) :
    records sep (writeRecords sep rs) = rs := by
  induction rs with
  | nil => rfl
  | cons r rs ih =>
    have hone : records sep (r ++ [sep]) = [r] := by
      obtain ⟨hrecords, hunfinished⟩ :=
        @recordsFrom_of_not_mem α _ sep [] r (h r List.mem_cons_self)
      unfold records
      rw [recordsFrom_append, hrecords, hunfinished]
      simp [recordsFrom]
    have hrest := ih fun r hr => h r (List.mem_cons_of_mem _ hr)
    unfold writeRecords at hrest ⊢
    rw [List.flatMap_cons, records_append_of_boundary (boundary_terminated r), hone, hrest]
    rfl

/-- A non-empty log ends with the terminator exactly if no record is unfinished. -/
theorem getLast?_eq_sep_iff {log : List α} (hne : log ≠ []) :
    log.getLast? = some sep ↔ Boundary sep log := by
  induction log using List.reverseRecOn with
  | nil => exact absurd rfl hne
  | append_singleton log x _ =>
    unfold Boundary partialRecord
    rw [List.getLast?_concat, partialFrom_append]
    simp only [partialFrom, Option.some.injEq]
    split
    next h => exact ⟨fun _ => rfl, fun _ => h⟩
    next h => exact ⟨fun heq => absurd heq h, fun hnil => absurd hnil (by simp)⟩

/-- **Reading on from a boundary.** Beyond `pre` a log goes on with `tail`; the finished
records of `tail`, written out, end at a boundary again, and up to there the log has
the records of `pre`, then those of `tail`, and all the records it has. -/
theorem Boundary.read {pre : List α} (h : Boundary sep pre) (tail : List α) :
    (pre ++ tail).take (pre.length + (writeRecords sep (records sep tail)).length)
        = pre ++ writeRecords sep (records sep tail)
      ∧ Boundary sep (pre ++ writeRecords sep (records sep tail))
      ∧ records sep (pre ++ writeRecords sep (records sep tail))
        = records sep pre ++ records sep tail
      ∧ pre.length + (writeRecords sep (records sep tail)).length ≤ (pre ++ tail).length := by
  have hsep : ∀ r ∈ records sep tail, sep ∉ r := (not_mem_recordsFrom List.not_mem_nil).1
  have hwritten := @flatten_records α _ sep tail
  refine ⟨?_, h.append (boundary_writeRecords _), ?_, ?_⟩
  · rw [List.take_length_add_append]
    conv => lhs; rhs; rhs; rw [← hwritten]
    rw [List.take_left]
  · rw [records_append_of_boundary h, records_writeRecords hsep]
  · have hlen := congrArg List.length hwritten
    rw [List.length_append] at hlen
    rw [List.length_append]
    omega

end EdgeSensor.Lib
