import EdgeSensor.Lib.Records
import EdgeSensor.Py.Bytes
import EdgeSensor.Py.Json
import EdgeSensor.Py.Text

/-!
# Reading new event lines (`upload/events.py`)

`pending_events` as a function of the file's content and the offset: the lines it
takes, the events in them, the new offset. On a log of LF-terminated lines without CR
the lines are exactly the finished ones beyond the offset, and the new offset is the
end of the last of them (`readLines_spec`), wherever the writer is interrupted.

Mirroring notes:
- `bytes.splitlines()` ends a line at LF, CR or CR LF (`splitlines`); the offset
  advances by the length of a line plus one whatever ended it.
- UTF-8 decoding with replacement and `json.loads` are parameters (`JsonText`); the
  results hold for any. `loads` is `none` where the code catches a `JSONDecodeError`.
- A file that is absent is told from an empty one by the caller.
-/

namespace EdgeSensor.Agent

open EdgeSensor.Lib EdgeSensor.Py

/-- Line feed and carriage return. -/
def LF : UInt8 := 10
def CR : UInt8 := 13

/-- The text functions of the standard library that the agent goes through. -/
structure JsonText where
  decode : Bytes → String
  loads : String → Option Json
  repr : Json → String

/-- `splitlines`, with `cur` read of the line and the last byte a CR or not. -/
def splitlinesFrom (cur : Bytes) (afterCr : Bool) : Bytes → List Bytes
  | [] => if cur = [] then [] else [cur]
  | x :: xs =>
    if x = LF then
      if afterCr then splitlinesFrom [] false xs else cur :: splitlinesFrom [] false xs
    else if x = CR then cur :: splitlinesFrom [] true xs
    else splitlinesFrom (cur ++ [x]) false xs

/-- `chunk.splitlines()`. -/
def splitlines (chunk : Bytes) : List Bytes := splitlinesFrom [] false chunk

/-- `lines if data.endswith(b"\n") else lines[:-1]`. -/
def completeLines (data chunk : Bytes) : List Bytes :=
  if data.getLast? = some LF then splitlines chunk else (splitlines chunk).dropLast

/-- What the loop makes of a line: an event, or nothing for a blank or malformed one. -/
def lineEvent (text : JsonText) (line : Bytes) : Option Json :=
  let stripped := strip (text.decode line)
  if stripped = "" then none else text.loads stripped

/-- `consumed`: a line and one byte for what ended it. -/
def consumed (lines : List Bytes) : Nat := (lines.map fun line => line.length + 1).sum

/-- The offset a read starts from: the beginning, if the file has become shorter. -/
def startOffset (data : Bytes) (offset : Nat) : Nat := if offset > data.length then 0 else offset

/-- The lines a read takes. -/
def takenLines (data : Bytes) (offset : Nat) : List Bytes :=
  completeLines data (data.drop (startOffset data offset))

/-- The offset after a read. -/
def nextOffset (data : Bytes) (offset : Nat) : Nat :=
  startOffset data offset + consumed (takenLines data offset)

/-- Nothing lies beyond the offset: no lines, and the offset stays where the read starts. -/
theorem takenLines_of_empty {data : Bytes} {offset : Nat}
    (h : data.drop (startOffset data offset) = []) :
    takenLines data offset = [] ∧ nextOffset data offset = startOffset data offset := by
  have htaken : takenLines data offset = [] := by
    unfold takenLines
    rw [h]
    unfold completeLines
    split
    next => rfl
    next => rfl
  refine ⟨htaken, ?_⟩
  unfold nextOffset
  rw [htaken]
  rfl

/-! ## Logs of LF-terminated lines -/

/-- Without CR, lines are records, the unfinished one included. -/
theorem splitlinesFrom_eq {cur chunk : Bytes} (hcr : CR ∉ chunk) :
    splitlinesFrom cur false chunk
      = recordsFrom LF cur chunk
        ++ if partialFrom LF cur chunk = [] then [] else [partialFrom LF cur chunk] := by
  induction chunk generalizing cur with
  | nil => rfl
  | cons x chunk ih =>
    rw [List.mem_cons, not_or] at hcr
    simp only [splitlinesFrom, recordsFrom, partialFrom]
    by_cases hlf : x = LF
    · simp only [if_pos hlf, Bool.false_eq_true, if_false, List.cons_append]
      rw [ih hcr.2]
    · simp only [if_neg hlf, if_neg (Ne.symm hcr.1)]
      exact ih hcr.2

/-- Without CR, the complete lines of the end of a file are its finished records. -/
theorem completeLines_eq {data chunk : Bytes} (hcr : CR ∉ chunk) (hsuffix : chunk <:+ data)
    (hne : chunk ≠ []) : completeLines data chunk = records LF chunk := by
  have hlast : data.getLast? = chunk.getLast? := by
    obtain ⟨pre, rfl⟩ := hsuffix
    exact List.getLast?_append_of_ne_nil pre hne
  unfold completeLines splitlines
  rw [splitlinesFrom_eq hcr, hlast]
  by_cases hend : chunk.getLast? = some LF
  · have hunfinished : partialFrom LF [] chunk = [] := (getLast?_eq_sep_iff hne).mp hend
    rw [if_pos hend, if_pos hunfinished, List.append_nil]
    rfl
  · have hunfinished : partialFrom LF [] chunk ≠ [] := fun h => hend ((getLast?_eq_sep_iff hne).mpr h)
    rw [if_neg hend, if_neg hunfinished, List.dropLast_concat]
    rfl

/-- `consumed` counts the written form of the lines. -/
theorem consumed_eq (lines : List Bytes) : consumed lines = (writeRecords LF lines).length := by
  induction lines with
  | nil => rfl
  | cons line lines ih =>
    unfold consumed writeRecords at *
    rw [List.map_cons, List.sum_cons, ih, List.flatMap_cons, List.length_append, List.length_append,
      List.length_singleton]

/-- The offset stands at the end of a finished line of the log. -/
structure AtLine (log : Bytes) (offset : Nat) : Prop where
  le : offset ≤ log.length
  boundary : Boundary LF (log.take offset)

theorem AtLine.zero (log : Bytes) : AtLine log 0 := ⟨Nat.zero_le _, boundary_nil⟩

/-- **One read of a growing log.** The first `n` bytes of a CR-free log have been written,
and the offset stands at the end of a line among them. The read takes the finished
lines beyond it, in order, and leaves the offset at the end of the last line finished
so far. -/
theorem readLines_spec {log : Bytes} (hcr : CR ∉ log) {offset n : Nat} (hat : AtLine log offset)
    (hn : offset ≤ n) :
    AtLine log (nextOffset (log.take n) offset)
      ∧ nextOffset (log.take n) offset ≤ n
      ∧ records LF (log.take (nextOffset (log.take n) offset))
        = records LF (log.take offset) ++ takenLines (log.take n) offset
      ∧ records LF (log.take (nextOffset (log.take n) offset)) = records LF (log.take n) := by
  have hoffset : (log.take offset).length = offset := by
    rw [List.length_take, Nat.min_eq_left hat.le]
  -- what has been written is what was read before and something new
  obtain ⟨tail, htail⟩ : log.take offset <+: log.take n := List.take_prefix_take_left hn
  have hdrop : (log.take n).drop offset = tail := by
    rw [← htail, List.drop_left' hoffset]
  have hstart : startOffset (log.take n) offset = offset := by
    refine if_neg (Nat.not_lt.mpr ?_)
    rw [← htail, List.length_append, hoffset]
    exact Nat.le_add_right _ _
  have htaken : takenLines (log.take n) offset = records LF tail := by
    unfold takenLines
    rw [hstart, hdrop]
    by_cases hempty : tail = []
    · rw [hempty]
      unfold completeLines
      split
      next => rfl
      next => rfl
    · refine completeLines_eq (fun h => hcr ?_) ⟨_, htail⟩ hempty
      rw [← hdrop] at h
      exact List.mem_of_mem_take (List.mem_of_mem_drop h)
  obtain ⟨htake, hboundary, hrecords, hle⟩ := hat.boundary.read tail
  have hnext : nextOffset (log.take n) offset
      = (log.take offset).length + (writeRecords LF (records LF tail)).length := by
    unfold nextOffset
    rw [hstart, htaken, consumed_eq, hoffset]
  rw [htail, ← hnext] at hle
  rw [htail, ← hnext] at htake
  rw [List.length_take] at hle
  have hstarts : log.take (nextOffset (log.take n) offset)
      = (log.take n).take (nextOffset (log.take n) offset) := by
    rw [List.take_take, Nat.min_eq_left (Nat.le_trans hle (Nat.min_le_left _ _))]
  rw [hstarts, htake, htaken]
  refine ⟨⟨Nat.le_trans hle (Nat.min_le_right _ _), ?_⟩,
    Nat.le_trans hle (Nat.min_le_left _ _), hrecords, ?_⟩
  · rw [hstarts, htake]
    exact hboundary
  · rw [hrecords, ← htail, records_append_of_boundary hat.boundary]

end EdgeSensor.Agent
