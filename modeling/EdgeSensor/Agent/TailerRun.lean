import EdgeSensor.Agent.EventTailer

/-!
# The event tailer over a run (`upload/events.py`)

`pending_events` in full: the file that is not there yet, the offset in memory and the
one on disk, the loop over the lines. Around it the writer, who appends whatever bytes it
likes whenever it likes, and restarts of the agent.

`TailInv` is the story of a run: both offsets stand at the end of the same line, and what
has been handed out is the events up to there. It is kept by every step, so nothing is
skipped and nothing repeated. What a run may lack is progress. The loop catches a
`JSONDecodeError`, and `json.loads` has other ways to fail: an integer of more than 4300
digits is a plain `ValueError`, brackets nested too deep a `RecursionError`. Either leaves
`pending_events` before the offset moves, so every later call meets the line again and no
event behind it is ever handed out (`tailer_delivers_iff`).

Mirroring notes:
- The offset file is the number in it.
- `JsonLoads.raises` tells the texts on which `json.loads` fails in a way that the loop
  does not catch, `JsonText.loads` what it does with the others.
-/

namespace EdgeSensor.Agent

open EdgeSensor.Lib EdgeSensor.Py

/-- The text functions, with the failures of `json.loads` that are no `JSONDecodeError`. -/
structure JsonLoads extends JsonText where
  raises : String → Option PyErr

/-- What leaves the loop at a line. -/
def lineError (text : JsonLoads) (line : Bytes) : Option PyErr :=
  let stripped := strip (text.decode line)
  if stripped = "" then none else text.raises stripped

/-- The loop over the complete lines. -/
def eventsOf (text : JsonLoads) : List Bytes → Except PyErr (List Json)
  | [] => .ok []
  | line :: lines =>
    match lineError text line with
    | some e => .error e
    | none =>
      match lineEvent text.toJsonText line with
      | none => eventsOf text lines
      | some event => (eventsOf text lines).map (event :: ·)

/-- `SecurityEventTailer`: the offset, and the offset file. -/
structure SecurityEventTailer where
  offset : Nat
  offsetFile : Option Nat
  deriving DecidableEq

namespace SecurityEventTailer

/-- `__init__`, which reads the offset file. -/
def init (offsetFile : Option Nat) : SecurityEventTailer := ⟨offsetFile.getD 0, offsetFile⟩

/-- `pending_events`. -/
def pendingEvents (text : JsonLoads) (file : Option Bytes) (t : SecurityEventTailer) :
    Except PyErr (List Json) × SecurityEventTailer :=
  match file with
  | none => (.ok [], t)
  | some data =>
    -- the guard sets the offset in memory; only a call that gets to the end saves one
    let start := startOffset data t.offset
    if data.drop start = [] then (.ok [], { t with offset := start })
    else
      match eventsOf text (takenLines data t.offset) with
      | .error e => (.error e, { t with offset := start })
      | .ok events =>
        (.ok events, ⟨nextOffset data t.offset, some (nextOffset data t.offset)⟩)

end SecurityEventTailer

/-! ## One call -/

/-- The loop hands out the events of its lines, unless one of the lines makes it raise. -/
theorem eventsOf_eq_ok {text : JsonLoads} {lines : List Bytes}
    (h : ∀ line ∈ lines, lineError text line = none) :
    eventsOf text lines = .ok (lines.filterMap (lineEvent text.toJsonText)) := by
  induction lines with
  | nil => rfl
  | cons line lines ih =>
    unfold eventsOf
    rw [h line List.mem_cons_self, ih fun l hl => h l (List.mem_cons_of_mem _ hl), List.filterMap_cons]
    cases lineEvent text.toJsonText line with
    | none => rfl
    | some event => rfl

theorem eventsOf_error {text : JsonLoads} {lines : List Bytes} {line : Bytes} {e : PyErr}
    (hmem : line ∈ lines) (hline : lineError text line = some e) :
    ∃ e', eventsOf text lines = .error e' := by
  induction lines with
  | nil => exact absurd hmem List.not_mem_nil
  | cons first lines ih =>
    unfold eventsOf
    rcases List.mem_cons.mp hmem with rfl | hmem
    · rw [hline]
      exact ⟨e, rfl⟩
    · cases lineError text first with
      | some e' => exact ⟨e', rfl⟩
      | none =>
        obtain ⟨e', he'⟩ := ih hmem
        rw [he']
        cases lineEvent text.toJsonText first with
        | none => exact ⟨e', rfl⟩
        | some event => exact ⟨e', rfl⟩

namespace SecurityEventTailer

variable {text : JsonLoads} {data : Bytes} {t : SecurityEventTailer}

/-- A call that meets no bad line takes the lines beyond the offset and moves it. -/
theorem pendingEvents_ok (h : ∀ line ∈ takenLines data t.offset, lineError text line = none) :
    (t.pendingEvents text (some data)).1
        = .ok ((takenLines data t.offset).filterMap (lineEvent text.toJsonText))
      ∧ (t.pendingEvents text (some data)).2.offset = nextOffset data t.offset
      ∧ ((t.pendingEvents text (some data)).2.offsetFile = some (nextOffset data t.offset)
        ∨ ((t.pendingEvents text (some data)).2.offsetFile = t.offsetFile
          ∧ nextOffset data t.offset = startOffset data t.offset)) := by
  unfold pendingEvents
  simp only
  split
  next hempty =>
    obtain ⟨htaken, hnext⟩ := takenLines_of_empty hempty
    rw [htaken, hnext]
    exact ⟨rfl, rfl, .inr ⟨rfl, rfl⟩⟩
  next =>
    rw [eventsOf_eq_ok h]
    exact ⟨rfl, rfl, .inl rfl⟩

/-- A call that meets a bad line raises, and no offset moves on. -/
theorem pendingEvents_error {line : Bytes} {e : PyErr} (hmem : line ∈ takenLines data t.offset)
    (hline : lineError text line = some e) :
    (∃ e', (t.pendingEvents text (some data)).1 = .error e')
      ∧ (t.pendingEvents text (some data)).2 = { t with offset := startOffset data t.offset } := by
  unfold pendingEvents
  simp only
  split
  next hempty =>
    rw [(takenLines_of_empty hempty).1] at hmem
    exact absurd hmem List.not_mem_nil
  next =>
    obtain ⟨e', he'⟩ := eventsOf_error hmem hline
    rw [he']
    exact ⟨⟨e', rfl⟩, rfl⟩

end SecurityEventTailer

/-! ## Runs -/

/-- What can happen: the writer appends some bytes, the agent calls `pending_events`, the
agent stops and starts again. -/
inductive TailStep where
  | append (chunk : Bytes)
  | poll
  | restart

/-- The event file, the tailer, and the events handed out so far. -/
structure TailWorld where
  file : Option Bytes := none
  tailer : SecurityEventTailer := .init none
  returned : List Json := []

namespace TailWorld

/-- What has been written. -/
def log (w : TailWorld) : Bytes := w.file.getD []

def step (text : JsonLoads) (w : TailWorld) : TailStep → TailWorld
  | .append chunk => { w with file := some (w.log ++ chunk) }
  | .poll =>
    match w.tailer.pendingEvents text w.file with
    | (.ok events, t) => { w with tailer := t, returned := w.returned ++ events }
    | (.error _, t) => { w with tailer := t }
  | .restart => { w with tailer := .init w.tailer.offsetFile }

/-- The world after a run. -/
def run (text : JsonLoads) (steps : List TailStep) : TailWorld := steps.foldl (step text) {}

end TailWorld

/-- What a step writes. -/
def TailStep.written : TailStep → Bytes
  | .append chunk => chunk
  | .poll => []
  | .restart => []

theorem TailWorld.log_step (text : JsonLoads) (w : TailWorld) (s : TailStep) :
    (w.step text s).log = w.log ++ s.written := by
  cases s with
  | append chunk => rfl
  | poll =>
    rw [TailStep.written, List.append_nil]
    unfold step
    simp only
    split <;> rfl
  | restart => exact (List.append_nil _).symm

/-- The log is what the writer has written, whatever else happened. -/
theorem TailWorld.log_run (text : JsonLoads) (steps : List TailStep) :
    (run text steps).log = steps.flatMap TailStep.written := by
  induction steps using List.reverseRecOn with
  | nil => rfl
  | append_singleton steps s ih =>
    unfold run at ih ⊢
    rw [List.foldl_concat, log_step, ih, List.flatMap_append, List.flatMap_singleton]

/-- Both offsets stand at the end of one line; the lines up to it were harmless, and their
events have been handed out. -/
structure TailInv (text : JsonLoads) (w : TailWorld) : Prop where
  cr : CR ∉ w.log
  at_line : AtLine w.log w.tailer.offset
  saved : w.tailer.offsetFile.getD 0 = w.tailer.offset
  harmless : ∀ line ∈ records LF (w.log.take w.tailer.offset), lineError text line = none
  returned : w.returned
    = (records LF (w.log.take w.tailer.offset)).filterMap (lineEvent text.toJsonText)

/-- The offset is where a read starts. -/
theorem AtLine.startOffset_eq {log : Bytes} {offset : Nat} (h : AtLine log offset) :
    startOffset log offset = offset := if_neg (Nat.not_lt.mpr h.le)

/-- What is appended leaves the lines before the offset as they are. -/
theorem AtLine.append {log : Bytes} {offset : Nat} (h : AtLine log offset) (chunk : Bytes) :
    AtLine (log ++ chunk) offset ∧ (log ++ chunk).take offset = log.take offset := by
  have htake : (log ++ chunk).take offset = log.take offset := List.take_append_of_le_length h.le
  refine ⟨⟨?_, ?_⟩, htake⟩
  · rw [List.length_append]
    exact Nat.le_add_right_of_le h.le
  · rw [htake]
    exact h.boundary

/-- A call on a log it has read up to the end of some line. -/
theorem readLog {log : Bytes} (hcr : CR ∉ log) {offset : Nat} (hat : AtLine log offset) :
    AtLine log (nextOffset log offset)
      ∧ records LF (log.take (nextOffset log offset))
        = records LF (log.take offset) ++ takenLines log offset
      ∧ records LF (log.take (nextOffset log offset)) = records LF log := by
  have h := readLines_spec hcr hat hat.le
  rw [List.take_length] at h
  exact ⟨h.1, h.2.2.1, h.2.2.2⟩

theorem TailInv.poll {text : JsonLoads} {w : TailWorld} (h : TailInv text w) :
    TailInv text (w.step text .poll) := by
  obtain ⟨file, tailer, returned⟩ := w
  cases file with
  | none =>
    have hnothing : (TailWorld.mk none tailer returned).step text .poll
        = ⟨none, tailer, returned ++ []⟩ := rfl
    rw [hnothing, List.append_nil]
    exact h
  | some data =>
    have hcr : CR ∉ data := h.cr
    have hat : AtLine data tailer.offset := h.at_line
    unfold TailWorld.step
    simp only
    by_cases hgood : ∀ line ∈ takenLines data tailer.offset, lineError text line = none
    · obtain ⟨hresult, hoffset, hsaved⟩ := SecurityEventTailer.pendingEvents_ok hgood
      obtain ⟨hat', hread, _⟩ := readLog hcr hat
      -- the call is a pair of what it returns and the tailer it leaves
      rcases hcall : tailer.pendingEvents text (some data) with ⟨result, t⟩
      rw [hcall] at hresult hoffset hsaved
      simp only at hresult hoffset hsaved
      rw [hresult]
      refine ⟨hcr, ?_, ?_, ?_, ?_⟩
      · show AtLine data t.offset
        rw [hoffset]
        exact hat'
      · show t.offsetFile.getD 0 = t.offset
        rcases hsaved with hsaved | ⟨hsaved, hstays⟩
        · rw [hsaved, hoffset]
          rfl
        · rw [hsaved, hoffset, hstays, hat.startOffset_eq]
          exact h.saved
      · show ∀ line ∈ records LF (data.take t.offset), lineError text line = none
        rw [hoffset, hread]
        intro line hline
        rcases List.mem_append.mp hline with hline | hline
        · exact h.harmless line hline
        · exact hgood line hline
      · show returned ++ _ = (records LF (data.take t.offset)).filterMap _
        rw [hoffset, hread, List.filterMap_append]
        exact congrArg (· ++ _) h.returned
    · obtain ⟨line, hmem, e, hline⟩ : ∃ line ∈ takenLines data tailer.offset,
          ∃ e, lineError text line = some e := by
        simpa only [not_forall, exists_prop, ← Option.ne_none_iff_exists'] using hgood
      obtain ⟨⟨e', hresult⟩, htailer⟩ := SecurityEventTailer.pendingEvents_error hmem hline
      rcases hcall : tailer.pendingEvents text (some data) with ⟨result, t⟩
      rw [hcall] at hresult htailer
      simp only at hresult htailer
      rw [hresult, htailer, hat.startOffset_eq]
      exact h

theorem TailInv.step {text : JsonLoads} {w : TailWorld} (h : TailInv text w) (s : TailStep)
    (hcr : ∀ chunk, s = .append chunk → CR ∉ chunk) : TailInv text (w.step text s) := by
  cases s with
  | append chunk =>
    obtain ⟨hat, htake⟩ := h.at_line.append chunk
    refine ⟨fun hmem => ?_, hat, h.saved, ?_, ?_⟩
    · rcases List.mem_append.mp hmem with hmem | hmem
      · exact h.cr hmem
      · exact hcr chunk rfl hmem
    · show ∀ line ∈ records LF ((w.log ++ chunk).take w.tailer.offset), lineError text line = none
      rw [htake]
      exact h.harmless
    · show w.returned = (records LF ((w.log ++ chunk).take w.tailer.offset)).filterMap _
      rw [htake]
      exact h.returned
  | poll => exact h.poll
  | restart =>
    have hsame : SecurityEventTailer.init w.tailer.offsetFile = w.tailer := by
      unfold SecurityEventTailer.init
      rw [h.saved]
    unfold TailWorld.step
    rw [hsame]
    exact h

theorem tailInv_run {text : JsonLoads} {steps : List TailStep}
    (hcr : ∀ chunk, .append chunk ∈ steps → CR ∉ chunk) : TailInv text (.run text steps) := by
  induction steps using List.reverseRecOn with
  | nil => exact ⟨List.not_mem_nil, .zero _, rfl, fun line hline => absurd hline List.not_mem_nil, rfl⟩
  | append_singleton steps s ih =>
    unfold TailWorld.run
    rw [List.foldl_concat]
    refine (ih fun chunk hmem => hcr chunk (List.mem_append_left _ hmem)).step s fun chunk h => ?_
    exact hcr chunk (h ▸ List.mem_append_right _ (List.mem_singleton_self _))

/-! ## What a run delivers -/

/-- What has been handed out is the decoded complete lines up to the offset, in order, each
once; and the offset is the beginning or just after an LF. -/
def HandedOut (text : JsonLoads) (w : TailWorld) : Prop :=
  w.returned = (records LF (w.log.take w.tailer.offset)).filterMap (lineEvent text.toJsonText)
    ∧ (w.tailer.offset = 0 ∨ w.log[w.tailer.offset - 1]? = some LF)

/-- One more call hands out the rest: with it, every complete line has been. -/
def DeliversRest (text : JsonLoads) (w : TailWorld) : Prop :=
  ∃ events, (w.tailer.pendingEvents text w.file).1 = .ok events
    ∧ w.returned ++ events = (records LF w.log).filterMap (lineEvent text.toJsonText)

/-- The end of a line is the beginning of the file or lies behind an LF. -/
theorem AtLine.zero_or_lf {log : Bytes} {offset : Nat} (h : AtLine log offset) :
    offset = 0 ∨ log[offset - 1]? = some LF := by
  by_cases hzero : offset = 0
  · exact .inl hzero
  · have hlength : (log.take offset).length = offset := by
      rw [List.length_take, Nat.min_eq_left h.le]
    have hne : log.take offset ≠ [] := by
      intro hnil
      rw [hnil, List.length_nil] at hlength
      exact hzero hlength.symm
    have hlast := (getLast?_eq_sep_iff hne).mpr h.boundary
    rw [List.getLast?_eq_getElem?, hlength, List.getElem?_take] at hlast
    have hlt : offset - 1 < offset := by omega
    rw [if_pos hlt] at hlast
    exact .inr hlast

/-- One more call delivers the rest exactly if no complete line makes the loop raise. -/
theorem TailInv.deliversRest_iff {text : JsonLoads} {w : TailWorld} (h : TailInv text w) :
    DeliversRest text w ↔ ∀ line ∈ records LF w.log, lineError text line = none := by
  obtain ⟨file, tailer, returned⟩ := w
  cases file with
  | none =>
    have hreturned : returned = [] := by
      rw [show returned = _ from h.returned]
      show (records LF (List.take tailer.offset ([] : Bytes))).filterMap _ = []
      rw [List.take_nil]
      rfl
    refine ⟨fun _ line hline => absurd hline List.not_mem_nil, fun _ => ⟨[], rfl, ?_⟩⟩
    rw [hreturned]
    rfl
  | some data =>
    have hcr : CR ∉ data := h.cr
    have hat : AtLine data tailer.offset := h.at_line
    obtain ⟨_, hread, hall⟩ := readLog hcr hat
    -- the complete lines are those read before and those that this call takes
    have hlines : records LF data
        = records LF (data.take tailer.offset) ++ takenLines data tailer.offset :=
      hall.symm.trans hread
    show DeliversRest text ⟨some data, tailer, returned⟩
      ↔ ∀ line ∈ records LF data, lineError text line = none
    constructor
    · intro ⟨events, hcall, _⟩ line hline
      rw [hlines] at hline
      rcases List.mem_append.mp hline with hline | hline
      · exact h.harmless line hline
      · by_contra hbad
        obtain ⟨e, he⟩ := Option.ne_none_iff_exists'.mp hbad
        obtain ⟨⟨e', hraises⟩, _⟩ := SecurityEventTailer.pendingEvents_error hline he
        rw [show (tailer.pendingEvents text (some data)).1 = .ok events from hcall] at hraises
        cases hraises
    · intro hgood
      have htaken : ∀ line ∈ takenLines data tailer.offset, lineError text line = none := by
        intro line hline
        exact hgood line (hlines ▸ List.mem_append_right _ hline)
      refine ⟨_, (SecurityEventTailer.pendingEvents_ok htaken).1, ?_⟩
      show returned ++ _ = (records LF data).filterMap _
      rw [hlines, List.filterMap_append]
      exact congrArg (· ++ _) h.returned

/-- **What the tailer delivers.** Whatever the interleaving of appends, calls and restarts:
nothing is skipped and nothing repeated up to the offset; and one more call delivers the
rest exactly if `json.loads` fails on no complete line in a way the loop does not catch. -/
theorem tailer_delivers_iff (text : JsonLoads) (steps : List TailStep)
    (hcr : ∀ chunk, .append chunk ∈ steps → CR ∉ chunk) :
    HandedOut text (.run text steps)
      ∧ (DeliversRest text (.run text steps)
        ↔ ∀ line ∈ records LF (TailWorld.run text steps).log, lineError text line = none) := by
  have h : TailInv text (.run text steps) := tailInv_run hcr
  exact ⟨⟨h.returned, h.at_line.zero_or_lf⟩, h.deliversRest_iff⟩

/-! A log of numbers, and `json.loads` on numbers. -/

/-- `json.loads` on decimal digits: an integer, if it is not too long. -/
def numberText : JsonLoads where
  decode := decodeAsciiReplace
  loads s := if s.toList.all Char.isDigit then
    some (.int (s.toList.foldl (fun n c => n * 10 + (c.toNat - 48)) 0)) else none
  repr _ := ""
  raises s := if s.toList.all Char.isDigit && 4300 < s.toList.length then
    some (.valueError "Exceeds the limit (4300 digits) for integer string conversion") else none

/-- Two lines written in three chunks, with calls and a restart in between. -/
def numberSteps : List TailStep :=
  [.poll, .append [0x31], .poll, .append [0x32, LF, 0x33], .poll, .restart, .append [LF]]

theorem tailer_delivers_iff_numbers :
    DeliversRest numberText (.run numberText numberSteps) := by
  refine (tailer_delivers_iff numberText numberSteps ?_).2.mpr ?_
  · intro chunk hchunk
    simp only [numberSteps, List.mem_cons, TailStep.append.injEq, reduceCtorEq, false_or,
      List.not_mem_nil, or_false] at hchunk
    rcases hchunk with rfl | rfl | rfl <;> decide
  · rw [TailWorld.log_run]
    decide

/-- A line that holds the digit 1, `n` times. -/
def ones (n : Nat) : Bytes := List.replicate n 0x31

/-- The loop raises at a number of more than 4300 digits. -/
theorem lineError_ones {n : Nat} (hn : 4300 < n) : lineError numberText (ones n) ≠ none := by
  have hdecode : (decodeAsciiReplace (ones n)).toList = List.replicate n '1' := by
    unfold decodeAsciiReplace ones
    rw [String.toList_ofList, List.map_replicate]
    rfl
  have hstrip : strip (decodeAsciiReplace (ones n)) = decodeAsciiReplace (ones n) := by
    refine strip_of_no_space fun c hc => ?_
    rw [hdecode] at hc
    rw [List.eq_of_mem_replicate hc]
    rfl
  have hne : decodeAsciiReplace (ones n) ≠ "" := by
    intro h
    rw [h] at hdecode
    have hlength := congrArg List.length hdecode
    rw [List.length_replicate] at hlength
    exact absurd (hlength.symm.trans_lt (Nat.zero_lt_succ 4299)) (by omega)
  have hraises : numberText.raises (decodeAsciiReplace (ones n)) ≠ none := by
    show (if _ then _ else _) ≠ none
    rw [hdecode, if_pos]
    · exact Option.some_ne_none _
    · rw [List.length_replicate, Bool.and_eq_true, decide_eq_true_eq, List.all_eq_true]
      refine ⟨fun c hc => ?_, hn⟩
      rw [List.eq_of_mem_replicate hc]
      rfl
  show (if strip (decodeAsciiReplace (ones n)) = "" then none
    else numberText.raises (strip (decodeAsciiReplace (ones n)))) ≠ none
  rw [hstrip, if_neg hne]
  exact hraises

/-- The file is a number of `n` digits and, on a line of its own, the number 7. -/
def numberThenSeven (n : Nat) : List TailStep := [.append (ones n ++ [LF, 0x37, LF])]

theorem stuck_at_ones {n : Nat} (hn : 4300 < n) :
    (∀ chunk, TailStep.append chunk ∈ numberThenSeven n → CR ∉ chunk)
      ∧ ¬ DeliversRest numberText (.run numberText (numberThenSeven n)) := by
  have hcr : ∀ chunk, TailStep.append chunk ∈ numberThenSeven n → CR ∉ chunk := by
    intro chunk hchunk
    rw [numberThenSeven, List.mem_singleton, TailStep.append.injEq] at hchunk
    rw [hchunk, List.mem_append, not_or]
    refine ⟨fun h => ?_, by decide⟩
    exact absurd (List.eq_of_mem_replicate h) (by decide)
  refine ⟨hcr, fun hdelivers => ?_⟩
  refine lineError_ones hn ((tailInv_run hcr).deliversRest_iff.mp hdelivers (ones n) ?_)
  have hlf : LF ∉ ones n := fun h => absurd (List.eq_of_mem_replicate h) (by decide)
  obtain ⟨hrecords, hunfinished⟩ := @recordsFrom_of_not_mem _ _ LF [] (ones n) hlf
  rw [TailWorld.log_run]
  show ones n ∈ recordsFrom LF [] (ones n ++ [LF, 0x37, LF] ++ [])
  rw [List.append_nil, recordsFrom_append, hrecords, hunfinished]
  exact List.mem_cons_self

/-- **A line the loop cannot get past**: a number of 4301 digits. The call raises, and so
does every later one; the 7 behind it is never handed out. -/
theorem tailer_stuck :
    (∀ chunk, TailStep.append chunk ∈ numberThenSeven 4301 → CR ∉ chunk)
      ∧ ¬ DeliversRest numberText (.run numberText (numberThenSeven 4301)) :=
  stuck_at_ones (by decide)

end EdgeSensor.Agent
