import EdgeSensor.Agent.TailerRun
import EdgeSensor.Sensor.PoisonLines

/-!
# Rotation of a tailed file

Three readers tail a file by a saved offset: `SuricataEveSource`, `SnortAlertSource` and
`SecurityEventTailer`. None of them knows that a file has been replaced. All they see is
its length, and only a file shorter than the offset is taken for a new one. A new file that
has outgrown the offset by the next call is read from the middle, and what comes before is
never looked at.

`LineReader` is what the three have in common; `readsNewFile_iff` says of any of them when
the lines of a new file are processed, each exactly once.

Mirroring notes:
- A line is processed by a call that goes through it and returns; what the call makes of
  it is `pendingEvents_ok` and `pollOnce_ok`.
- The new file is its final content and how much of it is there at each call. A call that
  finds no file at all changes nothing, and is left out.
-/

namespace EdgeSensor.Sensor

open EdgeSensor.Lib EdgeSensor.Py EdgeSensor.Agent

/-- A reader that tails a file: one call, which returns or raises, and the offset. -/
structure LineReader (σ : Type) where
  call : (Nat → EngineClock) → Bytes → σ → Bool × σ
  offset : σ → Nat

/-- A call: the clock it reads, and how much of the file has been written. -/
structure Moment where
  clock : Nat → EngineClock
  written : Nat

namespace LineReader

variable {σ : Type}

/-- The lines processed by the calls made at some moments. -/
def processed (r : LineReader σ) (log : Bytes) : σ → List Moment → List Bytes
  | _, [] => []
  | s, m :: moments =>
    let called := r.call m.clock (log.take m.written) s
    (if called.1 then takenLines (log.take m.written) (r.offset s) else [])
      ++ r.processed log called.2 moments

/-- What one call does: it takes all the lines, or none of them if one is `poison`. -/
structure Reads (r : LineReader σ) (poison : Bytes → Prop) : Prop where
  returns : ∀ {clock data s}, (∀ line ∈ takenLines data (r.offset s), ¬ poison line) →
    (r.call clock data s).1 = true ∧ r.offset (r.call clock data s).2 = nextOffset data (r.offset s)
  raises : ∀ {clock data s line}, line ∈ takenLines data (r.offset s) → poison line →
    (r.call clock data s).1 = false ∧ r.offset (r.call clock data s).2 = startOffset data (r.offset s)

end LineReader

/-- The moments follow one another, and at the last the file is complete. -/
def Watched (log : Bytes) (moments : List Moment) : Prop :=
  (moments.map Moment.written).Pairwise (· ≤ ·) ∧
    (moments.map Moment.written).getLast? = some log.length

/-- A file watched while it grows is never longer than in the end. -/
theorem Watched.written_le {log : Bytes} {moments : List Moment} (h : Watched log moments) :
    ∀ m ∈ moments, m.written ≤ log.length := by
  obtain ⟨hsorted, hlast⟩ := h
  intro m hm
  have hmem := List.mem_map_of_mem (f := Moment.written) hm
  obtain ⟨pre, hpre⟩ := List.getLast?_eq_some_iff.mp hlast
  rw [hpre] at hmem hsorted
  rcases List.mem_append.mp hmem with hmem | hmem
  · exact (List.pairwise_append.mp hsorted).2.2 _ hmem _ (List.mem_singleton_self _)
  · exact (List.mem_singleton.mp hmem).le

/-- At the last moment the file is complete. -/
theorem Watched.records_last {log : Bytes} {m : Moment} {rest : List Moment} (h : Watched log (m :: rest)) :
    (match rest.getLast? with
      | none => records LF (log.take m.written)
      | some last => records LF (log.take last.written)) = records LF log := by
  have hcomplete : ∀ last : Moment, last.written = log.length →
      records LF (log.take last.written) = records LF log := by
    intro last hlast
    rw [hlast, List.take_length]
  have hlast := h.2
  cases rest with
  | nil =>
    rw [List.map_cons, List.map_nil, List.getLast?_singleton, Option.some.injEq] at hlast
    exact hcomplete m hlast
  | cons m' rest =>
    rw [List.map_cons, List.map_cons, List.getLast?_cons_cons, ← List.map_cons,
      List.getLast?_map] at hlast
    obtain ⟨last, hlast, hwritten⟩ := Option.map_eq_some_iff.mp hlast
    rw [hlast]
    exact hcomplete last hwritten

/-! ## Lines that are taken -/

/-- No line holds a CR. -/
theorem not_mem_splitlinesFrom {cur data : Bytes} {afterCr : Bool} (hcur : CR ∉ cur) :
    ∀ line ∈ splitlinesFrom cur afterCr data, CR ∉ line := by
  induction data generalizing cur afterCr with
  | nil =>
    intro line hline
    unfold splitlinesFrom at hline
    split at hline
    next => exact absurd hline List.not_mem_nil
    next => exact (List.mem_singleton.mp hline) ▸ hcur
  | cons x data ih =>
    have hnil : CR ∉ ([] : Bytes) := List.not_mem_nil
    intro line hline
    unfold splitlinesFrom at hline
    split at hline
    next =>
      split at hline
      next => exact ih hnil line hline
      next =>
        rcases List.mem_cons.mp hline with rfl | hline
        · exact hcur
        · exact ih hnil line hline
    next =>
      split at hline
      next =>
        rcases List.mem_cons.mp hline with rfl | hline
        · exact hcur
        · exact ih hnil line hline
      next hcr =>
        refine ih (fun h => ?_) line hline
        rcases List.mem_append.mp h with h | h
        · exact hcur h
        · exact hcr (List.mem_singleton.mp h).symm

theorem not_mem_takenLines {data : Bytes} {offset : Nat} :
    ∀ line ∈ takenLines data offset, CR ∉ line := by
  intro line hline
  refine @not_mem_splitlinesFrom [] (data.drop (startOffset data offset)) false
    List.not_mem_nil line ?_
  unfold takenLines completeLines at hline
  split at hline
  next => exact hline
  next => exact List.mem_of_mem_dropLast hline

/-- A read from an offset past the end is a read from the beginning. -/
theorem taken_of_starts {data : Bytes} {offset : Nat} (h : offset = 0 ∨ data.length < offset) :
    takenLines data offset = takenLines data 0 ∧ nextOffset data offset = nextOffset data 0 := by
  rcases h with rfl | hshort
  · exact ⟨rfl, rfl⟩
  · have hrestart : startOffset data offset = startOffset data 0 := by
      rw [show startOffset data 0 = 0 from if_neg (Nat.not_lt_zero _)]
      exact if_pos hshort
    unfold nextOffset takenLines
    rw [hrestart]
    exact ⟨rfl, rfl⟩

/-- The lines of a file that ends with LF are the file. -/
theorem consumed_records {log : Bytes} (hlf : Boundary LF log) :
    consumed (records LF log) = log.length := by
  have hflat := @flatten_records _ _ LF log
  rw [show partialRecord LF log = [] from hlf, List.append_nil] at hflat
  rw [consumed_eq, hflat]

/-- A byte of such a file other than LF is on one of its lines. -/
theorem mem_records_of_mem {log : Bytes} (hlf : Boundary LF log) {x : UInt8} (hx : x ∈ log)
    (hne : x ≠ LF) : ∃ line ∈ records LF log, x ∈ line := by
  have hflat := @flatten_records _ _ LF log
  rw [show partialRecord LF log = [] from hlf, List.append_nil] at hflat
  rw [← hflat] at hx
  obtain ⟨line, hline, hx⟩ := List.mem_flatMap.mp hx
  rcases List.mem_append.mp hx with hx | hx
  · exact ⟨line, hline, hx⟩
  · exact absurd (List.mem_singleton.mp hx) hne

namespace LineReader

variable {σ : Type} {r : LineReader σ} {poison : Bytes → Prop} {log : Bytes}

/-- Processed lines hold no CR, and none of them is poison. -/
theorem Reads.processed_harmless (hr : r.Reads poison) {s : σ} {moments : List Moment} :
    ∀ line ∈ r.processed log s moments, CR ∉ line ∧ ¬ poison line := by
  induction moments generalizing s with
  | nil => exact fun line hline => absurd hline List.not_mem_nil
  | cons m moments ih =>
    intro line hline
    unfold processed at hline
    rcases List.mem_append.mp hline with hline | hline
    · split at hline
      next hcall =>
        refine ⟨not_mem_takenLines line hline, fun hpoison => ?_⟩
        rw [(hr.raises hline hpoison).1] at hcall
        cases hcall
      next => exact absurd hline List.not_mem_nil
    · exact ih line hline

/-- From an offset inside the file, the processed lines lie between it and the end. -/
theorem Reads.consumed_processed (hr : r.Reads poison) {s : σ} {moments : List Moment}
    (hoffset : ∀ m ∈ moments, r.offset s ≤ m.written)
    (hsorted : (moments.map Moment.written).Pairwise (· ≤ ·))
    (hlog : ∀ m ∈ moments, m.written ≤ log.length) (hstart : r.offset s ≤ log.length) :
    r.offset s + consumed (r.processed log s moments) ≤ log.length := by
  induction moments generalizing s with
  | nil => exact hstart
  | cons m moments ih =>
    rw [List.map_cons, List.pairwise_cons] at hsorted
    have hwritten : m.written ≤ log.length := hlog m List.mem_cons_self
    have hlength : (log.take m.written).length = m.written := by
      rw [List.length_take, Nat.min_eq_left hwritten]
    have hfrom : startOffset (log.take m.written) (r.offset s) = r.offset s := by
      refine if_neg (Nat.not_lt.mpr ?_)
      rw [hlength]
      exact hoffset m List.mem_cons_self
    have hnext := nextOffset_add (log.take m.written) (r.offset s)
    rw [hlength] at hnext
    unfold processed
    simp only
    by_cases hgood : ∀ line ∈ takenLines (log.take m.written) (r.offset s), ¬ poison line
    · obtain ⟨hcall, hmoved⟩ := @Reads.returns σ r poison hr m.clock _ s hgood
      rw [if_pos hcall, consumed_append]
      have hend : r.offset (r.call m.clock (log.take m.written) s).2 ≤ m.written := by
        rw [hmoved]
        omega
      have hrest := @ih (r.call m.clock (log.take m.written) s).2
        (fun m' hm' => hend.trans (hsorted.1 _ (List.mem_map_of_mem hm'))) hsorted.2
        (fun m' hm' => hlog m' (List.mem_cons_of_mem _ hm')) (hend.trans hwritten)
      have hstep : nextOffset (log.take m.written) (r.offset s)
          = r.offset s + consumed (takenLines (log.take m.written) (r.offset s)) := by
        unfold nextOffset
        rw [hfrom]
      rw [hmoved] at hrest
      omega
    · obtain ⟨line, hline, hpoison⟩ : ∃ line ∈ takenLines (log.take m.written) (r.offset s),
          poison line := by
        simpa only [not_forall, not_not, exists_prop] using hgood
      obtain ⟨hcall, hmoved⟩ := @Reads.raises σ r poison hr m.clock _ s line hline hpoison
      rw [hcall, if_neg Bool.false_ne_true, List.nil_append]
      rw [hfrom] at hmoved
      have hrest := @ih (r.call m.clock (log.take m.written) s).2
        (fun m' hm' => hmoved ▸ hoffset m' (List.mem_cons_of_mem _ hm')) hsorted.2
        (fun m' hm' => hlog m' (List.mem_cons_of_mem _ hm')) (hmoved ▸ hstart)
      rw [hmoved] at hrest
      exact hrest

/-- A call that reads on from the end of a line, in a file without CR and poison: what it
takes are the lines finished since. -/
theorem Reads.readsOn (hr : r.Reads poison) (hcr : CR ∉ log)
    (hgood : ∀ line ∈ records LF log, ¬ poison line) {s : σ} {m : Moment} {offset : Nat}
    (hat : AtLine log offset) (hle : offset ≤ m.written)
    (htaken : takenLines (log.take m.written) (r.offset s) = takenLines (log.take m.written) offset)
    (hnext : nextOffset (log.take m.written) (r.offset s) = nextOffset (log.take m.written) offset) :
    (r.call m.clock (log.take m.written) s).1 = true
      ∧ AtLine log (r.offset (r.call m.clock (log.take m.written) s).2)
      ∧ r.offset (r.call m.clock (log.take m.written) s).2 ≤ m.written
      ∧ records LF (log.take (r.offset (r.call m.clock (log.take m.written) s).2))
        = records LF (log.take offset) ++ takenLines (log.take m.written) (r.offset s)
      ∧ records LF (log.take (r.offset (r.call m.clock (log.take m.written) s).2))
        = records LF (log.take m.written) := by
  obtain ⟨hat', hle', hread, hall⟩ := readLines_spec hcr hat hle
  have hharmless : ∀ line ∈ takenLines (log.take m.written) (r.offset s), ¬ poison line := by
    intro line hline
    rw [htaken] at hline
    refine hgood line ?_
    -- what is taken is among the lines before the new offset, and these among all
    have hmem : line ∈ records LF (log.take (nextOffset (log.take m.written) offset)) :=
      hread ▸ List.mem_append_right _ hline
    have hwhole := records_append_of_boundary hat'.boundary
      (log.drop (nextOffset (log.take m.written) offset))
    rw [List.take_append_drop] at hwhole
    rw [hwhole]
    exact List.mem_append_left _ hmem
  obtain ⟨hcall, hmoved⟩ := @Reads.returns σ r poison hr m.clock _ s hharmless
  rw [hmoved, hnext, htaken]
  exact ⟨hcall, hat', hle', hread, hall⟩

/-- From the end of a line, a file without CR and poison is read to its end. -/
theorem Reads.processed_of_atLine (hr : r.Reads poison) (hcr : CR ∉ log)
    (hgood : ∀ line ∈ records LF log, ¬ poison line) {s : σ} {moments : List Moment}
    (hat : AtLine log (r.offset s)) (hoffset : ∀ m ∈ moments, r.offset s ≤ m.written)
    (hsorted : (moments.map Moment.written).Pairwise (· ≤ ·)) :
    records LF (log.take (r.offset s)) ++ r.processed log s moments
      = match moments.getLast? with
        | none => records LF (log.take (r.offset s))
        | some m => records LF (log.take m.written) := by
  induction moments generalizing s with
  | nil => exact List.append_nil _
  | cons m moments ih =>
    rw [List.map_cons, List.pairwise_cons] at hsorted
    obtain ⟨hcall, hat', hle, hread, hall⟩ :=
      hr.readsOn hcr hgood hat (hoffset m List.mem_cons_self) rfl rfl
    have hrest := ih hat'
      (fun m' hm' => hle.trans (hsorted.1 _ (List.mem_map_of_mem hm'))) hsorted.2
    unfold processed
    simp only
    rw [if_pos hcall, ← List.append_assoc, ← hread, hrest]
    cases moments with
    | nil => exact hall
    | cons m' moments => rfl

/-- The lines of a new file are processed, each exactly once, in order. -/
def ReadsNewFile (r : LineReader σ) (log : Bytes) (s : σ) (moments : List Moment) : Prop :=
  r.processed log s moments = records LF log

/-- A reader in the middle of a file that already reaches so far stays behind: what it
processes is shorter than the file. -/
theorem Reads.starts_of_readsNewFile (hr : r.Reads poison) (hlf : Boundary LF log) {s : σ}
    {m : Moment} {rest : List Moment} (hwatched : Watched log (m :: rest))
    (hreads : r.ReadsNewFile log s (m :: rest)) : r.offset s = 0 ∨ m.written < r.offset s := by
  have hsorted := hwatched.1
  by_contra hmiddle
  rw [not_or, Nat.not_lt] at hmiddle
  have hall : ∀ m' ∈ m :: rest, r.offset s ≤ m'.written := by
    intro m' hm'
    rcases List.mem_cons.mp hm' with rfl | hm'
    · exact hmiddle.2
    · rw [List.map_cons, List.pairwise_cons] at hsorted
      exact hmiddle.2.trans (hsorted.1 _ (List.mem_map_of_mem hm'))
  have hlength := hr.consumed_processed hall hsorted hwatched.written_le
    (hmiddle.2.trans (hwatched.written_le m List.mem_cons_self))
  rw [show r.processed log s (m :: rest) = records LF log from hreads,
    consumed_records hlf] at hlength
  have hpos := hmiddle.1
  omega

/-- A reader that starts from the beginning of a file without CR and poison processes all
of it. -/
theorem Reads.readsNewFile_of_starts (hr : r.Reads poison) {s : σ} {m : Moment}
    {rest : List Moment} (hwatched : Watched log (m :: rest))
    (hstart : r.offset s = 0 ∨ m.written < r.offset s) (hcr : CR ∉ log)
    (hgood : ∀ line ∈ records LF log, ¬ poison line) : r.ReadsNewFile log s (m :: rest) := by
  have hfirst := @taken_of_starts (log.take m.written) (r.offset s) <| hstart.imp_right fun hshort => by
    rw [List.length_take]
    exact (Nat.min_le_left _ _).trans_lt hshort
  obtain ⟨hcall, hat, hle, hread, hall⟩ :=
    hr.readsOn hcr hgood (AtLine.zero log) (Nat.zero_le _) hfirst.1 hfirst.2
  have hsorted := hwatched.1
  rw [List.map_cons, List.pairwise_cons] at hsorted
  have hrest := @Reads.processed_of_atLine σ r poison log hr hcr hgood _ rest hat
    (fun m' hm' => hle.trans (hsorted.1 _ (List.mem_map_of_mem hm'))) hsorted.2
  show (if (r.call m.clock (log.take m.written) s).1 then _ else _) ++ _ = records LF log
  rw [if_pos hcall]
  rw [hread] at hrest
  rw [show takenLines (log.take m.written) (r.offset s)
    = records LF (log.take 0) ++ takenLines (log.take m.written) (r.offset s) from rfl, hrest,
    ← hread, hall]
  exact hwatched.records_last

/-- **When a rotation is noticed.** The file has been replaced, and the first call finds
`m.written` bytes of the new one. All its lines are processed, each once, exactly if the
reader starts from the beginning (its offset is 0, or more than it finds), no line is
poison, and there is no CR. -/
theorem Reads.readsNewFile_iff (hr : r.Reads poison) (hlf : Boundary LF log) {s : σ} {m : Moment}
    {rest : List Moment} (hwatched : Watched log (m :: rest)) :
    r.ReadsNewFile log s (m :: rest)
      ↔ (r.offset s = 0 ∨ m.written < r.offset s) ∧ CR ∉ log
        ∧ ∀ line ∈ records LF log, ¬ poison line := by
  constructor
  · intro hreads
    have hharmless := @Reads.processed_harmless σ r poison log hr s (m :: rest)
    rw [show r.processed log s (m :: rest) = records LF log from hreads] at hharmless
    refine ⟨hr.starts_of_readsNewFile hlf hwatched hreads, fun hcr => ?_,
      fun line hline => (hharmless line hline).2⟩
    obtain ⟨line, hline, hmem⟩ := mem_records_of_mem hlf hcr (by decide)
    exact (hharmless line hline).1 hmem
  · intro ⟨hstart, hcr, hgood⟩
    exact hr.readsNewFile_of_starts hwatched hstart hcr hgood

end LineReader

/-! ## The three readers -/

/-- A source as a reader. -/
def sourceReader (text : EngineText) (map : EngineMap) : LineReader EngineSource where
  call clock data src :=
    let polled := src.pollOnce text map clock (some data)
    (polled.1.isOk, polled.2)
  offset := EngineSource.offset

def suricataReader (text : EngineText) (config : EngineConfig) : LineReader EngineSource :=
  sourceReader text (SuricataEveMapper.map text config)

def snortReader (text : EngineText) (config : EngineConfig) : LineReader EngineSource :=
  sourceReader text (SnortAlertMapper.map text config)

/-- `SecurityEventTailer` as a reader; it reads no clock. -/
def tailerReader (text : JsonLoads) : LineReader SecurityEventTailer where
  call _ data t :=
    let called := t.pendingEvents text (some data)
    (called.1.isOk, called.2)
  offset := SecurityEventTailer.offset

/-- Either source reads lines, and raises at the bad ones of its mapper. -/
theorem source_reads {text : EngineText} {map : EngineMap} {isAlert bad : Value → Bool}
    (hmaps : Maps text map isAlert bad) :
    (sourceReader text map).Reads fun line => lineBad text bad line = true := by
  constructor
  · intro clock data src hgood
    obtain ⟨⟨n, hn⟩, hoffset, _⟩ := EngineSource.pollOnce_ok hmaps clock
      fun line hline => Bool.eq_false_iff.mpr (hgood line hline)
    refine ⟨?_, hoffset⟩
    show (src.pollOnce text map clock (some data)).1.isOk = true
    rw [hn]
    rfl
  · intro clock data src line hline hbad
    obtain ⟨⟨e, he⟩, hoffset, _⟩ := EngineSource.pollOnce_error hmaps clock hline hbad
    refine ⟨?_, hoffset⟩
    show (src.pollOnce text map clock (some data)).1.isOk = false
    rw [he]
    rfl

theorem tailer_reads (text : JsonLoads) :
    (tailerReader text).Reads fun line => lineError text line ≠ none := by
  constructor
  · intro _ data t hgood
    obtain ⟨hresult, hoffset, _⟩ := @SecurityEventTailer.pendingEvents_ok text data t
      fun line hline => not_not.mp (hgood line hline)
    refine ⟨?_, hoffset⟩
    show (t.pendingEvents text (some data)).1.isOk = true
    rw [hresult]
    rfl
  · intro _ data t line hline hbad
    obtain ⟨e, he⟩ := Option.ne_none_iff_exists'.mp hbad
    obtain ⟨⟨e', hresult⟩, htailer⟩ := SecurityEventTailer.pendingEvents_error (t := t) hline he
    refine ⟨?_, congrArg SecurityEventTailer.offset htailer⟩
    show (t.pendingEvents text (some data)).1.isOk = false
    rw [hresult]
    rfl

/-- **When a rotation loses lines.** A tailed file is replaced by one whose lines end in LF;
the first call after that finds `m.written` bytes of it, the last one all of it. Each of
the three readers processes every line of it exactly once exactly if its offset was 0 or
larger than what the first call finds, there is no CR, and no line makes it raise. -/
theorem rotation_iff (text : JsonLoads) (engine : EngineText) (config : EngineConfig) (log : Bytes)
    (hlf : Boundary LF log) (m : Moment) (rest : List Moment) (hwatched : Watched log (m :: rest)) :
    (∀ src : EngineSource, (suricataReader engine config).ReadsNewFile log src (m :: rest)
      ↔ (src.offset = 0 ∨ m.written < src.offset) ∧ CR ∉ log
        ∧ ∀ line ∈ records LF log, lineBad engine (SuricataEveMapper.bad engine) line = false)
    ∧ (∀ src : EngineSource, (snortReader engine config).ReadsNewFile log src (m :: rest)
      ↔ (src.offset = 0 ∨ m.written < src.offset) ∧ CR ∉ log
        ∧ ∀ line ∈ records LF log, lineBad engine (SnortAlertMapper.bad engine) line = false)
    ∧ ∀ t : SecurityEventTailer, (tailerReader text).ReadsNewFile log t (m :: rest)
      ↔ (t.offset = 0 ∨ m.written < t.offset) ∧ CR ∉ log
        ∧ ∀ line ∈ records LF log, lineError text line = none := by
  have hsource : ∀ {map : EngineMap} {isAlert bad : Value → Bool}, Maps engine map isAlert bad →
      ∀ src : EngineSource, (sourceReader engine map).ReadsNewFile log src (m :: rest)
        ↔ (src.offset = 0 ∨ m.written < src.offset) ∧ CR ∉ log
          ∧ ∀ line ∈ records LF log, lineBad engine bad line = false := by
    intro map isAlert bad hmaps src
    have h := @LineReader.Reads.readsNewFile_iff _ _ _ log (source_reads hmaps) hlf src m rest hwatched
    simp only [Bool.not_eq_true] at h
    exact h
  refine ⟨hsource (SuricataEveMapper.maps engine config),
    hsource (SnortAlertMapper.maps engine config), fun t => ?_⟩
  have h := @LineReader.Reads.readsNewFile_iff _ _ _ log (tailer_reads text) hlf t m rest hwatched
  simp only [not_not] at h
  exact h

/-! A file of two lines, read at two moments. -/

/-- `json.loads` on an empty object. -/
def objectText : JsonLoads where
  decode := decodeAsciiReplace
  loads s := if s = "\x7b\x7d" then some (.obj []) else none
  repr _ := "\x7b\x7d"
  raises _ := none

/-- Two empty objects, six bytes. -/
def twoObjects : Bytes := [0x7b, 0x7d, LF, 0x7b, 0x7d, LF]

def atNoon (written : Nat) : Moment := ⟨fun _ => noon, written⟩

theorem rotation_iff_shorter :
    (suricataReader plainText lab).ReadsNewFile twoObjects { offset := 4 } [atNoon 3, atNoon 6]
      ∧ (snortReader plainText lab).ReadsNewFile twoObjects { offset := 4 } [atNoon 3, atNoon 6]
      ∧ (tailerReader objectText).ReadsNewFile twoObjects ⟨4, some 4⟩ [atNoon 3, atNoon 6] := by
  have h := rotation_iff objectText plainText lab twoObjects rfl (atNoon 3) [atNoon 6]
    ⟨by decide, rfl⟩
  refine ⟨(h.1 _).mpr ⟨.inr (by decide), by decide, by decide⟩,
    (h.2.1 _).mpr ⟨.inr (by decide), by decide, by decide⟩,
    (h.2.2 _).mpr ⟨.inr (by decide), by decide, fun line _ => ?_⟩⟩
  unfold lineError
  simp only
  split
  · rfl
  · rfl

/-- **A rotation none of the three notices.** The offset is 3, and when the first call comes
the new file has six bytes already. -/
theorem rotation_missed :
    ¬ (suricataReader plainText lab).ReadsNewFile twoObjects { offset := 3 } [atNoon 6]
      ∧ ¬ (snortReader plainText lab).ReadsNewFile twoObjects { offset := 3 } [atNoon 6]
      ∧ ¬ (tailerReader objectText).ReadsNewFile twoObjects ⟨3, some 3⟩ [atNoon 6] := by
  have hlf : Boundary LF twoObjects := rfl
  have hwatched : Watched twoObjects [atNoon 6] := ⟨by decide, rfl⟩
  refine ⟨fun h => ?_, fun h => ?_, fun h => ?_⟩
  · exact absurd ((source_reads (SuricataEveMapper.maps plainText lab)).readsNewFile_iff hlf
      hwatched |>.mp h).1 (by decide)
  · exact absurd ((source_reads (SnortAlertMapper.maps plainText lab)).readsNewFile_iff hlf
      hwatched |>.mp h).1 (by decide)
  · exact absurd ((tailer_reads objectText).readsNewFile_iff hlf hwatched |>.mp h).1 (by decide)

end EdgeSensor.Sensor
