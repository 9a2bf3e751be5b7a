import EdgeSensor.Lib.Streak
import EdgeSensor.Py.Lines

/-!
# The index of events (`src/events_index.py`)

The console counts the events of the last day in the last two MiB of a file of events, oldest
first, and takes the latest few from its last 256 KiB. Of a longer file the first line of what was
read is left out, as the one that the window may have cut; and the count stops after 500 old events
in a row, as if the rest were old too.

Mirroring notes:
- `EventsText.loads` is `json.loads`, none where it raises `JSONDecodeError`; `raises` tells the
  lines on which it raises something else, which nothing catches.
- Times are in microseconds since 1970. `fromIso` is `fromisoformat` and `timestamp`.
- A line is what `str.splitlines` makes one.
-/

namespace EdgeSensor.Console

open EdgeSensor.Lib EdgeSensor.Py

/-- The text functions of the standard library. -/
structure EventsText where
  text : Value.Text
  upper : PyStr → PyStr
  /-- `chunk.decode("utf-8", errors="replace")`. -/
  decode : Bytes → PyStr
  loads : PyStr → Option Value
  raises : PyStr → Option PyErr
  fromIso : PyStr → Option Int
  decode_nil : decode [] = []

/-- `_TAIL_RECENT_BYTES`. -/
def tailRecentBytes : Nat := 256 * 1024

/-- `_STATS_MAX_BYTES`. -/
def statsMaxBytes : Nat := 2 * 1024 * 1024

/-- `EventsStats`. -/
structure EventsStats where
  events24h : Nat
  ruleCounts24h : Dict PyStr Nat
  recentEvents : List Value

section Index

variable (text : EventsText)

/-- `_parse_event_ts`. -/
def parseEventTs (ev : Value) : Option Int :=
  let ts := if (ev.get "timestamp").truthy then ev.get "timestamp" else ev.get "detected_at"
  if ts.truthy then
    let s := text.text.str ts
    text.fromIso
      (if s.getLast? = some 90 then s.flatMap fun c => if c = 90 then lit "+00:00" else [c] else s)
  else none

/-- The lines that are not blank. -/
def notBlank (lines : List PyStr) : List PyStr := lines.filter fun line => PyStr.strip line ≠ []

/-- The last bytes of the file, as a text. -/
def windowText (data : Bytes) (maxBytes : Nat) : PyStr :=
  text.decode (data.drop (data.length - maxBytes))

/-- `_read_tail_bytes`. -/
def readTailBytes (data : Bytes) (maxBytes : Nat) : List PyStr :=
  if data = [] then []
  else
    if maxBytes < data.length then (notBlank (splitLines (windowText text data maxBytes))).drop 1
    else notBlank (splitLines (windowText text data maxBytes))

/-- `str(ev.get("rule_id") or ev.get("event_class") or "unknown").upper()`. -/
def ruleOf (ev : Value) : PyStr :=
  text.upper (text.text.str
    (if (ev.get "rule_id").truthy then ev.get "rule_id"
      else if (ev.get "event_class").truthy then ev.get "event_class"
      else .str (lit "unknown")))

/-- What the first loop has counted. -/
structure Counted where
  events24h : Nat := 0
  ruleCounts24h : Dict PyStr Nat := []
  staleStreak : Nat := 0

/-- The first loop of `scan_events_stats`. -/
def countLoop (cutoff : Int) : Counted → List PyStr → Except PyErr Counted
  | acc, [] => .ok acc
  | acc, line :: lines =>
    match text.raises line, text.loads line with
    | some e, _ => .error e
    | none, none => countLoop cutoff acc lines
    | none, some ev =>
      if ev.isObj then
        match parseEventTs text ev with
        | none => countLoop cutoff acc lines
        | some ts =>
          if cutoff ≤ ts then
            countLoop cutoff {
              events24h := acc.events24h + 1
              ruleCounts24h := acc.ruleCounts24h.upsert (ruleOf text ev) 0 (· + 1)
              staleStreak := 0 } lines
          else if 500 ≤ acc.staleStreak + 1 then
            .ok { acc with staleStreak := acc.staleStreak + 1 }
          else countLoop cutoff { acc with staleStreak := acc.staleStreak + 1 } lines
      else countLoop cutoff acc lines

/-- The second loop. -/
def recentLoop (recentLimit : Int) (recent : List Value) : List PyStr → Except PyErr (List Value)
  | [] => .ok recent
  | line :: lines =>
    match text.raises line, text.loads line with
    | some e, _ => .error e
    | none, none => recentLoop recentLimit recent lines
    | none, some ev =>
      let recent := if ev.isObj then recent ++ [ev] else recent
      if recentLimit ≤ recent.length then .ok recent else recentLoop recentLimit recent lines

/-- The recent events of a file. -/
def recentEvents (data : Bytes) (recentLimit : Int) : Except PyErr (List Value) :=
  recentLoop text recentLimit [] (readTailBytes text data tailRecentBytes).reverse

/-- `scan_events_stats` of a file, without the cache. -/
def scanEvents (data : Bytes) (now : Int) (recentLimit : Int) : Except PyErr EventsStats := do
  let counted ← countLoop text (now - 86400 * 1000000) {} (readTailBytes text data statsMaxBytes)
  let recent ← recentEvents text data recentLimit
  .ok ⟨counted.events24h, counted.ruleCounts24h, recent⟩

/-! ## What there is to count -/

/-- The event on a line. -/
def eventOn (line : PyStr) : Option Value := (text.loads line).filter (·.isObj)

/-- It is dated, and of the last day. -/
def isRecent (cutoff : Int) (line : PyStr) : Bool :=
  ((eventOn text line).bind (parseEventTs text)).any fun ts => cutoff ≤ ts

/-- It is dated, and older. -/
def isOld (cutoff : Int) (line : PyStr) : Bool :=
  ((eventOn text line).bind (parseEventTs text)).any fun ts => ts < cutoff

/-- The window begins with a line. -/
def startsLine (data : Bytes) (maxBytes : Nat) : Bool :=
  data.length ≤ maxBytes || data.getD (data.length - maxBytes - 1) 0 = 10

/-- The complete lines of the window, blank ones apart. -/
def completeLines (data : Bytes) (maxBytes : Nat) : List PyStr :=
  notBlank (if startsLine data maxBytes then splitLines (windowText text data maxBytes)
    else (splitLines (windowText text data maxBytes)).drop 1)

/-- The rule of the event on a line. -/
def ruleOn (line : PyStr) : PyStr := ((eventOn text line).map (ruleOf text)).getD []

/-- The counts are those of the events of the last day in the window. -/
def CountsExact (data : Bytes) (now recentLimit : Int) : Prop :=
  let recent := (completeLines text data statsMaxBytes).filter
    (isRecent text (now - 86400 * 1000000))
  ∃ stats, scanEvents text data now recentLimit = .ok stats
    ∧ stats.events24h = recent.length
    ∧ stats.ruleCounts24h = Dict.tally (recent.map (ruleOn text))

/-- The first line that is not blank is left out although it is complete: the window begins with
it, or with nothing but blanks of the line before. -/
def DropsComplete (data : Bytes) (maxBytes : Nat) : Prop :=
  maxBytes < data.length
    ∧ (startsLine data maxBytes = true
      ∨ notBlank ((splitLines (windowText text data maxBytes)).take 1) = [])

/-- What is left out is no event of the last day, and none stands behind 500 old ones. -/
structure NoneLost (data : Bytes) (cutoff : Int) : Prop where
  first : DropsComplete text data statsMaxBytes →
    ∀ line, (completeLines text data statsMaxBytes).head? = some line →
      isRecent text cutoff line = false
  behind : NoHitBehind (isRecent text cutoff) (isOld text cutoff) 500 0
    (readTailBytes text data statsMaxBytes)

/-- `json.loads` reads the lines of the windows, or refuses them. -/
def Loads (data : Bytes) : Prop :=
  ∀ line, line ∈ readTailBytes text data statsMaxBytes
    ∨ line ∈ readTailBytes text data tailRecentBytes → text.raises line = none

variable {text} {data : Bytes} {cutoff : Int} {line : PyStr} {lines : List PyStr}

/-! ## The loops -/

theorem countLoop_eq (hloads : ∀ line ∈ lines, text.raises line = none) (acc : Counted) :
    ∃ streak, countLoop text cutoff acc lines = .ok {
      events24h := acc.events24h + ((upToStreak (isRecent text cutoff) (isOld text cutoff) 500
        acc.staleStreak lines).filter (isRecent text cutoff)).length
      ruleCounts24h := (((upToStreak (isRecent text cutoff) (isOld text cutoff) 500
        acc.staleStreak lines).filter (isRecent text cutoff)).map (ruleOn text)).foldl
          (fun counts rule => counts.upsert rule 0 (· + 1)) acc.ruleCounts24h
      staleStreak := streak } := by
  induction lines generalizing acc with
  | nil => exact ⟨acc.staleStreak, rfl⟩
  | cons line lines ih =>
    have hrest := ih fun line hmem => hloads line (List.mem_cons_of_mem _ hmem)
    rw [countLoop, upToStreak, hloads line List.mem_cons_self]
    -- a line without a dated event is passed over
    have hskip (hnone : (eventOn text line).bind (parseEventTs text) = none) :
        isRecent text cutoff line = false ∧ isOld text cutoff line = false := by
      unfold isRecent isOld
      rw [hnone]
      exact ⟨rfl, rfl⟩
    cases hev : text.loads line with
    | none =>
      obtain ⟨hrecent, hold⟩ := hskip (by rw [eventOn, hev]; rfl)
      simpa only [hrecent, hold, if_neg Bool.false_ne_true, List.filter_cons] using hrest acc
    | some ev =>
      simp only
      by_cases hobj : ev.isObj = true
      · have hon : eventOn text line = some ev := by
          rw [eventOn, hev, Option.filter_some, if_pos hobj]
        rw [if_pos hobj]
        cases hts : parseEventTs text ev with
        | none =>
          obtain ⟨hrecent, hold⟩ := hskip (by rw [hon]; exact hts)
          simpa only [hrecent, hold, if_neg Bool.false_ne_true, List.filter_cons] using hrest acc
        | some ts =>
          have hrecent : isRecent text cutoff line = decide (cutoff ≤ ts) := by
            rw [isRecent, hon, Option.bind_some, hts, Option.any_some]
          have hold : isOld text cutoff line = decide (ts < cutoff) := by
            rw [isOld, hon, Option.bind_some, hts, Option.any_some]
          simp only [hrecent, hold, decide_eq_true_eq]
          by_cases hnew : cutoff ≤ ts
          · obtain ⟨streak, hloop⟩ := hrest {
              events24h := acc.events24h + 1
              ruleCounts24h := acc.ruleCounts24h.upsert (ruleOf text ev) 0 (· + 1)
              staleStreak := 0 }
            have hrule : ruleOn text line = ruleOf text ev := by rw [ruleOn, hon]; rfl
            have hnew' : isRecent text cutoff line = true := hrecent.trans (decide_eq_true hnew)
            rw [if_pos hnew, if_pos hnew, List.filter_cons_of_pos hnew', List.length_cons,
              List.map_cons, List.foldl_cons, hrule, hloop]
            exact ⟨streak, by rw [Nat.add_assoc, Nat.add_comm 1]⟩
          · have hdrop (rest : List PyStr) : (line :: rest).filter (isRecent text cutoff)
                = rest.filter (isRecent text cutoff) :=
              List.filter_cons_of_neg (by rw [hrecent]; simpa using hnew)
            rw [if_neg hnew, if_neg hnew, if_pos (not_le.mp hnew)]
            by_cases hstop : 500 ≤ acc.staleStreak + 1
            · rw [if_pos hstop, if_pos hstop, hdrop]
              exact ⟨acc.staleStreak + 1, rfl⟩
            · rw [if_neg hstop, if_neg hstop, hdrop]
              exact hrest { acc with staleStreak := acc.staleStreak + 1 }
      · obtain ⟨hrecent, hold⟩ := hskip (by rw [eventOn, hev, Option.filter_some, if_neg hobj]; rfl)
        rw [if_neg hobj]
        simpa only [hrecent, hold, if_neg Bool.false_ne_true, List.filter_cons] using hrest acc

theorem recentLoop_ok (hloads : ∀ line ∈ lines, text.raises line = none) (limit : Int)
    (recent : List Value) : ∃ events, recentLoop text limit recent lines = .ok events := by
  induction lines generalizing recent with
  | nil => exact ⟨recent, rfl⟩
  | cons line lines ih =>
    have hrest := ih fun line hmem => hloads line (List.mem_cons_of_mem _ hmem)
    rw [recentLoop, hloads line List.mem_cons_self]
    cases text.loads line with
    | none => exact hrest recent
    | some ev =>
      simp only
      generalize (if ev.isObj = true then recent ++ [ev] else recent) = recent'
      split
      next => exact ⟨recent', rfl⟩
      next => exact hrest recent'

/-! ## The window -/

/-- What is read of the window: its complete lines, or all but the first of them. -/
theorem readTailBytes_eq (hdata : data ≠ []) (maxBytes : Nat) :
    (DropsComplete text data maxBytes
        ∧ readTailBytes text data maxBytes = (completeLines text data maxBytes).drop 1)
      ∨ ¬ DropsComplete text data maxBytes
        ∧ readTailBytes text data maxBytes = completeLines text data maxBytes := by
  unfold readTailBytes completeLines DropsComplete
  rw [if_neg hdata]
  by_cases hlong : maxBytes < data.length
  · rw [if_pos hlong]
    by_cases hstarts : startsLine data maxBytes = true
    · rw [if_pos hstarts]
      exact .inl ⟨⟨hlong, .inl hstarts⟩, rfl⟩
    · rw [if_neg hstarts]
      cases hlines : splitLines (windowText text data maxBytes) with
      | nil => exact .inl ⟨⟨hlong, .inr rfl⟩, rfl⟩
      | cons first rest =>
        rw [show (first :: rest).take 1 = [first] from rfl,
          show (first :: rest).drop 1 = rest from rfl]
        unfold notBlank
        by_cases hblank : PyStr.strip first = []
        · have hdrop (rest : List PyStr) :
              (first :: rest).filter (fun line => PyStr.strip line ≠ [])
                = rest.filter fun line => PyStr.strip line ≠ [] :=
            List.filter_cons_of_neg (by simpa using hblank)
          rw [hdrop, hdrop]
          exact .inl ⟨⟨hlong, .inr rfl⟩, rfl⟩
        · -- the line that is left out is the cut one
          have hkeep (rest : List PyStr) :
              (first :: rest).filter (fun line => PyStr.strip line ≠ [])
                = first :: rest.filter fun line => PyStr.strip line ≠ [] :=
            List.filter_cons_of_pos (by simpa using hblank)
          rw [hkeep, hkeep]
          exact .inr ⟨fun h => h.2.elim hstarts nofun, rfl⟩
  · have hstarts : startsLine data maxBytes = true := by
      unfold startsLine
      rw [decide_eq_true (not_lt.mp hlong)]
      rfl
    rw [if_neg hlong, if_pos hstarts]
    exact .inr ⟨fun h => hlong h.1, rfl⟩

theorem filter_drop_one_iff {α : Type} {p : α → Bool} {l : List α} :
    (l.drop 1).filter p = l.filter p ↔ ∀ x, l.head? = some x → p x = false := by
  cases l with
  | nil => simp
  | cons x l =>
    rw [List.drop_one, List.tail_cons, List.filter_cons, List.head?_cons]
    cases hp : p x with
    | false => simp [hp]
    | true => simp [hp]

/-- Leaving out the first line costs no event of the last day. -/
theorem filter_readTailBytes_iff {maxBytes : Nat} :
    (readTailBytes text data maxBytes).filter (isRecent text cutoff)
        = (completeLines text data maxBytes).filter (isRecent text cutoff)
      ↔ (DropsComplete text data maxBytes →
        ∀ line, (completeLines text data maxBytes).head? = some line →
          isRecent text cutoff line = false) := by
  by_cases hdata : data = []
  · have hnone : completeLines text data maxBytes = [] := by
      unfold completeLines windowText
      rw [hdata, List.drop_nil, text.decode_nil]
      simp [splitLines, splitLinesFrom, notBlank]
    rw [hnone, readTailBytes, if_pos hdata]
    simp
  · rcases @readTailBytes_eq text _ hdata maxBytes with ⟨hdrops, hread⟩ | ⟨hkeeps, hread⟩
    · rw [hread, filter_drop_one_iff]
      exact ⟨fun h _ => h, fun h => h hdrops⟩
    · rw [hread]
      exact iff_of_true rfl fun hdrops => absurd hdrops hkeeps

/-- The counts are exact if neither the stop nor the first line takes an event of the last day
away. -/
theorem countsExact_iff_eq {now recentLimit : Int} (hloads : Loads text data)
    (hcutoff : now - 86400 * 1000000 = cutoff) :
    CountsExact text data now recentLimit
      ↔ (upToStreak (isRecent text cutoff) (isOld text cutoff) 500 0
            (readTailBytes text data statsMaxBytes)).filter (isRecent text cutoff)
          = (readTailBytes text data statsMaxBytes).filter (isRecent text cutoff)
        ∧ (readTailBytes text data statsMaxBytes).filter (isRecent text cutoff)
          = (completeLines text data statsMaxBytes).filter (isRecent text cutoff) := by
  obtain ⟨streak, hcounted⟩ :=
    @countLoop_eq text cutoff _ (fun line hmem => hloads line (.inl hmem)) {}
  obtain ⟨recent, hrecent⟩ := @recentLoop_ok text (readTailBytes text data tailRecentBytes).reverse
    (fun line hmem => hloads line (.inr (List.mem_reverse.mp hmem))) recentLimit []
  have hprefix := @upToStreak_initial _ (isRecent text cutoff) (isOld text cutoff) 500 0
    (readTailBytes text data statsMaxBytes)
  have hkept := hprefix.sublist.filter (isRecent text cutoff)
  have hread : ((readTailBytes text data statsMaxBytes).filter (isRecent text cutoff)).Sublist
      ((completeLines text data statsMaxBytes).filter (isRecent text cutoff)) := by
    by_cases hdata : data = []
    · rw [readTailBytes, if_pos hdata, List.filter_nil]
      exact List.nil_sublist _
    · rcases @readTailBytes_eq text _ hdata statsMaxBytes with ⟨-, htail⟩ | ⟨-, htail⟩
      · rw [htail]
        exact (List.drop_sublist 1 _).filter _
      · rw [htail]
  unfold CountsExact scanEvents recentEvents
  rw [hcutoff, hcounted, hrecent]
  simp only [bind, Except.bind, Nat.zero_add]
  generalize (upToStreak (isRecent text cutoff) (isOld text cutoff) 500 0
    (readTailBytes text data statsMaxBytes)).filter (isRecent text cutoff) = kept at hkept ⊢
  generalize (readTailBytes text data statsMaxBytes).filter (isRecent text cutoff) = read
    at hkept hread ⊢
  constructor
  · rintro ⟨_, ⟨⟩, hlength, -⟩
    have hlength : kept.length = _ := hlength
    have hle := hkept.length_le
    have hle' := hread.length_le
    exact ⟨hkept.eq_of_length (by omega), hread.eq_of_length (by omega)⟩
  · rintro ⟨rfl, rfl⟩
    exact ⟨_, rfl, rfl, rfl⟩

/-- **The counts are exact** where nothing of the last day is left out: neither as the first line of
the window, nor behind 500 old events in a row. -/
theorem countsExact_iff (text : EventsText) (data : Bytes) (now recentLimit : Int)
    (hloads : Loads text data) :
    CountsExact text data now recentLimit ↔ NoneLost text data (now - 86400 * 1000000) := by
  rw [countsExact_iff_eq hloads rfl, filter_upToStreak_iff (by decide), filter_readTailBytes_iff]
  exact ⟨fun ⟨hbehind, hfirst⟩ => ⟨hfirst, hbehind⟩, fun ⟨hfirst, hbehind⟩ => ⟨hbehind, hfirst⟩⟩

end Index

/-! ## A file of old events, and one of today -/

def oldLine : PyStr := lit "\x7b\"timestamp\": \"2026-06-17\"\x7d"

def recentLine : PyStr := lit "\x7b\"timestamp\": \"2026-06-19\"\x7d"

/-- The two lines, and what the library makes of them. -/
def sampleEventsText : EventsText where
  text := { repr := fun _ => [], lower := fun s => s }
  upper := fun s => s.map fun c => if 97 ≤ c ∧ c ≤ 122 then c - 32 else c
  decode := fun data => data.map UInt8.toNat
  loads := fun line =>
    if line = oldLine then some (.obj [(lit "timestamp", .str (lit "2026-06-17"))])
    else if line = recentLine then some (.obj [(lit "timestamp", .str (lit "2026-06-19"))])
    else none
  raises := fun _ => none
  fromIso := fun s =>
    if s = lit "2026-06-17" then some 1781654400000000
    else if s = lit "2026-06-19" then some 1781827200000000
    else none
  decode_nil := rfl

/-- Noon on the nineteenth. -/
def sampleNow : Int := 1781870400000000

/-- The bytes of a file of these lines. -/
def fileOf (lines : List PyStr) : Bytes := (unlines lines).map UInt8.ofNat

theorem readTailBytes_fileOf {lines : List PyStr} {maxBytes : Nat}
    (hlines : ∀ line ∈ lines, line = oldLine ∨ line = recentLine) (hne : lines ≠ [])
    (hshort : (unlines lines).length ≤ maxBytes) :
    readTailBytes sampleEventsText (fileOf lines) maxBytes = lines := by
  have hplain : ∀ line ∈ [oldLine, recentLine], OneLine line ∧ (∀ c ∈ line, c < 256)
      ∧ PyStr.strip line ≠ [] := by decide +kernel
  have hline (line) (hmem : line ∈ lines) := hplain line (by simpa using hlines line hmem)
  have hascii : ∀ c ∈ unlines lines, c < 256 := by
    intro c hc
    obtain ⟨line, hmem, hc⟩ := List.mem_flatMap.mp hc
    rcases List.mem_append.mp hc with hc | hc
    · exact (hline line hmem).2.1 c hc
    · rw [List.mem_singleton.mp hc]
      decide
  have hdecode : (fileOf lines).map UInt8.toNat = unlines lines := by
    rw [fileOf, List.map_map]
    have hid : ∀ c ∈ unlines lines, (UInt8.toNat ∘ UInt8.ofNat) c = id c := fun c hc =>
      UInt8.toNat_ofNat_of_lt (hascii c hc)
    rw [List.map_congr_left hid, List.map_id]
  have hlength : (fileOf lines).length ≤ maxBytes := by
    rw [fileOf, List.length_map]
    exact hshort
  have hfile : fileOf lines ≠ [] := by
    cases lines with
    | nil => exact absurd rfl hne
    | cons line lines => simp [fileOf, unlines]
  unfold readTailBytes windowText
  rw [if_neg hfile, if_neg (not_lt.mpr hlength), Nat.sub_eq_zero_of_le hlength, List.drop_zero]
  show notBlank (splitLines ((fileOf lines).map UInt8.toNat)) = lines
  rw [hdecode, splitLines_unlines fun line hmem => (hline line hmem).1]
  exact List.filter_eq_self.mpr fun line hmem => decide_eq_true (hline line hmem).2.2

theorem counts_exact_recent :
    CountsExact sampleEventsText (fileOf [recentLine]) sampleNow 8 := by
  refine (countsExact_iff sampleEventsText (fileOf [recentLine]) sampleNow 8 fun _ _ => rfl).mpr
    ⟨fun hdrops => absurd hdrops.1 (by decide +kernel), ?_⟩
  rw [readTailBytes_fileOf (by simp) (by simp) (by decide +kernel)]
  intro before line after hlines hrecent
  have hbefore : before = [] := by
    cases before with
    | nil => rfl
    | cons first before => simp at hlines
  rw [hbefore]
  exact not_hasStreakFrom_nil (by decide)

/-- One event of today, behind 500 of the day before yesterday: it is not counted. -/
theorem early_stop_loses :
    ¬ CountsExact sampleEventsText (fileOf (List.replicate 500 oldLine ++ [recentLine]))
      sampleNow 8 := by
  intro h
  have hkept := ((countsExact_iff_eq (fun _ _ => rfl) rfl).mp h).1
  rw [readTailBytes_fileOf, filter_upToStreak_iff (by decide)] at hkept
  · have hold : isRecent sampleEventsText (sampleNow - 86400 * 1000000) oldLine = false
        ∧ isOld sampleEventsText (sampleNow - 86400 * 1000000) oldLine = true := by decide +kernel
    refine hkept _ recentLine [] rfl (by decide +kernel) (.inl ⟨_, List.infix_refl _, ?_, ?_⟩)
    · intro line hmem
      rw [List.eq_of_mem_replicate hmem]
      exact hold.1
    · rw [List.countP_replicate, if_pos hold.2]
  · intro line hmem
    rcases List.mem_append.mp hmem with hmem | hmem
    · exact .inl (List.eq_of_mem_replicate hmem)
    · exact .inr (List.mem_singleton.mp hmem)
  · exact List.append_ne_nil_of_right_ne_nil _ (List.cons_ne_nil _ _)
  · decide +kernel

end EdgeSensor.Console
