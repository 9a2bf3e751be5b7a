import EdgeSensor.Sensor.AlertMapping

/-!
# Lines a source cannot get past

One `poll_once` takes all complete lines beyond the offset or none of them. It takes them
exactly if each is harmless (`lineBad`), which asks more of a line than to be JSON or not:
a list, a number or a `null` where an object is expected is enough to stop the source, and
so are the records `bad` tells. A stopped source stays stopped, since the next poll begins
with the same lines.

The offset has a condition of its own. It counts one byte for what ends a line, and a line
can end in two, CR LF; `crlfs` of those keep it short of the last complete line, and what
lies between is read again.

`poll_all_iff` has both: a poll does what it is for exactly if no line is bad and none ends
in CR LF.
-/

namespace EdgeSensor.Sensor

open EdgeSensor.Lib EdgeSensor.Py EdgeSensor.Agent

/-! ## How far the offset gets -/

/-- The line breaks that are two bytes long. -/
def crlfsFrom (afterCr : Bool) : Bytes → Nat
  | [] => 0
  | x :: xs =>
    if x = LF then (if afterCr then 1 else 0) + crlfsFrom false xs
    else crlfsFrom (decide (x = CR)) xs

def crlfs (data : Bytes) : Nat := crlfsFrom false data

/-- The line at the end that nothing has ended yet, with `cur` read of it. -/
def openLine (cur : Bytes) : Bytes → Bytes
  | [] => cur
  | x :: xs => if x = LF ∨ x = CR then openLine [] xs else openLine (cur ++ [x]) xs

/-- The last line. -/
def lastLine (data : Bytes) : Bytes := (splitlines data).getLast?.getD []

/-- What the next poll will look at again: the line at the end of a file that does not end
in LF. After a CR an LF may still come. -/
def unfinished (data : Bytes) : Bytes :=
  if data.getLast? = some LF then []
  else if data.getLast? = some CR then lastLine data ++ [CR]
  else lastLine data

theorem consumed_append (a b : List Bytes) : consumed (a ++ b) = consumed a + consumed b := by
  unfold consumed
  rw [List.map_append, List.sum_append]

/-- Every byte belongs to a line or ends one. -/
theorem consumed_splitlinesFrom {cur data : Bytes} {afterCr : Bool} (h : afterCr = true → cur = []) :
    consumed (splitlinesFrom cur afterCr data) + crlfsFrom afterCr data
      = cur.length + data.length + (if openLine cur data = [] then 0 else 1) := by
  induction data generalizing cur afterCr with
  | nil =>
    unfold splitlinesFrom crlfsFrom openLine
    by_cases hcur : cur = []
    · rw [if_pos hcur, if_pos hcur, hcur]
      rfl
    · rw [if_neg hcur, if_neg hcur]
      simp [consumed]
  | cons x data ih =>
    have hfalse : ∀ cur : Bytes, (false = true → cur = []) := fun _ h => absurd h Bool.false_ne_true
    unfold splitlinesFrom crlfsFrom openLine
    by_cases hlf : x = LF
    · rw [if_pos hlf, if_pos hlf, if_pos (Or.inl hlf)]
      have hrest := ih (hfalse [])
      cases afterCr with
      | true =>
        -- the LF of a CR LF: its line has been counted at the CR
        rw [if_pos rfl, if_pos rfl, h rfl, List.length_cons]
        rw [List.length_nil] at hrest ⊢
        omega
      | false =>
        rw [if_neg Bool.false_ne_true, if_neg Bool.false_ne_true, List.length_cons,
          show cur :: splitlinesFrom [] false data = [cur] ++ splitlinesFrom [] false data from rfl,
          consumed_append]
        have hone : consumed [cur] = cur.length + 1 := by simp [consumed]
        rw [List.length_nil] at hrest
        omega
    · rw [if_neg hlf, if_neg hlf]
      by_cases hcr : x = CR
      · have hrest := ih fun _ : true = true => (rfl : ([] : Bytes) = [])
        rw [if_pos hcr, if_pos (Or.inr hcr), decide_eq_true hcr, List.length_cons,
          show cur :: splitlinesFrom [] true data = [cur] ++ splitlinesFrom [] true data from rfl,
          consumed_append]
        have hone : consumed [cur] = cur.length + 1 := by simp [consumed]
        rw [List.length_nil] at hrest
        omega
      · have hrest := ih (hfalse (cur ++ [x]))
        rw [if_neg hcr, if_neg (not_or.mpr ⟨hlf, hcr⟩), decide_eq_false hcr, List.length_cons]
        rw [List.length_append, List.length_singleton] at hrest
        omega

/-- A line is open exactly if neither LF nor CR comes last. -/
theorem openLine_eq_nil_iff {cur data : Bytes} (hne : data ≠ []) :
    openLine cur data = [] ↔ data.getLast? = some LF ∨ data.getLast? = some CR := by
  induction data generalizing cur with
  | nil => exact absurd rfl hne
  | cons x data ih =>
    unfold openLine
    by_cases hdata : data = []
    · subst hdata
      by_cases hend : x = LF ∨ x = CR
      · rw [if_pos hend]
        simpa [openLine] using hend
      · rw [if_neg hend]
        simpa [openLine] using hend
    · rw [List.getLast?_cons_of_ne_nil hdata]
      split
      next => exact ih hdata
      next => exact ih hdata

/-- A file that does not end in LF has a last line. -/
theorem splitlinesFrom_ne_nil {cur data : Bytes} {afterCr : Bool} (hne : data ≠ [])
    (hlast : data.getLast? ≠ some LF) : splitlinesFrom cur afterCr data ≠ [] := by
  induction data generalizing cur afterCr with
  | nil => exact absurd rfl hne
  | cons x data ih =>
    unfold splitlinesFrom
    by_cases hdata : data = []
    · subst hdata
      rw [List.getLast?_singleton] at hlast
      have hlf : x ≠ LF := fun h => hlast (congrArg some h)
      rw [if_neg hlf]
      split
      next => exact List.cons_ne_nil _ _
      next =>
        unfold splitlinesFrom
        rw [if_neg (List.append_ne_nil_of_right_ne_nil _ (List.cons_ne_nil _ _))]
        exact List.cons_ne_nil _ _
    · rw [List.getLast?_cons_of_ne_nil hdata] at hlast
      split
      next =>
        split
        next => exact ih hdata hlast
        next => exact List.cons_ne_nil _ _
      next =>
        split
        next => exact List.cons_ne_nil _ _
        next => exact ih hdata hlast

/-- **How far the offset gets**: to the end of the last complete line, less one byte for
every CR LF. -/
theorem consumed_completeLines (data : Bytes) :
    consumed (completeLines data data) + crlfs data + (unfinished data).length = data.length := by
  by_cases hne : data = []
  · subst hne
    rfl
  have hall := @consumed_splitlinesFrom [] data false (fun h => absurd h Bool.false_ne_true)
  rw [List.length_nil, Nat.zero_add] at hall
  unfold completeLines unfinished
  by_cases hlf : data.getLast? = some LF
  · rw [if_pos hlf, if_pos hlf, List.length_nil, Nat.add_zero]
    rw [if_pos ((openLine_eq_nil_iff hne).mpr (.inl hlf)), Nat.add_zero] at hall
    exact hall
  · rw [if_neg hlf, if_neg hlf]
    -- the lines are those before the last, and the last
    have hlines : splitlines data ≠ [] := splitlinesFrom_ne_nil hne hlf
    have hlast : lastLine data = (splitlines data).getLast hlines := by
      unfold lastLine
      rw [List.getLast?_eq_some_getLast hlines, Option.getD_some]
    have hsplit : consumed (splitlines data)
        = consumed (splitlines data).dropLast + ((lastLine data).length + 1) := by
      conv => lhs; rw [← List.dropLast_concat_getLast hlines, consumed_append]
      rw [hlast]
      simp [consumed]
    have hwhole : consumed (splitlines data) + crlfs data
        = data.length + (if openLine [] data = [] then 0 else 1) := hall
    by_cases hcr : data.getLast? = some CR
    · rw [if_pos hcr, List.length_append, List.length_singleton]
      rw [if_pos ((openLine_eq_nil_iff hne).mpr (.inr hcr))] at hwhole
      omega
    · rw [if_neg hcr]
      rw [if_neg fun h => ((openLine_eq_nil_iff hne).mp h).elim hlf hcr] at hwhole
      omega

/-- The complete lines at the end of a file are those of the end on its own. -/
theorem completeLines_suffix {data tail : Bytes} (h : tail <:+ data) :
    completeLines data tail = completeLines tail tail := by
  by_cases hne : tail = []
  · subst hne
    unfold completeLines
    split
    next => rfl
    next => rfl
  · obtain ⟨pre, rfl⟩ := h
    unfold completeLines
    rw [List.getLast?_append_of_ne_nil pre hne]

/-! ## One poll -/

section Poll

variable {text : EngineText} {map : EngineMap} {isAlert bad : Value → Bool}

/-- A line that a poll does not get past. -/
def lineBad (text : EngineText) (bad : Value → Bool) (line : Bytes) : Bool :=
  match parseLine text line with
  | .error _ => true
  | .ok none => false
  | .ok (some record) => bad record

/-- The alert on a line. -/
def lineAlert (text : EngineText) (isAlert : Value → Bool) (line : Bytes) : Option Value :=
  match parseLine text line with
  | .ok (some record) => if isAlert record then some record else none
  | _ => none

/-- The object is the mapped event of the record, with some sequence number and clock. -/
def EventFor (map : EngineMap) (record object : Value) : Prop :=
  ∃ seq clock event, (map seq clock record).1 = .ok (some event) ∧ object = event.toDict

/-- A line that is not bad gives an object for its alert, if it has one. -/
theorem mapLine_ok (hmaps : Maps text map isAlert bad) {line : Bytes}
    (hgood : lineBad text bad line = false) (clock : EngineClock) (seq : Nat) :
    match lineAlert text isAlert line with
    | none => (mapLine text map clock seq line).1 = .ok none
    | some record => ∃ object, (mapLine text map clock seq line).1 = .ok (some object)
      ∧ EventFor map record object ∧ object.encodable = true := by
  unfold lineBad at hgood
  unfold lineAlert mapLine
  cases hparse : parseLine text line with
  | error e =>
    rw [hparse] at hgood
    cases hgood
  | ok record =>
    cases record with
    | none => rfl
    | some record =>
      rw [hparse] at hgood
      simp only at hgood
      cases halert : isAlert record with
      | false =>
        have hskip := @Maps.skips text map isAlert bad hmaps seq clock record hgood halert
        rcases hcall : map seq clock record with ⟨result, seq'⟩
        rw [hcall] at hskip
        simp only at hskip
        subst hskip
        simp [halert, hcall]
      | true =>
        obtain ⟨event, hevent, hdepth, hencodable⟩ :=
          @Maps.writes text map isAlert bad hmaps seq clock record hgood halert
        have hdumps : dumps text event.toDict = .ok event.toDict := if_neg (Nat.not_lt.mpr hdepth)
        have hfor : EventFor map record event.toDict := ⟨seq, clock, event, hevent, rfl⟩
        rcases hcall : map seq clock record with ⟨result, seq'⟩
        rw [hcall] at hevent
        simp only at hevent
        subst hevent
        simp only [halert, if_true, hcall, hdumps]
        exact ⟨event.toDict, rfl, hfor, hencodable⟩

/-- A bad line raises, or gives an object that cannot be written. -/
theorem mapLine_bad (hmaps : Maps text map isAlert bad) {line : Bytes}
    (hbad : lineBad text bad line = true) (clock : EngineClock) (seq : Nat) :
    (∃ e, (mapLine text map clock seq line).1 = .error e)
      ∨ ∃ object, (mapLine text map clock seq line).1 = .ok (some object)
        ∧ object.encodable = false := by
  unfold lineBad at hbad
  unfold mapLine
  cases hparse : parseLine text line with
  | error e => exact .inl ⟨e, rfl⟩
  | ok record =>
    rw [hparse] at hbad
    cases record with
    | none => cases hbad
    | some record =>
      have hfails := @Maps.fails text map isAlert bad hmaps seq clock record hbad
      rcases hcall : map seq clock record with ⟨result, seq'⟩
      rw [hcall] at hfails
      rcases hfails with ⟨e, rfl⟩ | ⟨event, rfl, hwhy⟩
      · exact .inl ⟨e, by simp only [hcall]⟩
      · simp only [hcall, dumps]
        by_cases hdeep : text.maxDepth < event.toDict.depth
        · rw [if_pos hdeep]
          exact .inl ⟨_, rfl⟩
        · rw [if_neg hdeep]
          exact .inr ⟨event.toDict, rfl, hwhy.resolve_left hdeep⟩

/-- Lines without a bad one give one object for each alert, all of them writable. -/
theorem mapLines_ok (hmaps : Maps text map isAlert bad) (clock : Nat → EngineClock)
    {lines : List Bytes} (hgood : ∀ line ∈ lines, lineBad text bad line = false) (seq : Nat) :
    ∃ objects, (mapLines text map clock seq lines).1 = .ok objects
      ∧ List.Forall₂ (EventFor map) (lines.filterMap (lineAlert text isAlert)) objects
      ∧ objects.all Value.encodable = true := by
  induction lines generalizing seq with
  | nil => exact ⟨[], rfl, .nil, rfl⟩
  | cons line lines ih =>
    have hline := mapLine_ok hmaps (hgood line List.mem_cons_self) (clock lines.length) seq
    have hrest := ih fun l hl => hgood l (List.mem_cons_of_mem _ hl)
    rw [mapLines_cons, List.filterMap_cons]
    rcases hcall : mapLine text map (clock lines.length) seq line with ⟨result, seq'⟩
    cases halert : lineAlert text isAlert line with
    | none =>
      rw [halert] at hline
      simp only [hcall] at hline
      subst hline
      exact hrest seq'
    | some record =>
      rw [halert] at hline
      obtain ⟨object, hobject, hfor, hencodable⟩ := hline
      simp only [hcall] at hobject
      subst hobject
      obtain ⟨objects, hobjects, hall, hwritable⟩ := hrest seq'
      simp only [hobjects]
      refine ⟨object :: objects, rfl, .cons hfor hall, ?_⟩
      rw [List.all_cons, hencodable, hwritable]
      rfl

/-- A bad line: the loop raises, or what it has made cannot be written. -/
theorem mapLines_bad (hmaps : Maps text map isAlert bad) (clock : Nat → EngineClock)
    {lines : List Bytes} {line : Bytes} (hmem : line ∈ lines) (hbad : lineBad text bad line = true)
    (seq : Nat) :
    (∃ e, (mapLines text map clock seq lines).1 = .error e)
      ∨ ∃ objects, (mapLines text map clock seq lines).1 = .ok objects
        ∧ objects.all Value.encodable = false := by
  induction lines generalizing seq with
  | nil => exact absurd hmem List.not_mem_nil
  | cons first lines ih =>
    rw [mapLines_cons]
    rcases hcall : mapLine text map (clock lines.length) seq first with ⟨_ | _ | object, seq'⟩
    · exact .inl ⟨_, rfl⟩
    · rcases List.mem_cons.mp hmem with rfl | hmem
      · -- a bad line is not skipped
        rcases mapLine_bad hmaps hbad (clock lines.length) seq with ⟨e, he⟩ | ⟨object, hobject, -⟩
        · rw [hcall] at he
          cases he
        · rw [hcall] at hobject
          cases hobject
      · exact ih hmem seq'
    · simp only
      cases hrest : (mapLines text map clock seq' lines).1 with
      | error e => exact .inl ⟨e, rfl⟩
      | ok objects =>
        refine .inr ⟨object :: objects, rfl, ?_⟩
        rw [List.all_cons]
        rcases List.mem_cons.mp hmem with rfl | hmem
        · rcases mapLine_bad hmaps hbad (clock lines.length) seq with ⟨e, he⟩ | ⟨object', hobject, hwhy⟩
          · rw [hcall] at he
            cases he
          · rw [hcall] at hobject
            cases hobject
            rw [hwhy, Bool.false_and]
        · rcases ih hmem seq' with ⟨e, he⟩ | ⟨objects', hobjects, hall⟩
          · rw [hrest] at he
            cases he
          · rw [hrest] at hobjects
            cases hobjects
            rw [hall, Bool.and_false]

namespace EngineSource

variable {data : Bytes} {src : EngineSource}

/-- A poll that meets no bad line. -/
theorem pollOnce_ok (hmaps : Maps text map isAlert bad) (clock : Nat → EngineClock)
    (hgood : ∀ line ∈ takenLines data src.offset, lineBad text bad line = false) :
    (∃ n, (src.pollOnce text map clock (some data)).1 = .ok n)
      ∧ (src.pollOnce text map clock (some data)).2.offset = nextOffset data src.offset
      ∧ ∃ objects, (src.pollOnce text map clock (some data)).2.out = src.out ++ objects
        ∧ List.Forall₂ (EventFor map)
          ((takenLines data src.offset).filterMap (lineAlert text isAlert)) objects := by
  unfold pollOnce
  simp only
  split
  next hempty =>
    obtain ⟨htaken, hnext⟩ := takenLines_of_empty hempty
    rw [htaken, hnext]
    exact ⟨⟨0, rfl⟩, rfl, [], (List.append_nil _).symm, .nil⟩
  next =>
    obtain ⟨objects, hobjects, hall, hwritable⟩ := mapLines_ok hmaps clock hgood src.seq
    rcases hcall : mapLines text map clock src.seq (takenLines data src.offset) with ⟨result, seq⟩
    rw [hcall] at hobjects
    simp only at hobjects
    subst hobjects
    simp only [writeLines, if_pos hwritable]
    exact ⟨⟨_, rfl⟩, trivial, objects, rfl, hall⟩

/-- A poll that meets a bad line raises; the output file and the offset file stay, and the
offset is where it started. -/
theorem pollOnce_error (hmaps : Maps text map isAlert bad) (clock : Nat → EngineClock) {line : Bytes}
    (hmem : line ∈ takenLines data src.offset) (hbad : lineBad text bad line = true) :
    (∃ e, (src.pollOnce text map clock (some data)).1 = .error e)
      ∧ (src.pollOnce text map clock (some data)).2.offset = startOffset data src.offset
      ∧ (src.pollOnce text map clock (some data)).2.offsetFile = src.offsetFile
      ∧ (src.pollOnce text map clock (some data)).2.out = src.out := by
  unfold pollOnce
  simp only
  split
  next hempty =>
    rw [(takenLines_of_empty hempty).1] at hmem
    exact absurd hmem List.not_mem_nil
  next =>
    have hloop := mapLines_bad hmaps clock hmem hbad src.seq
    rcases hcall : mapLines text map clock src.seq (takenLines data src.offset) with ⟨result, seq⟩
    rw [hcall] at hloop
    rcases hloop with ⟨e, he⟩ | ⟨objects, hobjects, hall⟩
    · simp only at he
      subst he
      exact ⟨⟨e, rfl⟩, rfl, rfl, rfl⟩
    · simp only at hobjects
      subst hobjects
      simp only [writeLines, hall, Bool.false_eq_true, if_false]
      exact ⟨⟨_, rfl⟩, trivial, trivial, trivial⟩

end EngineSource

/-- What a poll is for: it returns; the offset is past every complete line; every alert on
a complete line beyond the old offset has its mapped event in the output file, once. -/
structure PollsAll (text : EngineText) (map : EngineMap) (isAlert : Value → Bool) (data : Bytes)
    (src : EngineSource) (poll : Except PyErr Nat × EngineSource) : Prop where
  returns : ∃ n, poll.1 = .ok n
  past : data.length
    ≤ poll.2.offset + (unfinished (data.drop (startOffset data src.offset))).length
  written : ∃ objects, poll.2.out = src.out ++ objects
    ∧ List.Forall₂ (EventFor map)
      ((takenLines data src.offset).filterMap (lineAlert text isAlert)) objects

theorem startOffset_le (data : Bytes) (offset : Nat) : startOffset data offset ≤ data.length := by
  unfold startOffset
  split
  next => exact Nat.zero_le _
  next h => exact Nat.not_lt.mp h

/-- The offset after a poll, the line breaks of two bytes and the open line make the file. -/
theorem nextOffset_add (data : Bytes) (offset : Nat) :
    nextOffset data offset + crlfs (data.drop (startOffset data offset))
      + (unfinished (data.drop (startOffset data offset))).length = data.length := by
  have hlines := consumed_completeLines (data.drop (startOffset data offset))
  rw [← completeLines_suffix (List.drop_suffix _ data), List.length_drop] at hlines
  have hstart := startOffset_le data offset
  unfold nextOffset takenLines
  omega

theorem pollsAll_iff (hmaps : Maps text map isAlert bad) (clock : Nat → EngineClock) (data : Bytes)
    (src : EngineSource) :
    PollsAll text map isAlert data src (src.pollOnce text map clock (some data))
      ↔ (∀ line ∈ takenLines data src.offset, lineBad text bad line = false)
        ∧ crlfs (data.drop (startOffset data src.offset)) = 0 := by
  have hoffset := nextOffset_add data src.offset
  constructor
  · intro h
    have hgood : ∀ line ∈ takenLines data src.offset, lineBad text bad line = false := by
      intro line hline
      by_contra hbad
      obtain ⟨⟨e, he⟩, _⟩ :=
        EngineSource.pollOnce_error hmaps clock hline (Bool.not_eq_false _ ▸ hbad)
      obtain ⟨n, hn⟩ := h.returns
      rw [he] at hn
      cases hn
    refine ⟨hgood, ?_⟩
    have hpast := h.past
    rw [(EngineSource.pollOnce_ok hmaps clock hgood).2.1] at hpast
    omega
  · intro ⟨hgood, hcrlf⟩
    obtain ⟨hreturns, hnext, hwritten⟩ := EngineSource.pollOnce_ok hmaps clock hgood
    refine ⟨hreturns, ?_, hwritten⟩
    rw [hnext]
    omega

end Poll

/-- **When a poll does what it is for.** For either engine, every state of its source and
every content of its file: exactly if no line the poll takes is bad, and none of them ends
in CR LF. -/
theorem poll_all_iff (text : EngineText) (config : EngineConfig) (clock : Nat → EngineClock)
    (data : Bytes) (src : EngineSource) :
    (PollsAll text (SuricataEveMapper.map text config) (SuricataEveMapper.isAlert text) data src
        (SuricataEveSource.pollOnce text config clock (some data) src)
      ↔ (∀ line ∈ takenLines data src.offset,
          lineBad text (SuricataEveMapper.bad text) line = false)
        ∧ crlfs (data.drop (startOffset data src.offset)) = 0)
    ∧ (PollsAll text (SnortAlertMapper.map text config) SnortAlertMapper.isAlert data src
        (SnortAlertSource.pollOnce text config clock (some data) src)
      ↔ (∀ line ∈ takenLines data src.offset,
          lineBad text (SnortAlertMapper.bad text) line = false)
        ∧ crlfs (data.drop (startOffset data src.offset)) = 0) :=
  ⟨pollsAll_iff (SuricataEveMapper.maps text config) clock data src,
    pollsAll_iff (SnortAlertMapper.maps text config) clock data src⟩

/-! A file with a list on its first line. -/

/-- The text functions on an empty list, an empty object and an alert without fields. -/
def plainText : EngineText where
  decode data := data.map UInt8.toNat
  loads s :=
    if s = lit "[]" then .ok (.arr [])
    else if s = lit "{}" then .ok (.obj [])
    else .error none
  repr _ := lit "[]"
  lower s := s
  readInt _ := none
  fromIso _ := none
  strptime _ := none
  maxDepth := 900
  repr_encodable _ := encodable_lit _
  lower_encodable _ h := h
  fromIso_encodable _ _ h := by cases h
  strptime_encodable _ _ h := by cases h

/-- A list, then an alert without fields. -/
def listThenAlert : Bytes := [0x5b, 0x5d, LF, 0x7b, 0x7d, LF]

/-- **A line neither source gets past**: a list. -/
theorem list_stops_poll (config : EngineConfig) (clock : Nat → EngineClock) :
    ¬ PollsAll plainText (SuricataEveMapper.map plainText config)
        (SuricataEveMapper.isAlert plainText) listThenAlert {}
        (SuricataEveSource.pollOnce plainText config clock (some listThenAlert) {})
      ∧ ¬ PollsAll plainText (SnortAlertMapper.map plainText config) SnortAlertMapper.isAlert
        listThenAlert {} (SnortAlertSource.pollOnce plainText config clock (some listThenAlert) {}) := by
  have htaken : [0x5b, 0x5d] ∈ takenLines listThenAlert 0 := by decide
  refine ⟨fun h => ?_, fun h => ?_⟩
  · have hgood := ((pollsAll_iff (SuricataEveMapper.maps plainText config) clock _ _).mp h).1 _ htaken
    exact absurd hgood (by decide)
  · have hgood := ((pollsAll_iff (SnortAlertMapper.maps plainText config) clock _ _).mp h).1 _ htaken
    exact absurd hgood (by decide)

/-- The site the file is read at, and a clock. -/
def lab : EngineConfig := ⟨"site-1", "sensor-1"⟩
def noon : EngineClock := ⟨"20260618", "2026-06-18T12:00:00+00:00", 2026⟩

theorem list_stops_poll_lab :
    ¬ PollsAll plainText (SuricataEveMapper.map plainText lab)
        (SuricataEveMapper.isAlert plainText) listThenAlert {}
        (SuricataEveSource.pollOnce plainText lab (fun _ => noon) (some listThenAlert) {})
      ∧ ¬ PollsAll plainText (SnortAlertMapper.map plainText lab) SnortAlertMapper.isAlert
        listThenAlert {}
        (SnortAlertSource.pollOnce plainText lab (fun _ => noon) (some listThenAlert) {}) :=
  list_stops_poll lab fun _ => noon

end EdgeSensor.Sensor
