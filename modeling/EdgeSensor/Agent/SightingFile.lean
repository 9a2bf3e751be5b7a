import EdgeSensor.Agent.SightingQueue
import EdgeSensor.Py.JsonLines

/-!
# The file of the sighting queue (`sighting/queue.py`)

The queue once more, as the text that is in its file. `readLines_iff` is what the text amounts to:
that of `SightingQueue`, in which a line is the value it holds, as long as the interpreter does not
give up. `queue_faithful_iff` is when what was written is what is read.

Mirroring notes:
- Some texts `json.loads` gives up on (too deep, or an integer of too many digits), and it does
  not say so with a `JSONDecodeError`. Which ones is for the interpreter to say; the same goes for
  `json.dumps`.
- UTF-8 is there and back again for what can be encoded. The code writes no carriage return.
- `with_suffix(".tmp")` and `chmod` are left out.
-/

namespace EdgeSensor.Agent

open EdgeSensor.Lib EdgeSensor.Py

structure QueueText extends SightingText where
  floats : JsonCodec.FloatText
  dumpsGivesUp : Value → Option PyErr
  loadsGivesUp : PyStr → Option PyErr

/-- The text of the file, if there is one. -/
abbrev QueueFile := Option PyStr

section QueueFile

variable (text : QueueText) (now : PyStr)

/-- What `load_all` makes of a line. -/
def readLine (line : PyStr) : Except PyErr (Option QueuedSighting) :=
  let line := PyStr.strip line
  if line = [] then .ok none
  else
    match text.loadsGivesUp line with
    | some e => .error e
    | none =>
      match JsonCodec.loads text.floats line with
      | none => .ok none
      | some raw => QueuedSighting.fromDict text.toSightingText now raw

def readLines : List PyStr → Except PyErr (List QueuedSighting)
  | [] => .ok []
  | line :: lines => do
    let item ← readLine text now line
    let items ← readLines lines
    .ok (item.toList ++ items)

/-- `load_all`. -/
def QueueFile.loadAll (file : QueueFile) : Except PyErr (List QueuedSighting) :=
  match file with
  | none => .ok []
  | some content => readLines text now (splitLines content)

/-- `json.dumps(item.to_dict(), ensure_ascii=False)`. -/
def dumpItem (item : QueuedSighting) : Except PyErr PyStr :=
  match text.dumpsGivesUp item.toDict with
  | some e => .error e
  | none => .ok (JsonCodec.dumps text.floats item.toDict)

/-- `rewrite`: what is in the file then, and how it ended. -/
def QueueFile.rewrite (file : QueueFile) (items : List QueuedSighting) :
    QueueFile × Except PyErr Unit :=
  if items.isEmpty then (none, .ok ())
  else
    match items.mapM (dumpItem text) with
    | .error e => (file, .error e)
    | .ok lines =>
      if PyStr.encodable (unlines lines) then (some (unlines lines), .ok ())
      else (file, .error (.unicodeEncodeError "surrogates not allowed"))

/-- `enqueue`. -/
def QueueFile.enqueue (file : QueueFile) (item : QueuedSighting) : QueueFile × Except PyErr Unit :=
  match file.loadAll text now with
  | .error e => (file, .error e)
  | .ok existing =>
    if existing.any fun entry => entry.eventId = item.eventId then (file, .ok ())
    else file.rewrite text (existing ++ [item])

/-- `remove`. -/
def QueueFile.remove (file : QueueFile) (eventId : PyStr) : QueueFile × Except PyErr Unit :=
  if eventId = [] then (file, .ok ())
  else
    match file.loadAll text now with
    | .error e => (file, .error e)
    | .ok existing => file.rewrite text (existing.filter fun item => item.eventId ≠ eventId)

/-! ## What is asked of it -/

/-- Made with an event id and a JSON object for a payload. -/
structure QueuedSighting.Made (item : QueuedSighting) : Prop where
  eventId : item.eventId ≠ []
  payload : item.payload.isObj = true
  wellFormed : JsonCodec.WellFormed text.floats item.payload

/-- `load_all` after `rewrite`. -/
def RoundTrip (file : QueueFile) (items : List QueuedSighting) : Prop :=
  (file.rewrite text items).2 = .ok () ∧ (file.rewrite text items).1.loadAll text now = .ok items

/-- After `enqueue` the items are there, and after `remove` those with other ids. -/
def OthersKept (file : QueueFile) (items : List QueuedSighting) (new : QueuedSighting) : Prop :=
  (∃ out, (file.enqueue text now new).1.loadAll text now = .ok out ∧ items <+: out)
    ∧ ∀ eventId, ∃ out, (file.remove text now eventId).1.loadAll text now = .ok out
      ∧ (items.filter fun item => item.eventId ≠ eventId).Sublist out

/-- What is written is what is read, and no change loses another item. -/
def QueueFaithful (file : QueueFile) (items : List QueuedSighting) (new : QueuedSighting) : Prop :=
  RoundTrip text now file items ∧ OthersKept text now (file.rewrite text items).1 items new

/-- The lines that `load_all` takes the line of an item for. -/
def QueuedSighting.parts (item : QueuedSighting) : List PyStr :=
  splitLines (JsonCodec.dumps text.floats item.toDict ++ [10])

/-- What `json.loads` says instead of an answer. -/
def gaveUp (part : PyStr) : Option PyErr :=
  if PyStr.strip part = [] then none else text.loadsGivesUp (PyStr.strip part)

/-- The interpreter gives up on none of the lines. -/
def QueuedSighting.Readable (item : QueuedSighting) : Prop :=
  ∀ part ∈ item.parts text, gaveUp text part = none

/-- It comes back as it was. -/
structure QueuedSighting.Survives (item : QueuedSighting) : Prop where
  proper : item.Proper
  written : text.dumpsGivesUp item.toDict = none
  read : text.loadsGivesUp (JsonCodec.dumps text.floats item.toDict) = none

/-- It does no harm to the others: it is there already, or is not written, or the interpreter does
not give up on what has been. -/
def QueuedSighting.Harmless (items : List QueuedSighting) (new : QueuedSighting) : Prop :=
  (∃ item ∈ items, item.eventId = new.eventId) ∨ text.dumpsGivesUp new.toDict ≠ none
    ∨ new.toDict.encodable = false ∨ new.Readable text

variable {text} {now} {item : QueuedSighting} {items : List QueuedSighting} {line part : PyStr}

/-! ## One line -/

theorem QueuedSighting.Made.toDict (h : item.Made text) :
    JsonCodec.WellFormed text.floats item.toDict := by
  have hkeys : ([lit "event_id", lit "payload", lit "attempts", lit "queued_at",
      lit "next_retry_at", lit "last_error"] : List PyStr).Nodup := by decide
  have herror : JsonCodec.WellFormed text.floats (textOrNull item.lastError) := by
    cases item.lastError with
    | none => trivial
    | some error => trivial
  exact ⟨hkeys, trivial, h.wellFormed, trivial, trivial, trivial, herror, trivial⟩

theorem dumpsFields_end (floats : JsonCodec.FloatText) (fields : List (PyStr × Value)) :
    ∃ s, JsonCodec.dumpsFields floats fields = s ++ [125] := by
  induction fields with
  | nil => exact ⟨[], rfl⟩
  | cons kv fields ih =>
    obtain ⟨key, x⟩ := kv
    obtain ⟨s, hs⟩ := ih
    refine ⟨44 :: 32 :: (JsonCodec.encodeBasestring key
      ++ 58 :: 32 :: (JsonCodec.dumps floats x ++ s)), ?_⟩
    rw [JsonCodec.dumpsFields, hs]
    simp only [List.cons_append, List.append_assoc]

/-- There is no white space at the ends of a line. -/
theorem strip_dumps (floats : JsonCodec.FloatText) (item : QueuedSighting) :
    PyStr.strip (JsonCodec.dumps floats item.toDict) = JsonCodec.dumps floats item.toDict := by
  have hends : ∃ s, JsonCodec.dumps floats item.toDict = 123 :: (s ++ [125]) := by
    unfold QueuedSighting.toDict
    rw [JsonCodec.dumps]
    generalize ((lit "payload", item.payload) :: _) = fields
    obtain ⟨s, hs⟩ := dumpsFields_end floats fields
    rw [hs]
    exact ⟨JsonCodec.encodeBasestring (lit "event_id")
      ++ 58 :: 32 :: (JsonCodec.dumps floats (.str item.eventId) ++ s), by simp⟩
  obtain ⟨s, hs⟩ := hends
  rw [hs]
  unfold PyStr.strip
  rw [List.dropWhile_cons_of_neg (by decide), ← List.cons_append, List.reverse_concat,
    List.dropWhile_cons_of_neg (by decide), ← List.reverse_concat, List.reverse_reverse]

theorem dumps_ne_nil (floats : JsonCodec.FloatText) (item : QueuedSighting) :
    JsonCodec.dumps floats item.toDict ≠ [] := by
  unfold QueuedSighting.toDict
  rw [JsonCodec.dumps]
  exact List.cons_ne_nil _ _

theorem readLine_eq (text : QueueText) (now line : PyStr) :
    readLine text now line = match gaveUp text line with
      | some e => .error e
      | none => if PyStr.strip line = [] then .ok none
        else match JsonCodec.loads text.floats (PyStr.strip line) with
          | none => .ok none
          | some raw => QueuedSighting.fromDict text.toSightingText now raw := by
  unfold readLine gaveUp
  by_cases hline : PyStr.strip line = []
  · simp only [hline, ↓reduceIte]
  · simp only [hline, ↓reduceIte]

/-- A line as it was written. -/
theorem readLine_dumps (h : item.Made text) :
    readLine text now (JsonCodec.dumps text.floats item.toDict)
      = match text.loadsGivesUp (JsonCodec.dumps text.floats item.toDict) with
        | some e => .error e
        | none => QueuedSighting.fromDict text.toSightingText now item.toDict := by
  unfold readLine
  simp only
  rw [strip_dumps, if_neg (dumps_ne_nil text.floats item), JsonCodec.loads_dumps h.toDict]

/-- A part of a line with a line break in it holds no item. -/
theorem readLine_part (h : JsonCodec.Open part ∨ JsonCodec.Quote.inside.Reads part) :
    readLine text now part = match gaveUp text part with
      | some e => .error e
      | none => .ok none := by
  rw [readLine_eq]
  split
  next => rfl
  next =>
    split
    next => rfl
    next =>
      cases hread : JsonCodec.loads text.floats (PyStr.strip part) with
      | none => rfl
      | some raw =>
        rcases h with h | h
        · rw [JsonCodec.loads_of_open h.strip] at hread
          cases hread
        · have hkeys := JsonCodec.loads_of_inside (JsonCodec.reads_strip h) hread
          have hpayload : (raw.get "payload").isObj = false := by
            cases raw with
            | obj fields =>
              have hnone : Dict.get? fields (lit "payload") = none := by
                refine Dict.get?_eq_none fun x hmem => ?_
                obtain ⟨c, t, htext, hc⟩ := hkeys fields rfl _ hmem
                cases htext
                cases hc
              show ((Dict.get? fields (lit "payload")).getD .null).isObj = false
              rw [hnone]
              rfl
            | _ => rfl
          show QueuedSighting.fromDict text.toSightingText now raw = .ok none
          unfold QueuedSighting.fromDict
          rw [hpayload]
          split
          next => rfl
          next => rfl

/-! ## Lines -/

theorem readLines_cons {lines : List PyStr} {out : List QueuedSighting} :
    readLines text now (line :: lines) = .ok out ↔ ∃ item items,
      readLine text now line = .ok item ∧ readLines text now lines = .ok items
        ∧ out = item.toList ++ items := by
  rw [readLines]
  simp only [bind_eq_ok, Except.ok.injEq]
  constructor
  · rintro ⟨item, hitem, items, hitems, rfl⟩
    exact ⟨item, items, hitem, hitems, rfl⟩
  · rintro ⟨item, items, hitem, hitems, rfl⟩
    exact ⟨item, hitem, items, hitems, rfl⟩

theorem readLines_append {a b : List PyStr} {out : List QueuedSighting} :
    readLines text now (a ++ b) = .ok out ↔ ∃ items items', readLines text now a = .ok items
      ∧ readLines text now b = .ok items' ∧ out = items ++ items' := by
  induction a generalizing out with
  | nil =>
    constructor
    · exact fun h => ⟨[], out, rfl, h, rfl⟩
    · rintro ⟨_, items', ⟨⟩, h, rfl⟩
      exact h
  | cons line a ih =>
    rw [List.cons_append, readLines_cons]
    constructor
    · rintro ⟨item, _, hline, hrest, rfl⟩
      obtain ⟨items, items', ha, hb, rfl⟩ := ih.mp hrest
      exact ⟨item.toList ++ items, items', readLines_cons.mpr ⟨item, items, hline, ha, rfl⟩, hb,
        (List.append_assoc _ _ _).symm⟩
    · rintro ⟨_, items', ha, hb, rfl⟩
      obtain ⟨item, items, hline, hrest, rfl⟩ := readLines_cons.mp ha
      exact ⟨item, items ++ items', hline, ih.mpr ⟨items, items', hrest, hb, rfl⟩,
        List.append_assoc _ _ _⟩

theorem readLines_parts {parts : List PyStr} {out : List QueuedSighting}
    (h : ∀ part ∈ parts, JsonCodec.Open part ∨ JsonCodec.Quote.inside.Reads part) :
    readLines text now parts = .ok out ↔ (∀ part ∈ parts, gaveUp text part = none) ∧ out = [] := by
  induction parts generalizing out with
  | nil =>
    constructor
    · rintro ⟨⟩
      exact ⟨fun part hpart => absurd hpart List.not_mem_nil, rfl⟩
    · rintro ⟨-, rfl⟩
      rfl
  | cons part parts ih =>
    obtain ⟨hpart, hparts⟩ := List.forall_mem_cons.mp h
    rw [readLines_cons, readLine_part hpart, List.forall_mem_cons]
    cases gaveUp text part with
    | some e => exact ⟨nofun, nofun⟩
    | none =>
      constructor
      · rintro ⟨_, items, ⟨⟩, hrest, rfl⟩
        obtain ⟨hread, rfl⟩ := (ih hparts).mp hrest
        exact ⟨⟨rfl, hread⟩, rfl⟩
      · rintro ⟨⟨-, hread⟩, rfl⟩
        exact ⟨none, [], rfl, (ih hparts).mpr ⟨hread, rfl⟩, rfl⟩

theorem gaveUp_dumps (item : QueuedSighting) :
    gaveUp text (JsonCodec.dumps text.floats item.toDict)
      = text.loadsGivesUp (JsonCodec.dumps text.floats item.toDict) := by
  unfold gaveUp
  rw [strip_dumps, if_neg (dumps_ne_nil text.floats item)]

theorem parts_of_unbroken (h : item.Made text) (hline : item.toDict.unbroken = true) :
    item.parts text = [JsonCodec.dumps text.floats item.toDict] :=
  splitLinesFrom_line ((JsonCodec.oneLine_dumps h.toDict).mpr hline) [] []

theorem QueuedSighting.Made.reads (h : item.Made text) :
    JsonCodec.Quote.outside.Reads (JsonCodec.dumps text.floats item.toDict) := by
  have hreads := JsonCodec.reads_dumps item.toDict [] h.toDict ⟨trivial, trivial⟩
  rw [List.append_nil] at hreads
  exact hreads

/-- **The line of an item** is read as the value it holds, if the interpreter does not give up. -/
theorem readLines_line (h : item.Made text) {out : List QueuedSighting} :
    readLines text now (item.parts text) = .ok out
      ↔ item.Readable text ∧ loadAll text.toSightingText now [item.toDict] = .ok out := by
  unfold QueuedSighting.Readable
  rw [loadAll]
  cases hline : item.toDict.unbroken with
  | true =>
    rw [parts_of_unbroken h hline, readLines_cons, readLine_dumps h, if_pos rfl]
    simp only [List.forall_mem_singleton, gaveUp_dumps]
    cases text.loadsGivesUp (JsonCodec.dumps text.floats item.toDict) with
    | some e =>
      constructor
      · rintro ⟨_, _, herror, -⟩
        cases herror
      · rintro ⟨herror, -⟩
        cases herror
    | none =>
      simp only
      cases QueuedSighting.fromDict text.toSightingText now item.toDict with
      | error e =>
        constructor
        · rintro ⟨_, _, herror, -⟩
          cases herror
        · rintro ⟨-, herror⟩
          cases herror
      | ok read =>
        constructor
        · rintro ⟨_, _, ⟨⟩, ⟨⟩, rfl⟩
          exact ⟨trivial, rfl⟩
        · rintro ⟨-, hout⟩
          cases hout
          exact ⟨read, [], rfl, rfl, rfl⟩
  | false =>
    have hbreak : ∃ c ∈ JsonCodec.dumps text.floats item.toDict, Py.isLineBreak c = true := by
      refine Decidable.byContradiction fun hnone => ?_
      have hone : OneLine (JsonCodec.dumps text.floats item.toDict) := fun c hc =>
        Bool.eq_false_iff.mpr fun hbreak => hnone ⟨c, hc, hbreak⟩
      cases hline.symm.trans ((JsonCodec.oneLine_dumps h.toDict).mp hone)
    have hparts : ∀ part ∈ item.parts text,
        JsonCodec.Open part ∨ JsonCodec.Quote.inside.Reads part :=
      @JsonCodec.splitLinesFrom_broken [] _ h.reads hbreak
    rw [readLines_parts hparts, if_neg Bool.false_ne_true]
    refine and_congr_right fun _ => ?_
    constructor
    · rintro rfl
      rfl
    · rintro ⟨⟩
      rfl

theorem loadAll_cons {x : Value} {xs : List Value} {out : List QueuedSighting} :
    loadAll text.toSightingText now (x :: xs) = .ok out ↔ ∃ items items',
      loadAll text.toSightingText now [x] = .ok items
        ∧ loadAll text.toSightingText now xs = .ok items' ∧ out = items ++ items' := by
  rw [loadAll, loadAll]
  cases x.unbroken with
  | false =>
    constructor
    · exact fun h => ⟨[], out, rfl, h, rfl⟩
    · rintro ⟨_, items', ⟨⟩, h, rfl⟩
      exact h
  | true =>
    rw [if_pos rfl, if_pos rfl]
    simp only [bind_eq_ok, Except.ok.injEq]
    constructor
    · rintro ⟨item, hitem, items', hitems', rfl⟩
      exact ⟨item.toList, items', ⟨item, hitem, [], rfl, List.append_nil _⟩, hitems', rfl⟩
    · rintro ⟨_, items', ⟨item, hitem, _, hnil, rfl⟩, hitems', rfl⟩
      cases hnil
      exact ⟨item, hitem, items', hitems', by rw [List.append_nil]⟩

/-- **The text of a file is read as the values its lines hold**, if the interpreter gives up on
none of them. -/
theorem readLines_iff (h : ∀ item ∈ items, item.Made text) {out : List QueuedSighting} :
    readLines text now (splitLines (unlines
        (items.map fun item => JsonCodec.dumps text.floats item.toDict))) = .ok out
      ↔ (∀ item ∈ items, item.Readable text)
        ∧ loadAll text.toSightingText now (items.map QueuedSighting.toDict) = .ok out := by
  induction items generalizing out with
  | nil =>
    exact ⟨fun hread => ⟨fun item hmem => absurd hmem List.not_mem_nil, hread⟩,
      fun hread => hread.2⟩
  | cons item items ih =>
    obtain ⟨hitem, hitems⟩ := List.forall_mem_cons.mp h
    have hsplit : splitLines (unlines ((item :: items).map
          fun item => JsonCodec.dumps text.floats item.toDict))
        = item.parts text ++ splitLines (unlines
          (items.map fun item => JsonCodec.dumps text.floats item.toDict)) := by
      unfold unlines splitLines
      rw [List.map_cons, List.flatMap_cons, List.append_assoc, List.singleton_append]
      exact JsonCodec.splitLinesFrom_append hitem.reads.printable [] _
    rw [hsplit, readLines_append, List.map_cons, loadAll_cons, List.forall_mem_cons]
    simp only [readLines_line hitem, ih hitems]
    constructor
    · rintro ⟨first, rest, ⟨hread, hfirst⟩, ⟨hreads, hrest⟩, rfl⟩
      exact ⟨⟨hread, hreads⟩, first, rest, hfirst, hrest, rfl⟩
    · rintro ⟨⟨hread, hreads⟩, first, rest, hfirst, hrest, rfl⟩
      exact ⟨first, rest, ⟨hread, hfirst⟩, ⟨hreads, hrest⟩, rfl⟩

/-! ## Items -/

theorem loadAll_toDict (h : ∀ item ∈ items, item.Made text) :
    loadAll text.toSightingText now (items.map QueuedSighting.toDict)
      = .ok ((items.filter fun item => item.toDict.unbroken).map (·.reread now)) := by
  induction items with
  | nil => rfl
  | cons item items ih =>
    obtain ⟨hitem, hitems⟩ := List.forall_mem_cons.mp h
    rw [List.map_cons, loadAll, ih hitems,
      fromDict_reread hitem.eventId hitem.payload, List.filter_cons]
    cases item.toDict.unbroken with
    | true => rfl
    | false => rfl

/-- The items that come back are those that were there. -/
theorem loadAll_toDict_iff (hnow : now ≠ []) (h : ∀ item ∈ items, item.Made text) :
    loadAll text.toSightingText now (items.map QueuedSighting.toDict) = .ok items
      ↔ ∀ item ∈ items, item.toDict.unbroken = true ∧ item.queuedAt ≠ [] ∧ item.nextRetryAt ≠ []
        ∧ item.lastError ≠ some [] := by
  rw [loadAll_toDict h, Except.ok.injEq]
  constructor
  · intro heq
    have hlength := congrArg List.length heq
    rw [List.length_map, List.length_filter_eq_length_iff] at hlength
    rw [List.filter_eq_self.mpr hlength] at heq
    intro item hmem
    refine ⟨hlength item hmem, (reread_eq_iff hnow).mp ?_⟩
    exact List.map_inj_left.mp (heq.trans (List.map_id items).symm) item hmem
  · intro hall
    rw [List.filter_eq_self.mpr fun item hmem => (hall item hmem).1]
    refine (List.map_inj_left.mpr fun item hmem => ?_).trans (List.map_id items)
    exact (reread_eq_iff hnow).mpr (hall item hmem).2

/-! ## Rewriting -/

/-- The file that the items are written to. -/
def fileOf (text : QueueText) (items : List QueuedSighting) : QueueFile :=
  if items.isEmpty then none
  else some (unlines (items.map fun item => JsonCodec.dumps text.floats item.toDict))

/-- It can be written. -/
def QueuedSighting.Writable (text : QueueText) (item : QueuedSighting) : Prop :=
  text.dumpsGivesUp item.toDict = none ∧ item.toDict.encodable = true

theorem mapM_dumpItem (text : QueueText) (items : List QueuedSighting) :
    (∃ e, items.mapM (dumpItem text) = .error e
        ∧ ∃ item ∈ items, text.dumpsGivesUp item.toDict ≠ none)
      ∨ items.mapM (dumpItem text)
          = .ok (items.map fun item => JsonCodec.dumps text.floats item.toDict)
        ∧ ∀ item ∈ items, text.dumpsGivesUp item.toDict = none := by
  induction items with
  | nil => exact .inr ⟨rfl, fun item hmem => absurd hmem List.not_mem_nil⟩
  | cons item items ih =>
    rw [List.mapM_cons, dumpItem]
    cases hfirst : text.dumpsGivesUp item.toDict with
    | some e => exact .inl ⟨e, rfl, item, List.mem_cons_self, by rw [hfirst]; nofun⟩
    | none =>
      rcases ih with ⟨e, hrest, bad, hmem, hbad⟩ | ⟨hrest, hall⟩
      · refine .inl ⟨e, ?_, bad, List.mem_cons_of_mem _ hmem, hbad⟩
        rw [hrest]
        rfl
      · refine .inr ⟨?_, List.forall_mem_cons.mpr ⟨hfirst, hall⟩⟩
        rw [hrest]
        rfl

theorem encodable_unlines {lines : List PyStr} :
    PyStr.encodable (unlines lines) = true ↔ ∀ line ∈ lines, PyStr.encodable line = true := by
  unfold unlines
  induction lines with
  | nil => exact ⟨fun _ line hmem => absurd hmem List.not_mem_nil, fun _ => rfl⟩
  | cons line lines ih =>
    rw [List.flatMap_cons, encodable_append, encodable_append, Bool.and_eq_true, Bool.and_eq_true,
      ih, List.forall_mem_cons]
    exact and_congr_left fun _ => ⟨fun h => h.1, fun h => ⟨h, rfl⟩⟩

/-- **Items are written all together or not at all.** -/
theorem rewrite_cases (file : QueueFile) (h : ∀ item ∈ items, item.Made text) :
    ((∀ item ∈ items, item.Writable text) ∧ file.rewrite text items = (fileOf text items, .ok ()))
      ∨ (¬ ∀ item ∈ items, item.Writable text)
        ∧ ∃ e, file.rewrite text items = (file, .error e) := by
  unfold QueueFile.rewrite fileOf
  cases hempty : items.isEmpty with
  | true =>
    rw [List.isEmpty_iff] at hempty
    subst hempty
    exact .inl ⟨fun item hmem => absurd hmem List.not_mem_nil, rfl⟩
  | false =>
    rw [if_neg Bool.false_ne_true, if_neg Bool.false_ne_true]
    rcases mapM_dumpItem text items with ⟨e, herror, bad, hmem, hbad⟩ | ⟨hok, hdumps⟩
    · rw [herror]
      exact .inr ⟨fun hall => hbad (hall bad hmem).1, e, rfl⟩
    · rw [hok]
      simp only
      have hencodable : PyStr.encodable (unlines
          (items.map fun item => JsonCodec.dumps text.floats item.toDict)) = true
            ↔ ∀ item ∈ items, item.toDict.encodable = true := by
        rw [encodable_unlines, List.forall_mem_map]
        exact forall₂_congr fun item hmem => by
          rw [JsonCodec.encodable_dumps (h item hmem).toDict]
      split
      next henc =>
        exact .inl ⟨fun item hmem => ⟨hdumps item hmem, hencodable.mp henc item hmem⟩, rfl⟩
      next henc =>
        exact .inr ⟨fun hall => henc (hencodable.mpr fun item hmem => (hall item hmem).2), _, rfl⟩

theorem loadAll_fileOf (h : ∀ item ∈ items, item.Made text) {out : List QueuedSighting} :
    (fileOf text items).loadAll text now = .ok out
      ↔ (∀ item ∈ items, item.Readable text)
        ∧ loadAll text.toSightingText now (items.map QueuedSighting.toDict) = .ok out := by
  rw [← readLines_iff h]
  cases items with
  | nil => rfl
  | cons item items => rfl

theorem survives_iff (h : item.Made text) : item.Survives text
    ↔ item.Writable text ∧ item.Readable text ∧ item.toDict.unbroken = true ∧ item.queuedAt ≠ []
      ∧ item.nextRetryAt ≠ [] ∧ item.lastError ≠ some [] := by
  unfold QueuedSighting.Readable
  constructor
  · rintro ⟨hproper, hwritten, hread⟩
    obtain ⟨hencodable, hunbroken⟩ := (Bool.and_eq_true _ _).mp hproper.plain
    refine ⟨⟨hwritten, hencodable⟩, ?_, hunbroken, hproper.queuedAt, hproper.nextRetryAt,
      hproper.lastError⟩
    rw [parts_of_unbroken h hunbroken, List.forall_mem_singleton, gaveUp_dumps]
    exact hread
  · rintro ⟨⟨hwritten, hencodable⟩, hread, hunbroken, hqueued, hnext, hlast⟩
    rw [parts_of_unbroken h hunbroken, List.forall_mem_singleton, gaveUp_dumps] at hread
    exact ⟨⟨h.eventId, h.payload, hqueued, hnext, hlast,
      (Bool.and_eq_true _ _).mpr ⟨hencodable, hunbroken⟩⟩, hwritten, hread⟩

theorem QueuedSighting.Survives.writable (h : item.Survives text) : item.Writable text :=
  ⟨h.written, ((Bool.and_eq_true _ _).mp h.proper.plain).1⟩

theorem QueuedSighting.Survives.readable (hmade : item.Made text) (h : item.Survives text) :
    item.Readable text :=
  ((survives_iff hmade).mp h).2.1

/-- **What was written is what is read** if each item comes back. -/
theorem roundTrip_iff (hnow : now ≠ []) (file : QueueFile) (h : ∀ item ∈ items, item.Made text) :
    RoundTrip text now file items ↔ ∀ item ∈ items, item.Survives text := by
  have hsurvives : (∀ item ∈ items, item.Survives text) ↔ (∀ item ∈ items, item.Writable text)
      ∧ (∀ item ∈ items, item.Readable text)
      ∧ loadAll text.toSightingText now (items.map QueuedSighting.toDict) = .ok items := by
    rw [loadAll_toDict_iff hnow h, ← forall₂_and, ← forall₂_and]
    exact forall₂_congr fun item hmem => survives_iff (h item hmem)
  unfold RoundTrip
  rw [hsurvives]
  rcases rewrite_cases file h with ⟨hall, hrewrite⟩ | ⟨hall, e, hrewrite⟩
  · rw [hrewrite, loadAll_fileOf h]
    exact ⟨fun hread => ⟨hall, hread.2⟩, fun hread => ⟨rfl, hread.2⟩⟩
  · rw [hrewrite]
    exact ⟨nofun, fun hread => absurd hread.1 hall⟩

/-! ## Changes -/

theorem loadAll_of_survives (hnow : now ≠ []) (h : ∀ item ∈ items, item.Made text)
    (hall : ∀ item ∈ items, item.Survives text) :
    (fileOf text items).loadAll text now = .ok items := by
  rw [loadAll_fileOf h, loadAll_toDict_iff hnow h]
  exact ⟨fun item hmem => (hall item hmem).readable (h item hmem),
    fun item hmem => ((survives_iff (h item hmem)).mp (hall item hmem)).2.2⟩

theorem remove_keeps (hnow : now ≠ []) (h : ∀ item ∈ items, item.Made text)
    (hall : ∀ item ∈ items, item.Survives text) (eventId : PyStr) :
    ∃ out, ((fileOf text items).remove text now eventId).1.loadAll text now = .ok out
      ∧ (items.filter fun item => item.eventId ≠ eventId).Sublist out := by
  have hload := loadAll_of_survives hnow h hall
  unfold QueueFile.remove
  split
  next => exact ⟨items, hload, List.filter_sublist⟩
  next =>
    let kept := items.filter fun item => item.eventId ≠ eventId
    have hmade : ∀ item ∈ kept, item.Made text := fun item hmem =>
      h item (List.mem_of_mem_filter hmem)
    have hsurvives : ∀ item ∈ kept, item.Survives text := fun item hmem =>
      hall item (List.mem_of_mem_filter hmem)
    rw [hload]
    exact ⟨kept, ((roundTrip_iff hnow (fileOf text items) hmade).mpr hsurvives).2,
      List.Sublist.refl _⟩

/-- What is added keeps the others where it does no harm. -/
theorem enqueue_keeps_iff (hnow : now ≠ []) (h : ∀ item ∈ items, item.Made text)
    (hall : ∀ item ∈ items, item.Survives text) {new : QueuedSighting} (hnew : new.Made text) :
    (∃ out, ((fileOf text items).enqueue text now new).1.loadAll text now = .ok out ∧ items <+: out)
      ↔ new.Harmless text items := by
  have hload := loadAll_of_survives hnow h hall
  have hmade : ∀ item ∈ items ++ [new], item.Made text :=
    List.forall_mem_append.mpr ⟨h, List.forall_mem_singleton.mpr hnew⟩
  unfold QueueFile.enqueue QueuedSighting.Harmless
  rw [hload]
  simp only [List.any_eq_true, decide_eq_true_iff]
  split
  next hsame => exact ⟨fun _ => .inl hsame, fun _ => ⟨items, hload, List.prefix_refl _⟩⟩
  next hsame =>
    rcases rewrite_cases (fileOf text items) hmade with ⟨hwritable, hrewrite⟩ | ⟨hnot, e, hrewrite⟩
    · -- it is written, and the file can be read if it can be
      have hnewWritable := hwritable new (List.mem_append_right _ List.mem_cons_self)
      have hreadable : ∀ item ∈ items, item.Readable text := fun item hmem =>
        (hall item hmem).readable (h item hmem)
      have hvalues := @loadAll_toDict text now _ hmade
      rw [hrewrite]
      constructor
      · rintro ⟨out, hout, -⟩
        have hread := ((loadAll_fileOf hmade).mp hout).1
        exact .inr (.inr (.inr (hread new (List.mem_append_right _ List.mem_cons_self))))
      · rintro (hid | hdumps | henc | hread)
        · exact absurd hid hsame
        · exact absurd hnewWritable.1 hdumps
        · cases henc.symm.trans hnewWritable.2
        · refine ⟨_, (loadAll_fileOf hmade).mpr ⟨List.forall_mem_append.mpr
            ⟨hreadable, List.forall_mem_singleton.mpr hread⟩, hvalues⟩, ?_⟩
          have hitems := Except.ok.inj ((loadAll_toDict h).symm.trans
            ((loadAll_fileOf h).mp hload).2)
          rw [List.filter_append, List.map_append, hitems]
          exact List.prefix_append _ _
    · -- it is not, and the file is as it was
      rw [hrewrite]
      refine ⟨fun _ => ?_, fun _ => ⟨items, hload, List.prefix_refl _⟩⟩
      by_cases hdumps : text.dumpsGivesUp new.toDict = none
      · refine .inr (.inr (.inl ?_))
        rw [← Bool.not_eq_true]
        exact fun henc => hnot (List.forall_mem_append.mpr
          ⟨fun item hmem => (hall item hmem).writable,
            List.forall_mem_singleton.mpr ⟨hdumps, henc⟩⟩)
      · exact .inr (.inl hdumps)

end QueueFile

/-- **What was written is what is read, and no change loses another item**, exactly if each item
comes back and the new one does no harm. -/
theorem queue_faithful_iff (text : QueueText) (t : Int) (file : QueueFile)
    (items : List QueuedSighting) (new : QueuedSighting) (hitems : ∀ item ∈ items, item.Made text)
    (hnew : new.Made text) :
    QueueFaithful text (text.iso t) file items new
      ↔ (∀ item ∈ items, item.Survives text) ∧ new.Harmless text items := by
  have hnow := text.iso_ne_nil t
  unfold QueueFaithful
  rw [roundTrip_iff hnow file hitems]
  refine and_congr_right fun hall => ?_
  have hrewrite : file.rewrite text items = (fileOf text items, .ok ()) := by
    rcases rewrite_cases file hitems with ⟨-, hrewrite⟩ | ⟨hnot, -⟩
    · exact hrewrite
    · exact absurd (fun item hmem => (hall item hmem).writable) hnot
  rw [hrewrite]
  unfold OthersKept
  rw [enqueue_keeps_iff hnow hitems hall hnew]
  exact and_iff_left fun eventId => remove_keeps hnow hitems hall eventId

/-- An interpreter that never gives up, and knows one float. -/
def sampleQueueText : QueueText where
  text := { repr := fun _ => [], lower := fun s => s }
  toInt := fun _ => .error (.valueError "invalid literal for int()")
  iso := fun _ => lit "2026-06-19T00:00:00+00:00"
  fromIso := fun _ => none
  iso_ascii := fun _ => by decide
  iso_ne_nil := fun _ => by decide
  floats :=
    { IsFloat := fun x => x = .finite (3 / 2)
      repr := fun _ => lit "1.5"
      read := fun _ => .finite (3 / 2)
      numeral := fun _ _ => by decide
      read_repr := fun _ hx => hx.symm }
  dumpsGivesUp := fun _ => none
  loadsGivesUp := fun _ => none

def plainItem : QueuedSighting where
  eventId := lit "evt-1"
  payload := .obj [
    (lit "description", .str (lit "scan \"A\"")), (lit "score", .float (.finite (3 / 2)))]
  queuedAt := lit "2026-06-19T00:00:00+00:00"
  nextRetryAt := lit "2026-06-19T00:00:00+00:00"

/-- One with a line separator in its description, as a rule may have it. -/
def brokenItem : QueuedSighting where
  eventId := lit "evt-2"
  payload := .obj [(lit "description", .str (lit "scan" ++ 0x2028 :: lit "of ports"))]
  queuedAt := lit "2026-06-19T00:00:00+00:00"
  nextRetryAt := lit "2026-06-19T00:00:00+00:00"

theorem plainItem_made : plainItem.Made sampleQueueText :=
  ⟨by decide, rfl, by decide, trivial, rfl, trivial⟩

theorem brokenItem_made : brokenItem.Made sampleQueueText :=
  ⟨by decide, rfl, by decide, trivial, trivial⟩

theorem queue_faithful_sample : QueueFaithful sampleQueueText (sampleQueueText.iso 0) none
    [plainItem] brokenItem := by
  refine (queue_faithful_iff sampleQueueText 0 none [plainItem] brokenItem
    (List.forall_mem_singleton.mpr plainItem_made) brokenItem_made).mpr
      ⟨List.forall_mem_singleton.mpr ?_, .inr (.inr (.inr fun part _ => ?_))⟩
  · exact ⟨⟨by decide, rfl, by decide, by decide, nofun, by decide +kernel⟩, rfl, rfl⟩
  · exact ite_self none

/-- The sighting is gone once it has been written. -/
theorem separator_loses_sighting :
    (∀ item ∈ [brokenItem], item.Made sampleQueueText)
      ∧ ¬ RoundTrip sampleQueueText (sampleQueueText.iso 0) none [brokenItem] := by
  refine ⟨List.forall_mem_singleton.mpr brokenItem_made, fun h => ?_⟩
  have hnone : ((QueueFile.loadAll sampleQueueText (sampleQueueText.iso 0)
      (QueueFile.rewrite sampleQueueText none [brokenItem]).1).toOption.map List.length)
        = some 0 := by decide +kernel
  rw [h.2] at hnone
  cases hnone

end EdgeSensor.Agent
