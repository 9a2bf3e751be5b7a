import EdgeSensor.Py.JsonLines

/-!
# The audit log (`audit_service.py`)

Each action that matters for security appends a line of JSON to the log, and the console shows
the last ones. Who acts chooses some of what is logged: the name of a network, the name of a
profile. A text with U+0085, U+2028 or U+2029 in it ends the line for `splitlines`, and a text
with a lone surrogate cannot be written at all.

`audit_shows_what_was_logged` says what that can do. Nothing is shown that has an `action` and
was not logged as it is shown: a log cannot be forged from within a text. But an entry with such
a text is not shown. Where there is none, the last entries are shown, the newest first.

Mirroring notes:
- The log is appended to in one `write`; an `OSError` is not in the model.
- `json.loads` does not give up on what the console logs (no numeral there is long, nothing is
  deep).
-/

namespace EdgeSensor.Console

open EdgeSensor.Lib EdgeSensor.Py EdgeSensor.Py.JsonCodec

/-- What `log_audit` is given, and the time. -/
structure AuditEntry (floats : FloatText) where
  time : PyStr
  action : PyStr
  actor : PyStr := lit "console"
  detail : Dict PyStr Value
  wellFormed : WellFormed floats (.obj detail)

variable {floats : FloatText}

/-- The object that is logged. -/
def AuditEntry.toValue (entry : AuditEntry floats) : Value :=
  .obj [(lit "at", .str entry.time), (lit "action", .str entry.action),
    (lit "actor", .str entry.actor), (lit "detail", .obj entry.detail)]

/-- The line of an entry. -/
def AuditEntry.line (entry : AuditEntry floats) : PyStr := dumps floats entry.toValue ++ [10]

/-- `log_audit`. A text that cannot be encoded raises, and nothing is written to the file, which is
opened by then. -/
def logAudit (file : Option PyStr) (entry : AuditEntry floats) : Option PyStr :=
  if PyStr.encodable entry.line then some (file.getD [] ++ entry.line) else some (file.getD [])

/-- The loop of `read_audit_recent`. -/
def collectRecent (floats : FloatText) (limit : Int) : List PyStr → List Value → List Value
  | [], out => out
  | line :: lines, out =>
    match loads floats line with
    | none => collectRecent floats limit lines out
    | some x =>
      if limit ≤ (out ++ [x]).length then out ++ [x] else collectRecent floats limit lines (out ++ [x])

/-- `[ln for ln in text.splitlines() if ln.strip()]` -/
def auditLines (text : PyStr) : List PyStr :=
  (splitLines (universalNewlines text)).filter fun line => PyStr.strip line ≠ []

/-- `lines[-500:]` -/
def last500 (lines : List PyStr) : List PyStr := lines.drop (lines.length - 500)

/-- `read_audit_recent`. -/
def readAuditRecent (floats : FloatText) (file : Option PyStr) (limit : Int) : List Value :=
  match file with
  | none => []
  | some text => collectRecent floats limit (last500 (auditLines text)).reverse []

/-! ## The loop -/

/-- The loop takes what it can read, up to the limit, and one at least. -/
theorem collectRecent_eq (limit : Int) (lines : List PyStr) (out : List Value)
    (hout : out.length < max 1 limit.toNat) :
    collectRecent floats limit lines out
      = out ++ (lines.filterMap (loads floats)).take (max 1 limit.toNat - out.length) := by
  induction lines generalizing out with
  | nil => simp [collectRecent]
  | cons line lines ih =>
    unfold collectRecent
    cases hread : loads floats line with
    | none =>
      rw [List.filterMap_cons_none hread]
      exact ih out hout
    | some x =>
      rw [List.filterMap_cons_some hread]
      have hlength : ((out ++ [x]).length : Int) = out.length + 1 := by simp
      obtain ⟨n, hn⟩ : ∃ n, max 1 limit.toNat - out.length = n + 1 := ⟨_, (Nat.succ_pred (by omega)).symm⟩
      simp only [hn, List.take_succ_cons]
      split
      next hfull =>
        -- that was the last one
        have hlast : n = 0 := by omega
        rw [hlast]
        rfl
      next hroom =>
        have hnext : max 1 limit.toNat - (out ++ [x]).length = n := by omega
        rw [ih (out ++ [x]) (by omega), hnext, List.append_assoc]
        rfl

/-! ## What the lines of the log are -/

/-- The lines that the line of an entry is taken for. -/
def AuditEntry.parts (entry : AuditEntry floats) : List PyStr :=
  (splitLines entry.line).filter fun line => PyStr.strip line ≠ []

/-- It has an `action`. -/
def hasAction : Value → Bool
  | .obj fields => (fields.map Prod.fst).contains (lit "action")
  | _ => false

namespace AuditEntry

variable (entry : AuditEntry floats)

theorem toValue_wellFormed : WellFormed floats entry.toValue := by
  have hkeys : [lit "at", lit "action", lit "actor", lit "detail"].Nodup := by decide
  exact ⟨hkeys, trivial, trivial, trivial, entry.wellFormed, trivial⟩

theorem hasAction_toValue : hasAction entry.toValue = true := by
  have hkeys : [lit "at", lit "action", lit "actor", lit "detail"].contains (lit "action") = true := by
    decide
  exact hkeys

theorem reads : Quote.outside.Reads (dumps floats entry.toValue) := by
  have hreads := reads_dumps entry.toValue [] entry.toValue_wellFormed ⟨trivial, trivial⟩
  rw [List.append_nil] at hreads
  exact hreads

/-- The line of an entry is not blank. -/
theorem strip_ne_nil : PyStr.strip (dumps floats entry.toValue) ≠ [] := by
  intro hnil
  obtain ⟨a, b, hsplit, ha, hb⟩ := strip_split (dumps floats entry.toValue)
  rw [hnil, List.nil_append] at hsplit
  have hbrace : 123 ∈ dumps floats entry.toValue := by
    unfold AuditEntry.toValue
    rw [dumps]
    exact List.mem_cons_self
  rw [hsplit] at hbrace
  have hspace : isSpacePoint 123 = true := by
    rcases List.mem_append.mp hbrace with hmem | hmem
    · exact ha 123 hmem
    · exact hb 123 hmem
  cases hspace

theorem parts_of_unbroken (h : entry.toValue.unbroken = true) :
    entry.parts = [dumps floats entry.toValue] := by
  unfold AuditEntry.parts AuditEntry.line
  rw [show splitLines (dumps floats entry.toValue ++ [10]) = [dumps floats entry.toValue] from
    splitLinesFrom_line ((oneLine_dumps entry.toValue_wellFormed).mpr h) [] []]
  exact List.filter_cons_of_pos (decide_eq_true entry.strip_ne_nil)

/-- What is read of a line that falls apart has no `action`. -/
theorem no_action_of_broken (h : ¬ entry.toValue.unbroken = true) {x : Value}
    (hx : x ∈ entry.parts.filterMap (loads floats)) : hasAction x = false := by
  rw [← oneLine_dumps entry.toValue_wellFormed] at h
  have hbreak : ∃ c ∈ dumps floats entry.toValue, isLineBreak c = true := by
    by_contra hno
    exact h fun c hc => Bool.eq_false_iff.mpr fun hline => hno ⟨c, hc, hline⟩
  obtain ⟨part, hpart, hread⟩ := List.mem_filterMap.mp hx
  by_contra hact
  cases x with
  | obj fields =>
    have hkey : lit "action" ∈ fields.map Prod.fst :=
      List.contains_iff_mem.mp (Bool.eq_true_of_not_eq_false hact)
    rcases @splitLinesFrom_broken [] _ entry.reads hbreak part (List.mem_of_mem_filter hpart)
      with hopen | hinside
    · rw [loads_of_open hopen] at hread
      cases hread
    · -- the parts begin inside a string
      obtain ⟨kv, hkv, hname⟩ := List.mem_map.mp hkey
      obtain ⟨c, t, htext, hc⟩ := loads_of_inside hinside hread fields rfl kv hkv
      rw [hname] at htext
      cases htext
      cases hc
  | null => exact hact rfl
  | bool b => exact hact rfl
  | int n => exact hact rfl
  | float q => exact hact rfl
  | str s => exact hact rfl
  | arr xs => exact hact rfl

/-- What is shown of an entry with an `action` is the entry, if it is on one line. -/
theorem filter_hasAction : (entry.parts.filterMap (loads floats)).filter hasAction
    = if entry.toValue.unbroken then [entry.toValue] else [] := by
  split
  next h =>
    rw [entry.parts_of_unbroken h, List.filterMap_cons_some (loads_dumps entry.toValue_wellFormed)]
    exact List.filter_cons_of_pos entry.hasAction_toValue
  next h =>
    refine List.filter_eq_nil_iff.mpr fun x hx => ?_
    rw [entry.no_action_of_broken h hx]
    exact Bool.false_ne_true

end AuditEntry

/-! ## The log after a run -/

/-- The entries that could be written. -/
def written (entries : List (AuditEntry floats)) : List (AuditEntry floats) :=
  entries.filter fun entry => PyStr.encodable entry.line

theorem foldl_logAudit (entries : List (AuditEntry floats)) (file : Option PyStr) :
    (entries.foldl logAudit file).getD []
      = file.getD [] ++ (written entries).flatMap AuditEntry.line := by
  induction entries generalizing file with
  | nil => exact (List.append_nil _).symm
  | cons entry entries ih =>
    rw [List.foldl_cons, ih]
    unfold logAudit written
    rw [List.filter_cons]
    split
    next h =>
      rw [List.flatMap_cons, ← List.append_assoc]
      rfl
    next h => rfl

/-- The lines of the log are those of the entries. -/
theorem auditLines_lines (entries : List (AuditEntry floats)) :
    auditLines (entries.flatMap AuditEntry.line) = entries.flatMap AuditEntry.parts := by
  have hlines : ∀ entries : List (AuditEntry floats),
      splitLines (entries.flatMap AuditEntry.line)
        = entries.flatMap fun entry => splitLines entry.line := by
    intro entries
    induction entries with
    | nil => rfl
    | cons entry entries ih =>
      rw [List.flatMap_cons, List.flatMap_cons, ← ih]
      unfold AuditEntry.line splitLines
      rw [List.append_assoc, List.singleton_append]
      exact splitLinesFrom_append (fun c hc => entry.reads.printable c hc) [] _
  have hplain : 13 ∉ entries.flatMap AuditEntry.line := by
    intro hcr
    obtain ⟨entry, -, hmem⟩ := List.mem_flatMap.mp hcr
    rcases List.mem_append.mp hmem with hmem | hmem
    · have hle := entry.reads.printable 13 hmem
      omega
    · cases List.mem_singleton.mp hmem
  unfold auditLines
  have hread := universalNewlines_append hplain []
  rw [List.append_nil] at hread
  rw [hread, show universalNewlines [] = [] from rfl, List.append_nil, hlines, List.filter_flatMap]
  rfl

/-- Where no text ends a line, each line of the log is an entry. -/
theorem parts_of_all_unbroken {entries : List (AuditEntry floats)}
    (h : ∀ entry ∈ entries, entry.toValue.unbroken = true) :
    entries.flatMap AuditEntry.parts = entries.map fun entry => dumps floats entry.toValue := by
  induction entries with
  | nil => rfl
  | cons entry rest ih =>
    rw [List.flatMap_cons, entry.parts_of_unbroken (h entry List.mem_cons_self),
      ih fun e he => h e (List.mem_cons_of_mem entry he)]
    rfl

theorem last500_map {α : Type} (xs : List α) (f : α → PyStr) :
    last500 (xs.map f) = (xs.drop (xs.length - 500)).map f := by
  unfold last500
  rw [List.length_map, List.map_drop]

theorem filterMap_loads_dumps (entries : List (AuditEntry floats)) :
    (entries.map fun entry => dumps floats entry.toValue).filterMap (loads floats)
      = entries.map AuditEntry.toValue := by
  induction entries with
  | nil => rfl
  | cons entry rest ih =>
    rw [List.map_cons, List.filterMap_cons_some (loads_dumps entry.toValue_wellFormed), ih]
    rfl

theorem readAuditRecent_eq (file : Option PyStr) (limit : Int) :
    readAuditRecent floats file limit
      = ((last500 (auditLines (file.getD []))).reverse.filterMap (loads floats)).take
          (max 1 limit.toNat) := by
  cases file with
  | none => simp [readAuditRecent, auditLines, last500, splitLines, splitLinesFrom, universalNewlines,
      universalNewlinesFrom]
  | some text =>
    show collectRecent floats limit _ [] = _
    rw [collectRecent_eq limit _ [] (by simp)]
    rfl

/-- **The log shows what was logged.** Whatever is logged, and whatever texts are in it: what is
shown with an `action` are entries that were logged, whose texts end no line, the newest first; and
if the texts of none do, the last 500 entries that could be written are shown, up to the limit. -/
theorem audit_shows_what_was_logged (entries : List (AuditEntry floats)) (limit : Int) :
    ((readAuditRecent floats (entries.foldl logAudit none) limit).filter hasAction).Sublist
        (((written entries).filter fun entry => entry.toValue.unbroken).reverse.map AuditEntry.toValue)
      ∧ ((∀ entry ∈ written entries, entry.toValue.unbroken = true) →
        readAuditRecent floats (entries.foldl logAudit none) limit
          = (((written entries).drop ((written entries).length - 500)).reverse.map
              AuditEntry.toValue).take (max 1 limit.toNat)) := by
  have hlines : auditLines ((entries.foldl logAudit none).getD [])
      = (written entries).flatMap AuditEntry.parts := by
    rw [foldl_logAudit, Option.getD_none, List.nil_append, auditLines_lines]
  rw [readAuditRecent_eq, hlines]
  refine ⟨?_, fun hunbroken => ?_⟩
  · have hall : (((written entries).flatMap AuditEntry.parts).reverse.filterMap
          (loads floats)).filter hasAction
        = ((written entries).filter fun entry => entry.toValue.unbroken).reverse.map
            AuditEntry.toValue := by
      rw [List.filterMap_reverse, List.filter_reverse, List.map_reverse]
      congr 1
      induction written entries with
      | nil => rfl
      | cons entry rest ih =>
        rw [List.flatMap_cons, List.filterMap_append, List.filter_append, ih,
          entry.filter_hasAction, List.filter_cons]
        split
        next h => rfl
        next h => rfl
    rw [← hall]
    refine List.Sublist.filter _ ((List.take_sublist _ _).trans (List.Sublist.filterMap _ ?_))
    exact (List.drop_sublist _ _).reverse
  · rw [parts_of_all_unbroken hunbroken, last500_map, ← List.map_reverse, filterMap_loads_dumps]

end EdgeSensor.Console
