import EdgeSensor.Py.Lines

/-!
# Tables of nmcli

`nmcli -t` prints a row on a line, its fields between colons, and puts a backslash before a colon
or a backslash in a field. `wifi_service.py` reads that back with `splitlines` and `_split_terse`.

The fields come back as they were (`split_terse_round_trip`). A line break in a field is printed as it
is, and `splitlines` ends a line at more characters than nmcli does: of a name that comes first the
last line is read (`readTable_name_first`), of one that comes last the first
(`readTable_name_last`).
-/

namespace EdgeSensor.Console

open EdgeSensor.Py

/-- `:` -/
def colon : Nat := 58

/-- `\` -/
def backslash : Nat := 92

/-- A field in terse output. -/
def escapeTerse (s : PyStr) : PyStr :=
  s.flatMap fun c => if c = colon ∨ c = backslash then [backslash, c] else [c]

/-- The fields after the first, each with its colon. -/
def terseRest (fields : List PyStr) : PyStr := fields.flatMap fun field => colon :: escapeTerse field

/-- A row in terse output. -/
def terseLine : List PyStr → PyStr
  | [] => []
  | field :: fields => escapeTerse field ++ terseRest fields

/-- The output: each row on a line. -/
def terseTable (rows : List (List PyStr)) : PyStr := rows.flatMap fun row => terseLine row ++ [10]

/-- The loop of `_split_terse`: the fields so far, the one that is read, and whether the last
character was a backslash. -/
def splitTerseFrom (fields : List PyStr) (cur : PyStr) (esc : Bool) : PyStr → List PyStr
  | [] => fields ++ [cur]
  | c :: line =>
    if esc then splitTerseFrom fields (cur ++ [c]) false line
    else if c = backslash then splitTerseFrom fields cur true line
    else if c = colon then splitTerseFrom (fields ++ [cur]) [] false line
    else splitTerseFrom fields (cur ++ [c]) false line

/-- `_split_terse`. -/
def splitTerse (line : PyStr) : List PyStr := splitTerseFrom [] [] false line

/-- The rows that `row` makes of the lines of the output: none where the command has failed. -/
def readTable {β : Type} (row : List PyStr → Option β) (stdout : Option PyStr) : List β :=
  match stdout with
  | none => []
  | some stdout => (splitLines stdout).filterMap fun line => row (splitTerse line)

/-! ## Fields -/

section Fields

variable {fields : List PyStr} {cur s line : PyStr}

theorem escapeTerse_append (s t : PyStr) : escapeTerse (s ++ t) = escapeTerse s ++ escapeTerse t :=
  List.flatMap_append

theorem escapeTerse_singleton (c : Nat) :
    escapeTerse [c] = if c = colon ∨ c = backslash then [backslash, c] else [c] := by
  unfold escapeTerse
  rw [List.flatMap_cons, List.flatMap_nil, List.append_nil]

/-- A field is read back. -/
theorem splitTerseFrom_escapeTerse (s : PyStr) : splitTerseFrom fields cur false (escapeTerse s ++ line)
    = splitTerseFrom fields (cur ++ s) false line := by
  induction s generalizing cur with
  | nil => rw [List.append_nil]; rfl
  | cons c s ih =>
    have hone : splitTerseFrom fields cur false (escapeTerse [c] ++ (escapeTerse s ++ line))
        = splitTerseFrom fields (cur ++ [c]) false (escapeTerse s ++ line) := by
      rw [escapeTerse_singleton]
      split
      next => rfl
      next h =>
        rw [not_or] at h
        rw [List.cons_append, List.nil_append, splitTerseFrom, if_neg (by decide), if_neg h.2, if_neg h.1]
    rw [show c :: s = [c] ++ s from rfl, escapeTerse_append, List.append_assoc, hone, ih, List.append_assoc]

theorem splitTerseFrom_terseRest (rest : List PyStr) :
    splitTerseFrom fields cur false (terseRest rest) = fields ++ cur :: rest := by
  induction rest generalizing fields cur with
  | nil => rfl
  | cons field rest ih =>
    show splitTerseFrom fields cur false (colon :: (escapeTerse field ++ terseRest rest)) = _
    rw [splitTerseFrom, if_neg (by decide), if_neg (by decide), if_pos rfl, splitTerseFrom_escapeTerse,
      List.nil_append, ih, List.append_assoc]
    rfl

/-- **A row is read back.** -/
theorem splitTerse_terseLine (field : PyStr) (fields : List PyStr) :
    splitTerse (terseLine (field :: fields)) = field :: fields := by
  unfold splitTerse terseLine
  rw [splitTerseFrom_escapeTerse, splitTerseFrom_terseRest]
  rfl

/-- The line nmcli prints of some fields: each escaped, colons between them. -/
theorem terseLine_eq_intercalate (fields : List PyStr) :
    terseLine fields = [colon].intercalate (fields.map escapeTerse) := by
  cases fields with
  | nil => rfl
  | cons field fields =>
    induction fields generalizing field with
    | nil => simp [terseLine, terseRest]
    | cons next fields ih =>
      have hrest := ih next
      rw [List.map_cons] at hrest
      rw [List.map_cons, List.map_cons, List.intercalate_cons_cons, ← hrest]
      simp [terseLine, terseRest]

/-- **`_split_terse` undoes what nmcli does**, whatever the fields hold. -/
theorem split_terse_round_trip (fields : List PyStr) (h : fields ≠ []) :
    splitTerse ([colon].intercalate (fields.map escapeTerse)) = fields := by
  cases fields with
  | nil => exact absurd rfl h
  | cons field fields => rw [← terseLine_eq_intercalate, splitTerse_terseLine]

theorem split_terse_round_trip_backslash :
    splitTerse ([colon].intercalate ([[], [colon, backslash], []].map escapeTerse))
      = [[], [colon, backslash], []] :=
  split_terse_round_trip [[], [colon, backslash], []] (List.cons_ne_nil _ _)

/-- Escaping puts no line break in, and takes none out. -/
theorem oneLine_escapeTerse : OneLine (escapeTerse s) ↔ OneLine s := by
  induction s with
  | nil => exact Iff.rfl
  | cons c s ih =>
    have hone : OneLine (escapeTerse [c]) ↔ OneLine [c] := by
      rw [escapeTerse_singleton]
      unfold OneLine
      split
      next h =>
        have hbackslash : isLineBreak backslash = false := by decide
        simp [hbackslash]
      next => rfl
    rw [show c :: s = [c] ++ s from rfl, escapeTerse_append, oneLine_append, oneLine_append, hone, ih]

theorem oneLine_terseRest (h : ∀ field ∈ fields, OneLine field) : OneLine (terseRest fields) := by
  intro c hc
  obtain ⟨field, hfield, hmem⟩ := List.mem_flatMap.mp hc
  rcases List.mem_cons.mp hmem with rfl | hmem
  · decide
  · exact oneLine_escapeTerse.mpr (h field hfield) c hmem

theorem oneLine_terseLine (h : ∀ field ∈ fields, OneLine field) : OneLine (terseLine fields) := by
  cases fields with
  | nil => exact fun c hc => absurd hc List.not_mem_nil
  | cons field fields =>
    exact oneLine_append.mpr ⟨oneLine_escapeTerse.mpr (h field List.mem_cons_self),
      oneLine_terseRest fun field hmem => h field (List.mem_cons_of_mem _ hmem)⟩

end Fields

/-! ## Rows -/

section Rows

variable {β : Type} {row : List PyStr → Option β} {head name rest : PyStr}

/-- What `row` makes of a line. -/
def rowOf (row : List PyStr → Option β) (line : PyStr) : Option β := row (splitTerse line)

theorem rowOf_escapeTerse (hone : ∀ field, row [field] = none) (s : PyStr) :
    rowOf row (escapeTerse s) = none := by
  have hsplit : splitTerse (escapeTerse s) = [s] := by
    have hline := splitTerse_terseLine s []
    rw [show terseLine [s] = escapeTerse s from List.append_nil _] at hline
    exact hline
  unfold rowOf
  rw [hsplit]
  exact hone s

theorem escapeTerse_concat {c : Nat} (hc : isLineBreak c = true) (name : PyStr) :
    escapeTerse (c :: name) = c :: escapeTerse name := by
  have hplain : ¬ (c = colon ∨ c = backslash) := by
    rintro (rfl | rfl) <;> exact absurd hc (by decide)
  show (if c = colon ∨ c = backslash then [backslash, c] else [c]) ++ escapeTerse name = _
  rw [if_neg hplain]
  rfl

/-- A name in front: its last line is read with the fields after it. -/
theorem filterMap_name_first (hone : ∀ field, row [field] = none) {tail : PyStr} (htail : OneLine tail)
    (s : PyStr) (hs : OneLine s) (name : PyStr) :
    (splitLinesFrom (escapeTerse s) (escapeTerse name ++ (tail ++ 10 :: rest))).filterMap (rowOf row)
      = (rowOf row (escapeTerse (lastLine (s ++ name)) ++ tail)).toList
        ++ (splitLinesFrom [] rest).filterMap (rowOf row) := by
  have hnil : rowOf row [] = none := rowOf_escapeTerse hone []
  induction name generalizing s with
  | nil =>
    rw [List.append_nil, lastLine_of_oneLine hs]
    show (splitLinesFrom (escapeTerse s) (tail ++ 10 :: rest)).filterMap (rowOf row) = _
    rw [filterMap_splitLinesFrom_append hnil htail, filterMap_splitLinesFrom hnil, if_pos (by decide)]
  | cons c name ih =>
    by_cases hc : isLineBreak c = true
    · have hlast : lastLine (s ++ c :: name) = lastLine ([] ++ name) := lastLine_append_cons hc s name
      rw [escapeTerse_concat hc, List.cons_append, filterMap_splitLinesFrom hnil, if_pos hc,
        rowOf_escapeTerse hone, Option.toList_none, List.nil_append, hlast]
      exact ih [] (fun c hc => absurd hc List.not_mem_nil)
    · have hplain : OneLine [c] := fun c' hc' => by
        rw [List.mem_singleton.mp hc']
        exact Bool.eq_false_iff.mpr hc
      have hmore := ih (s ++ [c]) (oneLine_append.mpr ⟨hs, hplain⟩)
      rw [show c :: name = [c] ++ name from rfl, escapeTerse_append, List.append_assoc,
        filterMap_splitLinesFrom_append hnil (oneLine_escapeTerse.mpr hplain), ← escapeTerse_append,
        ← List.append_assoc s [c] name]
      exact hmore

/-- A name in front of fields on one line. -/
theorem filterMap_terseLine_first (hone : ∀ field, row [field] = none) {fields : List PyStr}
    (hfields : ∀ field ∈ fields, OneLine field) (name : PyStr) :
    (splitLinesFrom [] (terseLine (name :: fields) ++ 10 :: rest)).filterMap (rowOf row)
      = (row (lastLine name :: fields)).toList ++ (splitLinesFrom [] rest).filterMap (rowOf row) := by
  have hname := @filterMap_name_first _ _ rest hone _ (oneLine_terseRest hfields) []
    (fun c hc => absurd hc List.not_mem_nil) name
  have hrow : rowOf row (escapeTerse (lastLine name) ++ terseRest fields) = row (lastLine name :: fields) :=
    congrArg row (splitTerse_terseLine _ _)
  rw [List.nil_append, hrow] at hname
  rw [terseLine, List.append_assoc]
  exact hname

/-- What comes of the lines of a name after its first: nothing. -/
theorem filterMap_name_lines (hone : ∀ field, row [field] = none) (s : PyStr) (hs : OneLine s)
    (name : PyStr) :
    (splitLinesFrom (escapeTerse s) (escapeTerse name ++ 10 :: rest)).filterMap (rowOf row)
      = (splitLinesFrom [] rest).filterMap (rowOf row) := by
  have hnil : ∀ field : PyStr, OneLine ([] : PyStr) := fun _ c hc => absurd hc List.not_mem_nil
  have hname := @filterMap_name_first _ _ rest hone _ (hnil []) s hs name
  rw [List.append_nil, rowOf_escapeTerse hone, Option.toList_none, List.nil_append, List.nil_append] at hname
  exact hname

/-- A name behind: its first line is read with the fields before it. -/
theorem filterMap_name_last (hone : ∀ field, row [field] = none) (s : PyStr) (hs : OneLine s)
    (name : PyStr) :
    (splitLinesFrom (head ++ escapeTerse s) (escapeTerse name ++ 10 :: rest)).filterMap (rowOf row)
      = (rowOf row (head ++ escapeTerse (firstLine (s ++ name)))).toList
        ++ (splitLinesFrom [] rest).filterMap (rowOf row) := by
  have hnil : rowOf row [] = none := rowOf_escapeTerse hone []
  induction name generalizing s with
  | nil =>
    rw [List.append_nil, firstLine_of_oneLine hs]
    show (splitLinesFrom (head ++ escapeTerse s) (10 :: rest)).filterMap (rowOf row) = _
    rw [filterMap_splitLinesFrom hnil, if_pos (by decide)]
  | cons c name ih =>
    by_cases hc : isLineBreak c = true
    · have hlines := @filterMap_name_lines _ _ rest hone []
        (fun c hc => absurd hc List.not_mem_nil) name
      rw [escapeTerse_concat hc, List.cons_append, filterMap_splitLinesFrom hnil, if_pos hc,
        firstLine_append_cons hc, firstLine_of_oneLine hs]
      exact congrArg _ hlines
    · have hplain : OneLine [c] := fun c' hc' => by
        rw [List.mem_singleton.mp hc']
        exact Bool.eq_false_iff.mpr hc
      have hmore := ih (s ++ [c]) (oneLine_append.mpr ⟨hs, hplain⟩)
      rw [show c :: name = [c] ++ name from rfl, escapeTerse_append, List.append_assoc,
        filterMap_splitLinesFrom_append hnil (oneLine_escapeTerse.mpr hplain), List.append_assoc,
        ← escapeTerse_append, ← List.append_assoc s [c] name]
      exact hmore

/-- Of a table with the names in front, the last line of each is read. -/
theorem readTable_name_first (hone : ∀ field, row [field] = none)
    {rows : List (PyStr × List PyStr)} (hfields : ∀ r ∈ rows, ∀ field ∈ r.2, OneLine field) :
    readTable row (some (terseTable (rows.map fun r => r.1 :: r.2)))
      = rows.filterMap fun r => row (lastLine r.1 :: r.2) := by
  show (splitLinesFrom [] _).filterMap (rowOf row) = _
  induction rows with
  | nil => rfl
  | cons r rows ih =>
    have hrest := ih fun r hr => hfields r (List.mem_cons_of_mem _ hr)
    have hline := @filterMap_terseLine_first _ _ (terseTable (rows.map fun r => r.1 :: r.2)) hone _
      (hfields r List.mem_cons_self) r.1
    rw [hrest] at hline
    rw [List.map_cons, terseTable, List.flatMap_cons, List.append_assoc]
    rw [show [10] ++ List.flatMap _ _ = 10 :: terseTable (rows.map fun r => r.1 :: r.2) from rfl, hline]
    exact (filterMap_cons_append (fun r => row (lastLine r.1 :: r.2)) r rows).symm

theorem terseLine_concat {fields : List PyStr} (hne : fields ≠ []) (name : PyStr) :
    terseLine (fields ++ [name]) = (terseLine fields ++ [colon]) ++ escapeTerse name := by
  cases fields with
  | nil => exact absurd rfl hne
  | cons field fields =>
    have hrest : terseRest (fields ++ [name]) = terseRest fields ++ ([colon] ++ escapeTerse name) := by
      unfold terseRest
      rw [List.flatMap_append, List.flatMap_cons, List.flatMap_nil, List.append_nil]
      rfl
    show escapeTerse field ++ terseRest (fields ++ [name]) = _
    rw [hrest, terseLine, List.append_assoc, List.append_assoc]

theorem rowOf_terseLine {fields : List PyStr} (hne : fields ≠ []) : rowOf row (terseLine fields) = row fields := by
  cases fields with
  | nil => exact absurd rfl hne
  | cons field fields => exact congrArg row (splitTerse_terseLine field fields)

/-- Of a table with the names behind, the first line of each is read. -/
theorem readTable_name_last (hone : ∀ field, row [field] = none)
    {rows : List (List PyStr × PyStr)} (hfields : ∀ r ∈ rows, r.1 ≠ [] ∧ ∀ field ∈ r.1, OneLine field) :
    readTable row (some (terseTable (rows.map fun r => r.1 ++ [r.2])))
      = rows.filterMap fun r => row (r.1 ++ [firstLine r.2]) := by
  have hnil : rowOf row [] = none := rowOf_escapeTerse hone []
  show (splitLinesFrom [] _).filterMap (rowOf row) = _
  induction rows with
  | nil => rfl
  | cons r rows ih =>
    have hrest := ih fun r hr => hfields r (List.mem_cons_of_mem _ hr)
    obtain ⟨hne, hone'⟩ := hfields r List.mem_cons_self
    have hhead : OneLine (terseLine r.1 ++ [colon]) :=
      oneLine_append.mpr ⟨oneLine_terseLine hone', fun c hc => by
        rw [List.mem_singleton.mp hc]
        decide⟩
    have hname := @filterMap_name_last _ _ (terseLine r.1 ++ [colon])
      (terseTable (rows.map fun r => r.1 ++ [r.2])) hone []
      (fun c hc => absurd hc List.not_mem_nil) r.2
    rw [List.nil_append, ← terseLine_concat hne (firstLine r.2), rowOf_terseLine (by simp), hrest,
      show terseLine r.1 ++ [colon] ++ escapeTerse [] = [] ++ (terseLine r.1 ++ [colon]) from
        List.append_nil _, ← filterMap_splitLinesFrom_append hnil hhead] at hname
    rw [List.map_cons, terseTable, List.flatMap_cons, terseLine_concat hne, List.append_assoc,
      List.append_assoc, filterMap_cons_append]
    exact hname

end Rows

end EdgeSensor.Console
