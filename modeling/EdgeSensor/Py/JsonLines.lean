import EdgeSensor.Py.JsonRoundTrip
import EdgeSensor.Py.Lines

/-!
# JSON text that falls apart

A line break that `json.dumps` leaves in a string ends a line for `splitlines`. What comes before
the first one ends inside a string and is not read (`loads_of_open`). What comes after one begins
inside a string, so that what the scanner takes for strings is what stands between the strings:
each begins with one of `,:]}` (`loads_of_inside`), and so does each key of an object that is read.

Which characters a string is written with is followed with an automaton, `Quote`.
-/

namespace EdgeSensor.Py.JsonCodec

open EdgeSensor.Lib

/-- Where a text is: outside strings, in one, after a backslash in it, or right behind one. -/
inductive Quote where
  | outside
  | inside
  | escaped
  | closed

def Quote.next : Quote → Nat → Quote
  | .inside, c => if c = 34 then .closed else if c = 92 then .escaped else .inside
  | .escaped, _ => .inside
  | _, c => if c = 34 then .inside else .outside

/-- What stands behind a string. -/
def isSeparator (c : Nat) : Bool := c = 44 || c = 58 || c = 93 || c = 125

/-- What `json.dumps` writes there. -/
def Quote.Allows : Quote → Nat → Prop
  | .outside, c => 32 ≤ c ∧ c ≠ 92 ∧ isBareLineBreak c = false
  | .inside, c => 32 ≤ c
  | .escaped, c => 32 ≤ c ∧ isBareLineBreak c = false
  | .closed, c => isSeparator c = true

/-- The text is part of one that `json.dumps` writes. -/
def Quote.Reads : Quote → PyStr → Prop
  | _, [] => True
  | q, c :: s => q.Allows c ∧ (q.next c).Reads s

section Automaton

variable {q : Quote} {a b s r rest : PyStr} {c : Nat}

theorem inside_next (hquote : c ≠ 34) (hbackslash : c ≠ 92) : Quote.inside.next c = .inside :=
  (if_neg hquote).trans (if_neg hbackslash)

theorem outside_next (hquote : c ≠ 34) : Quote.outside.next c = .outside := if_neg hquote

theorem reads_append :
    q.Reads (a ++ b) ↔ q.Reads a ∧ (a.foldl Quote.next q).Reads b := by
  induction a generalizing q with
  | nil => exact ⟨fun h => ⟨trivial, h⟩, fun h => h.2⟩
  | cons c a ih =>
    show _ ∧ (q.next c).Reads (a ++ b) ↔ (_ ∧ (q.next c).Reads a) ∧ _
    rw [ih, and_assoc]
    rfl

theorem separator_range (h : isSeparator c = true) : 32 ≤ c ∧ isBareLineBreak c = false := by
  unfold isSeparator at h
  simp only [Bool.or_eq_true, decide_eq_true_iff] at h
  rcases h with ((rfl | rfl) | rfl) | rfl
  all_goals exact ⟨by decide, rfl⟩

theorem Quote.Allows.printable (h : q.Allows c) : 32 ≤ c := by
  cases q with
  | outside => exact h.1
  | inside => exact h
  | escaped => exact h.1
  | closed => exact (separator_range h).1

theorem Quote.Reads.printable (h : q.Reads s) : ∀ c ∈ s, 32 ≤ c := by
  induction s generalizing q with
  | nil => exact fun c hc => absurd hc List.not_mem_nil
  | cons c s ih => exact List.forall_mem_cons.mpr ⟨h.1.printable, ih h.2⟩

theorem isLineBreak_of_printable (h : 32 ≤ c) : isLineBreak c = isBareLineBreak c := by
  have hlow (n : Nat) (hn : n < 32) : decide (c ≤ n) = false := by
    rw [decide_eq_false_iff_not]
    omega
  unfold isLineBreak isBareLineBreak
  rw [hlow 0x0D (by decide), hlow 0x1E (by decide), Bool.and_false, Bool.and_false]
  rfl

/-- Only in a string can a line break be. -/
theorem Quote.Allows.inside_of_break (h : q.Allows c) (hc : isLineBreak c = true) :
    q = .inside := by
  rw [isLineBreak_of_printable h.printable] at hc
  cases q with
  | inside => rfl
  | outside => cases hc.symm.trans h.2.2
  | escaped => cases hc.symm.trans h.2
  | closed => cases hc.symm.trans (separator_range h).2

/-- Where a line breaks. -/
theorem Quote.Reads.break_inside (h : q.Reads (a ++ c :: b)) (hc : isLineBreak c = true) :
    q.Reads a ∧ a.foldl Quote.next q = .inside ∧ Quote.inside.Reads b := by
  obtain ⟨ha, hallows, hb⟩ := reads_append.mp h
  have hstate := hallows.inside_of_break hc
  rw [hstate, inside_next (ne_of_point hc rfl) (ne_of_point hc rfl)] at hb
  exact ⟨ha, hstate, hb⟩

end Automaton

/-! ## What is written -/

section Written

variable {floats : FloatText} {s r : PyStr}

/-- What may stand behind a value. -/
def Follows (r : PyStr) : Prop := Quote.closed.Reads r ∧ Quote.outside.Reads r

theorem follows_cons {c : Nat} (hc : isSeparator c = true) (h : Quote.outside.Reads r) :
    Follows (c :: r) := by
  have hplain : c ≠ 34 ∧ c ≠ 92 := ⟨ne_of_point hc rfl, ne_of_point hc rfl⟩
  obtain ⟨hrange, hbreak⟩ := separator_range hc
  have hnext : Quote.closed.next c = .outside := if_neg hplain.1
  exact ⟨⟨hc, hnext.symm ▸ h⟩, ⟨hrange, hplain.2, hbreak⟩, (outside_next hplain.1).symm ▸ h⟩

theorem reads_space (h : Quote.outside.Reads r) : Quote.outside.Reads (32 :: r) :=
  ⟨⟨by decide, by decide, rfl⟩, h⟩

theorem reads_plain {w : PyStr}
    (hw : ∀ c ∈ w, 32 ≤ c ∧ c ≠ 34 ∧ c ≠ 92 ∧ isBareLineBreak c = false)
    (h : Quote.outside.Reads r) : Quote.outside.Reads (w ++ r) := by
  induction w with
  | nil => exact h
  | cons c w ih =>
    obtain ⟨⟨hrange, hquote, hbackslash, hbreak⟩, hw⟩ := List.forall_mem_cons.mp hw
    exact ⟨⟨hrange, hbackslash, hbreak⟩, (outside_next hquote).symm ▸ ih hw⟩

theorem reads_escape (c : Nat) (h : Quote.inside.Reads r) : Quote.inside.Reads (escape c ++ r) := by
  have hrange : (32 : Nat) ≤ 48 ∧ (32 : Nat) ≤ 92 := by decide
  rcases escape_cases c with ⟨letter, hmem, hwritten⟩ | ⟨hlt, hwritten⟩
    | ⟨hge, hquote, hbackslash, hwritten⟩
  · have hletter : ∀ e ∈ shortEscapes, 32 ≤ e.2 ∧ isBareLineBreak e.2 = false := by decide
    rw [hwritten]
    exact ⟨hrange.2, hletter _ hmem, h⟩
  · have hdigit : ∀ d < 16, 32 ≤ hexDigit d ∧ hexDigit d ≠ 34 ∧ hexDigit d ≠ 92 := by decide
    obtain ⟨hhigh, hquote, hbackslash⟩ := hdigit (c / 16) (by omega)
    obtain ⟨hlow, hquote', hbackslash'⟩ := hdigit (c % 16) (by omega)
    rw [hwritten]
    refine ⟨hrange.2, ⟨by decide, rfl⟩, hrange.1, hrange.1, hhigh, ?_⟩
    show (Quote.inside.next (hexDigit (c / 16))).Reads (hexDigit (c % 16) :: r)
    rw [inside_next hquote hbackslash]
    refine ⟨hlow, ?_⟩
    rw [inside_next hquote' hbackslash']
    exact h
  · rw [hwritten]
    refine ⟨hge, ?_⟩
    rw [inside_next hquote hbackslash]
    exact h

theorem reads_encoded (s : PyStr) (h : Quote.closed.Reads r) :
    Quote.outside.Reads (encodeBasestring s ++ r) := by
  rw [encodeBasestring_append]
  refine ⟨⟨by decide, by decide, rfl⟩, ?_⟩
  show Quote.inside.Reads _
  induction s with
  | nil => exact ⟨by show 32 ≤ 34; decide, h⟩
  | cons c s ih =>
    rw [List.flatMap_cons, List.append_assoc]
    exact reads_escape c ih

theorem reads_numeral {w : PyStr} {isFloat : Bool} (hw : matchNumber w = some (w, isFloat, []))
    (h : Quote.outside.Reads r) : Quote.outside.Reads (w ++ r) := by
  refine reads_plain (fun c hc => ?_) h
  have hpoint := (matchNumber_taken hw).2 c hc
  unfold isNumeralPoint isDigitPoint at hpoint
  simp only [Bool.or_eq_true, Bool.and_eq_true, decide_eq_true_iff] at hpoint
  have hrange : 43 ≤ c ∧ c ≤ 101 ∧ c ≠ 92 := by omega
  refine ⟨by omega, by omega, hrange.2.2, ?_⟩
  unfold isBareLineBreak
  simp only [Bool.or_eq_false_iff, beq_eq_false_iff_ne]
  omega

theorem reads_constant (h : Quote.outside.Reads r) {word : PyStr × Value}
    (hword : word ∈ constants) : Quote.outside.Reads (word.1 ++ r) := by
  have hplain : ∀ word ∈ constants,
      ∀ c ∈ word.1, 32 ≤ c ∧ c ≠ 34 ∧ c ≠ 92 ∧ isBareLineBreak c = false := by decide
  exact reads_plain (hplain word hword) h

mutual

theorem reads_dumps (x : Value) (r : PyStr) (hx : WellFormed floats x) (hr : Follows r) :
    Quote.outside.Reads (dumps floats x ++ r) := by
  match x, hx with
  | .null, _ => exact reads_constant hr.2 (word_mem 0 (by decide))
  | .bool true, _ => exact reads_constant hr.2 (word_mem 1 (by decide))
  | .bool false, _ => exact reads_constant hr.2 (word_mem 2 (by decide))
  | .int n, _ => exact reads_numeral (matchNumber_intRepr n) hr.2
  | .float (.finite q), hx => exact reads_numeral (floats.numeral _ hx) hr.2
  | .float .negZero, hx => exact reads_numeral (floats.numeral _ hx) hr.2
  | .float .nan, _ => exact reads_constant hr.2 (word_mem 3 (by decide))
  | .float (.inf false), _ => exact reads_constant hr.2 (word_mem 4 (by decide))
  | .float (.inf true), _ => exact reads_constant hr.2 (word_mem 5 (by decide))
  | .str s, _ => exact reads_encoded s hr.1
  | .arr [], _ => exact ⟨⟨by decide, by decide, rfl⟩, (follows_cons rfl hr.2).2⟩
  | .arr (x :: xs), ⟨hx, hxs⟩ =>
    rw [dumps, List.cons_append, List.append_assoc]
    exact ⟨⟨by decide, by decide, rfl⟩, reads_dumps x _ hx (reads_dumpsItems xs r hxs hr.2)⟩
  | .obj [], _ => exact ⟨⟨by decide, by decide, rfl⟩, (follows_cons rfl hr.2).2⟩
  | .obj ((key, x) :: fields), ⟨_, hx, hfields⟩ =>
    rw [dumps, List.cons_append, List.append_assoc, List.cons_append, List.cons_append,
      List.append_assoc]
    have hvalue := reads_dumps x _ hx (reads_dumpsFields fields r hfields hr.2)
    exact ⟨⟨by decide, by decide, rfl⟩, reads_encoded key
      (follows_cons rfl (reads_space hvalue)).1⟩

theorem reads_dumpsItems (xs : List Value) (r : PyStr) (hxs : WellFormedList floats xs)
    (hr : Quote.outside.Reads r) : Follows (dumpsItems floats xs ++ r) := by
  match xs, hxs with
  | [], _ => exact follows_cons rfl hr
  | x :: xs, ⟨hx, hxs⟩ =>
    rw [dumpsItems, List.cons_append, List.cons_append, List.append_assoc]
    exact follows_cons rfl (reads_space (reads_dumps x _ hx (reads_dumpsItems xs r hxs hr)))

theorem reads_dumpsFields (fields : List (PyStr × Value)) (r : PyStr)
    (hfields : WellFormedFields floats fields) (hr : Quote.outside.Reads r) :
    Follows (dumpsFields floats fields ++ r) := by
  match fields, hfields with
  | [], _ => exact follows_cons rfl hr
  | (key, x) :: fields, ⟨hx, hfields⟩ =>
    rw [dumpsFields, List.cons_append, List.cons_append, List.append_assoc, List.cons_append,
      List.cons_append, List.append_assoc]
    have hvalue := reads_dumps x _ hx (reads_dumpsFields fields r hfields hr)
    exact follows_cons rfl (reads_space (reads_encoded key
      (follows_cons rfl (reads_space hvalue)).1))

end

end Written

/-! ## The characters there are -/

/-- `f` asks whether `p` holds of every character of every string of a value, `items` and `fields`
of several. -/
structure Everywhere (p : Nat → Bool) (f : Value → Bool) (items : List Value → Bool)
    (fields : List (PyStr × Value) → Bool) : Prop where
  null : f .null = true
  bool : ∀ b, f (.bool b) = true
  int : ∀ n, f (.int n) = true
  float : ∀ x, f (.float x) = true
  str : ∀ s, f (.str s) = s.all p
  arr : ∀ xs, f (.arr xs) = items xs
  obj : ∀ kvs, f (.obj kvs) = fields kvs
  items_nil : items [] = true
  items_cons : ∀ x xs, items (x :: xs) = (f x && items xs)
  fields_nil : fields [] = true
  fields_cons : ∀ key x kvs, fields ((key, x) :: kvs) = (key.all p && f x && fields kvs)

theorem everywhere_encodable :
    Everywhere (!isSurrogate ·) Value.encodable Value.encodableList Value.encodableFields := by
  constructor
  all_goals
    intros
    rfl

theorem everywhere_unbroken :
    Everywhere (!isBareLineBreak ·) Value.unbroken Value.unbrokenList Value.unbrokenFields := by
  constructor
  all_goals
    intros
    rfl

section Everywhere

variable {floats : FloatText} {p : Nat → Bool} {f : Value → Bool} {items : List Value → Bool}
  {fields : List (PyStr × Value) → Bool}

theorem all_ascii (hp : ∀ c < 128, p c = true) {w : PyStr} (hw : ∀ c ∈ w, c < 128) :
    w.all p = true :=
  List.all_eq_true.mpr fun c hc => hp c (hw c hc)

theorem all_escape (hp : ∀ c < 128, p c = true) (c : Nat) : (escape c).all p = p c := by
  rcases escape_cases c with ⟨letter, hmem, hwritten⟩ | ⟨hlt, hwritten⟩ | ⟨-, -, -, hwritten⟩
  · have hrange : ∀ e ∈ shortEscapes, e.1 < 128 ∧ e.2 < 128 := by decide
    obtain ⟨hchar, hletter⟩ := hrange _ hmem
    rw [hwritten, hp c hchar]
    refine all_ascii hp ?_
    simpa using hletter
  · have hdigit : ∀ d < 16, hexDigit d < 128 := by decide
    have hhigh := hdigit (c / 16) (by omega)
    have hlow := hdigit (c % 16) (by omega)
    rw [hwritten, hp c (by omega)]
    refine all_ascii hp ?_
    simp [hhigh, hlow]
  · rw [hwritten, List.all_cons, List.all_nil, Bool.and_true]

theorem all_encoded (hp : ∀ c < 128, p c = true) (s : PyStr) :
    (encodeBasestring s).all p = s.all p := by
  have hquote := hp 34 (by decide)
  have hbody : (s.flatMap escape).all p = s.all p := by
    induction s with
    | nil => rfl
    | cons c s ih => rw [List.flatMap_cons, List.all_append, all_escape hp, ih, List.all_cons]
  unfold encodeBasestring
  rw [List.all_cons, List.all_append, hbody, List.all_cons, List.all_nil, hquote, Bool.true_and,
    Bool.and_true, Bool.and_true]

theorem all_numeral (hp : ∀ c < 128, p c = true) {w : PyStr} {isFloat : Bool}
    (hw : matchNumber w = some (w, isFloat, [])) : w.all p = true := by
  refine all_ascii hp fun c hc => ?_
  have hpoint := (matchNumber_taken hw).2 c hc
  unfold isNumeralPoint isDigitPoint at hpoint
  simp only [Bool.or_eq_true, Bool.and_eq_true, decide_eq_true_iff] at hpoint
  omega

mutual

/-- What is written of a value has the characters of its strings, and others below U+0080. -/
theorem all_dumps (h : Everywhere p f items fields) (hp : ∀ c < 128, p c = true) (x : Value)
    (hx : WellFormed floats x) : (dumps floats x).all p = f x := by
  have hword : ∀ word ∈ constants, word.1.all p = true := by
    have hrange : ∀ word ∈ constants, ∀ c ∈ word.1, c < 128 := by decide
    exact fun word hmem => all_ascii hp (hrange word hmem)
  match x, hx with
  | .null, _ =>
    rw [h.null]
    exact hword _ (word_mem 0 (by decide))
  | .bool true, _ =>
    rw [h.bool]
    exact hword _ (word_mem 1 (by decide))
  | .bool false, _ =>
    rw [h.bool]
    exact hword _ (word_mem 2 (by decide))
  | .int n, _ =>
    rw [h.int]
    exact all_numeral hp (matchNumber_intRepr n)
  | .float (.finite q), hx =>
    rw [h.float]
    exact all_numeral hp (floats.numeral _ hx)
  | .float .negZero, hx =>
    rw [h.float]
    exact all_numeral hp (floats.numeral _ hx)
  | .float .nan, _ =>
    rw [h.float]
    exact hword _ (word_mem 3 (by decide))
  | .float (.inf false), _ =>
    rw [h.float]
    exact hword _ (word_mem 4 (by decide))
  | .float (.inf true), _ =>
    rw [h.float]
    exact hword _ (word_mem 5 (by decide))
  | .str s, _ =>
    rw [h.str, dumps, all_encoded hp]
  | .arr [], _ =>
    rw [h.arr, h.items_nil]
    exact @all_ascii p hp [91, 93] (by decide)
  | .arr (x :: xs), ⟨hx, hxs⟩ =>
    rw [h.arr, h.items_cons, dumps, List.all_cons, List.all_append, all_dumps h hp x hx,
      all_dumpsItems h hp xs hxs, hp 91 (by decide), Bool.true_and]
  | .obj [], _ =>
    rw [h.obj, h.fields_nil]
    exact @all_ascii p hp [123, 125] (by decide)
  | .obj ((key, x) :: kvs), ⟨_, hx, hfields⟩ =>
    rw [h.obj, h.fields_cons, dumps, List.all_cons, List.all_append, all_encoded hp, List.all_cons,
      List.all_cons, List.all_append, all_dumps h hp x hx, all_dumpsFields h hp kvs hfields,
      hp 123 (by decide), hp 58 (by decide), hp 32 (by decide), Bool.true_and, Bool.true_and,
      Bool.true_and, Bool.and_assoc]

theorem all_dumpsItems (h : Everywhere p f items fields) (hp : ∀ c < 128, p c = true)
    (xs : List Value) (hxs : WellFormedList floats xs) :
    (dumpsItems floats xs).all p = items xs := by
  match xs, hxs with
  | [], _ =>
    rw [h.items_nil]
    exact @all_ascii p hp [93] (by decide)
  | x :: xs, ⟨hx, hxs⟩ =>
    rw [h.items_cons, dumpsItems, List.all_cons, List.all_cons, List.all_append,
      all_dumps h hp x hx, all_dumpsItems h hp xs hxs, hp 44 (by decide), hp 32 (by decide),
      Bool.true_and, Bool.true_and]

theorem all_dumpsFields (h : Everywhere p f items fields) (hp : ∀ c < 128, p c = true)
    (kvs : List (PyStr × Value)) (hkvs : WellFormedFields floats kvs) :
    (dumpsFields floats kvs).all p = fields kvs := by
  match kvs, hkvs with
  | [], _ =>
    rw [h.fields_nil]
    exact @all_ascii p hp [125] (by decide)
  | (key, x) :: kvs, ⟨hx, hkvs⟩ =>
    rw [h.fields_cons, dumpsFields, List.all_cons, List.all_cons, List.all_append, all_encoded hp,
      List.all_cons, List.all_cons, List.all_append, all_dumps h hp x hx,
      all_dumpsFields h hp kvs hkvs, hp 44 (by decide), hp 58 (by decide), hp 32 (by decide),
      Bool.true_and, Bool.true_and, Bool.true_and, Bool.true_and, Bool.and_assoc]

end

/-- A value can be encoded if its texts can. -/
theorem encodable_dumps {x : Value} (hx : WellFormed floats x) :
    PyStr.encodable (dumps floats x) = x.encodable := by
  refine all_dumps everywhere_encodable (fun c hc => ?_) x hx
  unfold isSurrogate
  rw [decide_eq_false (by omega), Bool.false_and]
  rfl

/-- A value is on one line if its texts are. -/
theorem oneLine_dumps {x : Value} (hx : WellFormed floats x) :
    OneLine (dumps floats x) ↔ x.unbroken = true := by
  have hreads := reads_dumps x [] hx ⟨trivial, trivial⟩
  rw [List.append_nil] at hreads
  have hascii (c : Nat) (hc : c < 128) : (!isBareLineBreak c) = true := by
    unfold isBareLineBreak
    rw [Bool.not_eq_true', Bool.or_eq_false_iff, Bool.or_eq_false_iff, beq_eq_false_iff_ne,
      beq_eq_false_iff_ne, beq_eq_false_iff_ne]
    omega
  rw [← all_dumps everywhere_unbroken hascii x hx, List.all_eq_true]
  refine forall₂_congr fun c hc => ?_
  rw [isLineBreak_of_printable (hreads.printable c hc), Bool.not_eq_true']

end Everywhere

/-! ## What the scanner makes of a part -/

section Parts

variable {floats : FloatText} {s t rest : PyStr} {c : Nat}

/-- The text ends inside a string. -/
def Open (s : PyStr) : Prop :=
  s.foldl Quote.next .outside = .inside ∨ s.foldl Quote.next .outside = .escaped

theorem hexValue_plain {d : Nat} (h : hexValue c = some d) : c ≠ 34 ∧ c ≠ 92 := by
  constructor
  · rintro rfl
    cases h
  · rintro rfl
    cases h

theorem hex4_plain {x y z w u : Nat} (h : hex4 x y z w = some u) :
    (x ≠ 34 ∧ x ≠ 92) ∧ (y ≠ 34 ∧ y ≠ 92) ∧ (z ≠ 34 ∧ z ≠ 92) ∧ w ≠ 34 ∧ w ≠ 92 := by
  obtain ⟨x', hx, h⟩ := Option.bind_eq_some_iff.mp h
  obtain ⟨y', hy, h⟩ := Option.bind_eq_some_iff.mp h
  obtain ⟨z', hz, h⟩ := Option.bind_eq_some_iff.mp h
  obtain ⟨w', hw, -⟩ := Option.bind_eq_some_iff.mp h
  exact ⟨hexValue_plain hx, hexValue_plain hy, hexValue_plain hz, hexValue_plain hw⟩

/-- A string that is read is one for the automaton too. -/
theorem foldl_of_scanUnits {us : List (Nat × Bool)} (h : scanUnits s = some (us, rest)) :
    s.foldl Quote.next .inside = rest.foldl Quote.next .closed := by
  refine @scanUnits_induct s rest
    (fun s _ => s.foldl Quote.next .inside = rest.foldl Quote.next .closed) rfl ?_ ?_ ?_ us h
  · intro x y z w s u us hu ih
    obtain ⟨hx, hy, hz, hw⟩ := hex4_plain hu
    show s.foldl Quote.next ((((Quote.inside.next x).next y).next z).next w) = _
    rw [inside_next hx.1 hx.2, inside_next hy.1 hy.2, inside_next hz.1 hz.2, inside_next hw.1 hw.2]
    exact ih
  · intro letter s u us _ ih
    exact ih
  · intro c s us hquote hbackslash ih
    show s.foldl Quote.next (Quote.inside.next c) = _
    rw [inside_next hquote hbackslash]
    exact ih

theorem keeps_open : Keeps Open fun _ => True where
  char h hquote _ := by
    unfold Open at h ⊢
    rw [List.foldl_cons, outside_next hquote] at h
    exact h
  string {s text rest} h hread := by
    obtain ⟨us, hunits, -⟩ := scanString_eq hread
    have hfold : (34 :: s).foldl Quote.next .outside = rest.foldl Quote.next .closed :=
      foldl_of_scanUnits hunits
    unfold Open at h
    rw [hfold] at h
    cases rest with
    | nil =>
      rcases h with h | h
      · cases h
      · cases h
    | cons c rest => exact ⟨h, trivial⟩

/-- **What ends inside a string is not read.** -/
theorem loads_of_open (h : Open s) : loads floats s = none := by
  unfold loads
  split
  next => rfl
  next =>
    cases hread : scanOnce floats (2 * s.length + 1) (skip s) with
    | none => rfl
    | some read =>
      have hrest := ((keeps_open.scan floats _).1 _ read.1 read.2 (keeps_open.skip h) hread).1
      refine if_neg fun hnil => ?_
      have hend := keeps_open.skip hrest
      rw [hnil] at hend
      rcases hend with hend | hend
      · cases hend
      · cases hend

/-- A text that begins like what stands between strings. -/
def BeginsSeparated (text : PyStr) : Prop := ∃ c t, text = c :: t ∧ isSeparator c = true

theorem inside_of_scanUnits {us : List (Nat × Bool)} (h : scanUnits s = some (us, rest))
    (hs : Quote.outside.Reads s) : Quote.inside.Reads rest := by
  refine @scanUnits_induct s rest (fun s _ => Quote.outside.Reads s → Quote.inside.Reads rest)
    (fun hs => hs.2) ?_ ?_ ?_ us h hs
  · intro x y z w s u us _ _ hs
    exact absurd rfl hs.1.2.1
  · intro letter s u us _ _ hs
    exact absurd rfl hs.1.2.1
  · intro c s us hquote _ ih hs
    have hrest := hs.2
    rw [outside_next hquote] at hrest
    exact ih hrest

/-- A string that the scanner reads from within one is what stands between two. -/
theorem separated_of_scanString {text : PyStr} (h : scanString s = some (text, rest))
    (hs : Quote.closed.Reads s) : Quote.inside.Reads rest ∧ BeginsSeparated text := by
  obtain ⟨us, hunits, rfl⟩ := scanString_eq h
  cases s with
  | nil => cases hunits
  | cons c s =>
    obtain ⟨hc, hs⟩ := hs
    have hquote : c ≠ 34 := ne_of_point hc rfl
    have hbackslash : c ≠ 92 := ne_of_point hc rfl
    rw [show Quote.closed.next c = .outside from if_neg hquote] at hs
    rw [scanUnits.eq_def] at hunits
    simp only at hunits
    rw [if_neg hquote, if_neg hbackslash, if_neg (Nat.not_lt.mpr (separator_range hc).1)] at hunits
    obtain ⟨us', hread, rfl⟩ := push_eq hunits
    refine ⟨inside_of_scanUnits hread hs, ?_⟩
    cases us' with
    | nil => exact ⟨c, _, rfl, hc⟩
    | cons u us' =>
      rw [joinPairs, if_neg fun hpair => Bool.false_ne_true hpair.1]
      exact ⟨c, _, rfl, hc⟩

theorem keeps_inside : Keeps Quote.inside.Reads BeginsSeparated where
  char h hquote hbackslash := by
    have hrest := h.2
    rw [inside_next hquote hbackslash] at hrest
    exact hrest
  string h hread := separated_of_scanString hread h.2

/-- **What begins inside a string** has no key but what stands between two. -/
theorem loads_of_inside {x : Value} (hs : Quote.inside.Reads s) (h : loads floats s = some x) :
    ∀ fields, x = .obj fields → ∀ kv ∈ fields, BeginsSeparated kv.1 := by
  unfold loads at h
  split at h
  next => cases h
  next =>
    split at h
    next => cases h
    next x' rest hread =>
      split at h
      next =>
        cases h
        exact ((keeps_inside.scan floats _).1 _ _ rest (keeps_inside.skip hs) hread).2
      next => cases h

/-! ## White space at the ends -/

theorem strip_split (s : PyStr) : ∃ a b, s = a ++ (PyStr.strip s ++ b)
    ∧ (∀ c ∈ a, isSpacePoint c = true) ∧ ∀ c ∈ b, isSpacePoint c = true := by
  let t := s.dropWhile isSpacePoint
  have hsplit : t.reverse = t.reverse.takeWhile isSpacePoint ++ t.reverse.dropWhile isSpacePoint :=
    List.takeWhile_append_dropWhile.symm
  refine ⟨s.takeWhile isSpacePoint, (t.reverse.takeWhile isSpacePoint).reverse, ?_,
    fun c hc => List.mem_takeWhile_imp hc,
    fun c hc => List.mem_takeWhile_imp (List.mem_reverse.mp hc)⟩
  unfold PyStr.strip
  rw [← List.reverse_append, ← hsplit, List.reverse_reverse]
  exact List.takeWhile_append_dropWhile.symm

theorem space_plain (h : isSpacePoint c = true) : c ≠ 34 ∧ c ≠ 92 :=
  ⟨ne_of_point h rfl, ne_of_point h rfl⟩

theorem Open.of_append (h : Open (s ++ t)) (ht : ∀ c ∈ t, c ≠ 34) : Open s := by
  induction t generalizing s with
  | nil =>
    rw [List.append_nil] at h
    exact h
  | cons c t ih =>
    obtain ⟨hc, ht⟩ := List.forall_mem_cons.mp ht
    rw [List.append_cons] at h
    have hstep := ih h ht
    unfold Open at hstep ⊢
    rw [List.foldl_append] at hstep
    cases hq : s.foldl Quote.next .outside with
    | inside => exact .inl rfl
    | escaped => exact .inr rfl
    | outside =>
      rw [hq, show [c].foldl Quote.next .outside = .outside from if_neg hc] at hstep
      exact hstep
    | closed =>
      rw [hq, show [c].foldl Quote.next .closed = .outside from if_neg hc] at hstep
      rcases hstep with hstep | hstep
      · cases hstep
      · cases hstep

theorem Open.strip (h : Open s) : Open (PyStr.strip s) := by
  obtain ⟨a, b, hs, ha, hb⟩ := strip_split s
  rw [hs] at h
  exact (keeps_open.append (fun c hc => space_plain (ha c hc)) h).of_append
    fun c hc => (space_plain (hb c hc)).1

theorem reads_strip (h : Quote.inside.Reads s) : Quote.inside.Reads (PyStr.strip s) := by
  obtain ⟨a, b, hs, ha, -⟩ := strip_split s
  rw [hs] at h
  exact (reads_append.mp (keeps_inside.append (fun c hc => space_plain (ha c hc)) h)).1

end Parts

/-! ## Lines -/

section Lines

variable {cur s rest : PyStr}

theorem splitLinesFrom_break {c : Nat} (hc : isLineBreak c = true) (hne : c ≠ 13)
    (cur s : PyStr) : splitLinesFrom cur (c :: s) = cur :: splitLinesFrom [] s := by
  rw [splitLinesFrom, if_pos hc]
  rintro s' rfl rfl
  exact hne rfl

/-- A line and its end, before others. -/
theorem splitLinesFrom_append (hs : ∀ c ∈ s, 32 ≤ c) (cur rest : PyStr) :
    splitLinesFrom cur (s ++ 10 :: rest)
      = splitLinesFrom cur (s ++ [10]) ++ splitLinesFrom [] rest := by
  induction s generalizing cur with
  | nil => rfl
  | cons c s ih =>
    obtain ⟨hrange, hs⟩ := List.forall_mem_cons.mp hs
    cases hc : isLineBreak c with
    | true =>
      rw [List.cons_append, List.cons_append, splitLinesFrom_break hc (by omega),
        splitLinesFrom_break hc (by omega), ih hs]
      rfl
    | false =>
      rw [List.cons_append, List.cons_append, splitLinesFrom_cons hc, splitLinesFrom_cons hc, ih hs]

theorem splitLinesFrom_inside (h : Quote.inside.Reads (cur ++ s)) :
    ∀ part ∈ splitLinesFrom cur (s ++ [10]), Quote.inside.Reads part := by
  induction s generalizing cur with
  | nil =>
    rw [List.append_nil] at h
    exact fun part hpart => List.mem_singleton.mp hpart ▸ h
  | cons c s ih =>
    cases hc : isLineBreak c with
    | true =>
      have hrange : 32 ≤ c := h.printable c (by simp)
      obtain ⟨hcur, -, hs⟩ := h.break_inside hc
      rw [List.cons_append, splitLinesFrom_break hc (by omega)]
      exact List.forall_mem_cons.mpr ⟨hcur, ih hs⟩
    | false =>
      rw [List.append_cons] at h
      rw [List.cons_append, splitLinesFrom_cons hc]
      exact ih h

/-- **A line with a line break in it**: a part that ends inside a string, and parts that begin
inside one. -/
theorem splitLinesFrom_broken (h : Quote.outside.Reads (cur ++ s))
    (hbreak : ∃ c ∈ s, isLineBreak c = true) :
    ∀ part ∈ splitLinesFrom cur (s ++ [10]), Open part ∨ Quote.inside.Reads part := by
  induction s generalizing cur with
  | nil =>
    obtain ⟨c, hc, -⟩ := hbreak
    exact absurd hc List.not_mem_nil
  | cons c s ih =>
    cases hc : isLineBreak c with
    | true =>
      have hrange : 32 ≤ c := h.printable c (by simp)
      obtain ⟨-, hopen, hs⟩ := h.break_inside hc
      rw [List.cons_append, splitLinesFrom_break hc (by omega)]
      exact List.forall_mem_cons.mpr ⟨.inl (.inl hopen),
        fun part hpart => .inr (@splitLinesFrom_inside [] s hs part hpart)⟩
    | false =>
      rw [List.append_cons] at h
      rw [List.cons_append, splitLinesFrom_cons hc]
      refine ih h ?_
      obtain ⟨d, hd, hbreak⟩ := hbreak
      rcases List.mem_cons.mp hd with rfl | hd
      · cases hc.symm.trans hbreak
      · exact ⟨d, hd, hbreak⟩

end Lines

end EdgeSensor.Py.JsonCodec
