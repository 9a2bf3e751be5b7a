import EdgeSensor.Lib.Calendar
import EdgeSensor.Py.Number
import EdgeSensor.Py.Regex

/-!
# Times and their texts

`datetime` in UTC, its `isoformat`, and `strptime` with the format `%Y/%m/%d-%H:%M:%S.%f`, which is
a regular expression of a group for each directive and a calendar that takes the values or raises.

A text whose fields have their full width is read back as what it was made of
(`strptime_slashed`): each group is followed by a character that none of its classes has, so there
is one way only to read it.

Mirroring notes:
- `\d` is a decimal digit of any script, as `int` reads it: `UnicodeTables`.
- A leap second matches and is refused after that, like a day that the month does not have.
-/

namespace EdgeSensor.Py

open EdgeSensor.Lib Regex

/-- `datetime`, in UTC. -/
structure DateTime extends CalendarDate where
  hour : Nat
  minute : Nat
  second : Nat
  microsecond : Nat
  year_le : year ≤ 9999
  hour_lt : hour < 24
  minute_lt : minute < 60
  second_lt : second < 60
  microsecond_lt : microsecond < 1000000
  deriving DecidableEq

/-- The microseconds of a day. -/
def dayMicros : Nat := 24 * 60 * 60 * 1000000

/-- The time as a number of microseconds. -/
def DateTime.micros (t : DateTime) : Nat :=
  (((t.ordinal * 24 + t.hour) * 60 + t.minute) * 60 + t.second) * 1000000 + t.microsecond

/-! ## Writing -/

/-- The last digits of a number, so many. -/
def digits : Nat → Nat → PyStr
  | 0, _ => []
  | width + 1, n => digits width (n / 10) ++ [48 + n % 10]

/-- `MM/DD-HH:MM:SS.ffffff` -/
def DateTime.slashed (t : DateTime) : PyStr :=
  digits 2 t.month ++ 47 :: (digits 2 t.day ++ 45 :: (digits 2 t.hour ++ 58 :: (digits 2 t.minute
    ++ 58 :: (digits 2 t.second ++ 46 :: digits 6 t.microsecond))))

/-- `t.replace(microsecond=0).isoformat()` -/
def DateTime.isoformat (t : DateTime) : PyStr :=
  digits 4 t.year ++ lit "-" ++ digits 2 t.month ++ lit "-" ++ digits 2 t.day ++ lit "T"
    ++ digits 2 t.hour ++ lit ":" ++ digits 2 t.minute ++ lit ":" ++ digits 2 t.second
    ++ lit "+00:00"

/-! ## Reading -/

section Reading

variable (tables : UnicodeTables)

/-- The value of a decimal digit. -/
def decimalPoint (c : Nat) : Option Nat :=
  if c < 128 then if 48 ≤ c ∧ c ≤ 57 then some (c - 48) else none
  else if isSurrogate c then none
  else tables.decimal (Char.ofNat c)

/-- `\d` -/
def isDecimalPoint (c : Nat) : Bool := (decimalPoint tables c).isSome

/-- `[a-b]`, of two characters -/
def between (a b c : Nat) : Bool := a ≤ c && c ≤ b

/-- `int(s)`, of decimal digits. -/
def decimalOf (s : PyStr) : Nat :=
  s.foldl (fun n c => n * 10 + (decimalPoint tables c).getD 0) 0

/-- A group of alternatives, and the character behind it. -/
def fieldThen (n : Nat) (alternatives : List (List (Nat → Bool))) (sep : Nat) : Regex :=
  .seq (.group n (anyOf (alternatives.map classes))) (.char fun c => c == sep)

/-- `1[0-2]|0[1-9]|[1-9]` -/
def monthClasses : List (List (Nat → Bool)) :=
  [[between 49 49, between 48 50], [between 48 48, between 49 57], [between 49 57]]

/-- `3[0-1]|[1-2]\d|0[1-9]|[1-9]| [1-9]` -/
def dayClasses : List (List (Nat → Bool)) :=
  [[between 51 51, between 48 49], [between 49 50, isDecimalPoint tables],
    [between 48 48, between 49 57], [between 49 57], [between 32 32, between 49 57]]

/-- `2[0-3]|[0-1]\d|\d` -/
def hourClasses : List (List (Nat → Bool)) :=
  [[between 50 50, between 48 51], [between 48 49, isDecimalPoint tables], [isDecimalPoint tables]]

/-- `[0-5]\d|\d` -/
def minuteClasses : List (List (Nat → Bool)) :=
  [[between 48 53, isDecimalPoint tables], [isDecimalPoint tables]]

/-- `6[0-1]|[0-5]\d|\d` -/
def secondClasses : List (List (Nat → Bool)) :=
  [[between 54 54, between 48 49], [between 48 53, isDecimalPoint tables], [isDecimalPoint tables]]

/-- `[0-9]{1,6}` -/
def fractionClasses : List (List (Nat → Bool)) :=
  [6, 5, 4, 3, 2, 1].map fun n => List.replicate n (between 48 57)

/-- `%Y/%m/%d-%H:%M:%S.%f` -/
def slashedPattern : Regex :=
  .seq (fieldThen 1 [List.replicate 4 (isDecimalPoint tables)] 47)
    (.seq (fieldThen 2 monthClasses 47)
      (.seq (fieldThen 3 (dayClasses tables) 45)
        (.seq (fieldThen 4 (hourClasses tables) 58)
          (.seq (fieldThen 5 (minuteClasses tables) 58)
            (.seq (fieldThen 6 (secondClasses tables) 46)
              (.group 7 (anyOf (fractionClasses.map classes))))))))

/-- `datetime(...)`; `none` is a `ValueError`. -/
def DateTime.make (year month day hour minute second microsecond : Nat) : Option DateTime :=
  if h : 1 ≤ year ∧ year ≤ 9999 ∧ 1 ≤ month ∧ month ≤ 12 ∧ 1 ≤ day ∧ day ≤ daysInMonth year month
      ∧ hour < 24 ∧ minute < 60 ∧ second < 60 ∧ microsecond < 1000000 then
    some { year, month, day, hour, minute, second, microsecond
           year_pos := h.1
           year_le := h.2.1
           month_pos := h.2.2.1
           month_le := h.2.2.2.1
           day_pos := h.2.2.2.2.1
           day_le := h.2.2.2.2.2.1
           hour_lt := h.2.2.2.2.2.2.1
           minute_lt := h.2.2.2.2.2.2.2.1
           second_lt := h.2.2.2.2.2.2.2.2.1
           microsecond_lt := h.2.2.2.2.2.2.2.2.2 }
  else none

/-- `datetime.strptime(s, "%Y/%m/%d-%H:%M:%S.%f")`; `none` is a `ValueError`. -/
def strptimeSlashed (s : PyStr) : Option DateTime :=
  match (slashedPattern tables).matchAt ⟨true, s, []⟩ with
  | none => none
  | some done =>
    if done.rest = [] then
      let value := fun n => decimalOf tables ((group? done n).getD [])
      let fraction := (group? done 7).getD []
      DateTime.make (value 1) (value 2) (value 3) (value 4) (value 5) (value 6)
        (decimalOf tables (fraction ++ List.replicate (6 - fraction.length) 48))
    else none

end Reading

/-! ## Digits -/

theorem length_digits (width n : Nat) : (digits width n).length = width := by
  induction width generalizing n with
  | zero => rfl
  | succ width ih => rw [digits, List.length_append, ih, List.length_singleton]

/-- A digit is a character from `0` to `9`. -/
theorem mem_digits {width n c : Nat} (h : c ∈ digits width n) : 48 ≤ c ∧ c ≤ 57 := by
  induction width generalizing n with
  | zero => exact absurd h List.not_mem_nil
  | succ width ih =>
    rcases List.mem_append.mp h with h | h
    · exact ih h
    · rw [List.mem_singleton.mp h]
      omega

variable {tables : UnicodeTables}

theorem decimalPoint_digit {c : Nat} (h : 48 ≤ c ∧ c ≤ 57) :
    decimalPoint tables c = some (c - 48) := by
  rw [decimalPoint, if_pos (by omega), if_pos h]

theorem isDecimalPoint_digit {c : Nat} (h : 48 ≤ c ∧ c ≤ 57) : isDecimalPoint tables c = true := by
  rw [isDecimalPoint, decimalPoint_digit h]
  rfl

/-- No other ASCII character is a digit. -/
theorem isDecimalPoint_ascii {c : Nat} (hascii : c < 128) (h : ¬ (48 ≤ c ∧ c ≤ 57)) :
    isDecimalPoint tables c = false := by
  rw [isDecimalPoint, decimalPoint, if_pos hascii, if_neg h]
  rfl

theorem decimalOf_concat (s : PyStr) (c : Nat) :
    decimalOf tables (s ++ [c]) = decimalOf tables s * 10 + (decimalPoint tables c).getD 0 :=
  List.foldl_concat ..

/-- A number is read back from enough digits. -/
theorem decimalOf_digits {width n : Nat} (h : n < 10 ^ width) :
    decimalOf tables (digits width n) = n := by
  induction width generalizing n with
  | zero => exact (Nat.lt_one_iff.mp h).symm
  | succ width ih =>
    have hquot : n / 10 < 10 ^ width := by
      rw [Nat.div_lt_iff_lt_mul (by decide), ← Nat.pow_succ]
      exact h
    rw [digits, decimalOf_concat, ih hquot, decimalPoint_digit (by omega), Option.getD_some]
    omega

theorem digitChar_toNat {n : Nat} (h : n < 10) : (Nat.digitChar n).toNat = 48 + n := by
  interval_cases n <;> rfl

/-- A number of so many digits, as `str` writes it. -/
theorem lit_toString {width n : Nat} (hlt : n < 10 ^ (width + 1)) (hle : 10 ^ width ≤ n) :
    lit (toString n) = digits (width + 1) n := by
  rw [lit_toString_eq]
  induction width generalizing n with
  | zero =>
    have hlt : n < 10 := hlt
    rw [Nat.toDigits_of_lt_base hlt, List.map_singleton, digitChar_toNat hlt, digits, digits,
      List.nil_append, Nat.mod_eq_of_lt hlt]
  | succ width ih =>
    have hten : 10 ≤ n := Nat.le_trans (Nat.le_self_pow (by omega) 10) hle
    have hquot : n / 10 < 10 ^ (width + 1) := by
      rw [Nat.div_lt_iff_lt_mul (by decide), ← Nat.pow_succ]
      exact hlt
    have hquot' : 10 ^ width ≤ n / 10 := by
      rw [Nat.le_div_iff_mul_le (by decide), ← Nat.pow_succ]
      exact hle
    rw [Nat.toDigits_of_base_le (by decide) hten, List.map_append, ih hquot hquot',
      List.map_singleton, digitChar_toNat (Nat.mod_lt n (by decide))]
    rfl

/-! ## One field -/

section Field

variable {n sep : Nat} {alternatives : List (List (Nat → Bool))} {r : Regex} {w t s : PyStr}
  {start : Bool} {groups : List (Nat × PyStr)} {done : Cursor}

/-- A field reads what one of its alternatives has, and the character behind it. -/
theorem mem_run_fieldThen : done ∈ run (fieldThen n alternatives sep) ⟨start, s, groups⟩
    ↔ ∃ w t, s = w ++ sep :: t ∧ (∃ ps ∈ alternatives, List.Forall₂ (fun p c => p c = true) ps w)
      ∧ done = ⟨sep == 10, t, Dict.set groups n w⟩ := by
  rw [fieldThen, mem_run_seq]
  constructor
  · rintro ⟨mid, hmid, hdone⟩
    obtain ⟨inner, hinner, w, hw, rfl⟩ := mem_run_group.mp hmid
    obtain ⟨r, hr, hrun⟩ := mem_run_anyOf.mp hinner
    obtain ⟨ps, hps, rfl⟩ := List.mem_map.mp hr
    obtain ⟨w', t, hs, hread, rfl⟩ := mem_run_classes.mp hrun
    obtain rfl : w = w' := List.append_cancel_right (hw.symm.trans hs)
    obtain ⟨c, t', ht, hc, rfl⟩ := mem_run_char.mp hdone
    obtain rfl : c = sep := beq_iff_eq.mp hc
    dsimp only at ht hw
    rw [ht] at hw
    exact ⟨w, t', hw, ⟨ps, hps, hread⟩, rfl⟩
  · rintro ⟨w, t, rfl, ⟨ps, hps, hread⟩, rfl⟩
    refine ⟨_, mem_run_group.mpr ⟨_, mem_run_anyOf.mpr ⟨classes ps, List.mem_map_of_mem hps,
      mem_run_classes.mpr ⟨w, sep :: t, rfl, hread, rfl⟩⟩, w, rfl, rfl⟩, ?_⟩
    exact mem_run_char.mpr ⟨sep, t, rfl, beq_self_eq_true sep, rfl⟩

/-- What an alternative has read does not have the character behind it. -/
theorem not_mem_of_read (hsep : ∀ ps ∈ alternatives, ∀ p ∈ ps, p sep = false)
    (hread : ∃ ps ∈ alternatives, List.Forall₂ (fun p c => p c = true) ps w) : sep ∉ w := by
  obtain ⟨ps, hps, hread⟩ := hread
  intro hmem
  obtain ⟨p, hp, htrue⟩ := exists_class hread hmem
  rw [hsep ps hps p hp] at htrue
  cases htrue

/-- A field is read up to the character behind it. -/
theorem matchAt_fieldThen (hsep : ∀ ps ∈ alternatives, ∀ p ∈ ps, p sep = false)
    (hread : ∃ ps ∈ alternatives, List.Forall₂ (fun p c => p c = true) ps w) :
    matchAt (.seq (fieldThen n alternatives sep) r) ⟨start, w ++ sep :: t, groups⟩
      = r.matchAt ⟨sep == 10, t, Dict.set groups n w⟩ := by
  refine matchAt_seq_of_unique (mem_run_fieldThen.mpr ⟨w, t, rfl, hread, rfl⟩) fun d hd => ?_
  obtain ⟨w', t', heq, hread', rfl⟩ := mem_run_fieldThen.mp hd
  obtain ⟨rfl, rfl⟩ := append_separator_inj (not_mem_of_read hsep hread)
    (not_mem_of_read hsep hread') heq
  rfl

theorem matchAt_fieldThen_eq_none (hsep : ∀ ps ∈ alternatives, ∀ p ∈ ps, p sep = false)
    (hw : sep ∉ w) (hread : ¬ ∃ ps ∈ alternatives, List.Forall₂ (fun p c => p c = true) ps w) :
    matchAt (.seq (fieldThen n alternatives sep) r) ⟨start, w ++ sep :: t, groups⟩ = none := by
  refine matchAt_seq_eq_none fun d hd => hread ?_
  obtain ⟨w', t', heq, hread', -⟩ := mem_run_fieldThen.mp hd
  obtain ⟨rfl, -⟩ := append_separator_inj hw (not_mem_of_read hsep hread') heq
  exact hread'

end Field

/-! ## The fields of a time -/

theorem between_iff {a b c : Nat} : between a b c = true ↔ a ≤ c ∧ c ≤ b := by
  rw [between, Bool.and_eq_true, decide_eq_true_iff, decide_eq_true_iff]

theorem digits_two {n : Nat} (h : n < 100) : digits 2 n = [48 + n / 10, 48 + n % 10] := by
  rw [digits, digits, digits, List.nil_append, Nat.mod_eq_of_lt (by omega : n / 10 < 10)]
  rfl

/-- Two digits are read by the classes that have them. -/
theorem reads_two {p q : Nat → Bool} {n : Nat} (hn : n < 100) (hp : p (48 + n / 10) = true)
    (hq : q (48 + n % 10) = true) : List.Forall₂ (fun p c => p c = true) [p, q] (digits 2 n) := by
  rw [digits_two hn]
  exact .cons hp (.cons hq .nil)

theorem isDecimalPoint_rem (n : Nat) : isDecimalPoint tables (48 + n % 10) = true :=
  isDecimalPoint_digit (by omega)

/-- So many digits are read by so many classes that have them. -/
theorem reads_digits {p : Nat → Bool} (hp : ∀ c, 48 ≤ c ∧ c ≤ 57 → p c = true) (width n : Nat) :
    List.Forall₂ (fun p c => p c = true) (List.replicate width p) (digits width n) := by
  have hall : ∀ s : PyStr, (∀ c ∈ s, 48 ≤ c ∧ c ≤ 57) →
      List.Forall₂ (fun p c => p c = true) (List.replicate s.length p) s := by
    intro s
    induction s with
    | nil => exact fun _ => .nil
    | cons c s ih =>
      intro hs
      rw [List.forall_mem_cons] at hs
      exact .cons (hp c hs.1) (ih hs.2)
  have hdigits := hall (digits width n) fun c => mem_digits
  rw [length_digits] at hdigits
  exact hdigits

theorem year_read (n : Nat) : ∃ ps ∈ [List.replicate 4 (isDecimalPoint tables)],
    List.Forall₂ (fun p c => p c = true) ps (digits 4 n) :=
  ⟨_, .head _, reads_digits (fun _ => isDecimalPoint_digit) 4 n⟩

theorem month_read {n : Nat} (hpos : 1 ≤ n) (hle : n ≤ 12) :
    ∃ ps ∈ monthClasses, List.Forall₂ (fun p c => p c = true) ps (digits 2 n) := by
  by_cases h : 10 ≤ n
  · exact ⟨[between 49 49, between 48 50], .head _,
      reads_two (by omega) (between_iff.mpr (by omega)) (between_iff.mpr (by omega))⟩
  · exact ⟨[between 48 48, between 49 57], .tail _ (.head _),
      reads_two (by omega) (between_iff.mpr (by omega)) (between_iff.mpr (by omega))⟩

theorem day_read {n : Nat} (hpos : 1 ≤ n) (hle : n ≤ 31) :
    ∃ ps ∈ dayClasses tables, List.Forall₂ (fun p c => p c = true) ps (digits 2 n) := by
  by_cases hlate : 30 ≤ n
  · exact ⟨[between 51 51, between 48 49], .head _,
      reads_two (by omega) (between_iff.mpr (by omega)) (between_iff.mpr (by omega))⟩
  · by_cases h : 10 ≤ n
    · exact ⟨[between 49 50, isDecimalPoint tables], .tail _ (.head _),
        reads_two (by omega) (between_iff.mpr (by omega)) (isDecimalPoint_rem n)⟩
    · exact ⟨[between 48 48, between 49 57], .tail _ (.tail _ (.head _)),
        reads_two (by omega) (between_iff.mpr (by omega)) (between_iff.mpr (by omega))⟩

theorem hour_read {n : Nat} (hlt : n < 24) :
    ∃ ps ∈ hourClasses tables, List.Forall₂ (fun p c => p c = true) ps (digits 2 n) := by
  by_cases h : 20 ≤ n
  · exact ⟨[between 50 50, between 48 51], .head _,
      reads_two (by omega) (between_iff.mpr (by omega)) (between_iff.mpr (by omega))⟩
  · exact ⟨[between 48 49, isDecimalPoint tables], .tail _ (.head _),
      reads_two (by omega) (between_iff.mpr (by omega)) (isDecimalPoint_rem n)⟩

theorem minute_read {n : Nat} (hlt : n < 60) :
    ∃ ps ∈ minuteClasses tables, List.Forall₂ (fun p c => p c = true) ps (digits 2 n) :=
  ⟨[between 48 53, isDecimalPoint tables], .head _,
    reads_two (by omega) (between_iff.mpr (by omega)) (isDecimalPoint_rem n)⟩

theorem second_read {n : Nat} (hlt : n < 60) :
    ∃ ps ∈ secondClasses tables, List.Forall₂ (fun p c => p c = true) ps (digits 2 n) :=
  ⟨[between 48 53, isDecimalPoint tables], .tail _ (.head _),
    reads_two (by omega) (between_iff.mpr (by omega)) (isDecimalPoint_rem n)⟩

/-- The longest fraction is tried first. -/
theorem matchAt_fraction (start : Bool) (n : Nat) (groups : List (Nat × PyStr)) :
    matchAt (.group 7 (anyOf (fractionClasses.map classes))) ⟨start, digits 6 n, groups⟩
      = some ⟨startAfter start (digits 6 n), [], Dict.set groups 7 (digits 6 n)⟩ := by
  have hsix : Cursor.through (List.replicate 6 (between 48 57)) ⟨start, digits 6 n, groups⟩
      = some ⟨startAfter start (digits 6 n), [], groups⟩ :=
    through_eq_some_iff.mpr ⟨digits 6 n, [], (List.append_nil _).symm,
      reads_digits (fun _ => between_iff.mpr) 6 n, rfl⟩
  have hupTo : Cursor.upTo ⟨start, digits 6 n, groups⟩
      ⟨startAfter start (digits 6 n), [], groups⟩ = digits 6 n :=
    List.take_length
  rw [matchAt_group]
  show (matchAt (.alt (classes (List.replicate 6 _)) _) _).map _ = _
  rw [matchAt_alt, matchAt_classes, hsix, Option.some_or, Option.map_some, hupTo]

/-- A year of four digits in front of the text of a time: the pattern reads the seven fields. -/
theorem matchAt_slashed (year : Nat) (t : DateTime) :
    (slashedPattern tables).matchAt ⟨true, digits 4 year ++ 47 :: t.slashed, []⟩
      = some ⟨startAfter false (digits 6 t.microsecond), [], [(1, digits 4 year),
          (2, digits 2 t.month), (3, digits 2 t.day), (4, digits 2 t.hour), (5, digits 2 t.minute),
          (6, digits 2 t.second), (7, digits 6 t.microsecond)]⟩ := by
  have hdec : ∀ c, c < 48 ∨ c = 58 → isDecimalPoint tables c = false := fun c hc =>
    isDecimalPoint_ascii (by omega) (by omega)
  unfold slashedPattern DateTime.slashed
  rw [matchAt_fieldThen (by simp [hdec]) (year_read year),
    matchAt_fieldThen (by simp [monthClasses, between]) (month_read t.month_pos t.month_le),
    matchAt_fieldThen (by simp [dayClasses, between, hdec]) (day_read t.day_pos t.toCalendarDate.day_le_31),
    matchAt_fieldThen (by simp [hourClasses, between, hdec]) (hour_read t.hour_lt),
    matchAt_fieldThen (by simp [minuteClasses, between, hdec]) (minute_read t.minute_lt),
    matchAt_fieldThen (by simp [secondClasses, between, hdec]) (second_read t.second_lt),
    matchAt_fraction]
  rfl

/-- The text of a time behind a year of four digits is read back, with that year. -/
theorem strptimeSlashed_eq {year : Nat} (t : DateTime) (hyear : year < 10000) :
    strptimeSlashed tables (digits 4 year ++ 47 :: t.slashed)
      = DateTime.make year t.month t.day t.hour t.minute t.second t.microsecond := by
  have hmonth := t.month_le
  have hday := t.toCalendarDate.day_le_31
  have hhour := t.hour_lt
  have hminute := t.minute_lt
  have hsecond := t.second_lt
  unfold strptimeSlashed
  rw [matchAt_slashed]
  show DateTime.make (decimalOf tables (digits 4 year)) (decimalOf tables (digits 2 t.month))
    (decimalOf tables (digits 2 t.day)) (decimalOf tables (digits 2 t.hour))
    (decimalOf tables (digits 2 t.minute)) (decimalOf tables (digits 2 t.second))
    (decimalOf tables (digits 6 t.microsecond
      ++ List.replicate (6 - (digits 6 t.microsecond).length) 48)) = _
  rw [length_digits, Nat.sub_self, List.replicate_zero, List.append_nil, decimalOf_digits hyear,
    decimalOf_digits (by omega), decimalOf_digits (by omega), decimalOf_digits (by omega),
    decimalOf_digits (by omega), decimalOf_digits (by omega), decimalOf_digits t.microsecond_lt]

/-- A year of fewer digits is not read. -/
theorem strptimeSlashed_short_year {year : Nat} (h : year < 1000) (s : PyStr) :
    strptimeSlashed tables (lit (toString year) ++ 47 :: s) = none := by
  have hslash : 47 ∉ lit (toString year) := by
    rw [lit_toString_eq]
    intro hmem
    obtain ⟨c, hc, hcode⟩ := List.mem_map.mp hmem
    obtain rfl : c = '/' := Char.toNat_inj.mp hcode
    exact not_mem_toDigits year rfl hc
  have hlen : (lit (toString year)).length ≤ 3 := by
    rw [lit_toString_eq, List.length_map, Nat.length_toDigits_le_iff (by decide) (by decide)]
    exact h
  have hsep : ∀ ps ∈ [List.replicate 4 (isDecimalPoint tables)], ∀ p ∈ ps, p 47 = false := by
    have hdec : isDecimalPoint tables 47 = false := isDecimalPoint_ascii (by decide) (by decide)
    simp [hdec]
  unfold strptimeSlashed slashedPattern
  rw [matchAt_fieldThen_eq_none hsep hslash]
  rintro ⟨ps, hps, hread⟩
  rw [List.mem_singleton.mp hps] at hread
  have hfour := hread.length_eq
  rw [List.length_replicate] at hfour
  omega

/-- The time of another year that has the day. -/
def DateTime.inYear (t : DateTime) (year : Nat) (hpos : 1 ≤ year) (hle : year ≤ 9999)
    (hday : t.day ≤ daysInMonth year t.month) : DateTime :=
  { t with year := year, year_pos := hpos, year_le := hle, day_le := hday }

theorem DateTime.inYear_self {t : DateTime} {year : Nat} (hpos : 1 ≤ year) (hle : year ≤ 9999)
    (hday : t.day ≤ daysInMonth year t.month) (h : year = t.year) :
    t.inYear year hpos hle hday = t := by
  subst h
  rfl

theorem DateTime.make_eq {year : Nat} (t : DateTime) (hpos : 1 ≤ year) (hle : year ≤ 9999)
    (hday : t.day ≤ daysInMonth year t.month) :
    DateTime.make year t.month t.day t.hour t.minute t.second t.microsecond
      = some (t.inYear year hpos hle hday) :=
  dif_pos ⟨hpos, hle, t.month_pos, t.month_le, t.day_pos, hday, t.hour_lt, t.minute_lt, t.second_lt,
    t.microsecond_lt⟩

end EdgeSensor.Py
