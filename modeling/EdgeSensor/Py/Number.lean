import EdgeSensor.Py.Text

/-!
# `int(s)`

Decimal digits of any script, with single underscores between them, an optional sign,
and white space around. More than 4300 digits are refused. What counts as a digit beyond
ASCII is in Python's Unicode tables, a parameter here.
-/

namespace EdgeSensor.Py

/-- What the Unicode tables say of the characters beyond ASCII. -/
structure UnicodeTables where
  /-- The value of a decimal digit. -/
  decimal : Char → Option Nat
  /-- `c.isdigit()`. -/
  digit : Char → Bool

variable (tables : UnicodeTables)

/-- `c.isdigit()`. -/
def isDigit (c : Char) : Bool := if c.toNat < 128 then c.isDigit else tables.digit c

/-- The value of a decimal digit, as `int` reads one. -/
def decimalValue (c : Char) : Option Nat :=
  if c.toNat < 128 then (if c.isDigit then some (c.toNat - '0'.toNat) else none)
  else tables.decimal c

/-- Digits, with single underscores between them. -/
def readDigits : List Char → Option (List Nat)
  | [] => none
  | [c] => (decimalValue tables c).map fun d => [d]
  | c :: '_' :: rest => do
    let d ← decimalValue tables c
    let ds ← readDigits rest
    return d :: ds
  | c :: c' :: rest => do
    let d ← decimalValue tables c
    let ds ← readDigits (c' :: rest)
    return d :: ds

/-- `sys.get_int_max_str_digits()`. -/
def intMaxStrDigits : Nat := 4300

/-- The number after the sign. -/
def readMagnitude (cs : List Char) : Option Nat := do
  let ds ← readDigits tables cs
  if ds.length ≤ intMaxStrDigits then some (ds.foldl (fun acc d => acc * 10 + d) 0) else none

/-- The white space `int` skips; among ASCII characters it is less than `strip` takes. -/
def isIntSpace (c : Char) : Bool :=
  if c.toNat < 128 then c = ' ' || (9 ≤ c.toNat && c.toNat ≤ 13) else isSpace c

/-- `int(s)`, `none` for a `ValueError`. -/
def readInt (s : List Char) : Option Int :=
  match ((s.dropWhile isIntSpace).reverse.dropWhile isIntSpace).reverse with
  | '-' :: cs => (readMagnitude tables cs).map fun n => -(n : Int)
  | '+' :: cs => (readMagnitude tables cs).map fun n => (n : Int)
  | cs => (readMagnitude tables cs).map fun n => (n : Int)

/-! ## Decimal numerals -/

theorem toNat_of_digit {c : Char} (h : c.isDigit = true) : 48 ≤ c.toNat ∧ c.toNat ≤ 57 := by
  unfold Char.isDigit at h
  rw [Bool.and_eq_true, decide_eq_true_iff, decide_eq_true_iff] at h
  exact h

theorem not_isIntSpace_of_digit {c : Char} (h : c.isDigit = true) : ¬ isIntSpace c = true := by
  have hrange := toNat_of_digit h
  have hspace : c ≠ ' ' := fun heq => by
    rw [heq] at h
    cases h
  unfold isIntSpace
  rw [if_pos (by omega)]
  simp only [hspace, decide_false, Bool.false_or, Bool.and_eq_true, decide_eq_true_eq]
  omega

theorem decimalValue_digit {c : Char} (h : c.isDigit = true) :
    decimalValue tables c = some (c.toNat - '0'.toNat) := by
  have hrange := toNat_of_digit h
  unfold decimalValue
  rw [if_pos (by omega), if_pos h]

theorem readDigits_digits {cs : List Char} (hne : cs ≠ []) (h : ∀ c ∈ cs, c.isDigit = true) :
    readDigits tables cs = some (cs.map fun c => c.toNat - '0'.toNat) := by
  induction cs with
  | nil => exact absurd rfl hne
  | cons c cs ih =>
    have hc := decimalValue_digit tables (h c List.mem_cons_self)
    cases cs with
    | nil => rw [readDigits, hc]; rfl
    | cons c' cs =>
      have hc' : c' ≠ '_' := by
        intro heq
        have hdigit := h c' (List.mem_cons_of_mem c List.mem_cons_self)
        rw [heq] at hdigit
        cases hdigit
      rw [readDigits, hc, ih (List.cons_ne_nil _ _) fun d hd => h d (List.mem_cons_of_mem c hd)]
      · rfl
      · exact hc'

/-- **What `int` makes of a number as it is written.** -/
theorem readInt_toDigits {n : Nat} (h : (Nat.toDigits 10 n).length ≤ intMaxStrDigits) :
    readInt tables (Nat.toDigits 10 n) = some (n : Int) := by
  have hdigit : ∀ c ∈ Nat.toDigits 10 n, c.isDigit = true := fun c hc =>
    Nat.isDigit_of_mem_toDigits (by decide) (by decide) hc
  have hmagnitude : readMagnitude tables (Nat.toDigits 10 n) = some n := by
    unfold readMagnitude
    rw [readDigits_digits tables Nat.toDigits_ne_nil hdigit]
    show (if (List.map _ _).length ≤ intMaxStrDigits then _ else _) = _
    rw [List.length_map, if_pos h, List.foldl_map]
    refine congrArg some (Eq.trans ?_ Nat.ofDigitChars_ten_toDigits)
    rw [Nat.ofDigitChars_eq_foldl]
    simp only [Nat.mul_comm]
  have hbare : ∀ cs : List Char, (∀ c ∈ cs, c.isDigit = true) → cs.dropWhile isIntSpace = cs := by
    intro cs hcs
    cases cs with
    | nil => rfl
    | cons c cs =>
      exact List.dropWhile_cons_of_neg (not_isIntSpace_of_digit (hcs c List.mem_cons_self))
  unfold readInt
  rw [hbare _ hdigit, hbare _ fun c hc => hdigit c (List.mem_reverse.mp hc), List.reverse_reverse]
  split
  next cs heq =>
    have hsign := hdigit '-' (heq ▸ List.mem_cons_self)
    cases hsign
  next cs heq =>
    have hsign := hdigit '+' (heq ▸ List.mem_cons_self)
    cases hsign
  next => rw [hmagnitude]; rfl

end EdgeSensor.Py
