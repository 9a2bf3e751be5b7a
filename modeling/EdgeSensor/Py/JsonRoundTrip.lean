import EdgeSensor.Py.JsonCodec

/-!
# What has been written is what is read

`loads_dumps`, and what it takes: a numeral ends where something else begins
(`matchNumber_append`), an escaped character is read as what it was (`scanUnits_escape`), and then
value by value. The proof follows the text from the front, so each lemma is about a text with any
other behind it.
-/

namespace EdgeSensor.Py.JsonCodec

open EdgeSensor.Lib

/-! ## Numerals -/

section Numerals

variable {s r w rest : PyStr}

/-- The next character, if there is one, is not of a numeral. -/
def Stops (r : PyStr) : Prop := ∀ c ∈ r.head?, isNumeralPoint c = false

theorem Stops.digit (h : Stops r) : ∀ c ∈ r.head?, isDigitPoint c = false := by
  intro c hc
  have hpoint := h c hc
  unfold isNumeralPoint at hpoint
  simp only [Bool.or_eq_false_iff] at hpoint
  exact hpoint.1.1.1.1.1

theorem digits_append (h : Stops r) (s : PyStr) :
    (s ++ r).takeWhile isDigitPoint = s.takeWhile isDigitPoint
      ∧ (s ++ r).dropWhile isDigitPoint = s.dropWhile isDigitPoint ++ r := by
  induction s with
  | nil =>
    cases r with
    | nil => exact ⟨rfl, rfl⟩
    | cons c r =>
      have hc : isDigitPoint c = false := h.digit c rfl
      rw [List.nil_append, List.takeWhile_cons, List.dropWhile_cons, hc]
      exact ⟨rfl, rfl⟩
  | cons c s ih =>
    rw [List.cons_append, List.takeWhile_cons, List.dropWhile_cons, List.takeWhile_cons,
      List.dropWhile_cons]
    cases isDigitPoint c with
    | true => exact ⟨congrArg (List.cons c) ih.1, ih.2⟩
    | false => exact ⟨rfl, rfl⟩

theorem matchDigits_append (h : Stops r) (before s : PyStr) :
    matchDigits before (s ++ r)
      = (matchDigits before s).map fun read => (read.1, read.2 ++ r) := by
  unfold matchDigits
  rw [(digits_append h s).1, (digits_append h s).2]
  split
  next => rfl
  next => rfl

theorem getD_matchDigits_append (h : Stops r) (before s t : PyStr) :
    (matchDigits before (s ++ r)).getD ([], t ++ r)
      = (((matchDigits before s).getD ([], t)).1,
        ((matchDigits before s).getD ([], t)).2 ++ r) := by
  rw [matchDigits_append h]
  cases matchDigits before s with
  | none => rfl
  | some read => rfl

theorem matchSign_append (h : Stops r) {signs : List Nat}
    (hsigns : ∀ c ∈ signs, isNumeralPoint c = true) (s : PyStr) :
    matchSign signs (s ++ r) = ((matchSign signs s).1, (matchSign signs s).2 ++ r) := by
  cases s with
  | nil =>
    cases r with
    | nil => rfl
    | cons c r =>
      refine if_neg fun hc => ?_
      cases (h c rfl).symm.trans (hsigns c hc)
  | cons c s =>
    rw [List.cons_append, matchSign, matchSign]
    split
    next => rfl
    next => rfl

theorem matchInteger_append (h : Stops r) (hs : s ≠ []) :
    matchInteger (s ++ r) = (matchInteger s).map fun read => (read.1, read.2 ++ r) := by
  cases s with
  | nil => exact absurd rfl hs
  | cons c s =>
    rw [List.cons_append, matchInteger, matchInteger, (digits_append h s).1, (digits_append h s).2]
    split
    next => rfl
    next =>
      split
      next => rfl
      next => rfl

theorem matchFraction_append (h : Stops r) (s : PyStr) :
    matchFraction (s ++ r) = ((matchFraction s).1, (matchFraction s).2 ++ r) := by
  cases s with
  | nil =>
    cases r with
    | nil => rfl
    | cons c r =>
      refine if_neg ?_
      rintro rfl
      cases h 46 rfl
  | cons c s =>
    rw [List.cons_append, matchFraction, matchFraction]
    split
    next => exact getD_matchDigits_append h [c] s (c :: s)
    next => rfl

theorem matchExponent_append (h : Stops r) (s : PyStr) :
    matchExponent (s ++ r) = ((matchExponent s).1, (matchExponent s).2 ++ r) := by
  cases s with
  | nil =>
    cases r with
    | nil => rfl
    | cons c r =>
      refine if_neg ?_
      rintro (rfl | rfl)
      · cases h 69 rfl
      · cases h 101 rfl
  | cons c s =>
    rw [List.cons_append, matchExponent, matchExponent, matchSign_append h (by decide)]
    split
    next => exact getD_matchDigits_append h _ _ (c :: s)
    next => rfl

theorem matchNumber_append {isFloat : Bool} (h : matchNumber s = some (w, isFloat, rest))
    (hr : Stops r) : matchNumber (s ++ r) = some (w, isFloat, rest ++ r) := by
  obtain ⟨whole, after, hwhole, hw, hfloat, hrest⟩ := matchNumber_eq.mp h
  have hafter : (matchSign [45] s).2 ≠ [] := by
    intro hnil
    rw [hnil] at hwhole
    cases hwhole
  refine matchNumber_eq.mpr ⟨whole, after ++ r, ?_, ?_, ?_, ?_⟩
  · rw [matchSign_append hr (by decide), matchInteger_append hr hafter, hwhole]
    rfl
  · rw [matchSign_append hr (by decide), matchFraction_append hr, matchExponent_append hr]
    exact hw
  · rw [matchFraction_append hr, matchExponent_append hr]
    exact hfloat
  · rw [matchFraction_append hr, matchExponent_append hr, hrest]

/-! ## Integers -/

/-- The digits of a number. -/
def natRepr (n : Nat) : PyStr := (Nat.toDigits 10 n).map Char.toNat

theorem intRepr_eq (n : Int) : intRepr n = (if n < 0 then [45] else []) ++ natRepr n.natAbs := rfl

theorem natRepr_digits {n c : Nat} (h : c ∈ natRepr n) : isDigitPoint c = true := by
  obtain ⟨d, hd, rfl⟩ := List.mem_map.mp h
  have hdigit := Nat.isDigit_of_mem_toDigits (by decide) (by decide) hd
  unfold Char.isDigit at hdigit
  unfold isDigitPoint
  rw [Bool.and_eq_true, decide_eq_true_iff, decide_eq_true_iff] at hdigit ⊢
  exact hdigit

/-- No number but zero starts with one. -/
theorem natRepr_head {n : Nat} (hn : 0 < n) :
    ∃ c s, natRepr n = c :: s ∧ c ≠ 48 ∧ isDigitPoint c = true := by
  induction n using Nat.strongRecOn with
  | ind n ih =>
    unfold natRepr
    rw [Nat.toDigits_eq_if (by decide)]
    split
    next hlt =>
      have hchar : ∀ d < 10, 0 < d →
          d.digitChar.toNat ≠ 48 ∧ isDigitPoint d.digitChar.toNat = true := by decide
      exact ⟨_, [], rfl, hchar n hlt hn⟩
    next hge =>
      obtain ⟨c, s, hs, hc⟩ := ih (n / 10) (by omega) (by omega)
      unfold natRepr at hs
      rw [List.map_append, hs]
      exact ⟨c, s ++ _, rfl, hc⟩

theorem digits_all (h : ∀ c ∈ s, isDigitPoint c = true) :
    s.takeWhile isDigitPoint = s ∧ s.dropWhile isDigitPoint = [] :=
  ⟨List.takeWhile_eq_self_iff.mpr h, List.dropWhile_eq_nil_iff.mpr h⟩

theorem matchInteger_natRepr (n : Nat) : matchInteger (natRepr n) = some (natRepr n, []) := by
  rcases Nat.eq_zero_or_pos n with rfl | hn
  · rfl
  · obtain ⟨c, s, hs, hc, hdigit⟩ := natRepr_head hn
    have hrest : ∀ d ∈ s, isDigitPoint d = true := fun d hd =>
      natRepr_digits (hs ▸ List.mem_cons_of_mem c hd)
    rw [hs, matchInteger, if_neg hc, if_pos hdigit, (digits_all hrest).1, (digits_all hrest).2]

/-- The sign of an integer, and its digits. -/
theorem matchSign_intRepr (n : Int) :
    matchSign [45] (intRepr n) = (if n < 0 then [45] else [], natRepr n.natAbs) := by
  rw [intRepr_eq]
  split
  next => rfl
  next =>
    cases hs : natRepr n.natAbs with
    | nil => rfl
    | cons c s =>
      have hdigit : isDigitPoint c = true := natRepr_digits (hs ▸ List.mem_cons_self)
      refine if_neg fun hc => ?_
      rw [List.mem_singleton.mp hc] at hdigit
      cases hdigit

theorem matchNumber_intRepr (n : Int) : matchNumber (intRepr n) = some (intRepr n, false, []) := by
  refine matchNumber_eq.mpr ⟨natRepr n.natAbs, [], ?_, ?_, rfl, rfl⟩
  · rw [matchSign_intRepr]
    exact matchInteger_natRepr _
  · rw [matchSign_intRepr]
    show _ = _ ++ [] ++ []
    rw [List.append_nil, List.append_nil]
    rfl

/-- **An integer is what its digits say.** -/
theorem readInteger_intRepr (n : Int) : readInteger (intRepr n) = n := by
  have hfold : (natRepr n.natAbs).foldl (fun n c => 10 * n + (c - 48)) 0 = n.natAbs := by
    unfold natRepr
    rw [List.foldl_map]
    exact (Nat.ofDigitChars_eq_foldl ..).symm.trans Nat.ofDigitChars_ten_toDigits
  unfold readInteger
  simp only
  rw [matchSign_intRepr, hfold]
  split
  next hn =>
    refine (if_neg (List.cons_ne_nil _ _)).trans ?_
    rw [Int.ofNat_natAbs_of_nonpos (Int.le_of_lt hn)]
    exact Int.neg_neg n
  next hn => exact (if_pos rfl).trans (Int.natAbs_of_nonneg (Int.not_lt.mp hn))

end Numerals

/-! ## Strings -/

section Strings

variable {s r : PyStr}

theorem scanUnits_short {letter u : Nat} (hletter : letter ≠ 117) (h : unescape letter = some u)
    (s : PyStr) : scanUnits (92 :: letter :: s) = push (u, false) (scanUnits s) := by
  rw [scanUnits.eq_def]
  simp only [↓reduceIte, hletter, h, Option.bind_some]
  rfl

theorem scanUnits_close (s : PyStr) : scanUnits (34 :: s) = some ([], s) := by
  rw [scanUnits.eq_def]
  rfl

/-- How a character is written: with one letter, with four digits, or as it is. -/
theorem escape_cases (c : Nat) :
    (∃ letter, (c, letter) ∈ shortEscapes ∧ escape c = [92, letter])
      ∨ (c < 32 ∧ escape c = [92, 117, 48, 48, hexDigit (c / 16), hexDigit (c % 16)])
      ∨ 32 ≤ c ∧ c ≠ 34 ∧ c ≠ 92 ∧ escape c = [c] := by
  unfold escape
  cases hshort : shortEscapes.find? (·.1 = c) with
  | some e =>
    obtain ⟨c', letter⟩ := e
    have hc : c' = c := by simpa using List.find?_some hshort
    subst hc
    exact .inl ⟨letter, List.mem_of_find?_eq_some hshort, rfl⟩
  | none =>
    have hplain := List.find?_eq_none.mp hshort
    have hquote : c ≠ 34 := fun hc => hplain (34, 34) (by decide) (decide_eq_true hc.symm)
    have hbackslash : c ≠ 92 := fun hc => hplain (92, 92) (by decide) (decide_eq_true hc.symm)
    simp only
    split
    next hlt => exact .inr (.inl ⟨hlt, rfl⟩)
    next hge => exact .inr (.inr ⟨Nat.le_of_not_lt hge, hquote, hbackslash, rfl⟩)

theorem scanUnits_escape (c : Nat) (s : PyStr) :
    ∃ long, (long = true → c < 32) ∧ scanUnits (escape c ++ s) = push (c, long) (scanUnits s) := by
  rcases escape_cases c with ⟨letter, hmem, hwritten⟩ | ⟨hlt, hwritten⟩
    | ⟨hge, hquote, hbackslash, hwritten⟩
  · have hletter : ∀ e ∈ shortEscapes, e.2 ≠ 117 ∧ unescape e.2 = some e.1 := by decide
    obtain ⟨hne, hread⟩ := hletter _ hmem
    rw [hwritten]
    exact ⟨false, nofun, scanUnits_short hne hread s⟩
  · have hhex : ∀ c < 32, hex4 48 48 (hexDigit (c / 16)) (hexDigit (c % 16)) = some c := by decide
    refine ⟨true, fun _ => hlt, ?_⟩
    rw [hwritten]
    show (hex4 48 48 (hexDigit (c / 16)) (hexDigit (c % 16))).bind _ = _
    rw [hhex c hlt]
    rfl
  · refine ⟨false, nofun, ?_⟩
    rw [hwritten]
    show scanUnits (c :: s) = _
    rw [scanUnits.eq_def]
    simp only
    rw [if_neg hquote, if_neg hbackslash, if_neg (Nat.not_lt.mpr hge)]

theorem joinPairs_eq {us : List (Nat × Bool)} (h : ∀ u ∈ us, u.2 = true → u.1 < 32) :
    joinPairs us = us.map (·.1) := by
  induction us with
  | nil => rfl
  | cons u us ih =>
    obtain ⟨hu, hus⟩ := List.forall_mem_cons.mp h
    cases us with
    | nil => rfl
    | cons v us =>
      rw [joinPairs, if_neg, ih hus]
      · rfl
      · rintro ⟨hlong, -, hhigh, -⟩
        have := hu hlong
        omega

theorem scanUnits_encoded (s r : PyStr) :
    ∃ us, scanUnits (s.flatMap escape ++ 34 :: r) = some (us, r) ∧ us.map (·.1) = s
      ∧ ∀ u ∈ us, u.2 = true → u.1 < 32 := by
  induction s with
  | nil => exact ⟨[], scanUnits_close r, rfl, fun u hu => absurd hu List.not_mem_nil⟩
  | cons c s ih =>
    obtain ⟨us, hread, hmap, hlong⟩ := ih
    obtain ⟨long, hc, hfirst⟩ := scanUnits_escape c (s.flatMap escape ++ 34 :: r)
    refine ⟨(c, long) :: us, ?_, congrArg (List.cons c) hmap, List.forall_mem_cons.mpr ⟨hc, hlong⟩⟩
    rw [List.flatMap_cons, List.append_assoc, hfirst, hread]
    rfl

/-- **A string is read as it was.** -/
theorem scanString_encoded (s r : PyStr) :
    scanString (s.flatMap escape ++ 34 :: r) = some (s, r) := by
  obtain ⟨us, hread, hmap, hlong⟩ := scanUnits_encoded s r
  unfold scanString
  rw [hread]
  exact congrArg (fun text => some (text, r)) ((joinPairs_eq hlong).trans hmap)

theorem encodeBasestring_append (s r : PyStr) :
    encodeBasestring s ++ r = 34 :: (s.flatMap escape ++ 34 :: r) := by
  unfold encodeBasestring
  rw [List.cons_append, List.append_assoc]
  rfl

end Strings

/-! ## Values -/

section Values

variable (floats : FloatText)

mutual

/-- What a Python value is: a dict has each of its keys once, and a number with a fraction is a
float. -/
def WellFormed : Value → Prop
  | .float (.finite q) => floats.IsFloat (.finite q)
  | .float .negZero => floats.IsFloat .negZero
  | .arr xs => WellFormedList xs
  | .obj fields => (fields.map (·.1)).Nodup ∧ WellFormedFields fields
  | _ => True

def WellFormedList : List Value → Prop
  | [] => True
  | x :: xs => WellFormed x ∧ WellFormedList xs

def WellFormedFields : List (PyStr × Value) → Prop
  | [] => True
  | (_, x) :: fields => WellFormed x ∧ WellFormedFields fields

end

variable {floats} {s r w : PyStr}

theorem expect_cons (c : Nat) (hc : isJsonSpace c = false) (s : PyStr) :
    expect c (c :: s) = some s := by
  unfold expect skip
  rw [List.dropWhile_cons_of_neg (by rw [hc]; exact Bool.false_ne_true)]
  exact if_pos rfl

theorem expect_ne {c d : Nat} (hd : isJsonSpace d = false) (hne : d ≠ c) (s : PyStr) :
    expect c (d :: s) = none := by
  unfold expect skip
  rw [List.dropWhile_cons_of_neg (by rw [hd]; exact Bool.false_ne_true)]
  exact if_neg hne

theorem skip_cons {c : Nat} (hc : isJsonSpace c = false) (s : PyStr) : skip (c :: s) = c :: s :=
  List.dropWhile_cons_of_neg (by rw [hc]; exact Bool.false_ne_true)

theorem scanConstant_word (r : PyStr) :
    ∀ word ∈ constants, scanConstant (word.1 ++ r) = some (word.2, r) := by
  simp [scanConstant, constants, lit, List.dropPrefix?]

theorem scanOnce_constant (fuel : Nat) (r : PyStr) {word : PyStr × Value}
    (h : word ∈ constants) : scanOnce floats (fuel + 1) (word.1 ++ r) = some (word.2, r) := by
  have hscalar : ∀ word ∈ constants,
      scanOnce floats (fuel + 1) (word.1 ++ r) = scanScalar floats (word.1 ++ r) := by
    unfold constants
    simp only [List.forall_mem_cons]
    exact ⟨rfl, rfl, rfl, rfl, rfl, rfl, fun _ h => absurd h List.not_mem_nil⟩
  rw [hscalar word h, scanScalar, scanConstant_word r word h]

/-- No numeral begins with a word. -/
theorem scanConstant_numeral {read : PyStr × Bool × PyStr} (h : matchNumber s = some read) :
    scanConstant s = none := by
  have hword : ∀ word ∈ constants, ∀ rest, matchNumber (word.1 ++ rest) = none := by
    unfold constants
    simp only [List.forall_mem_cons]
    exact ⟨fun _ => rfl, fun _ => rfl, fun _ => rfl, fun _ => rfl, fun _ => rfl, fun _ => rfl,
      fun _ h => absurd h List.not_mem_nil⟩
  cases hread : scanConstant s with
  | none => rfl
  | some found =>
    obtain ⟨word, hmem, hread⟩ := List.exists_of_findSome?_eq_some hread
    obtain ⟨rest, hdrop, -⟩ := Option.map_eq_some_iff.mp hread
    obtain ⟨w, hs, hw⟩ := List.dropPrefix?_eq_some_iff.mp hdrop
    rw [hs, beq_iff_eq.mp hw, hword word hmem rest] at h
    cases h

/-- A numeral begins with a character that it can have. -/
theorem numeral_head {isFloat : Bool} (h : matchNumber w = some (w, isFloat, [])) :
    ∃ c t, w = c :: t ∧ isNumeralPoint c = true := by
  cases w with
  | nil => cases h
  | cons c t => exact ⟨c, t, rfl, (matchNumber_taken h).2 c List.mem_cons_self⟩

theorem scanOnce_numeral {isFloat : Bool} (h : matchNumber w = some (w, isFloat, []))
    (hr : Stops r) (fuel : Nat) : scanOnce floats (fuel + 1) (w ++ r)
      = some (if isFloat then .float (floats.read w) else .int (readInteger w), r) := by
  have hread := matchNumber_append h hr
  obtain ⟨c, t, rfl, hc⟩ := numeral_head h
  rw [List.cons_append] at hread ⊢
  rw [scanOnce, if_neg (ne_of_point hc rfl), if_neg (ne_of_point hc rfl),
    if_neg (ne_of_point hc rfl), scanScalar, scanConstant_numeral hread, hread]
  rfl

theorem scanOnce_string (fuel : Nat) (s r : PyStr) :
    scanOnce floats (fuel + 1) (encodeBasestring s ++ r) = some (.str s, r) := by
  rw [encodeBasestring_append, scanOnce, if_pos rfl, scanString_encoded]
  rfl

/-- What a value begins with is no white space, does not end a list, and marks no byte order. -/
theorem dumps_head {x : Value} (h : WellFormed floats x) :
    ∃ c t, dumps floats x = c :: t ∧ isJsonSpace c = false ∧ c ≠ 93 ∧ c ≠ 0xFEFF := by
  have hnumeral {w : PyStr} {isFloat : Bool} (hw : matchNumber w = some (w, isFloat, [])) :
      ∃ c t, w = c :: t ∧ isJsonSpace c = false ∧ c ≠ 93 ∧ c ≠ 0xFEFF := by
    obtain ⟨c, t, ht, hc⟩ := numeral_head hw
    refine ⟨c, t, ht, ?_, ne_of_point hc rfl, ne_of_point hc rfl⟩
    unfold isJsonSpace
    simp only [Bool.or_eq_false_iff, decide_eq_false_iff_not]
    exact ⟨⟨⟨ne_of_point hc rfl, ne_of_point hc rfl⟩, ne_of_point hc rfl⟩, ne_of_point hc rfl⟩
  cases x with
  | null => exact ⟨_, _, rfl, rfl, by decide, by decide⟩
  | bool b =>
    cases b with
    | true => exact ⟨_, _, rfl, rfl, by decide, by decide⟩
    | false => exact ⟨_, _, rfl, rfl, by decide, by decide⟩
  | int n => exact hnumeral (matchNumber_intRepr n)
  | float x =>
    cases x with
    | finite q => exact hnumeral (floats.numeral _ h)
    | negZero => exact hnumeral (floats.numeral _ h)
    | inf negative =>
      cases negative with
      | true => exact ⟨_, _, rfl, rfl, by decide, by decide⟩
      | false => exact ⟨_, _, rfl, rfl, by decide, by decide⟩
    | nan => exact ⟨_, _, rfl, rfl, by decide, by decide⟩
  | str s => exact ⟨_, _, rfl, rfl, by decide, by decide⟩
  | arr xs =>
    cases xs with
    | nil => exact ⟨_, _, rfl, rfl, by decide, by decide⟩
    | cons x xs => exact ⟨_, _, rfl, rfl, by decide, by decide⟩
  | obj fields =>
    cases fields with
    | nil => exact ⟨_, _, rfl, rfl, by decide, by decide⟩
    | cons kv fields => exact ⟨_, _, rfl, rfl, by decide, by decide⟩

theorem dumps_length_pos {x : Value} (h : WellFormed floats x) : 0 < (dumps floats x).length := by
  obtain ⟨c, t, ht, -⟩ := dumps_head h
  rw [ht]
  exact Nat.succ_pos _

theorem dumpsItems_length_pos (floats : FloatText) (xs : List Value) :
    0 < (dumpsItems floats xs).length := by
  cases xs with
  | nil => exact Nat.one_pos
  | cons x xs => exact Nat.succ_pos _

/-- A word, by its place in the list. -/
theorem word_mem (i : Nat) (hi : i < constants.length) : constants[i] ∈ constants :=
  List.getElem_mem hi

theorem skip_encoded (key r : PyStr) :
    skip (encodeBasestring key ++ r) = encodeBasestring key ++ r := by
  rw [encodeBasestring_append]
  exact skip_cons rfl _

theorem expect_encoded (key r : PyStr) : expect 125 (encodeBasestring key ++ r) = none := by
  rw [encodeBasestring_append]
  exact expect_ne rfl (by decide) _

theorem scanOnce_float {x : PyFloat} (hx : WellFormed floats (.float x)) (hr : Stops r)
    (fuel : Nat) :
    scanOnce floats (fuel + 1) (dumps floats (.float x) ++ r) = some (.float x, r) := by
  cases x with
  | finite q =>
    have hread := @scanOnce_numeral floats r _ _ (floats.numeral _ hx) hr fuel
    rw [floats.read_repr _ hx] at hread
    exact hread
  | negZero =>
    have hread := @scanOnce_numeral floats r _ _ (floats.numeral _ hx) hr fuel
    rw [floats.read_repr _ hx] at hread
    exact hread
  | inf negative =>
    cases negative with
    | true => exact scanOnce_constant fuel r (word_mem 5 (by decide))
    | false => exact scanOnce_constant fuel r (word_mem 4 (by decide))
  | nan => exact scanOnce_constant fuel r (word_mem 3 (by decide))

/-- White space before a value, if there is any. -/
theorem skip_dumps {x : Value} (h : WellFormed floats x) (r : PyStr) :
    skip (dumps floats x ++ r) = dumps floats x ++ r ∧ expect 93 (dumps floats x ++ r) = none := by
  obtain ⟨c, t, ht, hc, hne, -⟩ := dumps_head h
  rw [ht, List.cons_append]
  exact ⟨skip_cons hc _, expect_ne hc hne _⟩

theorem dumpsItems_stops (xs : List Value) (r : PyStr) : Stops (dumpsItems floats xs ++ r) := by
  cases xs with
  | nil =>
    rintro c ⟨⟩
    rfl
  | cons x xs =>
    rintro c ⟨⟩
    rfl

theorem dumpsFields_stops (fields : List (PyStr × Value)) (r : PyStr) :
    Stops (dumpsFields floats fields ++ r) := by
  cases fields with
  | nil =>
    rintro c ⟨⟩
    rfl
  | cons kv fields =>
    rintro c ⟨⟩
    rfl

mutual

/-- **A value is read as it was**, and what is behind it is left. -/
theorem scanOnce_dumps (x : Value) (fuel : Nat) (r : PyStr) (hx : WellFormed floats x)
    (hfuel : (dumps floats x).length ≤ fuel) (hr : Stops r) :
    scanOnce floats fuel (dumps floats x ++ r) = some (x, r) := by
  have hpos := dumps_length_pos hx
  cases fuel with
  | zero => omega
  | succ fuel =>
    match x, hx with
    | .null, _ => exact scanOnce_constant fuel r (word_mem 0 (by decide))
    | .bool true, _ => exact scanOnce_constant fuel r (word_mem 1 (by decide))
    | .bool false, _ => exact scanOnce_constant fuel r (word_mem 2 (by decide))
    | .int n, _ =>
      have hread := @scanOnce_numeral floats r _ _ (matchNumber_intRepr n) hr fuel
      rw [readInteger_intRepr] at hread
      exact hread
    | .float x, hx => exact scanOnce_float hx hr fuel
    | .str s, _ => exact scanOnce_string fuel s r
    | .arr [], _ => rfl
    | .arr (x :: xs), ⟨hx, hxs⟩ =>
      simp only [dumps, List.length_cons, List.length_append] at hfuel
      have hfirst := dumps_length_pos hx
      have hrest := dumpsItems_length_pos floats xs
      cases fuel with
      | zero => omega
      | succ fuel =>
        obtain ⟨hskip, hend⟩ := skip_dumps hx (dumpsItems floats xs ++ r)
        have hvalue := scanOnce_dumps x fuel (dumpsItems floats xs ++ r) hx (by omega)
          (dumpsItems_stops xs r)
        have hitems := jsonArray_dumpsItems xs x fuel
          (dumps floats x ++ (dumpsItems floats xs ++ r)) r hxs (by rw [hskip, hvalue]) (by omega)
        rw [dumps, List.cons_append, List.append_assoc, scanOnce, if_neg (by decide),
          if_neg (by decide), if_pos rfl, hend]
        simp only [hitems, Option.map_some]
    | .obj [], _ => rfl
    | .obj ((key, x) :: fields), ⟨hkeys, hx, hfields⟩ =>
      simp only [dumps, List.length_cons, List.length_append] at hfuel
      cases fuel with
      | zero => omega
      | succ fuel =>
        have hskip := (skip_dumps hx (dumpsFields floats fields ++ r)).1
        have hvalue := scanOnce_dumps x fuel (dumpsFields floats fields ++ r) hx (by omega)
          (dumpsFields_stops fields r)
        have hpairs := jsonObject_dumpsFields fields key x fuel _
          (dumps floats x ++ (dumpsFields floats fields ++ r)) r hfields
          (skip_encoded key _) (by rw [hskip, hvalue]) (by omega)
        rw [dumps, List.cons_append, List.append_assoc, List.cons_append, List.cons_append,
          List.append_assoc, scanOnce, if_neg (by decide), if_pos rfl, expect_encoded]
        simp only [hpairs, Option.map_some]
        rw [Dict.update_of_nodup (show ((([] : Dict PyStr Value) ++ _).map (·.1)).Nodup from hkeys)]
        rfl

theorem jsonArray_dumpsItems (xs : List Value) (x : Value) (fuel : Nat) (s r : PyStr)
    (hxs : WellFormedList floats xs)
    (hfirst : scanOnce floats fuel (skip s) = some (x, dumpsItems floats xs ++ r))
    (hfuel : (dumpsItems floats xs).length ≤ fuel) :
    jsonArray floats (fuel + 1) s = some (x :: xs, r) := by
  rw [jsonArray, hfirst]
  simp only [Option.bind_eq_bind, Option.bind_some]
  match xs, hxs with
  | [], _ => rfl
  | y :: ys, ⟨hy, hys⟩ =>
    cases fuel with
    | zero => cases hfuel
    | succ fuel =>
      simp only [dumpsItems, List.length_cons, List.length_append] at hfuel
      have hskip := (skip_dumps hy (dumpsItems floats ys ++ r)).1
      have hnext := scanOnce_dumps y fuel (dumpsItems floats ys ++ r) hy (by omega)
        (dumpsItems_stops ys r)
      have hrest := jsonArray_dumpsItems ys y fuel
        (32 :: (dumps floats y ++ (dumpsItems floats ys ++ r))) r hys
        (by rw [show skip (32 :: _) = _ from hskip, hnext]) (by omega)
      rw [dumpsItems, List.cons_append, List.cons_append, List.append_assoc,
        expect_cons 44 rfl]
      simp only [hrest, Option.map_some]

theorem jsonObject_dumpsFields (fields : List (PyStr × Value)) (key : PyStr) (x : Value)
    (fuel : Nat) (s t r : PyStr) (hfields : WellFormedFields floats fields)
    (hkey : skip s = encodeBasestring key ++ 58 :: 32 :: t)
    (hfirst : scanOnce floats fuel (skip t) = some (x, dumpsFields floats fields ++ r))
    (hfuel : (dumpsFields floats fields).length ≤ fuel) :
    jsonObject floats (fuel + 1) s = some ((key, x) :: fields, r) := by
  have hquote : expect 34 s = some (key.flatMap escape ++ 34 :: 58 :: 32 :: t) := by
    unfold expect
    rw [hkey, encodeBasestring_append]
    rfl
  rw [jsonObject, hquote]
  simp only [Option.bind_eq_bind, Option.bind_some, scanString_encoded]
  rw [expect_cons 58 rfl, Option.bind_some, show skip (32 :: t) = skip t from rfl, hfirst,
    Option.bind_some]
  match fields, hfields with
  | [], _ => rfl
  | (key', y) :: fields, ⟨hy, hfields⟩ =>
    cases fuel with
    | zero => cases hfuel
    | succ fuel =>
      simp only [dumpsFields, List.length_cons, List.length_append] at hfuel
      have hskip := (skip_dumps hy (dumpsFields floats fields ++ r)).1
      have hnext := scanOnce_dumps y fuel (dumpsFields floats fields ++ r) hy (by omega)
        (dumpsFields_stops fields r)
      have hrest := jsonObject_dumpsFields fields key' y fuel
        (32 :: (encodeBasestring key'
          ++ 58 :: 32 :: (dumps floats y ++ (dumpsFields floats fields ++ r))))
        (dumps floats y ++ (dumpsFields floats fields ++ r)) r hfields
        (skip_encoded key' _) (by rw [hskip, hnext]) (by omega)
      rw [dumpsFields, List.cons_append, List.cons_append, List.append_assoc, List.cons_append,
        List.cons_append, List.append_assoc, expect_cons 44 rfl]
      simp only [hrest, Option.map_some]

end

/-- **What has been written is what is read.** -/
theorem loads_dumps {x : Value} (h : WellFormed floats x) :
    loads floats (dumps floats x) = some x := by
  have hmark : (dumps floats x).head? ≠ some 0xFEFF := by
    obtain ⟨c, t, ht, -, -, hne⟩ := dumps_head h
    rw [ht]
    exact fun hc => hne (Option.some.inj hc)
  have hskip := (skip_dumps h []).1
  have hread := scanOnce_dumps x (2 * (dumps floats x).length + 1) [] h (by omega) nofun
  rw [List.append_nil] at hskip hread
  unfold loads
  rw [if_neg hmark, hskip, hread]
  rfl

end Values

end EdgeSensor.Py.JsonCodec
