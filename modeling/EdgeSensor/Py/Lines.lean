import EdgeSensor.Py.Value
import Mathlib.Data.List.DropRight

/-!
# Lines of text

`str.splitlines` ends a line at more characters than a file does. `json.dumps` with
`ensure_ascii=False` escapes those below U+0020, and leaves three as they are: U+0085, U+2028
and U+2029. A JSON line with one of these in a string falls apart in `splitlines`.
-/

namespace EdgeSensor.Py

/-- The characters that end a line in `str.splitlines`. -/
def isLineBreak (c : Nat) : Bool :=
  (0x0A ≤ c && c ≤ 0x0D) || (0x1C ≤ c && c ≤ 0x1E) || c == 0x85 || c == 0x2028 || c == 0x2029

/-- `splitlines`, with `cur` read of a line already. `\r\n` is one end. -/
def splitLinesFrom (cur : PyStr) : PyStr → List PyStr
  | [] => if cur = [] then [] else [cur]
  | 13 :: 10 :: s => cur :: splitLinesFrom [] s
  | c :: s => if isLineBreak c then cur :: splitLinesFrom [] s else splitLinesFrom (cur ++ [c]) s

/-- `s.splitlines()`. -/
def splitLines (s : PyStr) : List PyStr := splitLinesFrom [] s

/-- The text up to its first line break. -/
def firstLine (s : PyStr) : PyStr := s.takeWhile fun c => !isLineBreak c

/-- The text after its last line break. -/
def lastLine (s : PyStr) : PyStr := s.rtakeWhile fun c => !isLineBreak c

/-- Those that `json.dumps` does not escape. -/
def isBareLineBreak (c : Nat) : Bool := c == 0x85 || c == 0x2028 || c == 0x2029

/-- `json.dumps` writes the text on one line. -/
def PyStr.unbroken (s : PyStr) : Bool := s.all fun c => !isBareLineBreak c

namespace Value

mutual

/-- `json.dumps` writes the value on one line. -/
def unbroken : Value → Bool
  | .str s => PyStr.unbroken s
  | .arr xs => unbrokenList xs
  | .obj fields => unbrokenFields fields
  | _ => true

def unbrokenList : List Value → Bool
  | [] => true
  | x :: xs => x.unbroken && unbrokenList xs

def unbrokenFields : List (PyStr × Value) → Bool
  | [] => true
  | (k, x) :: fields => PyStr.unbroken k && x.unbroken && unbrokenFields fields

end

end Value

/-- A text that can be encoded and is written on one line. -/
def PyStr.plain (s : PyStr) : Bool := s.encodable && PyStr.unbroken s

/-- A value whose texts are so. -/
def Value.plain (x : Value) : Bool := x.encodable && x.unbroken

theorem PyStr.plain_take {s : PyStr} (h : PyStr.plain s = true) (n : Nat) :
    PyStr.plain (s.take n) = true := by
  unfold PyStr.plain PyStr.encodable PyStr.unbroken at h ⊢
  rw [Bool.and_eq_true, List.all_eq_true, List.all_eq_true] at h ⊢
  exact ⟨fun c hc => h.1 c (List.mem_of_mem_take hc), fun c hc => h.2 c (List.mem_of_mem_take hc)⟩

/-! ## Lines of which only some are looked at -/

section Lines

variable {cur s t : PyStr}

/-- A text on one line. -/
def OneLine (s : PyStr) : Prop := ∀ c ∈ s, isLineBreak c = false

instance (s : PyStr) : Decidable (OneLine s) := inferInstanceAs (Decidable (∀ c ∈ s, _))

theorem firstLine_of_oneLine (h : OneLine s) : firstLine s = s := by
  refine List.takeWhile_eq_self_iff.mpr fun c hc => ?_
  rw [h c hc]
  rfl

theorem lastLine_of_oneLine (h : OneLine s) : lastLine s = s := by
  refine List.rtakeWhile_eq_self_iff.mpr fun c hc => ?_
  rw [h c hc]
  rfl

theorem takeWhile_append_cons {p : Nat → Bool} {c : Nat} (hc : p c = false) (a b : PyStr) :
    (a ++ c :: b).takeWhile p = a.takeWhile p := by
  induction a with
  | nil =>
    rw [List.nil_append, List.takeWhile_cons, hc]
    rfl
  | cons x a ih => rw [List.cons_append, List.takeWhile_cons, List.takeWhile_cons, ih]

/-- Nothing before a line break is in the last line. -/
theorem lastLine_append_cons {c : Nat} (hc : isLineBreak c = true) (s t : PyStr) :
    lastLine (s ++ c :: t) = lastLine t := by
  have hstop : (!isLineBreak c) = false := by
    rw [hc]
    rfl
  unfold lastLine List.rtakeWhile
  rw [List.reverse_append, List.reverse_cons, List.append_assoc]
  exact congrArg List.reverse (takeWhile_append_cons hstop _ _)

/-- Nothing after a line break is in the first line. -/
theorem firstLine_append_cons {c : Nat} (hc : isLineBreak c = true) (s t : PyStr) :
    firstLine (s ++ c :: t) = firstLine s := by
  have hstop : (!isLineBreak c) = false := by
    rw [hc]
    rfl
  exact takeWhile_append_cons hstop s t

theorem oneLine_append : OneLine (s ++ t) ↔ OneLine s ∧ OneLine t := by
  unfold OneLine
  simp only [List.mem_append, or_imp, forall_and]

theorem filterMap_cons_append {α β : Type} (f : α → Option β) (x : α) (l : List α) :
    (x :: l).filterMap f = (f x).toList ++ l.filterMap f := by
  cases hx : f x with
  | none => rw [List.filterMap_cons_none hx, Option.toList_none, List.nil_append]
  | some b =>
    rw [List.filterMap_cons_some hx]
    rfl

/-- The lines that are looked at, if an empty one is not: then `\r\n` may as well end two. -/
theorem filterMap_splitLinesFrom {β : Type} {f : PyStr → Option β} (hf : f [] = none) (cur : PyStr)
    (c : Nat) (s : PyStr) : (splitLinesFrom cur (c :: s)).filterMap f
      = if isLineBreak c then (f cur).toList ++ (splitLinesFrom [] s).filterMap f
        else (splitLinesFrom (cur ++ [c]) s).filterMap f := by
  by_cases hcrlf : c = 13 ∧ s.head? = some 10
  · obtain ⟨rfl, hhead⟩ := hcrlf
    cases s with
    | nil => cases hhead
    | cons c s =>
      cases hhead
      -- the line between the two is empty
      have hempty : (splitLinesFrom [] (10 :: s)).filterMap f = (splitLinesFrom [] s).filterMap f := by
        show (([] : PyStr) :: splitLinesFrom [] s).filterMap f = _
        exact List.filterMap_cons_none hf
      show (cur :: splitLinesFrom [] s).filterMap f
        = (f cur).toList ++ (splitLinesFrom [] (10 :: s)).filterMap f
      rw [filterMap_cons_append, hempty]
  · have hone : splitLinesFrom cur (c :: s)
        = if isLineBreak c then cur :: splitLinesFrom [] s else splitLinesFrom (cur ++ [c]) s := by
      rw [splitLinesFrom]
      rintro s' rfl rfl
      exact hcrlf ⟨rfl, rfl⟩
    rw [hone]
    split
    next => exact filterMap_cons_append f cur _
    next => rfl

/-- Reading on over a text on one line. -/
theorem filterMap_splitLinesFrom_append {β : Type} {f : PyStr → Option β} (hf : f [] = none)
    (h : OneLine s) : (splitLinesFrom cur (s ++ t)).filterMap f
      = (splitLinesFrom (cur ++ s) t).filterMap f := by
  induction s generalizing cur with
  | nil => rw [List.nil_append, List.append_nil]
  | cons c s ih =>
    have hc : isLineBreak c = false := h c List.mem_cons_self
    have hrest := @ih (cur ++ [c]) fun c hc => h c (List.mem_cons_of_mem _ hc)
    rw [List.append_assoc] at hrest
    rw [List.cons_append, filterMap_splitLinesFrom hf]
    rw [hc, if_neg (by decide)]
    exact hrest

theorem splitLinesFrom_cons {c : Nat} (hc : isLineBreak c = false) (cur s : PyStr) :
    splitLinesFrom cur (c :: s) = splitLinesFrom (cur ++ [c]) s := by
  rw [splitLinesFrom, hc]
  · rfl
  · rintro s' rfl rfl
    cases hc

/-- A text on one line, and its end. -/
theorem splitLinesFrom_line (h : OneLine s) (cur t : PyStr) :
    splitLinesFrom cur (s ++ 10 :: t) = (cur ++ s) :: splitLinesFrom [] t := by
  induction s generalizing cur with
  | nil =>
    rw [List.append_nil]
    rfl
  | cons c s ih =>
    have hrest := ih (fun c hc => h c (List.mem_cons_of_mem _ hc)) (cur ++ [c])
    rw [List.append_assoc] at hrest
    rw [List.cons_append, splitLinesFrom_cons (h c List.mem_cons_self)]
    exact hrest

/-- Lines, each with its line feed. -/
def unlines (lines : List PyStr) : PyStr := lines.flatMap (· ++ [10])

/-- Texts that are on one line each come back from the file they are written to. -/
theorem splitLines_unlines {lines : List PyStr} (h : ∀ line ∈ lines, OneLine line) :
    splitLines (unlines lines) = lines := by
  induction lines with
  | nil => rfl
  | cons line lines ih =>
    have hrest := ih fun line hmem => h line (List.mem_cons_of_mem _ hmem)
    unfold splitLines unlines at hrest ⊢
    rw [List.flatMap_cons, List.append_assoc, List.singleton_append,
      splitLinesFrom_line (h line List.mem_cons_self), List.nil_append, hrest]

end Lines

/-! ## Reading a file as text -/

/-- Line ends as `open` translates them, after a carriage return or not. -/
def universalNewlinesFrom : Bool → PyStr → PyStr
  | _, [] => []
  | afterCr, c :: s =>
    if c = 13 then 10 :: universalNewlinesFrom true s
    else if c = 10 ∧ afterCr then universalNewlinesFrom false s
    else c :: universalNewlinesFrom false s

/-- The text of a file with these characters: `\r\n` and `\r` are read as `\n`. -/
def universalNewlines (s : PyStr) : PyStr := universalNewlinesFrom false s

/-- What comes after a character that is no part of a line end is read by itself. -/
theorem universalNewlinesFrom_append {c : Nat} (hcr : c ≠ 13) (hlf : c ≠ 10) (afterCr : Bool)
    (s t : PyStr) : universalNewlinesFrom afterCr (s ++ c :: t)
      = universalNewlinesFrom afterCr s ++ c :: universalNewlines t := by
  induction s generalizing afterCr with
  | nil =>
    show universalNewlinesFrom afterCr (c :: t) = c :: universalNewlinesFrom false t
    rw [universalNewlinesFrom, if_neg hcr, if_neg fun h => hlf h.1]
  | cons d s ih =>
    rw [List.cons_append, universalNewlinesFrom, universalNewlinesFrom]
    split
    next => rw [ih, List.cons_append]
    next =>
      split
      next => exact ih false
      next => rw [ih, List.cons_append]

/-- A text without line ends is read as it is. -/
theorem universalNewlinesFrom_plain {s : PyStr} (hcr : 13 ∉ s) (hlf : 10 ∉ s) (afterCr : Bool) :
    universalNewlinesFrom afterCr s = s := by
  induction s generalizing afterCr with
  | nil => rfl
  | cons c s ih =>
    have hc : ¬ c = 13 := fun heq => hcr (heq ▸ List.mem_cons_self)
    have hc' : ¬ (c = 10 ∧ afterCr = true) := fun heq => hlf (heq.1 ▸ List.mem_cons_self)
    rw [universalNewlinesFrom, if_neg hc, if_neg hc', ih (fun h => hcr (List.mem_cons_of_mem _ h))
      fun h => hlf (List.mem_cons_of_mem _ h)]

/-- A text without carriage returns is read as it is, and what comes after by itself. -/
theorem universalNewlines_append {s : PyStr} (hcr : 13 ∉ s) (t : PyStr) :
    universalNewlines (s ++ t) = s ++ universalNewlines t := by
  induction s with
  | nil => rfl
  | cons c s ih =>
    rw [List.mem_cons, not_or] at hcr
    have hrest : universalNewlinesFrom false (s ++ t) = s ++ universalNewlines t := ih hcr.2
    show universalNewlinesFrom false (c :: (s ++ t)) = c :: (s ++ universalNewlines t)
    rw [universalNewlinesFrom, if_neg (Ne.symm hcr.1), if_neg fun h => Bool.false_ne_true h.2, hrest]

/-- What comes after a line feed is read by itself. -/
theorem universalNewlinesFrom_line (afterCr : Bool) (s t : PyStr) :
    universalNewlinesFrom afterCr (s ++ 10 :: t)
      = universalNewlinesFrom afterCr (s ++ [10]) ++ universalNewlines t := by
  induction s generalizing afterCr with
  | nil =>
    cases afterCr with
    | true => rfl
    | false => rfl
  | cons c s ih =>
    rw [List.cons_append, List.cons_append, universalNewlinesFrom, universalNewlinesFrom]
    split
    next => rw [ih, List.cons_append]
    next =>
      split
      next => exact ih false
      next => rw [ih, List.cons_append]

/-- A line is read with one line end. -/
theorem exists_line (s : PyStr) : ∃ u, universalNewlines (s ++ [10]) = u ++ [10] := by
  -- after a carriage return the line feed itself may be nothing
  have hboth : ∀ afterCr, (∃ u, universalNewlinesFrom afterCr (s ++ [10]) = u ++ [10])
      ∨ afterCr = true ∧ universalNewlinesFrom afterCr (s ++ [10]) = [] := by
    induction s with
    | nil =>
      intro afterCr
      cases afterCr with
      | true => exact .inr ⟨rfl, rfl⟩
      | false => exact .inl ⟨[], rfl⟩
    | cons c s ih =>
      intro afterCr
      have hcons : ∀ d, ∀ u : PyStr, d :: (u ++ [10]) = (d :: u) ++ [10] := fun _ _ => rfl
      rw [List.cons_append, universalNewlinesFrom]
      split
      next =>
        rcases ih true with ⟨u, hu⟩ | ⟨-, hnil⟩
        · exact .inl ⟨10 :: u, by rw [hu, hcons]⟩
        · exact .inl ⟨[], by rw [hnil]; rfl⟩
      next =>
        rcases ih false with ⟨u, hu⟩ | ⟨hfalse, -⟩
        · split
          next => exact .inl ⟨u, hu⟩
          next => exact .inl ⟨c :: u, by rw [hu, hcons]⟩
        · cases hfalse
  rcases hboth false with h | ⟨hfalse, -⟩
  · exact h
  · cases hfalse

theorem not_mem_universalNewlinesFrom {c : Nat} (hlf : c ≠ 10) {s : PyStr} (h : c ∉ s)
    (afterCr : Bool) : c ∉ universalNewlinesFrom afterCr s := by
  induction s generalizing afterCr with
  | nil => exact List.not_mem_nil
  | cons d s ih =>
    have hd : c ≠ d := fun heq => h (heq ▸ List.mem_cons_self)
    have hs : c ∉ s := fun hmem => h (List.mem_cons_of_mem _ hmem)
    rw [universalNewlinesFrom]
    split
    next =>
      intro hmem
      rcases List.mem_cons.mp hmem with heq | hmem
      · exact hlf heq
      · exact ih hs true hmem
    next =>
      split
      next => exact ih hs false
      next =>
        intro hmem
        rcases List.mem_cons.mp hmem with heq | hmem
        · exact hd heq
        · exact ih hs false hmem

end EdgeSensor.Py
