import Mathlib.Data.List.Basic
import Mathlib.Data.List.DropRight

/-!
# Python strings

The few `str` methods the modelled code calls. Case conversion is the ASCII one:
the code applies it to MAC addresses, rule ids, modes and engine names, all
ASCII. `strip` uses Python's whitespace set in full, since it is applied to HTTP
header text.
-/

namespace EdgeSensor.Py

/-- `c.isspace()`, the characters `str.strip()` removes. -/
def isSpace (c : Char) : Bool :=
  (9 ≤ c.toNat && c.toNat ≤ 13) || (28 ≤ c.toNat && c.toNat ≤ 32) || c.toNat = 0x85
    || c.toNat = 0xA0 || c.toNat = 0x1680 || (0x2000 ≤ c.toNat && c.toNat ≤ 0x200A)
    || c.toNat = 0x2028 || c.toNat = 0x2029 || c.toNat = 0x202F || c.toNat = 0x205F
    || c.toNat = 0x3000

/-- `s.strip()` with the characters to remove as a predicate. -/
def stripBy (p : Char → Bool) (s : String) : String :=
  String.ofList ((s.toList.dropWhile p).reverse.dropWhile p).reverse

/-- `s.strip()`. -/
def strip (s : String) : String := stripBy isSpace s

/-- `s.lower()` on ASCII text. -/
def lower (s : String) : String := String.ofList (s.toList.map Char.toLower)

/-- `s.upper()` on ASCII text. -/
def upper (s : String) : String := String.ofList (s.toList.map Char.toUpper)

/-- `s[:n]`. -/
def takeChars (s : String) (n : Nat) : String := String.ofList (s.toList.take n)

/-- Text without white space is what `strip` leaves of it. -/
theorem strip_of_no_space {s : String} (h : ∀ c ∈ s.toList, isSpace c = false) : strip s = s := by
  have hdrop : ∀ cs : List Char, (∀ c ∈ cs, isSpace c = false) → cs.dropWhile isSpace = cs := by
    intro cs hcs
    cases cs with
    | nil => rfl
    | cons c cs =>
      have hc : isSpace c = false := hcs c List.mem_cons_self
      exact List.dropWhile_cons_of_neg (by rw [hc]; exact Bool.false_ne_true)
  unfold strip stripBy
  rw [hdrop _ h, hdrop _ fun c hc => h c (List.mem_reverse.mp hc), List.reverse_reverse,
    String.ofList_toList]

theorem toList_strip (s : String) :
    (strip s).toList = (s.toList.dropWhile isSpace).rdropWhile isSpace := by
  rw [strip, stripBy, String.toList_ofList]
  rfl

/-- What `strip` leaves as it is: no white space at either end. -/
theorem strip_eq_self_iff {s : String} : strip s = s ↔
    (∀ c ∈ s.toList.head?, isSpace c = false) ∧ ∀ c ∈ s.toList.getLast?, isSpace c = false := by
  rw [← String.toList_inj, toList_strip]
  cases hs : s.toList with
  | nil => simp
  | cons a cs =>
    have hlast : ∀ hne : a :: cs ≠ [], (a :: cs).getLast? = some ((a :: cs).getLast hne) :=
      fun hne => List.getLast?_eq_some_getLast hne
    constructor
    · intro heq
      have hlen := congrArg List.length heq
      have hright := (List.rdropWhile_prefix isSpace ((a :: cs).dropWhile isSpace)).length_le
      have hleft : (a :: cs).dropWhile isSpace = a :: cs :=
        (List.dropWhile_suffix isSpace).eq_of_length_le (by omega)
      rw [hleft] at heq
      refine ⟨fun c hc => ?_, fun c hc => ?_⟩
      · cases hc
        exact Bool.eq_false_iff.mpr (List.dropWhile_eq_self_iff.mp hleft (Nat.succ_pos _))
      · rw [hlast (List.cons_ne_nil _ _)] at hc
        cases hc
        exact Bool.eq_false_iff.mpr (List.rdropWhile_eq_self_iff.mp heq (List.cons_ne_nil _ _))
    · intro h
      have hleft : (a :: cs).dropWhile isSpace = a :: cs :=
        List.dropWhile_eq_self_iff.mpr fun _ => Bool.eq_false_iff.mp (h.1 a rfl)
      rw [hleft]
      exact List.rdropWhile_eq_self_iff.mpr fun hne =>
        Bool.eq_false_iff.mp (h.2 _ (hlast hne))

/-- Stripped text stays as it is. -/
theorem strip_strip_text (s : String) : strip (strip s) = strip s := by
  have hfirst : (strip s).toList.dropWhile isSpace = (strip s).toList := by
    rw [List.dropWhile_eq_self_iff]
    intro hlen
    have hpre : (strip s).toList <+: s.toList.dropWhile isSpace := by
      rw [toList_strip]
      exact List.rdropWhile_prefix _ _
    rw [hpre.getElem hlen]
    exact List.dropWhile_get_zero_not _ _ (Nat.lt_of_lt_of_le hlen hpre.length_le)
  apply String.toList_inj.mp
  rw [toList_strip (strip s), hfirst, toList_strip s, List.rdropWhile_idempotent]

/-! ## Texts joined by a separator -/

/-- What stands before the first separator, and what after it. -/
theorem append_separator_inj {α : Type} {sep : α} {xs xs' ys ys' : List α} (h : sep ∉ xs)
    (h' : sep ∉ xs') (heq : xs ++ sep :: ys = xs' ++ sep :: ys') : xs = xs' ∧ ys = ys' := by
  induction xs generalizing xs' with
  | nil =>
    cases xs' with
    | nil => exact ⟨rfl, (List.cons.inj heq).2⟩
    | cons x xs' => exact absurd (List.cons.inj heq).1 fun hsep => h' (hsep ▸ List.mem_cons_self)
  | cons x xs ih =>
    cases xs' with
    | nil =>
      exact absurd (List.cons.inj heq).1.symm fun hsep => h (hsep ▸ List.mem_cons_self)
    | cons x' xs' =>
      obtain ⟨rfl, hrest⟩ := List.cons.inj heq
      obtain ⟨rfl, hys⟩ := ih (fun hmem => h (List.mem_cons_of_mem _ hmem))
        (fun hmem => h' (List.mem_cons_of_mem _ hmem)) hrest
      exact ⟨rfl, hys⟩

theorem not_mem_of_mem_splitOn {α : Type} [DecidableEq α] {sep : α} {xs part : List α}
    (h : part ∈ xs.splitOn sep) : sep ∉ part := by
  induction xs generalizing part with
  | nil =>
    rw [List.splitOn_nil] at h
    rw [List.mem_singleton.mp h]
    exact List.not_mem_nil
  | cons x xs ih =>
    rw [List.splitOn_cons_eq_if_modifyHead] at h
    split at h
    next =>
      rcases List.mem_cons.mp h with rfl | h
      · exact List.not_mem_nil
      · exact ih h
    next hx =>
      -- the character goes to the first part
      cases hsplit : xs.splitOn sep with
      | nil => exact absurd hsplit (List.splitOn_ne_nil sep xs)
      | cons first rest =>
        rw [hsplit] at h ih
        rcases List.mem_cons.mp h with rfl | h
        · intro hmem
          rcases List.mem_cons.mp hmem with heq | hmem
          · exact hx (beq_iff_eq.mpr heq.symm)
          · exact ih List.mem_cons_self hmem
        · exact ih (List.mem_cons_of_mem first h)

theorem not_mem_toDigits (n : Nat) {c : Char} (h : c.isDigit = false) : c ∉ Nat.toDigits 10 n := by
  intro hmem
  rw [Nat.isDigit_of_mem_toDigits (by decide) (by decide) hmem] at h
  cases h

end EdgeSensor.Py
