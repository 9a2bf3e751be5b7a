import Mathlib.Data.String.Basic
import EdgeSensor.Py.Bytes
import EdgeSensor.Py.Number

/-!
# Rule versions (`policy/ids_rule_sync.py`)

A version is compared through its sort key, a tuple of its dot-separated parts: a part
that `int()` takes is a number, any other is text. Python compares tuples at the first
place where they differ, and raises there if the two parts are a number and a text.

Versions that compare form chains: `versionLt_chain` is what keeps a sequence of
accepted versions from ever going down.
-/

namespace EdgeSensor.Agent

open EdgeSensor.Py

/-- One element of a sort key. -/
inductive KeyPart where
  | int (n : Int)
  | str (s : String)
  deriving DecidableEq, Repr

/-- `x < y`. -/
def KeyPart.lt : KeyPart → KeyPart → Except PyErr Bool
  | .int a, .int b => .ok (a < b)
  | .str a, .str b => .ok (a < b)
  | .int _, .str _ =>
    .error (.typeError "'<' not supported between instances of 'int' and 'str'")
  | .str _, .int _ =>
    .error (.typeError "'<' not supported between instances of 'str' and 'int'")

/-- `x < y` on tuples. -/
def tupleLt : List KeyPart → List KeyPart → Except PyErr Bool
  | [], [] => .ok false
  | [], _ :: _ => .ok true
  | _ :: _, [] => .ok false
  | a :: as, b :: bs => if a = b then tupleLt as bs else a.lt b

variable (tables : UnicodeTables)

/-- The part as a number if `int(part)` takes it. -/
def keyPart (part : List Char) : KeyPart :=
  match readInt tables part with
  | some n => .int n
  | none => .str (String.ofList part)

/-- The version without a `v` in front of its first digit. -/
def dropV : List Char → List Char
  | c :: d :: rest => if (c = 'v' ∨ c = 'V') ∧ isDigit tables d then d :: rest else c :: d :: rest
  | cs => cs

/-- `_version_sort_key`. -/
def versionSortKey (version : String) : List KeyPart :=
  let v := strip version
  if v = "" then [.int 0]
  else ((dropV tables v.toList).splitOn '.').map (keyPart tables)

/-- `_version_sort_key(v) < _version_sort_key(w)`. -/
def versionLt (v w : String) : Except PyErr Bool :=
  tupleLt (versionSortKey tables v) (versionSortKey tables w)

/-- The comparison raises nothing. -/
def Comparable (v w : String) : Prop := ∃ older, versionLt tables v w = .ok older

/-! ## Chains -/

theorem KeyPart.lt_chain {a b c : KeyPart} (hab : b.lt a = .ok false) (hbc : c.lt b = .ok false) :
    c.lt a = .ok false := by
  cases a with
  | int a =>
    cases b with
    | int b =>
      cases c with
      | int c =>
        simp only [lt, Except.ok.injEq, decide_eq_false_iff_not] at hab hbc ⊢
        omega
      | str c => cases hbc
    | str b => cases hab
  | str a =>
    cases b with
    | int b => cases hab
    | str b =>
      cases c with
      | int c => cases hbc
      | str c =>
        simp only [lt, Except.ok.injEq, decide_eq_false_iff_not, not_lt] at hab hbc ⊢
        exact le_trans hab hbc

theorem KeyPart.eq_of_not_lt {a b : KeyPart} (hab : a.lt b = .ok false)
    (hba : b.lt a = .ok false) : a = b := by
  cases a with
  | int a =>
    cases b with
    | int b =>
      simp only [lt, Except.ok.injEq, decide_eq_false_iff_not] at hab hba
      have heq : a = b := by omega
      rw [heq]
    | str b => cases hab
  | str a =>
    cases b with
    | int b => cases hab
    | str b =>
      simp only [lt, Except.ok.injEq, decide_eq_false_iff_not, not_lt] at hab hba
      rw [le_antisymm hba hab]

/-- Not older than one that is not older. -/
theorem tupleLt_chain {a b c : List KeyPart} (hab : tupleLt b a = .ok false)
    (hbc : tupleLt c b = .ok false) : tupleLt c a = .ok false := by
  induction a generalizing b c with
  | nil => cases c <;> rfl
  | cons x xs ih =>
    cases b with
    | nil => cases hab
    | cons y ys =>
      cases c with
      | nil => cases hbc
      | cons z zs =>
        unfold tupleLt at hab hbc ⊢
        by_cases hyx : y = x
        · subst hyx
          rw [if_pos rfl] at hab
          by_cases hzy : z = y
          · rw [if_pos hzy] at hbc ⊢
            exact ih hab hbc
          · rw [if_neg hzy] at hbc ⊢
            exact hbc
        · rw [if_neg hyx] at hab
          by_cases hzy : z = y
          · subst hzy
            rw [if_neg hyx]
            exact hab
          · rw [if_neg hzy] at hbc
            -- the first difference is here, and it goes up twice
            have hzx : z ≠ x := by
              intro h
              subst h
              exact hzy (KeyPart.eq_of_not_lt hbc hab)
            rw [if_neg hzx]
            exact KeyPart.lt_chain hab hbc

theorem versionLt_chain {u v w : String} (huv : versionLt tables v u = .ok false)
    (hvw : versionLt tables w v = .ok false) : versionLt tables w u = .ok false :=
  tupleLt_chain huv hvw

theorem tupleLt_self (a : List KeyPart) : tupleLt a a = .ok false := by
  induction a with
  | nil => rfl
  | cons x xs ih =>
    unfold tupleLt
    rw [if_pos rfl]
    exact ih

/-- No version is older than itself. -/
theorem versionLt_self (v : String) : versionLt tables v v = .ok false := tupleLt_self _

end EdgeSensor.Agent
