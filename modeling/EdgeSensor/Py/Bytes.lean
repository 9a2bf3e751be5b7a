import Mathlib.Algebra.Order.Ring.Int
import Mathlib.Data.List.Basic

/-!
# Python byte strings and exceptions

The sensor and the agent are Python programs. A `bytes` value is a list of
`UInt8` here, a slice is `slice`, and a raised exception is a value of `PyErr`
in the error side of an `Except`: the *text* of the exception is kept, since the
agent forwards such texts in its status entries and ACKs.

Mirroring notes:
- Python clamps slice bounds, and so do `List.drop` and `List.take`.
- `int.from_bytes(b, "big")` of any length is a natural number; the signed form
  is two's complement at the width of the string.
-/

namespace EdgeSensor.Py

/-- A byte string. -/
abbrev Bytes := List UInt8

/-- The exceptions that leave the modelled functions, with their texts. -/
inductive PyErr where
  | valueError (msg : String)
  | typeError (msg : String)
  | attributeError (msg : String)
  | fileNotFoundError (path : String)
  | httpError (msg : String)
  | overflowError (msg : String)
  | recursionError (msg : String)
  | unicodeEncodeError (msg : String)
  deriving DecidableEq, Repr

/-- `data[a:b]`. -/
def slice (data : Bytes) (a b : Nat) : Bytes := (data.drop a).take (b - a)

/-- `int.from_bytes(data, "big")`. -/
def intFromBytes (data : Bytes) : Nat := data.foldl (fun acc b => acc * 256 + b.toNat) 0

/-- `int.from_bytes(data, "big", signed=True)`. -/
def intFromBytesSigned (data : Bytes) : Int :=
  if 2 * intFromBytes data < 256 ^ data.length then intFromBytes data
  else (intFromBytes data : Int) - 256 ^ data.length

/-- `data.decode("ascii", errors="replace")`: one U+FFFD for each byte over 127. -/
def decodeAsciiReplace (data : Bytes) : String :=
  String.ofList (data.map fun b => if b.toNat < 128 then Char.ofNat b.toNat else Char.ofNat 0xFFFD)

/-! ## Calls that may raise -/

section Raising

variable {ε α β : Type} {call : Except ε α} {out : β}

/-- One call after another has returned. -/
theorem bind_eq_ok {next : α → Except ε β} :
    call >>= next = .ok out ↔ ∃ x, call = .ok x ∧ next x = .ok out := by
  cases call with
  | error e =>
    constructor
    · intro h
      cases h
    · rintro ⟨x, h, -⟩
      cases h
  | ok x =>
    constructor
    · exact fun h => ⟨x, rfl, h⟩
    · rintro ⟨_, ⟨⟩, h⟩
      exact h

theorem map_eq_ok {f : α → β} : call.map f = .ok out ↔ ∃ x, call = .ok x ∧ f x = out := by
  cases call with
  | error e =>
    constructor
    · intro h
      cases h
    · rintro ⟨x, h, -⟩
      cases h
  | ok x =>
    constructor
    · intro h
      cases h
      exact ⟨x, rfl, rfl⟩
    · rintro ⟨_, ⟨⟩, rfl⟩
      rfl

/-- A call for each of some values, if all of them return. -/
theorem mapM_eq_ok {f : α → Except ε β} {g : α → β} {l : List α} (h : ∀ x ∈ l, f x = .ok (g x)) :
    l.mapM f = .ok (l.map g) := by
  induction l with
  | nil => rfl
  | cons x l ih =>
    obtain ⟨hx, hl⟩ := List.forall_mem_cons.mp h
    rw [List.mapM_cons, hx, ih hl]
    rfl

end Raising

/-! ## Slices -/

theorem slice_length (data : Bytes) {a b : Nat} (hab : a ≤ b) (hb : b ≤ data.length) :
    (slice data a b).length = b - a := by
  simp only [slice, List.length_take, List.length_drop]
  omega

/-- A slice that ends inside the first string does not see the second. -/
theorem slice_append (data rest : Bytes) {a b : Nat} (hb : b ≤ data.length) :
    slice (data ++ rest) a b = slice data a b := by
  unfold slice
  by_cases ha : a ≤ data.length
  · rw [List.drop_append_of_le_length ha, List.take_append_of_le_length]
    rw [List.length_drop]
    omega
  · have hempty : b - a = 0 := by omega
    rw [hempty, List.take_zero, List.take_zero]

/-- The rest of a string after `a` is the slice up to `b`, then the rest after `b`. -/
theorem drop_eq_slice_append (data : Bytes) {a b : Nat} (hab : a ≤ b) :
    data.drop a = slice data a b ++ data.drop b := by
  have hb : data.drop b = (data.drop a).drop (b - a) := by
    rw [List.drop_drop]
    congr 1
    omega
  rw [hb, slice, List.take_append_drop]

/-- Reading the byte at an in-range offset splits the rest of the string. -/
theorem drop_eq_getD_cons (data : Bytes) {a : Nat} (ha : a < data.length) :
    data.drop a = data.getD a 0 :: data.drop (a + 1) := by
  rw [List.drop_eq_getElem_cons ha, List.getD_eq_getElem?_getD, List.getElem?_eq_getElem ha]
  rfl

end EdgeSensor.Py
