import EdgeSensor.Lib.Dict
import EdgeSensor.Py.Bytes
import Mathlib.Data.List.DropRight
import Mathlib.Data.Rat.Defs

/-!
# Parsed JSON from outside

What `json.loads` makes of a line that someone else wrote. Two things can be in it that
`Json` leaves out, because the agent's own files never hold them: a float that is no
number (`1e999` reads as infinity), and a string with half of a surrogate pair (the escape
of U+D800 on its own). The first has no integer part, the second no UTF-8.

Mirroring notes:
- A string is its code points, surrogates included, as Python's is.
- `json.dumps` gives up (`RecursionError`) on containers nested too deep; how deep is too
  deep depends on the interpreter and is for the caller to say. `depth` counts.
-/

namespace EdgeSensor.Py

open EdgeSensor.Lib

/-- A Python string, code point by code point. -/
abbrev PyStr := List Nat

instance : LawfulBEq PyStr := inferInstance

/-- A string literal. -/
def lit (s : String) : PyStr := s.toList.map Char.toNat

/-- Half of a surrogate pair. -/
def isSurrogate (c : Nat) : Bool := 0xD800 ≤ c && c ≤ 0xDFFF

/-- `s.encode("utf-8")` succeeds. -/
def PyStr.encodable (s : PyStr) : Bool := s.all fun c => !isSurrogate c

/-- What Lean's strings hold is never half of a pair. -/
theorem encodable_lit (s : String) : (lit s).encodable = true := by
  unfold PyStr.encodable lit
  rw [List.all_eq_true]
  intro c hc
  obtain ⟨c, _, rfl⟩ := List.mem_map.mp hc
  have hvalid := c.valid
  rw [isSurrogate, Bool.not_eq_true', Bool.and_eq_false_iff, decide_eq_false_iff_not,
    decide_eq_false_iff_not]
  show ¬ 0xD800 ≤ c.val.toNat ∨ ¬ c.val.toNat ≤ 0xDFFF
  rcases hvalid with h | ⟨h, _⟩
  · exact .inl (Nat.not_le.mpr h)
  · exact .inr (Nat.not_le.mpr h)

theorem encodable_append {s t : PyStr} :
    PyStr.encodable (s ++ t) = (s.encodable && t.encodable) := List.all_append

/-- The white space `str.strip` removes. -/
def isSpacePoint (c : Nat) : Bool :=
  (9 ≤ c && c ≤ 13) || (28 ≤ c && c ≤ 32) || c = 0x85 || c = 0xA0 || c = 0x1680
    || (0x2000 ≤ c && c ≤ 0x200A) || c = 0x2028 || c = 0x2029 || c = 0x202F || c = 0x205F
    || c = 0x3000

/-- `s.strip()`. -/
def PyStr.strip (s : PyStr) : PyStr :=
  ((s.dropWhile isSpacePoint).reverse.dropWhile isSpacePoint).reverse

/-- What has been stripped stays as it is. -/
theorem strip_strip (s : PyStr) : PyStr.strip (PyStr.strip s) = PyStr.strip s := by
  have hstrip : ∀ s : PyStr, PyStr.strip s = (s.dropWhile isSpacePoint).rdropWhile isSpacePoint :=
    fun _ => rfl
  have hfirst : (PyStr.strip s).dropWhile isSpacePoint = PyStr.strip s := by
    rw [List.dropWhile_eq_self_iff]
    intro hlen
    -- the first character is the first that is no space
    have hpre : PyStr.strip s <+: s.dropWhile isSpacePoint := List.rdropWhile_prefix _ _
    have hget := hpre.getElem hlen
    rw [hget]
    exact List.dropWhile_get_zero_not _ _ (Nat.lt_of_lt_of_le hlen hpre.length_le)
  rw [hstrip (PyStr.strip s), hfirst, hstrip s, List.rdropWhile_idempotent]

theorem lit_append (s t : String) : lit (s ++ t) = lit s ++ lit t := by
  unfold lit
  rw [String.toList_append, List.map_append]

theorem lit_toString_eq (n : Nat) : lit (toString n) = (Nat.toDigits 10 n).map Char.toNat := by
  show (Nat.repr n).toList.map Char.toNat = _
  rw [Nat.repr, String.toList_ofList]

/-- There is no space in a number. -/
theorem isSpacePoint_toString (n : Int) : ∀ c ∈ lit (toString n), isSpacePoint c = false := by
  have hnat : ∀ n : Nat, ∀ c ∈ lit (toString n), isSpacePoint c = false := by
    intro n c hc
    rw [lit_toString_eq] at hc
    obtain ⟨d, hd, rfl⟩ := List.mem_map.mp hc
    have hdigit : d.isDigit = true := Nat.isDigit_of_mem_toDigits (by decide) (by decide) hd
    have hrange : 48 ≤ d.toNat ∧ d.toNat ≤ 57 := by
      simpa [Char.isDigit, UInt32.le_iff_toNat_le] using hdigit
    unfold isSpacePoint
    simp only [Bool.or_eq_false_iff, Bool.and_eq_false_iff, decide_eq_false_iff_not]
    omega
  cases n with
  | ofNat n => exact hnat n
  | negSucc n =>
    intro c hc
    have htext : lit (toString (Int.negSucc n)) = lit "-" ++ lit (toString (n + 1)) := lit_append _ _
    rw [htext] at hc
    rcases List.mem_append.mp hc with hminus | hdigits
    · rw [List.mem_singleton.mp hminus]
      rfl
    · exact hnat (n + 1) c hdigits

/-- A Python float. -/
inductive PyFloat where
  | finite (q : Rat)
  | negZero
  | inf (negative : Bool)
  | nan
  deriving DecidableEq

/-- A parsed JSON value. -/
inductive Value where
  | null
  | bool (b : Bool)
  | int (n : Int)
  | float (x : PyFloat)
  | str (s : PyStr)
  | arr (xs : List Value)
  | obj (fields : List (PyStr × Value))

namespace Value

/-- `bool(x)`. -/
def truthy : Value → Bool
  | .null => false
  | .bool b => b
  | .int n => n ≠ 0
  | .float x => x ≠ .finite 0 && x ≠ .negZero
  | .str s => !s.isEmpty
  | .arr xs => !xs.isEmpty
  | .obj fields => !fields.isEmpty

/-- An infinite float. -/
def isInfinite : Value → Bool
  | .float (.inf _) => true
  | _ => false

/-- `isinstance(x, str)`. -/
def isStr : Value → Bool
  | .str _ => true
  | _ => false

/-- `isinstance(x, dict)`. -/
def isObj : Value → Bool
  | .obj _ => true
  | _ => false

/-- `d.get(key)`, and `d.get(key, default)`, of a dict; of anything else nothing is asked. -/
def getD (v : Value) (key : String) (default : Value) : Value :=
  match v with
  | .obj fields => (Dict.get? fields (lit key)).getD default
  | _ => default

/-- `d.get(key)`. -/
def get (x : Value) (key : String) : Value := x.getD key .null

mutual

/-- How many containers lie within one another. -/
def depth : Value → Nat
  | .arr xs => depthList xs + 1
  | .obj fields => depthFields fields + 1
  | _ => 0

def depthList : List Value → Nat
  | [] => 0
  | x :: xs => max x.depth (depthList xs)

def depthFields : List (PyStr × Value) → Nat
  | [] => 0
  | (_, x) :: fields => max x.depth (depthFields fields)

end

mutual

/-- No string in it, and no key, holds half of a surrogate pair. -/
def encodable : Value → Bool
  | .str s => PyStr.encodable s
  | .arr xs => encodableList xs
  | .obj fields => encodableFields fields
  | _ => true

def encodableList : List Value → Bool
  | [] => true
  | x :: xs => x.encodable && encodableList xs

def encodableFields : List (PyStr × Value) → Bool
  | [] => true
  | (k, x) :: fields => PyStr.encodable k && x.encodable && encodableFields fields

end

/-- A number as Python compares it: `True` is 1, and 1 is 1.0. -/
def numeric : Value → Option PyFloat
  | .bool b => some (.finite (if b then 1 else 0))
  | .int n => some (.finite n)
  | .float .negZero => some (.finite 0)
  | .float x => some x
  | _ => none

mutual

/-- `a == b`, of values in containers; the NaN that `json.loads` gives is one object, and the same
as itself. -/
def equal : Value → Value → Bool
  | .null, .null => true
  | .str s, .str t => s = t
  | .arr xs, .arr ys => equalList xs ys
  | .obj fields, .obj fields' => fields.length = fields'.length && equalFields fields fields'
  | a, b =>
    match numeric a, numeric b with
    | some x, some y => x = y
    | _, _ => false

def equalList : List Value → List Value → Bool
  | [], [] => true
  | x :: xs, y :: ys => equal x y && equalList xs ys
  | _, _ => false

/-- Each field is in the other dict, with an equal value. -/
def equalFields : List (PyStr × Value) → List (PyStr × Value) → Bool
  | [], _ => true
  | (key, x) :: fields, other =>
    (match Dict.get? other key with
      | none => false
      | some y => equal x y) && equalFields fields other

end

/-- `for item in x or []`: the items, if `x` has any to go through. -/
def itemsOrNone (x : Value) : Except PyErr (List Value) :=
  if x.truthy then
    match x with
    | .arr xs => .ok xs
    | .str s => .ok (s.map fun c => .str [c])
    | .obj fields => .ok (fields.map fun kv => .str kv.1)
    | _ => .error (.typeError "object is not iterable")
  else .ok []

/-- Python's own texts that a conversion to `str` may need: the notation of floats and
containers, and `lower`. -/
structure Text where
  repr : Value → PyStr
  lower : PyStr → PyStr

/-- `str(x)`. -/
def Text.str (text : Text) : Value → PyStr
  | .null => lit "None"
  | .bool true => lit "True"
  | .bool false => lit "False"
  | .int n => lit (toString n)
  | .str s => s
  | x => text.repr x

/-- `str(x or "").strip().lower()`. -/
def Text.word (text : Text) (x : Value) : PyStr :=
  text.lower (PyStr.strip (if x.truthy then text.str x else []))

/-! ## Fields -/

variable {fields : List (PyStr × Value)} {key : String} {k : PyStr} {x : Value}

theorem depthFields_of_get? (h : Dict.get? fields k = some x) : x.depth ≤ depthFields fields := by
  induction fields with
  | nil => cases h
  | cons kv fields ih =>
    obtain ⟨k', x'⟩ := kv
    rw [Dict.get?] at h
    rw [depthFields]
    split at h
    next =>
      cases h
      exact Nat.le_max_left _ _
    next => exact Nat.le_trans (ih h) (Nat.le_max_right _ _)

theorem encodable_of_get? (henc : encodableFields fields = true)
    (h : Dict.get? fields k = some x) : x.encodable = true := by
  induction fields with
  | nil => cases h
  | cons kv fields ih =>
    obtain ⟨k', x'⟩ := kv
    rw [Dict.get?] at h
    rw [encodableFields, Bool.and_eq_true, Bool.and_eq_true] at henc
    split at h
    next =>
      cases h
      exact henc.1.2
    next => exact ih henc.2 h

theorem le_depthFields {kv : PyStr × Value} (h : kv ∈ fields) : kv.2.depth ≤ depthFields fields := by
  induction fields with
  | nil => exact absurd h List.not_mem_nil
  | cons first fields ih =>
    rw [depthFields]
    rcases List.mem_cons.mp h with rfl | h
    · exact Nat.le_max_left _ _
    · exact Nat.le_trans (ih h) (Nat.le_max_right _ _)

theorem depthFields_le {n : Nat} (h : ∀ kv ∈ fields, kv.2.depth ≤ n) : depthFields fields ≤ n := by
  induction fields with
  | nil => exact Nat.zero_le _
  | cons kv fields ih =>
    rw [depthFields]
    exact Nat.max_le.mpr ⟨h kv List.mem_cons_self, ih fun kv' h' => h kv' (List.mem_cons_of_mem _ h')⟩

/-- An object is one deeper than its deepest field. -/
theorem depth_obj_le {n : Nat} : (Value.obj fields).depth ≤ n + 1 ↔ ∀ kv ∈ fields, kv.2.depth ≤ n := by
  rw [depth, Nat.add_le_add_iff_right]
  exact ⟨fun h kv hkv => Nat.le_trans (le_depthFields hkv) h, depthFields_le⟩

theorem encodableFields_iff :
    encodableFields fields = true
      ↔ ∀ kv ∈ fields, PyStr.encodable kv.1 = true ∧ kv.2.encodable = true := by
  induction fields with
  | nil => exact ⟨fun _ kv h => absurd h List.not_mem_nil, fun _ => rfl⟩
  | cons kv fields ih =>
    rw [encodableFields, Bool.and_eq_true, Bool.and_eq_true, List.forall_mem_cons, ih]

/-- A field is less deep than what it is a field of. -/
theorem depth_getD {v default : Value} (hobj : v.isObj = true) (hdefault : default.depth = 0) :
    (v.getD key default).depth + 1 ≤ v.depth := by
  cases v with
  | obj fields =>
    show ((Dict.get? fields (lit key)).getD default).depth + 1 ≤ depthFields fields + 1
    cases h : Dict.get? fields (lit key) with
    | none =>
      rw [Option.getD_none, hdefault]
      omega
    | some x =>
      have := depthFields_of_get? h
      rw [Option.getD_some]
      omega
  | _ => cases hobj

theorem depth_getD_le {v default : Value} (hdefault : default.depth = 0) :
    (v.getD key default).depth ≤ v.depth := by
  cases v with
  | obj fields =>
    have := @depth_getD key (.obj fields) default rfl hdefault
    omega
  | _ =>
    show default.depth ≤ _
    rw [hdefault]
    exact Nat.zero_le _

/-- A field of what can be written can be written. -/
theorem encodable_getD {v default : Value} (h : v.encodable = true)
    (hdefault : default.encodable = true) : (v.getD key default).encodable = true := by
  cases v with
  | obj fields =>
    show ((Dict.get? fields (lit key)).getD default).encodable = true
    cases hget : Dict.get? fields (lit key) with
    | none => exact hdefault
    | some x => exact encodable_of_get? h hget
  | _ => exact hdefault

/-- A non-empty list is gone through item by item, the empty one too. -/
theorem itemsOrNone_arr (xs : List Value) : (Value.arr xs).itemsOrNone = .ok xs := by
  cases xs with
  | nil => rfl
  | cons x xs => rfl

example : (Value.arr [.arr [], .obj [(lit "a", .null)]]).depth = 2 := by decide

end Value

end EdgeSensor.Py
