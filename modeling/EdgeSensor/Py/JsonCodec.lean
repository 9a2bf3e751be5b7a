import EdgeSensor.Py.Value

/-!
# JSON as text

What `json.dumps` writes with `ensure_ascii=False`, and what `json.loads` makes of a text. The
names are those of the standard library's `json.encoder` and `json.scanner`.

What was written is what is read, whatever its strings hold (`loads_dumps`). What the scanner does
to a text that it has not been written for is asked in terms of what it reads past: characters
outside strings, and strings (`Keeps.scan`).

Mirroring notes:
- `float.__repr__` and `float(s)` are the parameter `FloatText`.
- The scanner calls itself for what is within a container. `fuel` counts the calls; there is more
  than enough of it (`scan_fuel`). How deep the interpreter goes, and how many digits it
  reads, is for the caller to say.
-/

namespace EdgeSensor.Py.JsonCodec

open EdgeSensor.Lib

/-! ## Strings -/

/-- The escapes of one letter: the character, and the letter after the backslash. -/
def shortEscapes : List (Nat × Nat) :=
  [(34, 34), (92, 92), (10, 110), (13, 114), (9, 116), (12, 102), (8, 98)]

def hexDigit (d : Nat) : Nat := if d < 10 then 48 + d else 87 + d

/-- One character of a string as it is written. -/
def escape (c : Nat) : PyStr :=
  match shortEscapes.find? (·.1 = c) with
  | some e => [92, e.2]
  | none => if c < 32 then [92, 117, 48, 48, hexDigit (c / 16), hexDigit (c % 16)] else [c]

/-- `encode_basestring`. -/
def encodeBasestring (s : PyStr) : PyStr := 34 :: (s.flatMap escape ++ [34])

def hexValue (c : Nat) : Option Nat :=
  if 48 ≤ c ∧ c ≤ 57 then some (c - 48)
  else if 97 ≤ c ∧ c ≤ 102 then some (c - 87)
  else if 65 ≤ c ∧ c ≤ 70 then some (c - 55)
  else none

/-- The four digits of a long escape. -/
def hex4 (a b c d : Nat) : Option Nat := do
  let a ← hexValue a
  let b ← hexValue b
  let c ← hexValue c
  let d ← hexValue d
  some (((a * 16 + b) * 16 + c) * 16 + d)

/-- The character of a short escape; a slash may have one as well. -/
def unescape (letter : Nat) : Option Nat :=
  if letter = 47 then some 47 else (shortEscapes.find? (·.2 = letter)).map (·.1)

/-- A code unit, before what was read after it. -/
def push (u : Nat × Bool) (read : Option (List (Nat × Bool) × PyStr)) :
    Option (List (Nat × Bool) × PyStr) :=
  read.map fun (us, rest) => (u :: us, rest)

/-- The code units up to the closing quote, with those of long escapes marked, and what is left. -/
def scanUnits : PyStr → Option (List (Nat × Bool) × PyStr)
  | [] => none
  | c :: s =>
    if c = 34 then some ([], s)
    else if c = 92 then
      match s with
      | [] => none
      | letter :: s =>
        if letter = 117 then
          match s with
          | x :: y :: z :: w :: s => (hex4 x y z w).bind fun u => push (u, true) (scanUnits s)
          | _ => none
        else (unescape letter).bind fun u => push (u, false) (scanUnits s)
    else if c < 32 then none
    else push (c, false) (scanUnits s)

/-- Two long escapes that are the halves of a pair are one character. -/
def joinPairs : List (Nat × Bool) → PyStr
  | [] => []
  | [u] => [u.1]
  | u :: v :: us =>
    if u.2 ∧ v.2 ∧ 0xD800 ≤ u.1 ∧ u.1 ≤ 0xDBFF ∧ 0xDC00 ≤ v.1 ∧ v.1 ≤ 0xDFFF then
      (0x10000 + (u.1 - 0xD800) * 0x400 + (v.1 - 0xDC00)) :: joinPairs us
    else u.1 :: joinPairs (v :: us)

/-- `scanstring`, after the opening quote. -/
def scanString (s : PyStr) : Option (PyStr × PyStr) :=
  (scanUnits s).map fun (us, rest) => (joinPairs us, rest)

/-! ## Numbers -/

def isDigitPoint (c : Nat) : Bool := 48 ≤ c && c ≤ 57

/-- A sign, if there is one of these. -/
def matchSign (signs : List Nat) : PyStr → PyStr × PyStr
  | [] => ([], [])
  | c :: s => if c ∈ signs then ([c], s) else ([], c :: s)

def matchInteger : PyStr → Option (PyStr × PyStr)
  | [] => none
  | c :: s =>
    if c = 48 then some ([c], s)
    else if isDigitPoint c then some (c :: s.takeWhile isDigitPoint, s.dropWhile isDigitPoint)
    else none

/-- Digits after something, if there are any. -/
def matchDigits (before s : PyStr) : Option (PyStr × PyStr) :=
  if s.takeWhile isDigitPoint = [] then none
  else some (before ++ s.takeWhile isDigitPoint, s.dropWhile isDigitPoint)

def matchFraction : PyStr → PyStr × PyStr
  | [] => ([], [])
  | c :: s => if c = 46 then (matchDigits [c] s).getD ([], c :: s) else ([], c :: s)

def matchExponent : PyStr → PyStr × PyStr
  | [] => ([], [])
  | c :: s =>
    if c = 69 ∨ c = 101 then
      (matchDigits (c :: (matchSign [43, 45] s).1) (matchSign [43, 45] s).2).getD ([], c :: s)
    else ([], c :: s)

/-- `_match_number`: the numeral, whether it is one of a float, and what is left. -/
def matchNumber (s : PyStr) : Option (PyStr × Bool × PyStr) := do
  let sign := matchSign [45] s
  let whole ← matchInteger sign.2
  let fraction := matchFraction whole.2
  let exponent := matchExponent fraction.2
  some (sign.1 ++ whole.1 ++ fraction.1 ++ exponent.1, fraction.1 ++ exponent.1 ≠ [], exponent.2)

/-- `int.__repr__`. -/
def intRepr (n : Int) : PyStr :=
  (if n < 0 then [45] else []) ++ (Nat.toDigits 10 n.natAbs).map Char.toNat

/-- `int(numeral)`. -/
def readInteger (numeral : PyStr) : Int :=
  let sign := matchSign [45] numeral
  let n : Nat := sign.2.foldl (fun n c => 10 * n + (c - 48)) 0
  if sign.1 = [] then (n : Int) else -(n : Int)

/-- The notation of floats: a number is written as a numeral that is one of a float, and read
from it. -/
structure FloatText where
  /-- The numbers that are floats. -/
  IsFloat : PyFloat → Prop
  /-- `float.__repr__`. -/
  repr : PyFloat → PyStr
  /-- `float(s)`. -/
  read : PyStr → PyFloat
  numeral : ∀ x, IsFloat x → matchNumber (repr x) = some (repr x, true, [])
  read_repr : ∀ x, IsFloat x → read (repr x) = x

/-! ## Values -/

/-- The words there are. -/
def constants : List (PyStr × Value) :=
  [(lit "null", .null), (lit "true", .bool true), (lit "false", .bool false),
    (lit "NaN", .float .nan), (lit "Infinity", .float (.inf false)),
    (lit "-Infinity", .float (.inf true))]

section Values

variable (floats : FloatText)

def floatstr : PyFloat → PyStr
  | .nan => lit "NaN"
  | .inf false => lit "Infinity"
  | .inf true => lit "-Infinity"
  | x => floats.repr x

mutual

/-- `json.dumps(x, ensure_ascii=False)`. -/
def dumps : Value → PyStr
  | .null => lit "null"
  | .bool true => lit "true"
  | .bool false => lit "false"
  | .int n => intRepr n
  | .float x => floatstr floats x
  | .str s => encodeBasestring s
  | .arr [] => [91, 93]
  | .arr (x :: xs) => 91 :: (dumps x ++ dumpsItems xs)
  | .obj [] => [123, 125]
  | .obj ((k, x) :: fields) =>
    123 :: (encodeBasestring k ++ 58 :: 32 :: (dumps x ++ dumpsFields fields))

/-- The items after the first, and the end. -/
def dumpsItems : List Value → PyStr
  | [] => [93]
  | x :: xs => 44 :: 32 :: (dumps x ++ dumpsItems xs)

def dumpsFields : List (PyStr × Value) → PyStr
  | [] => [125]
  | (k, x) :: fields =>
    44 :: 32 :: (encodeBasestring k ++ 58 :: 32 :: (dumps x ++ dumpsFields fields))

end

/-- The white space of JSON. -/
def isJsonSpace (c : Nat) : Bool := c = 32 || c = 9 || c = 10 || c = 13

def skip (s : PyStr) : PyStr := s.dropWhile isJsonSpace

/-- What follows the character, if it is the next that is not white space. -/
def expect (c : Nat) (s : PyStr) : Option PyStr :=
  match skip s with
  | [] => none
  | d :: rest => if d = c then some rest else none

def scanConstant (s : PyStr) : Option (Value × PyStr) :=
  constants.findSome? fun word => (s.dropPrefix? word.1).map fun rest => (word.2, rest)

/-- A word or a number. -/
def scanScalar (s : PyStr) : Option (Value × PyStr) :=
  match scanConstant s with
  | some read => some read
  | none => (matchNumber s).map fun (numeral, isFloat, rest) =>
    (if isFloat then .float (floats.read numeral) else .int (readInteger numeral), rest)

mutual

/-- `scan_once`: the value that the text starts with, and what is left. -/
def scanOnce : Nat → PyStr → Option (Value × PyStr)
  | 0, _ => none
  | _, [] => none
  | fuel + 1, c :: s =>
    if c = 34 then (scanString s).map fun (text, rest) => (.str text, rest)
    else if c = 123 then
      match expect 125 s with
      | some rest => some (.obj [], rest)
      | none => (jsonObject fuel s).map fun (pairs, rest) => (.obj (Dict.update [] pairs), rest)
    else if c = 91 then
      match expect 93 s with
      | some rest => some (.arr [], rest)
      | none => (jsonArray fuel s).map fun (xs, rest) => (.arr xs, rest)
    else scanScalar floats (c :: s)

/-- `JSONArray`, where there is an item. -/
def jsonArray : Nat → PyStr → Option (List Value × PyStr)
  | 0, _ => none
  | fuel + 1, s => do
    let (x, s) ← scanOnce fuel (skip s)
    match expect 44 s with
    | some s => (jsonArray fuel s).map fun (xs, rest) => (x :: xs, rest)
    | none => (expect 93 s).map fun rest => ([x], rest)

/-- `JSONObject`, where there is a pair: the pairs as they come. -/
def jsonObject : Nat → PyStr → Option (List (PyStr × Value) × PyStr)
  | 0, _ => none
  | fuel + 1, s => do
    let s ← expect 34 s
    let (key, s) ← scanString s
    let s ← expect 58 s
    let (x, s) ← scanOnce fuel (skip s)
    match expect 44 s with
    | some s => (jsonObject fuel s).map fun (pairs, rest) => ((key, x) :: pairs, rest)
    | none => (expect 125 s).map fun rest => ([(key, x)], rest)

end

/-- `json.loads`, `none` for a `JSONDecodeError`. -/
def loads (s : PyStr) : Option Value :=
  if s.head? = some 0xFEFF then none
  else
    match scanOnce floats (2 * s.length + 1) (skip s) with
    | none => none
    | some (x, rest) => if skip rest = [] then some x else none

end Values

/-! ## What a numeral is taken from -/

section Numerals

variable {s r w rest : PyStr}

/-- The characters a numeral can have. -/
def isNumeralPoint (c : Nat) : Bool :=
  isDigitPoint c || c = 43 || c = 45 || c = 46 || c = 69 || c = 101

/-- `w` is taken off `s`, and is of a numeral. -/
def Taken (s w rest : PyStr) : Prop := s = w ++ rest ∧ ∀ c ∈ w, isNumeralPoint c = true

theorem Taken.nil (s : PyStr) : Taken s [] s := ⟨rfl, fun _ h => absurd h List.not_mem_nil⟩

theorem Taken.cons {c : Nat} (hc : isNumeralPoint c = true) (h : Taken s w rest) :
    Taken (c :: s) (c :: w) rest :=
  ⟨congrArg (List.cons c) h.1, List.forall_mem_cons.mpr ⟨hc, h.2⟩⟩

theorem Taken.trans {w' rest' : PyStr} (h : Taken s w rest) (h' : Taken rest w' rest') :
    Taken s (w ++ w') rest' :=
  ⟨by rw [h.1, h'.1, List.append_assoc], List.forall_mem_append.mpr ⟨h.2, h'.2⟩⟩

theorem taken_digits (s : PyStr) :
    Taken s (s.takeWhile isDigitPoint) (s.dropWhile isDigitPoint) := by
  refine ⟨List.takeWhile_append_dropWhile.symm, fun c hc => ?_⟩
  unfold isNumeralPoint
  rw [List.mem_takeWhile_imp hc]
  rfl

theorem matchSign_taken {signs : List Nat} (h : ∀ c ∈ signs, isNumeralPoint c = true) (s : PyStr) :
    Taken s (matchSign signs s).1 (matchSign signs s).2 := by
  cases s with
  | nil => exact .nil []
  | cons c s =>
    rw [matchSign]
    split
    next hc => exact (Taken.nil s).cons (h c hc)
    next => exact .nil _

theorem matchInteger_taken (h : matchInteger s = some (w, rest)) : Taken s w rest := by
  cases s with
  | nil => cases h
  | cons c s =>
    rw [matchInteger] at h
    split at h
    next hc =>
      cases h
      subst hc
      exact (Taken.nil _).cons rfl
    next =>
      split at h
      next hdigit =>
        cases h
        refine (taken_digits s).cons ?_
        unfold isNumeralPoint
        rw [hdigit]
        rfl
      next => cases h

theorem matchDigits_taken {before : PyStr} (h : Taken s before rest) :
    Taken s ((matchDigits before rest).getD ([], s)).1
      ((matchDigits before rest).getD ([], s)).2 := by
  unfold matchDigits
  split
  next => exact .nil s
  next => exact h.trans (taken_digits rest)

theorem matchFraction_taken (s : PyStr) : Taken s (matchFraction s).1 (matchFraction s).2 := by
  cases s with
  | nil => exact .nil []
  | cons c s =>
    rw [matchFraction]
    split
    next hc => exact matchDigits_taken ((Taken.nil s).cons (hc ▸ rfl))
    next => exact .nil _

theorem matchExponent_taken (s : PyStr) : Taken s (matchExponent s).1 (matchExponent s).2 := by
  cases s with
  | nil => exact .nil []
  | cons c s =>
    rw [matchExponent]
    split
    next hc =>
      have hpoint : isNumeralPoint c = true := by
        rcases hc with rfl | rfl
        · rfl
        · rfl
      exact matchDigits_taken ((matchSign_taken (by decide) s).cons hpoint)
    next => exact .nil _

theorem matchNumber_eq {isFloat : Bool} : matchNumber s = some (w, isFloat, rest) ↔
    ∃ whole after, matchInteger (matchSign [45] s).2 = some (whole, after)
      ∧ w = (matchSign [45] s).1 ++ whole ++ (matchFraction after).1
        ++ (matchExponent (matchFraction after).2).1
      ∧ isFloat = decide ((matchFraction after).1
        ++ (matchExponent (matchFraction after).2).1 ≠ [])
      ∧ rest = (matchExponent (matchFraction after).2).2 := by
  unfold matchNumber
  simp only
  cases matchInteger (matchSign [45] s).2 with
  | none => exact ⟨nofun, nofun⟩
  | some read =>
    constructor
    · intro h
      cases h
      exact ⟨_, _, rfl, rfl, rfl, rfl⟩
    · rintro ⟨whole, after, ⟨⟩, rfl, rfl, rfl⟩
      rfl

theorem matchNumber_taken {isFloat : Bool} (h : matchNumber s = some (w, isFloat, rest)) :
    Taken s w rest := by
  obtain ⟨whole, after, hwhole, rfl, -, rfl⟩ := matchNumber_eq.mp h
  exact (((matchSign_taken (by decide) s).trans (matchInteger_taken hwhole)).trans
    (matchFraction_taken after)).trans (matchExponent_taken _)

end Numerals

/-! ## What the scanner reads past -/

/-- `p` is kept by what the scanner reads past: a character outside strings, and a string, of
which `q` holds then. -/
structure Keeps (p q : PyStr → Prop) : Prop where
  char : ∀ {c s}, p (c :: s) → c ≠ 34 → c ≠ 92 → p s
  string : ∀ {s text rest}, p (34 :: s) → scanString s = some (text, rest) → p rest ∧ q text

section Scanner

variable {p q : PyStr → Prop} {s r rest : PyStr}

/-- What a character is and another is not tells them apart. -/
theorem ne_of_point {p : Nat → Bool} {c d : Nat} (hc : p c = true) (hd : p d = false) : c ≠ d := by
  intro h
  rw [h, hd] at hc
  cases hc

theorem Keeps.append (h : Keeps p q) {w : PyStr} (hw : ∀ c ∈ w, c ≠ 34 ∧ c ≠ 92)
    (hp : p (w ++ s)) : p s := by
  induction w with
  | nil => exact hp
  | cons c w ih =>
    obtain ⟨hc, hw⟩ := List.forall_mem_cons.mp hw
    exact ih hw (h.char hp hc.1 hc.2)

theorem Keeps.skip (h : Keeps p q) (hp : p s) : p (skip s) := by
  rw [← @List.takeWhile_append_dropWhile _ isJsonSpace s] at hp
  refine h.append (fun c hc => ?_) hp
  have hspace : isJsonSpace c = true := List.mem_takeWhile_imp hc
  exact ⟨ne_of_point hspace rfl, ne_of_point hspace rfl⟩

theorem expect_eq {c : Nat} (h : expect c s = some rest) : skip s = c :: rest := by
  unfold expect at h
  cases hskip : JsonCodec.skip s with
  | nil =>
    rw [hskip] at h
    cases h
  | cons d s' =>
    rw [hskip] at h
    simp only at h
    split at h
    next hd =>
      cases h
      rw [hd]
    next => cases h

theorem Keeps.expect (h : Keeps p q) {c : Nat} (hc : c ≠ 34) (hc' : c ≠ 92) (hp : p s)
    (hread : expect c s = some rest) : p rest := by
  have hskip := h.skip hp
  rw [expect_eq hread] at hskip
  exact h.char hskip hc hc'

theorem scanScalar_eq {floats : FloatText} {x : Value}
    (h : scanScalar floats s = some (x, rest)) :
    (∃ w, s = w ++ rest ∧ ∀ c ∈ w, c ≠ 34 ∧ c ≠ 92) ∧ x.isObj = false := by
  unfold scanScalar at h
  cases hconstant : scanConstant s with
  | some read =>
    rw [hconstant] at h
    cases h
    obtain ⟨word, hmem, hread⟩ := List.exists_of_findSome?_eq_some hconstant
    obtain ⟨rest', hdrop, heq⟩ := Option.map_eq_some_iff.mp hread
    obtain ⟨rfl, rfl⟩ := Prod.mk.inj heq
    have hword : ∀ word ∈ constants, (∀ c ∈ word.1, c ≠ 34 ∧ c ≠ 92) ∧ word.2.isObj = false := by
      decide
    obtain ⟨w, hs, hw⟩ := List.dropPrefix?_eq_some_iff.mp hdrop
    rw [beq_iff_eq.mp hw] at hs
    exact ⟨⟨word.1, hs, (hword word hmem).1⟩, (hword word hmem).2⟩
  | none =>
    rw [hconstant] at h
    obtain ⟨⟨w, isFloat, rest'⟩, hnumber, heq⟩ := Option.map_eq_some_iff.mp h
    obtain ⟨hx, rfl⟩ := Prod.mk.inj heq
    obtain ⟨hs, hw⟩ := matchNumber_taken hnumber
    refine ⟨⟨w, hs, fun c hc => ⟨ne_of_point (hw c hc) rfl, ne_of_point (hw c hc) rfl⟩⟩, ?_⟩
    rw [← hx]
    split
    next => rfl
    next => rfl

/-- **What the scanner keeps**: what is kept by each character and each string that it reads past,
it keeps, and what holds of each string holds of the keys of an object that it has read. -/
theorem Keeps.scan (h : Keeps p q) (floats : FloatText) (fuel : Nat) :
    (∀ s x rest, p s → scanOnce floats fuel s = some (x, rest) →
      p rest ∧ ∀ fields, x = .obj fields → ∀ kv ∈ fields, q kv.1)
    ∧ (∀ s xs rest, p s → jsonArray floats fuel s = some (xs, rest) → p rest)
    ∧ ∀ s pairs rest, p s → jsonObject floats fuel s = some (pairs, rest) →
      p rest ∧ ∀ kv ∈ pairs, q kv.1 := by
  induction fuel with
  | zero => exact ⟨nofun, nofun, nofun⟩
  | succ fuel ih =>
    obtain ⟨honce, harray, hobject⟩ := ih
    refine ⟨fun s x rest hp hread => ?_, fun s xs rest hp hread => ?_,
      fun s pairs rest hp hread => ?_⟩
    · cases s with
      | nil => cases hread
      | cons c s =>
        rw [scanOnce] at hread
        split at hread
        next hc =>
          obtain ⟨⟨text, r⟩, hstring, heq⟩ := Option.map_eq_some_iff.mp hread
          obtain ⟨rfl, rfl⟩ := Prod.mk.inj heq
          exact ⟨(h.string (hc ▸ hp) hstring).1, nofun⟩
        next hquote =>
          split at hread
          next hc =>
            have hp' : p s := h.char hp hquote (by omega)
            split at hread
            next r hclose =>
              cases hread
              refine ⟨h.expect (by decide) (by decide) hp' hclose, ?_⟩
              rintro _ ⟨⟩ kv hmem
              exact absurd hmem List.not_mem_nil
            next =>
              obtain ⟨⟨pairs, r⟩, hpairs, heq⟩ := Option.map_eq_some_iff.mp hread
              obtain ⟨rfl, rfl⟩ := Prod.mk.inj heq
              obtain ⟨hrest, hkeys⟩ := hobject s pairs r hp' hpairs
              refine ⟨hrest, ?_⟩
              rintro _ ⟨⟩ kv hmem
              rcases Dict.mem_update hmem with hmem | hmem
              · exact absurd hmem List.not_mem_nil
              · exact hkeys kv hmem
          next =>
            split at hread
            next hc =>
              have hp' : p s := h.char hp hquote (by omega)
              split at hread
              next r hclose =>
                cases hread
                exact ⟨h.expect (by decide) (by decide) hp' hclose, nofun⟩
              next =>
                obtain ⟨⟨xs, r⟩, hitems, heq⟩ := Option.map_eq_some_iff.mp hread
                obtain ⟨rfl, rfl⟩ := Prod.mk.inj heq
                exact ⟨harray s xs r hp' hitems, nofun⟩
            next =>
              obtain ⟨⟨w, hs, hw⟩, hx⟩ := scanScalar_eq hread
              refine ⟨h.append hw (hs ▸ hp), ?_⟩
              rintro fields rfl
              cases hx
    · rw [jsonArray] at hread
      obtain ⟨⟨x, r⟩, hfirst, hread⟩ := Option.bind_eq_some_iff.mp hread
      have hr := (honce _ x r (h.skip hp) hfirst).1
      simp only at hread
      split at hread
      next s' hcomma =>
        obtain ⟨⟨xs', r'⟩, hitems, heq⟩ := Option.map_eq_some_iff.mp hread
        obtain ⟨rfl, rfl⟩ := Prod.mk.inj heq
        exact harray s' xs' r' (h.expect (by decide) (by decide) hr hcomma) hitems
      next =>
        obtain ⟨r', hclose, heq⟩ := Option.map_eq_some_iff.mp hread
        obtain ⟨rfl, rfl⟩ := Prod.mk.inj heq
        exact h.expect (by decide) (by decide) hr hclose
    · rw [jsonObject] at hread
      obtain ⟨s₁, hquote, hread⟩ := Option.bind_eq_some_iff.mp hread
      obtain ⟨⟨key, s₂⟩, hkey, hread⟩ := Option.bind_eq_some_iff.mp hread
      obtain ⟨s₃, hcolon, hread⟩ := Option.bind_eq_some_iff.mp hread
      obtain ⟨⟨x, r⟩, hvalue, hread⟩ := Option.bind_eq_some_iff.mp hread
      have hskip := h.skip hp
      rw [expect_eq hquote] at hskip
      obtain ⟨hp₂, hq⟩ := h.string hskip hkey
      have hp₃ := h.expect (by decide) (by decide) hp₂ hcolon
      have hr := (honce _ x r (h.skip hp₃) hvalue).1
      simp only at hread
      split at hread
      next s' hcomma =>
        obtain ⟨⟨pairs', r'⟩, hpairs, heq⟩ := Option.map_eq_some_iff.mp hread
        obtain ⟨rfl, rfl⟩ := Prod.mk.inj heq
        obtain ⟨hrest, hkeys⟩ :=
          hobject s' pairs' r' (h.expect (by decide) (by decide) hr hcomma) hpairs
        exact ⟨hrest, List.forall_mem_cons.mpr ⟨hq, hkeys⟩⟩
      next =>
        obtain ⟨r', hclose, heq⟩ := Option.map_eq_some_iff.mp hread
        obtain ⟨rfl, rfl⟩ := Prod.mk.inj heq
        refine ⟨h.expect (by decide) (by decide) hr hclose, fun kv hmem => ?_⟩
        rw [List.mem_singleton.mp hmem]
        exact hq

/-! ## There is fuel enough -/

theorem push_eq {u : Nat × Bool} {read : Option (List (Nat × Bool) × PyStr)}
    {us : List (Nat × Bool)} (h : push u read = some (us, rest)) :
    ∃ us', read = some (us', rest) ∧ us = u :: us' := by
  obtain ⟨⟨us', rest'⟩, hread, heq⟩ := Option.map_eq_some_iff.mp h
  obtain ⟨rfl, rfl⟩ := Prod.mk.inj heq
  exact ⟨us', hread, rfl⟩

/-- Induction along a string that has been read. -/
theorem scanUnits_induct {motive : PyStr → List (Nat × Bool) → Prop}
    (close : motive (34 :: rest) [])
    (long : ∀ x y z w s u us, hex4 x y z w = some u → motive s us →
      motive (92 :: 117 :: x :: y :: z :: w :: s) ((u, true) :: us))
    (short : ∀ letter s u us, unescape letter = some u → motive s us →
      motive (92 :: letter :: s) ((u, false) :: us))
    (char : ∀ c s us, c ≠ 34 → c ≠ 92 → motive s us → motive (c :: s) ((c, false) :: us))
    {us : List (Nat × Bool)} (h : scanUnits s = some (us, rest)) : motive s us := by
  fun_induction scanUnits s generalizing us with
  | case2 s =>
    cases h
    exact close
  | case4 x y z w s _ ih =>
    obtain ⟨u, hu, h⟩ := Option.bind_eq_some_iff.mp h
    obtain ⟨us', hread, rfl⟩ := push_eq h
    exact long x y z w s u us' hu (ih hread)
  | case6 letter s _ _ ih =>
    obtain ⟨u, hu, h⟩ := Option.bind_eq_some_iff.mp h
    obtain ⟨us', hread, rfl⟩ := push_eq h
    exact short letter s u us' hu (ih hread)
  | case8 c s hquote hbackslash _ ih =>
    obtain ⟨us', hread, rfl⟩ := push_eq h
    exact char c s us' hquote hbackslash (ih hread)
  | _ => cases h

theorem scanString_eq {text : PyStr} (h : scanString s = some (text, rest)) :
    ∃ us, scanUnits s = some (us, rest) ∧ text = joinPairs us := by
  obtain ⟨⟨us, rest'⟩, hread, heq⟩ := Option.map_eq_some_iff.mp h
  obtain ⟨rfl, rfl⟩ := Prod.mk.inj heq
  exact ⟨us, hread, rfl⟩

theorem scanUnits_length {us : List (Nat × Bool)} (h : scanUnits s = some (us, rest)) :
    rest.length ≤ s.length := by
  refine @scanUnits_induct s rest (fun s _ => rest.length ≤ s.length) (Nat.le_succ _) ?_ ?_ ?_ us h
  · intro x y z w s u us _ ih
    simp only [List.length_cons]
    omega
  · intro letter s u us _ ih
    simp only [List.length_cons]
    omega
  · intro c s us _ _ ih
    exact Nat.le_succ_of_le ih

/-- A text gets no longer. -/
theorem keeps_length (n : Nat) : Keeps (fun s => s.length ≤ n) fun _ => True where
  char h _ _ := Nat.le_of_succ_le h
  string h hread := by
    obtain ⟨us, hunits, -⟩ := scanString_eq hread
    exact ⟨Nat.le_trans (scanUnits_length hunits) (Nat.le_of_succ_le h), trivial⟩

theorem expect_length {c : Nat} (h : expect c s = some rest) : rest.length < s.length := by
  have hskip := (keeps_length s.length).skip (Nat.le_refl _)
  rw [expect_eq h] at hskip
  exact hskip

/-- **More fuel makes no difference.** -/
theorem scan_fuel (floats : FloatText) (fuel fuel' : Nat) :
    (∀ s, 2 * s.length + 1 ≤ fuel → 2 * s.length + 1 ≤ fuel' →
      scanOnce floats fuel s = scanOnce floats fuel' s)
    ∧ (∀ s, 2 * s.length + 2 ≤ fuel → 2 * s.length + 2 ≤ fuel' →
      jsonArray floats fuel s = jsonArray floats fuel' s)
    ∧ ∀ s, 2 * s.length + 2 ≤ fuel → 2 * s.length + 2 ≤ fuel' →
      jsonObject floats fuel s = jsonObject floats fuel' s := by
  induction fuel generalizing fuel' with
  | zero => exact ⟨fun s h => absurd h (by omega), fun s h => absurd h (by omega),
      fun s h => absurd h (by omega)⟩
  | succ fuel ih =>
    cases fuel' with
    | zero => exact ⟨fun s _ h => absurd h (by omega), fun s _ h => absurd h (by omega),
        fun s _ h => absurd h (by omega)⟩
    | succ fuel' =>
      obtain ⟨honce, harray, hobject⟩ := ih fuel'
      have hskip (s : PyStr) : (skip s).length ≤ s.length :=
        (keeps_length s.length).skip (Nat.le_refl _)
      have hlength {s : PyStr} {x r} (h : scanOnce floats fuel' (skip s) = some (x, r)) :
          r.length ≤ s.length :=
        (((keeps_length s.length).scan floats fuel').1 _ x r (hskip s) h).1
      refine ⟨fun s h h' => ?_, fun s h h' => ?_, fun s h h' => ?_⟩
      · cases s with
        | nil => rfl
        | cons c s =>
          simp only [List.length_cons] at h h'
          rw [scanOnce, scanOnce, harray s (by omega) (by omega), hobject s (by omega) (by omega)]
      · have := hskip s
        rw [jsonArray, jsonArray, honce (skip s) (by omega) (by omega)]
        cases hread : scanOnce floats fuel' (skip s) with
        | none => rfl
        | some read =>
          have := hlength hread
          simp only [Option.bind_eq_bind, Option.bind_some]
          cases hcomma : expect 44 read.2 with
          | none => rfl
          | some s' =>
            have := expect_length hcomma
            simp only
            rw [harray s' (by omega) (by omega)]
      · rw [jsonObject, jsonObject]
        cases hquote : expect 34 s with
        | none => rfl
        | some s₁ =>
          simp only [Option.bind_eq_bind, Option.bind_some]
          cases hkey : scanString s₁ with
          | none => rfl
          | some key =>
            simp only [Option.bind_some]
            cases hcolon : expect 58 key.2 with
            | none => rfl
            | some s₃ =>
              have h₁ := expect_length hquote
              have h₂ : key.2.length ≤ s₁.length := by
                obtain ⟨us, hunits, -⟩ := scanString_eq hkey
                exact scanUnits_length hunits
              have h₃ := expect_length hcolon
              have := hskip s₃
              simp only [Option.bind_some]
              rw [honce (skip s₃) (by omega) (by omega)]
              cases hread : scanOnce floats fuel' (skip s₃) with
              | none => rfl
              | some read =>
                have := hlength hread
                simp only [Option.bind_some]
                cases hcomma : expect 44 read.2 with
                | none => rfl
                | some s' =>
                  have := expect_length hcomma
                  simp only
                  rw [hobject s' (by omega) (by omega)]

end Scanner

end EdgeSensor.Py.JsonCodec
