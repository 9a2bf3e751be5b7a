import EdgeSensor.Parser.Ber
import Mathlib.Data.Nat.Size

/-!
# BER: the encoding half

`src/parser/l7/iec61850/ber.py`, the helpers that write tag-length-values. Every value
they write is read back by the decoder of `Parser/Ber.lean`: the length forms up to
`0xFFFF` (`lengthOctets_encodeLength`), integers of any size and sign
(`decodeInteger_signed`), ASCII text (`decodeVisibleString_encodeAscii`).

Mirroring notes:
- `value.bit_length()` is the size of the absolute value.
- From `0x10000` on `encode_length` drops the high octets of a length; `encodeLength` does too.
-/

namespace EdgeSensor.Parser.Ber

open EdgeSensor.Py

/-- The last `len` octets of `n`, big end first. -/
def octets : Nat → Nat → Bytes
  | 0, _ => []
  | len + 1, n => octets len (n / 256) ++ [UInt8.ofNat (n % 256)]

/-- `value.to_bytes(len, "big")`. -/
def toBytes (value : Int) (len : Nat) : Except PyErr Bytes :=
  if value < 0 then .error (.overflowError "can't convert negative int to unsigned")
  else if (256 : Int) ^ len ≤ value then .error (.overflowError "int too big to convert")
  else .ok (octets len value.toNat)

/-- `value.to_bytes(len, "big", signed=True)`. -/
def toBytesSigned (value : Int) (len : Nat) : Except PyErr Bytes :=
  if 2 * value < -(256 : Int) ^ len ∨ (256 : Int) ^ len ≤ 2 * value then
    .error (.overflowError "int too big to convert")
  else .ok (octets len (value % 256 ^ len).toNat)

/-- `text.encode("ascii")`. -/
def encodeAscii (text : String) : Except PyErr Bytes :=
  if text.toList.all fun c => c.toNat < 128 then
    .ok (text.toList.map fun c => UInt8.ofNat c.toNat)
  else .error (.unicodeEncodeError "ordinal not in range(128)")

/-- `encode_length`. -/
def encodeLength (length : Nat) : Bytes :=
  if length < 0x80 then [UInt8.ofNat length]
  else if length ≤ 0xFF then [0x81, UInt8.ofNat length]
  else [0x82, UInt8.ofNat ((length >>> 8) &&& 0xFF), UInt8.ofNat (length &&& 0xFF)]

/-- A tag, the length of the value, the value. -/
def tlv (tag : UInt8) (body : Bytes) : Bytes := [tag] ++ encodeLength body.length ++ body

/-- The body that `encode_integer` writes. -/
def integerBody (value : Int) : Except PyErr Bytes :=
  if value = 0 then .ok [0x00]
  else toBytesSigned value (max 1 ((Nat.size value.natAbs + 8) / 8))

/-- `encode_integer`. -/
def encodeInteger (tag : UInt8) (value : Int) : Except PyErr Bytes :=
  (integerBody value).map (tlv tag)

/-- `encode_visible_string`. -/
def encodeVisibleString (tag : UInt8) (text : String) : Except PyErr Bytes :=
  (encodeAscii text).map (tlv tag)

/-- The body that `encode_boolean` writes. -/
def booleanBody (value : Bool) : Bytes := if value then [0xFF] else [0x00]

/-- `encode_boolean`. -/
def encodeBoolean (tag : UInt8) (value : Bool) : Bytes := tlv tag (booleanBody value)

/-! ## Octets -/

@[simp] theorem length_octets (len n : Nat) : (octets len n).length = len := by
  induction len generalizing n with
  | zero => rfl
  | succ len ih => rw [octets, List.length_append, ih, List.length_singleton]

theorem intFromBytes_concat (data : Bytes) (b : UInt8) :
    intFromBytes (data ++ [b]) = intFromBytes data * 256 + b.toNat := by
  unfold intFromBytes
  rw [List.foldl_append]
  rfl

theorem intFromBytes_octets {len n : Nat} (h : n < 256 ^ len) : intFromBytes (octets len n) = n := by
  induction len generalizing n with
  | zero =>
    have hn : n = 0 := by simpa using h
    rw [hn]
    rfl
  | succ len ih =>
    have hhigh : n / 256 < 256 ^ len := by
      rw [Nat.div_lt_iff_lt_mul (by decide), ← Nat.pow_succ]
      exact h
    have hlow : (UInt8.ofNat (n % 256)).toNat = n % 256 :=
      UInt8.toNat_ofNat_of_lt' (Nat.mod_lt n (by decide))
    rw [octets, intFromBytes_concat, ih hhigh, hlow]
    exact Nat.div_add_mod' n 256

theorem toBytes_ok {n len : Nat} (h : n < 256 ^ len) : toBytes n len = .ok (octets len n) := by
  have hfits : ¬ (256 : Int) ^ len ≤ n := by
    rw [not_le]
    exact_mod_cast h
  unfold toBytes
  rw [if_neg (by omega), if_neg hfits, Int.toNat_natCast]

/-- What fits in two's complement comes back from it. -/
theorem intFromBytesSigned_octets {value : Int} {len : Nat} (hlow : -(256 : Int) ^ len ≤ 2 * value)
    (hhigh : 2 * value < (256 : Int) ^ len) :
    intFromBytesSigned (octets len (value % 256 ^ len).toNat) = value := by
  have hpos : (0 : Int) < 256 ^ len := Int.pow_pos (by decide)
  have hmod : 0 ≤ value % 256 ^ len := Int.emod_nonneg _ (ne_of_gt hpos)
  have hlt : value % 256 ^ len < 256 ^ len := Int.emod_lt_of_pos _ hpos
  have hread : intFromBytes (octets len (value % 256 ^ len).toNat) = (value % 256 ^ len).toNat := by
    refine intFromBytes_octets ?_
    have hcast : ((value % 256 ^ len).toNat : Int) < ((256 ^ len : Nat) : Int) := by
      rw [Int.toNat_of_nonneg hmod]
      exact_mod_cast hlt
    exact_mod_cast hcast
  have hcast : ((256 ^ len : Nat) : Int) = (256 : Int) ^ len := by push_cast; rfl
  unfold intFromBytesSigned
  rw [hread, length_octets]
  by_cases hneg : value < 0
  · -- a negative number stands one period higher
    have hshift : value % 256 ^ len = value + 256 ^ len := by
      rw [← Int.add_emod_right, Int.emod_eq_of_lt (by omega) (by omega)]
    rw [if_neg (by omega)]
    omega
  · have hsame : value % 256 ^ len = value := Int.emod_eq_of_lt (by omega) (by omega)
    rw [if_pos (by omega)]
    omega

/-! ## Values -/

/-- The byte count of `encode_integer` leaves room for the sign bit. -/
theorem integerBody_fits {value : Int} {len : Nat}
    (hlen : len = max 1 ((Nat.size value.natAbs + 8) / 8)) :
    -(256 : Int) ^ len ≤ 2 * value ∧ 2 * value < (256 : Int) ^ len := by
  have hsize : value.natAbs < 2 ^ Nat.size value.natAbs := Nat.lt_size_self _
  have hwide : 2 ^ (Nat.size value.natAbs + 1) ≤ 256 ^ len := by
    rw [show (256 : Nat) = 2 ^ 8 from rfl, ← Nat.pow_mul]
    exact Nat.pow_le_pow_right (by decide) (by omega)
  have hbound : 2 * value.natAbs < 256 ^ len := by
    rw [Nat.pow_succ] at hwide
    omega
  have hcast : 2 * (value.natAbs : Int) < (256 : Int) ^ len := by exact_mod_cast hbound
  omega

/-- Every integer can be encoded, and is read back. -/
theorem decodeInteger_integerBody (value : Int) :
    ∃ body, integerBody value = .ok body ∧ decodeInteger body = value := by
  unfold integerBody
  by_cases hzero : value = 0
  · rw [if_pos hzero, hzero]
    exact ⟨[0x00], rfl, rfl⟩
  · rw [if_neg hzero]
    obtain ⟨hlow, hhigh⟩ := @integerBody_fits value _ rfl
    generalize hlen : max 1 ((Nat.size value.natAbs + 8) / 8) = len at hlow hhigh
    refine ⟨octets len (value % 256 ^ len).toNat, ?_, ?_⟩
    · unfold toBytesSigned
      rw [if_neg (by omega)]
    · have hne : octets len (value % 256 ^ len).toNat ≠ [] := by
        intro hnil
        have := congrArg List.length hnil
        rw [length_octets, List.length_nil] at this
        omega
      unfold decodeInteger
      rw [if_neg hne, intFromBytesSigned_octets hlow hhigh]

/-- ASCII text can be encoded, and is read back. -/
theorem decodeVisibleString_encodeAscii {text : String} (h : ∀ c ∈ text.toList, c.toNat < 128) :
    ∃ body, encodeAscii text = .ok body ∧ decodeVisibleString body = text := by
  have hall : (text.toList.all fun c => c.toNat < 128) = true := by
    rw [List.all_eq_true]
    exact fun c hc => decide_eq_true (h c hc)
  refine ⟨text.toList.map fun c => UInt8.ofNat c.toNat, ?_, ?_⟩
  · unfold encodeAscii
    rw [if_pos hall]
  · unfold decodeVisibleString decodeAsciiReplace
    rw [List.map_map]
    have hback : text.toList.map ((fun b : UInt8 =>
        if b.toNat < 128 then Char.ofNat b.toNat else Char.ofNat 0xFFFD)
        ∘ fun c => UInt8.ofNat c.toNat) = text.toList.map id := by
      refine List.map_congr_left fun c hc => ?_
      have hc := h c hc
      have hbyte : (UInt8.ofNat c.toNat).toNat = c.toNat :=
        UInt8.toNat_ofNat_of_lt' (show c.toNat < 256 by omega)
      rw [Function.comp_apply, hbyte, if_pos hc, Char.ofNat_toNat]
      rfl
    rw [hback, List.map_id, String.ofList_toList]

/-! ## Tag-length-values -/

/-- Up to `0xFFFF`, the encoded length is the length. -/
theorem lengthOctets_encodeLength {n : Nat} (h : n ≤ 0xFFFF) : LengthOctets (encodeLength n) n := by
  have hbyte : ∀ k < 256, (UInt8.ofNat k).toNat = k := fun k hk => UInt8.toNat_ofNat_of_lt' hk
  unfold encodeLength
  by_cases hshort : n < 0x80
  · rw [if_pos hshort]
    have hoctet := LengthOctets.short (UInt8.ofNat n) (by rw [hbyte n (by omega)]; exact hshort)
    rwa [hbyte n (by omega)] at hoctet
  · rw [if_neg hshort]
    by_cases hone : n ≤ 0xFF
    · rw [if_pos hone]
      have hlong := LengthOctets.long 0x81 [UInt8.ofNat n] (by decide) (by simp)
      have hvalue : intFromBytes [UInt8.ofNat n] = n := by
        simp only [intFromBytes, List.foldl_cons, List.foldl_nil]
        rw [hbyte n (by omega)]
        omega
      rwa [hvalue] at hlong
    · rw [if_neg hone]
      have hlow : n &&& 0xFF = n % 256 := Nat.and_two_pow_sub_one_eq_mod n 8
      have hhigh : (n >>> 8) &&& 0xFF = n / 256 := by
        have hmask : ∀ k, k &&& 0xFF = k % 256 := fun k => Nat.and_two_pow_sub_one_eq_mod k 8
        rw [hmask, Nat.shiftRight_eq_div_pow]
        omega
      rw [hlow, hhigh]
      have hlong := LengthOctets.long 0x82 [UInt8.ofNat (n / 256), UInt8.ofNat (n % 256)]
        (by decide) (by simp)
      have hvalue : intFromBytes [UInt8.ofNat (n / 256), UInt8.ofNat (n % 256)] = n := by
        simp only [intFromBytes, List.foldl_cons, List.foldl_nil]
        rw [hbyte (n / 256) (by omega), hbyte (n % 256) (by omega)]
        omega
      rwa [hvalue] at hlong

/-- The reader reads what the writer wrote, and stops behind it. -/
theorem readTlv_tlv {data rest : Bytes} {offset : Nat} {tag : UInt8} {body : Bytes}
    (hbody : body.length ≤ 0xFFFF) (hdrop : data.drop offset = tlv tag body ++ rest) :
    readTlv data offset = .ok (tag, body, offset + (tlv tag body).length)
      ∧ data.drop (offset + (tlv tag body).length) = rest := by
  have hrest : data.drop (offset + (tlv tag body).length) = rest := by
    rw [← List.drop_drop, hdrop, List.drop_left]
  refine ⟨readTlv_eq_ok.mpr ⟨encodeLength body.length, lengthOctets_encodeLength hbody, ?_, ?_⟩,
    hrest⟩
  · rw [hrest, hdrop]
    rfl
  · unfold tlv
    simp only [List.length_append, List.length_singleton]
    omega

end EdgeSensor.Parser.Ber
