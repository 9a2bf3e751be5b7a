import EdgeSensor.Py.Bytes

/-!
# BER: the tag-length-value reader

`src/parser/l7/iec61850/ber.py`, the reading half. The GOOSE and MMS frames come
off a mirror port, so every byte here is attacker-controlled: `readLength` and
`readTlv` raise `ValueError` on each truncation point and on the two length forms
they do not support (the indefinite form and a long form that overruns).

`readLength_eq_ok` and `readTlv_eq_ok` say exactly which bytes are read, as a
grammar over the *rest* of the string (`LengthOctets`, `data.drop offset`), so
that no later proof looks at an offset again.
-/

namespace EdgeSensor.Parser.Ber

open EdgeSensor.Py

/-- `read_length`: the short form, or the long form with 1 to 127 length octets. -/
def readLength (data : Bytes) (offset : Nat) : Except PyErr (Nat × Nat) :=
  if offset ≥ data.length then .error (.valueError "offset out of range")
  else
    let first := (data.getD offset 0).toNat
    if first &&& 0x80 = 0 then .ok (first, offset + 1)
    else
      let numOctets := first &&& 0x7F
      if numOctets = 0 ∨ offset + 1 + numOctets > data.length then
        .error (.valueError "invalid BER length")
      else
        .ok (intFromBytes (slice data (offset + 1) (offset + 1 + numOctets)),
          offset + 1 + numOctets)

/-- `read_tlv`: tag, value and the offset after the value. -/
def readTlv (data : Bytes) (offset : Nat) : Except PyErr (UInt8 × Bytes × Nat) :=
  if offset ≥ data.length then .error (.valueError "offset out of range")
  else
    match readLength data (offset + 1) with
    | .error e => .error e
    | .ok (length, offset') =>
      if offset' + length > data.length then .error (.valueError "TLV exceeds buffer")
      else .ok (data.getD offset 0, slice data offset' (offset' + length), offset' + length)

/-- `decode_integer`. -/
def decodeInteger (raw : Bytes) : Int := if raw = [] then 0 else intFromBytesSigned raw

/-- `decode_visible_string`. -/
def decodeVisibleString (raw : Bytes) : String := decodeAsciiReplace raw

/-- The length octets that announce a value of `n` bytes: one octet below
`0x80`, or a count octet and that many big-endian octets. -/
inductive LengthOctets : Bytes → Nat → Prop where
  | short (b : UInt8) (hb : b.toNat < 0x80) : LengthOctets [b] b.toNat
  | long (b : UInt8) (octets : Bytes) (hb : 0x80 < b.toNat)
      (hn : octets.length = b.toNat - 0x80) : LengthOctets (b :: octets) (intFromBytes octets)

/-- The top bit of an octet is clear exactly below `0x80`. -/
theorem and_0x80_eq_zero {n : Nat} (hn : n < 256) : n &&& 0x80 = 0 ↔ n < 0x80 := by
  have h : ∀ m : Fin 256, m.val &&& 0x80 = 0 ↔ m.val < 0x80 := by decide +kernel
  exact h ⟨n, hn⟩

theorem and_0x7F (n : Nat) : n &&& 0x7F = n % 0x80 := Nat.and_two_pow_sub_one_eq_mod n 7

/-- `readLength` succeeds exactly on length octets at the front of the rest. -/
theorem readLength_eq_ok {data : Bytes} {offset n e : Nat} :
    readLength data offset = .ok (n, e) ↔
      ∃ len, LengthOctets len n ∧ data.drop offset = len ++ data.drop e ∧
        e = offset + len.length := by
  unfold readLength
  have hlt := (data.getD offset 0).toNat_lt
  constructor
  · intro h
    split at h
    · cases h
    next hoff =>
      have hdrop := drop_eq_getD_cons data (by omega : offset < data.length)
      simp only at h
      split at h
      next hshort =>
        obtain ⟨rfl, rfl⟩ : (data.getD offset 0).toNat = n ∧ offset + 1 = e := by simpa using h
        exact ⟨[data.getD offset 0], .short _ ((and_0x80_eq_zero (by omega)).mp hshort),
          hdrop, rfl⟩
      next hlong =>
        have hge : ¬ (data.getD offset 0).toNat < 0x80 := fun h' =>
          hlong ((and_0x80_eq_zero (by omega)).mpr h')
        rw [and_0x7F] at h
        split at h
        · cases h
        next hrange =>
          rw [not_or] at hrange
          set k := (data.getD offset 0).toNat % 0x80 with hk
          obtain ⟨rfl, rfl⟩ : intFromBytes (slice data (offset + 1) (offset + 1 + k)) = n ∧
              offset + 1 + k = e := by simpa using h
          have hsl := slice_length data (by omega : offset + 1 ≤ offset + 1 + k) (by omega)
          refine ⟨data.getD offset 0 :: slice data (offset + 1) (offset + 1 + k),
            .long _ _ (by omega) (by omega), ?_, ?_⟩
          · rw [hdrop, drop_eq_slice_append data (by omega : offset + 1 ≤ offset + 1 + k)]
            rfl
          · rw [List.length_cons]
            omega
  · rintro ⟨len, hlen, hdrop, he⟩
    have hoff : ¬ offset ≥ data.length := by
      intro hge
      rw [List.drop_eq_nil_of_le hge] at hdrop
      cases hlen <;> cases hdrop
    rw [if_neg hoff]
    have hcons := drop_eq_getD_cons data (by omega : offset < data.length)
    rw [hcons] at hdrop
    cases hlen with
    | short b hb =>
      obtain ⟨hhead, -⟩ : data.getD offset 0 = b ∧ _ := by simpa using hdrop
      simp only [hhead]
      rw [if_pos ((and_0x80_eq_zero (by omega)).mpr hb), he]
      rfl
    | long b octets hb hn =>
      obtain ⟨hhead, htail⟩ : data.getD offset 0 = b ∧
          data.drop (offset + 1) = octets ++ data.drop e := by simpa using hdrop
      rw [hhead] at hlt
      have hk : b.toNat % 0x80 = octets.length := by omega
      have hlen := congrArg List.length htail
      simp only [List.length_append, List.length_drop] at hlen
      rw [List.length_cons] at he
      simp only [hhead]
      rw [if_neg (fun h0 => by have := (and_0x80_eq_zero hlt).mp h0; omega), and_0x7F, hk,
        if_neg (by omega)]
      have hslice : slice data (offset + 1) (offset + 1 + octets.length) = octets := by
        rw [slice, htail, show offset + 1 + octets.length - (offset + 1) = octets.length by omega,
          List.take_left]
      rw [hslice, he, show offset + 1 + octets.length = offset + (octets.length + 1) by omega]

/-- `readTlv` succeeds exactly on a complete tag-length-value at the front of the rest. -/
theorem readTlv_eq_ok {data : Bytes} {offset e : Nat} {tag : UInt8} {value : Bytes} :
    readTlv data offset = .ok (tag, value, e) ↔
      ∃ len, LengthOctets len value.length ∧
        data.drop offset = tag :: (len ++ value) ++ data.drop e ∧
        e = offset + 1 + len.length + value.length := by
  unfold readTlv
  constructor
  · intro h
    split at h
    · cases h
    next hoff =>
      split at h
      · cases h
      next n e' hlen =>
        split at h
        · cases h
        next hend =>
          obtain ⟨rfl, rfl, rfl⟩ : data.getD offset 0 = tag ∧ slice data e' (e' + n) = value ∧
              e' + n = e := by simpa using h
          obtain ⟨len, hlo, hdrop, he'⟩ := readLength_eq_ok.mp hlen
          have hsl := slice_length data (by omega : e' ≤ e' + n) (by omega)
          rw [show e' + n - e' = n by omega] at hsl
          refine ⟨len, by rw [hsl]; exact hlo, ?_, by omega⟩
          rw [drop_eq_getD_cons data (by omega : offset < data.length), hdrop,
            drop_eq_slice_append data (by omega : e' ≤ e' + n)]
          simp
  · rintro ⟨len, hlo, hdrop, he⟩
    have hoff : ¬ offset ≥ data.length := by
      intro hge
      rw [List.drop_eq_nil_of_le hge] at hdrop
      cases hdrop
    rw [if_neg hoff]
    rw [drop_eq_getD_cons data (by omega : offset < data.length)] at hdrop
    obtain ⟨hhead, htail⟩ : data.getD offset 0 = tag ∧
        data.drop (offset + 1) = len ++ (value ++ data.drop e) := by simpa using hdrop
    have hrest : data.drop (offset + 1 + len.length) = value ++ data.drop e := by
      rw [← List.drop_drop, htail, List.drop_left]
    have hlength : readLength data (offset + 1) = .ok (value.length, offset + 1 + len.length) :=
      readLength_eq_ok.mpr ⟨len, hlo, by rw [hrest, htail], rfl⟩
    have hlen := congrArg List.length htail
    simp only [List.length_append, List.length_drop] at hlen
    rw [hlength]
    simp only
    rw [if_neg (by omega), hhead, he]
    have hslice : slice data (offset + 1 + len.length) (offset + 1 + len.length + value.length)
        = value := by
      rw [slice, hrest, Nat.add_sub_cancel_left, List.take_left]
    rw [hslice]

/-- A tag-length-value is at least two bytes, so the reader always advances. -/
theorem readTlv_advances {data : Bytes} {offset e : Nat} {tag : UInt8} {value : Bytes}
    (h : readTlv data offset = .ok (tag, value, e)) : offset < e ∧ e ≤ data.length := by
  obtain ⟨len, -, hdrop, he⟩ := readTlv_eq_ok.mp h
  have hlen := congrArg List.length hdrop
  simp only [List.length_append, List.length_cons, List.length_drop] at hlen
  omega

/-- A concatenation of complete tag-length-values. -/
inductive TlvSeq : Bytes → Prop where
  | nil : TlvSeq []
  | cons (tag : UInt8) {len value rest : Bytes} (hlen : LengthOctets len value.length)
      (hrest : TlvSeq rest) : TlvSeq (tag :: (len ++ value) ++ rest)

/-- Peeling the tag-length-value that `readTlv` reads keeps the rest a sequence. -/
theorem TlvSeq.drop_iff {data : Bytes} {offset e : Nat} {tag : UInt8} {value : Bytes}
    (h : readTlv data offset = .ok (tag, value, e)) :
    TlvSeq (data.drop offset) ↔ TlvSeq (data.drop e) := by
  obtain ⟨len, hlo, hdrop, -⟩ := readTlv_eq_ok.mp h
  constructor
  · intro hseq
    generalize hd : data.drop offset = d at hseq
    cases hseq with
    | nil => rw [hd] at hdrop; cases hdrop
    | @cons tag' len' value' rest' hlo' hrest =>
      -- both decompositions start at `offset`, and `readTlv` is a function
      have h' : readTlv data offset = .ok (tag', value', offset + 1 + len'.length + value'.length) := by
        refine readTlv_eq_ok.mpr ⟨len', hlo', ?_, rfl⟩
        rw [hd]
        congr 1
        rw [show offset + 1 + len'.length + value'.length
          = offset + (tag' :: (len' ++ value')).length by simp; omega, ← List.drop_drop, hd,
          List.drop_left]
      rw [h] at h'
      obtain ⟨rfl, rfl, rfl⟩ : tag = tag' ∧ value = value' ∧
          e = offset + 1 + len'.length + value'.length := by simpa using h'
      rw [show offset + 1 + len'.length + value.length
        = offset + (tag :: (len' ++ value)).length by simp; omega, ← List.drop_drop, hd,
        List.drop_left]
      exact hrest
  · intro hseq
    rw [hdrop]
    exact .cons tag hlo hseq

/-- A non-empty sequence starts with something `readTlv` reads. -/
theorem TlvSeq.readTlv_ok {data : Bytes} {offset : Nat} (hseq : TlvSeq (data.drop offset))
    (hoff : offset < data.length) : ∃ tag value e, readTlv data offset = .ok (tag, value, e) := by
  generalize hd : data.drop offset = d at hseq
  cases hseq with
  | nil =>
    have := congrArg List.length hd
    simp only [List.length_drop, List.length_nil] at this
    omega
  | @cons tag len value rest hlo hrest =>
    refine ⟨tag, value, offset + 1 + len.length + value.length,
      readTlv_eq_ok.mpr ⟨len, hlo, ?_, rfl⟩⟩
    rw [hd]
    congr 1
    rw [show offset + 1 + len.length + value.length
      = offset + (tag :: (len ++ value)).length by simp; omega, ← List.drop_drop, hd,
      List.drop_left]

end EdgeSensor.Parser.Ber
