import EdgeSensor.Parser.Ber
import EdgeSensor.Parser.Packet

/-!
# The GOOSE parser, and which frames it can read

`src/parser/l7/iec61850/goose.py`, the parsing half. `parseGoosePdu` chains
`readTlv` over the APDU, inside the `0x61` wrapper when there is one, and
`parseGooseWire` picks the APDU out of the frame with a length field it does not
trust: a length below 8, or one that selects nothing, falls back to the rest of
the frame.

Nothing in the chain catches the reader's `ValueError`. `parseGooseWire_ok_iff`
is the exact answer to *which* frames get through: those under 8 bytes, and those
whose selected APDU is well-formed BER (`WellFormedApdu`, a grammar with no
parser in it).

Mirroring notes:
- The wrapped and the unwrapped branch of `parse_goose_pdu` run the same loop;
  here both call `parseFields`.
- The `fields` dict has six possible keys, so it is a record of six options. A
  repeated tag overwrites, as a dict key does.
-/

namespace EdgeSensor.Parser.Goose

open EdgeSensor.Py EdgeSensor.Parser.Ber

def GOOSE_ETHERTYPE : Nat := 0x88B8

/-- `GooseFrame`. -/
structure GooseFrame where
  publisherMac : String
  appid : Nat
  gocbRef : String
  goId : String
  stNum : Int
  sqNum : Int
  test : Bool
  confRev : Int
  rawLength : Nat
  deriving DecidableEq, Repr

/-- The `fields` dict of `parse_goose_pdu`. -/
structure Fields where
  gocbRef : Option String := none
  goId : Option String := none
  stNum : Option Int := none
  sqNum : Option Int := none
  test : Option Bool := none
  confRev : Option Int := none
  deriving DecidableEq, Repr

/-- The body of the field loop: one tag-length-value, unknown tags skipped. -/
def Fields.set (fields : Fields) (tag : UInt8) (value : Bytes) : Fields :=
  if tag = 0x80 then { fields with gocbRef := some (decodeVisibleString value) }
  else if tag = 0x83 then { fields with goId := some (decodeVisibleString value) }
  else if tag = 0x85 then { fields with stNum := some (decodeInteger value) }
  else if tag = 0x86 then { fields with sqNum := some (decodeInteger value) }
  else if tag = 0x87 then { fields with test := some (value = [0xFF]) }
  else if tag = 0x88 then { fields with confRev := some (decodeInteger value) }
  else fields

/-- `while offset < len(content)`: read a tag-length-value, record its field. -/
def parseFields (content : Bytes) (offset : Nat) (fields : Fields) : Except PyErr Fields :=
  if offset < content.length then
    match _h : readTlv content offset with
    | .error e => .error e
    | .ok (tag, value, offset') => parseFields content offset' (fields.set tag value)
  else .ok fields
  termination_by content.length - offset
  decreasing_by
    have := readTlv_advances _h
    omega

/-- `parse_goose_pdu`. -/
def parseGoosePdu (pdu : Bytes) : Except PyErr Fields :=
  if pdu.head? = some 0x61 then
    match readTlv pdu 0 with
    | .error e => .error e
    | .ok (_, content, _) => parseFields content 0 {}
  else parseFields pdu 0 {}

/-- The APDU that `parse_goose_wire` selects: by the length field when that is at
least 8 and selects something, else everything after the 8-byte header. -/
def gooseApdu (raw : Bytes) : Bytes :=
  let length := intFromBytes (slice raw 2 4)
  let pdu := if length ≥ 8 then slice raw 8 (8 + (length - 8)) else raw.drop 8
  if pdu = [] then raw.drop 8 else pdu

/-- `parse_goose_wire`: no frame for a short string or one without a gocbRef. -/
def parseGooseWire (raw : Bytes) : Except PyErr (Option GooseFrame) :=
  if raw.length < 8 then .ok none
  else
    match parseGoosePdu (gooseApdu raw) with
    | .error e => .error e
    | .ok fields =>
      match fields.gocbRef with
      | none => .ok none
      | some gocbRef =>
        .ok (some {
          publisherMac := ""
          appid := intFromBytes (slice raw 0 2)
          gocbRef := gocbRef
          goId := fields.goId.getD ""
          stNum := fields.stNum.getD 0
          sqNum := fields.sqNum.getD 0
          test := fields.test.getD false
          confRev := fields.confRev.getD 0
          rawLength := raw.length })

/-- `_extract_l2_payload`: publisher MAC and GOOSE bytes, through one VLAN tag. -/
def extractL2Payload (packet : Packet) : Option (String × Bytes) :=
  match packet.ether with
  | none => none
  | some eth =>
    let tagged := eth.type = 0x8100 ∧ eth.payload.length ≥ 4
    let ethertype := if tagged then intFromBytes (slice eth.payload 2 4) else eth.type
    if ethertype = GOOSE_ETHERTYPE then
      some (eth.src, if tagged then eth.payload.drop 4 else eth.payload)
    else none

/-- `parse_goose_packet`. -/
def parseGoosePacket (packet : Packet) : Except PyErr (Option GooseFrame) :=
  match extractL2Payload packet with
  | none => .ok none
  | some (srcMac, payload) =>
    match parseGooseWire payload with
    | .error e => .error e
    | .ok none => .ok none
    | .ok (some frame) => .ok (some { frame with publisherMac := srcMac })

/-! ## Which frames parse -/

/-- Well-formed BER as GOOSE carries it: a complete `0x61` wrapper around a
sequence of complete fields (anything may follow the wrapper), or the sequence
itself. -/
def WellFormedApdu (pdu : Bytes) : Prop :=
  if pdu.head? = some 0x61 then
    ∃ len content rest, LengthOctets len content.length ∧
      pdu = 0x61 :: (len ++ content) ++ rest ∧ TlvSeq content
  else TlvSeq pdu

/-- A frame the parser can read: too short to look at, or a well-formed APDU. -/
def ReadableWire (raw : Bytes) : Prop := raw.length < 8 ∨ WellFormedApdu (gooseApdu raw)

/-- The field loop runs to its end exactly on a sequence of complete fields. The
induction is the loop's own, on the bytes still ahead. -/
theorem parseFields_ok_iff (content : Bytes) (offset : Nat) (fields : Fields) :
    (∃ out, parseFields content offset fields = .ok out) ↔ TlvSeq (content.drop offset) := by
  unfold parseFields
  split
  next hlt =>
    split
    next e he =>
      constructor
      · rintro ⟨out, h⟩
        cases h
      · intro hseq
        obtain ⟨tag, value, e', hok⟩ := hseq.readTlv_ok hlt
        rw [hok] at he
        cases he
    next tag value offset' hok =>
      have := readTlv_advances hok
      rw [TlvSeq.drop_iff hok]
      exact parseFields_ok_iff content offset' (fields.set tag value)
  next hge =>
    rw [List.drop_eq_nil_of_le (by omega)]
    exact ⟨fun _ => .nil, fun _ => ⟨fields, rfl⟩⟩
  termination_by content.length - offset

theorem parseGoosePdu_ok_iff (pdu : Bytes) :
    (∃ out, parseGoosePdu pdu = .ok out) ↔ WellFormedApdu pdu := by
  unfold parseGoosePdu WellFormedApdu
  split
  next hhead =>
    cases hread : readTlv pdu 0 with
    | error e =>
      constructor
      · rintro ⟨out, h⟩
        cases h
      · rintro ⟨len, content, rest, hlen, rfl, -⟩
        have hok : readTlv (0x61 :: (len ++ content) ++ rest) 0
            = .ok (0x61, content, 0 + 1 + len.length + content.length) := by
          refine readTlv_eq_ok.mpr ⟨len, hlen, ?_, rfl⟩
          rw [List.drop_zero, show 0 + 1 + len.length + content.length
            = ((0x61 : UInt8) :: (len ++ content)).length by simp; omega, List.drop_left]
        rw [hok] at hread
        cases hread
    | ok r =>
      obtain ⟨tag, content, e⟩ := r
      obtain ⟨len, hlen, hpdu, he⟩ := readTlv_eq_ok.mp hread
      rw [List.drop_zero] at hpdu
      have htag : tag = 0x61 := by
        rw [hpdu] at hhead
        simpa using hhead
      simp only
      rw [parseFields_ok_iff content 0 {}, List.drop_zero]
      constructor
      · intro hseq
        exact ⟨len, content, pdu.drop e, hlen, by rw [← htag]; exact hpdu, hseq⟩
      · rintro ⟨len', content', rest', hlen', hpdu', hseq'⟩
        have hok : readTlv pdu 0 = .ok (0x61, content', 0 + 1 + len'.length + content'.length) := by
          refine readTlv_eq_ok.mpr ⟨len', hlen', ?_, rfl⟩
          rw [List.drop_zero, show 0 + 1 + len'.length + content'.length
            = ((0x61 : UInt8) :: (len' ++ content')).length by simp; omega, hpdu', List.drop_left]
        rw [hok] at hread
        obtain ⟨-, rfl, -⟩ : _ ∧ content' = content ∧ _ := by simpa using hread
        exact hseq'
  next hhead =>
    rw [parseFields_ok_iff pdu 0 {}, List.drop_zero]

/-- **Which frames parse.** `parseGooseWire` returns (a frame or `None`) exactly
on a readable frame; on every other byte string the reader's `ValueError` leaves
it. -/
theorem parseGooseWire_ok_iff (raw : Bytes) :
    (∃ out, parseGooseWire raw = .ok out) ↔ ReadableWire raw := by
  unfold parseGooseWire ReadableWire
  rw [← parseGoosePdu_ok_iff]
  split
  next hshort => exact ⟨fun _ => .inl hshort, fun _ => ⟨none, rfl⟩⟩
  next hlong =>
    cases hpdu : parseGoosePdu (gooseApdu raw) with
    | error e => simp [hlong]
    | ok fields => cases href : fields.gocbRef <;> simp [href]

/-- A packet with no GOOSE bytes, or with a readable frame in them. -/
def ReadablePacket (packet : Packet) : Prop :=
  ∀ srcMac payload, extractL2Payload packet = some (srcMac, payload) → ReadableWire payload

theorem parseGoosePacket_ok_iff (packet : Packet) :
    (∃ out, parseGoosePacket packet = .ok out) ↔ ReadablePacket packet := by
  unfold parseGoosePacket ReadablePacket
  cases hext : extractL2Payload packet with
  | none => simp
  | some r =>
    obtain ⟨srcMac, payload⟩ := r
    have hread : (∀ srcMac' payload', some (srcMac, payload) = some (srcMac', payload') →
        ReadableWire payload') ↔ ReadableWire payload :=
      ⟨fun h => h _ _ rfl, fun h _ _ heq => by cases heq; exact h⟩
    rw [hread, ← parseGooseWire_ok_iff payload]
    cases hp : parseGooseWire payload with
    | error e => simp [hp]
    | ok out => cases out <;> simp [hp]

end EdgeSensor.Parser.Goose
