import EdgeSensor.Parser.BerEncode
import EdgeSensor.Parser.Goose

/-!
# The GOOSE builder, and the round trip

`build_goose_wire` of `src/parser/l7/iec61850/goose.py`: eight tag-length-values in a
`0x61` wrapper, behind an eight-byte header whose length field counts the whole frame.
`parse_build` is the round trip: whatever bytes follow a frame, the parser finds the
frame and in it the seven values it was built from. The length field is what keeps the
padding of short Ethernet frames away from the field loop.

The builder raises on text that is not ASCII and on what its header cannot hold, an appid
or a frame from `0x10000` on; on anything else it returns (`gooseFrame_eq_ok`).

Mirroring notes:
- `body` is built first, the header last, and the exceptions come in that order.
-/

namespace EdgeSensor.Parser.Goose

open EdgeSensor.Py EdgeSensor.Parser.Ber

/-- The fields of the body. -/
def gooseBody (gocbRef goId : String) (stNum sqNum : Int) (test : Bool) (confRev : Int) :
    Except PyErr Bytes := do
  let gocbRefTlv ← encodeVisibleString 0x80 gocbRef
  let timeAllowedTlv ← encodeInteger 0x81 1000
  let datSetTlv ← encodeVisibleString 0x82 "labDataset"
  let goIdTlv ← encodeVisibleString 0x83 goId
  let stNumTlv ← encodeInteger 0x85 stNum
  let sqNumTlv ← encodeInteger 0x86 sqNum
  let testTlv := encodeBoolean 0x87 test
  let confRevTlv ← encodeInteger 0x88 confRev
  return [gocbRefTlv, timeAllowedTlv, datSetTlv, goIdTlv, stNumTlv, sqNumTlv, testTlv,
    confRevTlv].flatten

/-- The header and the APDU around a body. -/
def gooseFrame (appid : Int) (body : Bytes) : Except PyErr Bytes := do
  let apdu := [0x61] ++ encodeLength body.length ++ body
  let length : Nat := apdu.length + 8
  let appidOctets ← toBytes appid 2
  let lengthOctets ← toBytes length 2
  return appidOctets ++ lengthOctets ++ [0x00, 0x00, 0x00, 0x00] ++ apdu

/-- `build_goose_wire`. -/
def buildGooseWire (appid : Int) (gocbRef goId : String) (stNum sqNum : Int) (test : Bool)
    (confRev : Int) : Except PyErr Bytes := do
  let body ← gooseBody gocbRef goId stNum sqNum test confRev
  gooseFrame appid body

/-- `text.encode("ascii")` succeeds. -/
def IsAscii (text : String) : Prop := ∀ c ∈ text.toList, c.toNat < 128

instance (text : String) : Decidable (IsAscii text) :=
  List.decidableBAll (fun c : Char => c.toNat < 128) text.toList

/-! ## The body -/

/-- The bytes of a list of fields. -/
def writeFields (items : List (UInt8 × Bytes)) : Bytes := items.flatMap fun item => tlv item.1 item.2

/-- The field loop goes through the fields that were written, one after the other. -/
theorem parseFields_writeFields {content : Bytes} (items : List (UInt8 × Bytes)) (offset : Nat)
    (fields : Fields) (hitems : ∀ item ∈ items, item.2.length ≤ 0xFFFF)
    (hdrop : content.drop offset = writeFields items) :
    parseFields content offset fields
      = .ok (items.foldl (fun fields item => fields.set item.1 item.2) fields) := by
  induction items generalizing offset fields with
  | nil =>
    have hend : ¬ offset < content.length := by
      have := congrArg List.length hdrop
      simp only [List.length_drop, writeFields, List.flatMap_nil, List.length_nil] at this
      omega
    rw [parseFields, if_neg hend]
    rfl
  | cons item items ih =>
    obtain ⟨tag, value⟩ := item
    have hsplit : content.drop offset = tlv tag value ++ writeFields items := hdrop
    obtain ⟨hread, hrest⟩ := readTlv_tlv (hitems (tag, value) List.mem_cons_self) hsplit
    have hmore : offset < content.length := by
      have := congrArg List.length hsplit
      simp only [tlv, List.length_drop, List.length_append, List.length_singleton] at this
      omega
    rw [parseFields, if_pos hmore]
    split
    next e he =>
      rw [hread] at he
      cases he
    next tag' value' offset' hok =>
      rw [hread] at hok
      cases hok
      exact ih _ _ (fun item hitem => hitems item (List.mem_cons_of_mem _ hitem)) hrest

/-- The encoded fields: their bytes, and what the field loop makes of them. -/
theorem gooseBody_eq {gocbRef goId : String} (hgocbRef : IsAscii gocbRef) (hgoId : IsAscii goId)
    (stNum sqNum : Int) (test : Bool) (confRev : Int) :
    ∃ items, gooseBody gocbRef goId stNum sqNum test confRev = .ok (writeFields items)
      ∧ items.foldl (fun fields item => Fields.set fields item.1 item.2) {}
        = { gocbRef := some gocbRef, goId := some goId, stNum := some stNum,
            sqNum := some sqNum, test := some test, confRev := some confRev } := by
  obtain ⟨gocbRefBody, hgocbRefBody, hreadRef⟩ := decodeVisibleString_encodeAscii hgocbRef
  obtain ⟨timeBody, htimeBody, -⟩ := decodeInteger_integerBody 1000
  obtain ⟨datSetBody, hdatSetBody, -⟩ :=
    @decodeVisibleString_encodeAscii "labDataset" (show IsAscii "labDataset" by decide)
  obtain ⟨goIdBody, hgoIdBody, hreadId⟩ := decodeVisibleString_encodeAscii hgoId
  obtain ⟨stNumBody, hstNumBody, hreadSt⟩ := decodeInteger_integerBody stNum
  obtain ⟨sqNumBody, hsqNumBody, hreadSq⟩ := decodeInteger_integerBody sqNum
  obtain ⟨confRevBody, hconfRevBody, hreadRev⟩ := decodeInteger_integerBody confRev
  have hflag : decide (booleanBody test = [0xFF]) = test := by cases test <;> decide
  refine ⟨[(0x80, gocbRefBody), (0x81, timeBody), (0x82, datSetBody), (0x83, goIdBody),
    (0x85, stNumBody), (0x86, sqNumBody), (0x87, booleanBody test), (0x88, confRevBody)], ?_, ?_⟩
  · unfold gooseBody encodeVisibleString encodeInteger encodeBoolean
    rw [hgocbRefBody, htimeBody, hdatSetBody, hgoIdBody, hstNumBody, hsqNumBody, hconfRevBody]
    rfl
  · -- the other tags leave the record alone
    show ({ gocbRef := some (decodeVisibleString gocbRefBody),
            goId := some (decodeVisibleString goIdBody),
            stNum := some (decodeInteger stNumBody),
            sqNum := some (decodeInteger sqNumBody),
            test := some (decide (booleanBody test = [0xFF])),
            confRev := some (decodeInteger confRevBody) } : Fields) = _
    rw [hreadRef, hreadId, hreadSt, hreadSq, hreadRev, hflag]

/-! ## The frame -/

/-- The frame is built if the header can hold the appid and the length. -/
theorem gooseFrame_eq_ok {appid : Nat} (happid : appid < 2 ^ 16) {body : Bytes}
    (hlen : (tlv 0x61 body).length + 8 ≤ 65535) :
    gooseFrame appid body = .ok (octets 2 appid ++ octets 2 ((tlv 0x61 body).length + 8)
      ++ [0x00, 0x00, 0x00, 0x00] ++ tlv 0x61 body) := by
  have hfits : (tlv 0x61 body).length + 8 < 256 ^ 2 := by omega
  have hlength : toBytes ((tlv 0x61 body).length + 8 : Nat) 2 = .ok _ := toBytes_ok hfits
  unfold gooseFrame
  rw [toBytes_ok (by omega : appid < 256 ^ 2)]
  show (toBytes ((tlv 0x61 body).length + 8 : Nat) 2).bind _ = _
  rw [hlength]
  rfl

/-- The length field of a frame, and the APDU it selects from the frame and its padding. -/
theorem gooseApdu_frame {appid length : Nat} {apdu padding : Bytes} (hlength : length < 256 ^ 2)
    (hapdu : length = apdu.length + 8) (hne : apdu ≠ []) :
    gooseApdu (octets 2 appid ++ octets 2 length ++ [0x00, 0x00, 0x00, 0x00] ++ apdu ++ padding)
      = apdu := by
  have hfield : slice (octets 2 appid ++ octets 2 length ++ [0x00, 0x00, 0x00, 0x00] ++ apdu
      ++ padding) 2 4 = octets 2 length := by
    unfold slice
    simp only [List.append_assoc]
    rw [List.drop_left' (length_octets 2 appid), List.take_left' (length_octets 2 length)]
  have hrest : (octets 2 appid ++ octets 2 length ++ [0x00, 0x00, 0x00, 0x00] ++ apdu
      ++ padding).drop 8 = apdu ++ padding := by
    rw [List.append_assoc]
    exact List.drop_left' (by simp)
  have hselect : slice (octets 2 appid ++ octets 2 length ++ [0x00, 0x00, 0x00, 0x00] ++ apdu
      ++ padding) 8 (8 + (length - 8)) = apdu := by
    unfold slice
    rw [hrest, show 8 + (length - 8) - 8 = apdu.length by omega, List.take_left]
  unfold gooseApdu
  simp only [hfield, intFromBytes_octets hlength, hselect]
  have hlong : length ≥ 8 := by omega
  rw [if_pos hlong, if_neg hne]

/-- What the parser makes of a frame with padding behind it. -/
theorem parseGooseWire_frame {appid : Nat} (happid : appid < 2 ^ 16)
    {items : List (UInt8 × Bytes)} (hlen : (tlv 0x61 (writeFields items)).length + 8 ≤ 65535)
    {fields : Fields} {gocbRef : String} (hgocbRef : fields.gocbRef = some gocbRef)
    (hfields : items.foldl (fun fields item => Fields.set fields item.1 item.2) {} = fields)
    (padding : Bytes) {wire : Bytes} (hwire : gooseFrame appid (writeFields items) = .ok wire) :
    parseGooseWire (wire ++ padding) = .ok (some {
      publisherMac := ""
      appid := appid
      gocbRef := gocbRef
      goId := fields.goId.getD ""
      stNum := fields.stNum.getD 0
      sqNum := fields.sqNum.getD 0
      test := fields.test.getD false
      confRev := fields.confRev.getD 0
      rawLength := (wire ++ padding).length }) := by
  rw [gooseFrame_eq_ok happid hlen] at hwire
  cases hwire
  set body := writeFields items with hbody
  set length := (tlv 0x61 body).length + 8 with hlength
  have hsmall : length < 256 ^ 2 := by omega
  -- every field is shorter than the frame
  have hshort : ∀ item ∈ items, item.2.length ≤ 0xFFFF := by
    intro item hitem
    have hsub : (tlv item.1 item.2).length ≤ body.length := by
      have hmem : tlv item.1 item.2 ∈ items.map fun item => tlv item.1 item.2 :=
        List.mem_map_of_mem hitem
      exact (List.sublist_flatten_of_mem hmem).length_le
    simp only [tlv, List.length_append, List.length_singleton] at hsub hlength
    omega
  have happidField : intFromBytes (slice (octets 2 appid ++ octets 2 length
      ++ [0x00, 0x00, 0x00, 0x00] ++ tlv 0x61 body ++ padding) 0 2) = appid := by
    unfold slice
    simp only [List.append_assoc, List.drop_zero, Nat.sub_zero]
    rw [List.take_left' (length_octets 2 appid), intFromBytes_octets (by omega)]
  have hapdu := @gooseApdu_frame appid _ _ padding hsmall hlength
    (List.cons_ne_nil _ _ : tlv 0x61 body ≠ [])
  have hpdu : parseGoosePdu (tlv 0x61 body) = .ok fields := by
    unfold parseGoosePdu
    obtain ⟨hread, -⟩ := @readTlv_tlv (tlv 0x61 body) [] 0 0x61 body (by
        simp only [tlv, List.length_append, List.length_singleton] at hlength
        omega) (by rw [List.drop_zero, List.append_nil])
    have hwrapped : (tlv 0x61 body).head? = some 0x61 := rfl
    rw [if_pos hwrapped, hread]
    exact (parseFields_writeFields items 0 {} hshort (List.drop_zero ..)).trans
      (congrArg Except.ok hfields)
  unfold parseGooseWire
  have hheader : ¬ (octets 2 appid ++ octets 2 length ++ [0x00, 0x00, 0x00, 0x00] ++ tlv 0x61 body
      ++ padding).length < 8 := by
    simp only [List.length_append, length_octets, List.length_cons, List.length_nil]
    omega
  rw [if_neg hheader, hapdu, hpdu]
  simp only [hgocbRef, happidField]

/-- **The round trip.** ASCII text and integers of any size make a body; if the frame around
it is at most 65535 bytes long, the builder returns it, and the parser finds the seven
values in it, whatever bytes come after. -/
theorem parse_build {appid : Nat} (happid : appid < 2 ^ 16) {gocbRef goId : String}
    (hgocbRef : IsAscii gocbRef) (hgoId : IsAscii goId) (stNum sqNum : Int) (test : Bool)
    (confRev : Int) :
    ∃ body, gooseBody gocbRef goId stNum sqNum test confRev = .ok body
      ∧ ((tlv 0x61 body).length + 8 ≤ 65535 →
        ∃ wire, buildGooseWire appid gocbRef goId stNum sqNum test confRev = .ok wire
          ∧ wire.length = (tlv 0x61 body).length + 8
          ∧ ∀ padding, parseGooseWire (wire ++ padding) = .ok (some {
              publisherMac := ""
              appid := appid
              gocbRef := gocbRef
              goId := goId
              stNum := stNum
              sqNum := sqNum
              test := test
              confRev := confRev
              rawLength := (wire ++ padding).length })) := by
  obtain ⟨items, hbody, hfields⟩ := gooseBody_eq hgocbRef hgoId stNum sqNum test confRev
  refine ⟨writeFields items, hbody, fun hlen => ?_⟩
  have hframe := gooseFrame_eq_ok happid hlen
  refine ⟨_, ?_, ?_, fun padding => parseGooseWire_frame happid hlen rfl hfields padding hframe⟩
  · unfold buildGooseWire
    rw [hbody]
    exact hframe
  · simp only [List.length_append, length_octets, List.length_cons, List.length_nil]
    omega

/-- A frame with a negative state number and one that fills a sign byte, and padding behind it. -/
theorem parse_build_sample :
    ∃ wire, buildGooseWire 0x3FFF "LD0/LLN0$GO$gcb1" "gcb1" (-129) 255 true 128 = .ok wire
      ∧ parseGooseWire (wire ++ [0x00, 0x61, 0x00]) = .ok (some {
          publisherMac := ""
          appid := 0x3FFF
          gocbRef := "LD0/LLN0$GO$gcb1"
          goId := "gcb1"
          stNum := -129
          sqNum := 255
          test := true
          confRev := 128
          rawLength := (wire ++ [0x00, 0x61, 0x00]).length }) := by
  obtain ⟨body, hbody, hbuilt⟩ := @parse_build 0x3FFF (by decide)
    "LD0/LLN0$GO$gcb1" "gcb1" (by decide) (by decide) (-129) 255 true 128
  have hsize : (tlv 0x61 body).length + 8 ≤ 65535 := by
    have heval : gooseBody "LD0/LLN0$GO$gcb1" "gcb1" (-129) 255 true 128 = .ok _ := rfl
    rw [heval] at hbody
    cases hbody
    decide
  obtain ⟨wire, hwire, -, hparse⟩ := hbuilt hsize
  exact ⟨wire, hwire, hparse [0x00, 0x61, 0x00]⟩

end EdgeSensor.Parser.Goose
