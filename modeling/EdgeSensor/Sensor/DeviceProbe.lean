import EdgeSensor.Lib.Dict
import EdgeSensor.Py.Bytes
import EdgeSensor.Py.Text

/-!
# What a device says of itself (`probe/device_probe.py`)

The active probe asks a Modbus device for its identification (function 43, MEI type 14) and reads
the answer from one `recv` of 512 bytes. A device may say more than that, or say it in two pieces,
so what is parsed is the beginning of an answer.

`parse_of_received` says what is made of the first `n` bytes, for every answer and every `n`: the
objects that have come, the last of them cut where the bytes end. So nothing is reported that the
device did not say, but the end of a text may be missing.

Mirroring notes:
- What a device sends is the definition `DeviceAnswer.encode`, from the Modbus specification; the
  parser is the code's.
- `sock.recv` gives the first bytes, how many is `n`.
-/

namespace EdgeSensor.Sensor

open EdgeSensor.Lib EdgeSensor.Py

/-- The result of `parse_device_id_response`. -/
structure DeviceId where
  vendor : Option String
  product : Option String
  revision : Option String
  deriving DecidableEq, Repr

/-- The loop over the objects. -/
def readObjects (resp : Bytes) : Nat → Nat → Dict UInt8 String → Dict UInt8 String
  | 0, _, objects => objects
  | n + 1, idx, objects =>
    if resp.length < idx + 2 then objects
    else
      let objId := resp.getD idx 0
      let objLen := (resp.getD (idx + 1) 0).toNat
      let start := idx + 2
      let value := slice resp start (start + objLen)
      readObjects resp n (start + objLen) (objects.set objId (strip (decodeAsciiReplace value)))

/-- `parse_device_id_response`. -/
def parseDeviceIdResponse (resp : Bytes) : Option DeviceId :=
  if resp.length < 14 ∨ resp.getD 7 0 ≠ 0x2B ∨ resp.getD 8 0 ≠ 0x0E then none
  else
    let objects := readObjects resp (resp.getD 13 0).toNat 14 []
    if objects = [] then none
    else
      some { vendor := objects.get? 0x00, product := objects.get? 0x01, revision := objects.get? 0x02 }

/-! ## Answers -/

/-- An object of an answer. -/
structure DeviceObject where
  id : UInt8
  value : Bytes
  short : value.length < 256

/-- An answer, up to the fields that the parser does not look at. -/
structure DeviceAnswer where
  mbap : Bytes
  mbap_length : mbap.length = 7
  readCode : UInt8
  conformity : UInt8
  more : UInt8
  nextId : UInt8
  objects : List DeviceObject
  few : objects.length < 256

def DeviceObject.encode (o : DeviceObject) : Bytes := o.id :: UInt8.ofNat o.value.length :: o.value

def DeviceAnswer.head (answer : DeviceAnswer) : Bytes :=
  answer.mbap ++ [0x2B, 0x0E, answer.readCode, answer.conformity, answer.more, answer.nextId,
    UInt8.ofNat answer.objects.length]

/-- An answer on the wire. -/
def DeviceAnswer.encode (answer : DeviceAnswer) : Bytes :=
  answer.head ++ answer.objects.flatMap DeviceObject.encode

/-- The objects in the first `m` bytes; the last may be cut. -/
def arrived : List DeviceObject → Nat → List (UInt8 × Bytes)
  | [], _ => []
  | o :: objects, m =>
    if m < 2 then []
    else (o.id, o.value.take (m - 2)) :: arrived objects (m - 2 - o.value.length)

/-- The text of an object. -/
def fieldText (o : UInt8 × Bytes) : UInt8 × String := (o.1, strip (decodeAsciiReplace o.2))

/-- What objects say: of two with one id, the later. -/
def identify (objects : List (UInt8 × Bytes)) : Option DeviceId :=
  let field (id : UInt8) := ((objects.filter (·.1 = id)).getLast?).map fun o => (fieldText o).2
  if objects = [] then none
  else some { vendor := field 0x00, product := field 0x01, revision := field 0x02 }

/-! ## The loop -/

theorem readObjects_end {resp : Bytes} {idx : Nat} (h : resp.length < idx + 2) (n : Nat)
    (objects : Dict UInt8 String) : readObjects resp n idx objects = objects := by
  cases n with
  | zero => rfl
  | succ n => exact if_pos h

theorem arrived_zero (objects : List DeviceObject) : arrived objects 0 = [] := by
  cases objects with
  | nil => rfl
  | cons o objects => rfl

/-- One object. -/
theorem readObjects_cons (pre : Bytes) (id len : UInt8) (body : Bytes) (n : Nat)
    (objects : Dict UInt8 String) :
    readObjects (pre ++ id :: len :: body) (n + 1) pre.length objects
      = readObjects (pre ++ id :: len :: body) n (pre.length + 2 + len.toNat)
        (objects.set id (strip (decodeAsciiReplace (body.take len.toNat)))) := by
  have hid : (pre ++ id :: len :: body).getD pre.length 0 = id := by simp
  have hlen : (pre ++ id :: len :: body).getD (pre.length + 1) 0 = len := by simp
  have hvalue : slice (pre ++ id :: len :: body) (pre.length + 2) (pre.length + 2 + len.toNat)
      = body.take len.toNat := by
    have hsplit : pre ++ id :: len :: body = (pre ++ [id, len]) ++ body := by simp
    unfold slice
    rw [hsplit, List.drop_left' (by simp), Nat.add_sub_cancel_left]
  rw [readObjects, if_neg (by simp), hid, hlen]
  simp only [hvalue]

/-- The loop takes the objects that have come. -/
theorem readObjects_arrived (os : List DeviceObject) (pre : Bytes) (m : Nat)
    (objects : Dict UInt8 String) :
    readObjects (pre ++ (os.flatMap DeviceObject.encode).take m) os.length pre.length objects
      = Dict.update objects ((arrived os m).map fieldText) := by
  induction os generalizing pre m objects with
  | nil => rfl
  | cons o os ih =>
    have hwire : (o :: os).flatMap DeviceObject.encode
        = o.id :: UInt8.ofNat o.value.length :: (o.value ++ os.flatMap DeviceObject.encode) := rfl
    have hlen : (UInt8.ofNat o.value.length).toNat = o.value.length :=
      UInt8.toNat_ofNat_of_lt' o.short
    rw [hwire]
    match m with
    | 0 =>
      rw [readObjects_end (by simp)]
      rfl
    | 1 =>
      rw [readObjects_end (by simp)]
      rfl
    | m + 2 =>
      have hsome : ¬ m + 2 < 2 := by omega
      rw [List.take_succ_cons, List.take_succ_cons, arrived, if_neg hsome, Nat.add_sub_cancel,
        List.map_cons, List.length_cons, readObjects_cons pre o.id (UInt8.ofNat o.value.length)]
      rw [hlen, List.take_take, List.take_append_of_le_length (Nat.min_le_left _ _),
        Nat.min_comm o.value.length m, ← List.take_eq_take_min]
      by_cases hwhole : o.value.length ≤ m
      · -- the object has come: the next one begins where it ends
        have hrest : pre ++ o.id :: UInt8.ofNat o.value.length ::
              (o.value ++ os.flatMap DeviceObject.encode).take m
            = (pre ++ o.id :: UInt8.ofNat o.value.length :: o.value)
              ++ (os.flatMap DeviceObject.encode).take (m - o.value.length) := by
          rw [List.take_append, List.take_of_length_le hwhole]
          simp only [List.append_assoc, List.cons_append]
        have hnext : pre.length + 2 + o.value.length
            = (pre ++ o.id :: UInt8.ofNat o.value.length :: o.value).length := by
          simp only [List.length_append, List.length_cons]
          omega
        rw [hrest, hnext, ih]
        rfl
      · -- it has been cut: there is nothing behind it
        have hlength : ((o.value ++ os.flatMap DeviceObject.encode).take m).length ≤ m :=
          List.length_take_le ..
        rw [readObjects_end (by
          simp only [List.length_append, List.length_cons]
          omega), Nat.sub_eq_zero_of_le (Nat.le_of_not_le hwhole), arrived_zero]
        rfl

/-- All of it has come. -/
theorem arrived_all (os : List DeviceObject) {m : Nat}
    (h : (os.flatMap DeviceObject.encode).length ≤ m) :
    arrived os m = os.map fun o => (o.id, o.value) := by
  induction os generalizing m with
  | nil => rfl
  | cons o os ih =>
    have hlength : ((o :: os).flatMap DeviceObject.encode).length
        = o.value.length + 2 + (os.flatMap DeviceObject.encode).length := by
      rw [List.flatMap_cons, List.length_append]
      rfl
    have hsome : ¬ m < 2 := by omega
    rw [arrived, if_neg hsome, List.take_of_length_le (by omega), ih (by omega)]
    rfl

/-! ## The answer -/

/-- What is in the dict of the objects. -/
theorem identify_eq (objects : List (UInt8 × Bytes)) :
    identify objects = if Dict.update [] (objects.map fieldText) = [] then none
      else some
        { vendor := (Dict.update [] (objects.map fieldText)).get? 0x00
          product := (Dict.update [] (objects.map fieldText)).get? 0x01
          revision := (Dict.update [] (objects.map fieldText)).get? 0x02 } := by
  have hfield : ∀ id : UInt8, (Dict.update [] (objects.map fieldText)).get? id
      = ((objects.filter (·.1 = id)).getLast?).map fun o => (fieldText o).2 := by
    intro id
    rw [Dict.get?_update, Dict.get?_nil, Option.or_none, Dict.settings, List.filter_map,
      List.map_map, List.getLast?_map]
    rfl
  have hempty : Dict.update [] (objects.map fieldText) = [] ↔ objects = [] := by
    constructor
    · intro hnil
      cases objects with
      | nil => rfl
      | cons o objects =>
        have hnone := hfield o.1
        rw [hnil, Dict.get?_nil, List.filter_cons, if_pos (decide_eq_true rfl), List.getLast?_cons]
          at hnone
        cases hnone
    · intro hnil
      rw [hnil]
      rfl
  unfold identify
  simp only [hfield, hempty]

theorem DeviceAnswer.length_head (answer : DeviceAnswer) : answer.head.length = 14 := by
  rw [DeviceAnswer.head, List.length_append, answer.mbap_length]
  rfl

/-- A field of the head, by its place. -/
theorem DeviceAnswer.getD_head (answer : DeviceAnswer) (i : Nat) (body : Bytes) :
    (answer.head ++ body).getD (7 + i) 0
      = ([0x2B, 0x0E, answer.readCode, answer.conformity, answer.more, answer.nextId,
        UInt8.ofNat answer.objects.length] ++ body).getD i 0 := by
  have hplace : answer.mbap.length ≤ 7 + i := by
    rw [answer.mbap_length]
    omega
  rw [DeviceAnswer.head, List.append_assoc, List.getD_eq_getElem?_getD, List.getD_eq_getElem?_getD,
    List.getElem?_append_right hplace, answer.mbap_length, Nat.add_sub_cancel_left]

/-- **What is made of the first bytes of an answer.** Of the first `n` bytes the parser makes what
the objects in them say, the last one as far as it has come; and of all of them what all of the
objects say. -/
theorem parse_of_received (answer : DeviceAnswer) (n : Nat) :
    parseDeviceIdResponse (answer.encode.take n)
        = (if n < 14 then none else identify (arrived answer.objects (n - 14)))
      ∧ (answer.encode.length ≤ n →
        arrived answer.objects (n - 14) = answer.objects.map fun o => (o.id, o.value)) := by
  constructor
  · split
    next hshort =>
      unfold parseDeviceIdResponse
      rw [if_pos (.inl (Nat.lt_of_le_of_lt (List.length_take_le _ _) hshort))]
    next hlong =>
      have hwire : answer.encode.take n
          = answer.head ++ (answer.objects.flatMap DeviceObject.encode).take (n - 14) := by
        rw [DeviceAnswer.encode, List.take_append, answer.length_head,
          List.take_of_length_le (by rw [answer.length_head]; omega)]
      have hloop := readObjects_arrived answer.objects answer.head (n - 14) []
      rw [answer.length_head] at hloop
      have hcount : (answer.encode.take n).getD 13 0 = UInt8.ofNat answer.objects.length := by
        rw [hwire]
        exact answer.getD_head 6 _
      have hfunction : (answer.encode.take n).getD 7 0 = 0x2B := by
        rw [hwire]
        exact answer.getD_head 0 _
      have htype : (answer.encode.take n).getD 8 0 = 0x0E := by
        rw [hwire]
        exact answer.getD_head 1 _
      have hlength : ¬ (answer.encode.take n).length < 14 := by
        rw [hwire, List.length_append, answer.length_head]
        omega
      unfold parseDeviceIdResponse
      rw [if_neg (by simp only [hlength, hfunction, htype, ne_eq, not_true_eq_false, or_self,
        not_false_eq_true]), hcount, UInt8.toNat_ofNat_of_lt' answer.few, hwire, identify_eq]
      simp only [hloop]
  · intro hwhole
    refine arrived_all answer.objects ?_
    rw [DeviceAnswer.encode, List.length_append, answer.length_head] at hwhole
    omega

end EdgeSensor.Sensor
