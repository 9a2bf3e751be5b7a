import EdgeSensor.Py.Value
import EdgeSensor.Sensor.Phases

/-!
# Event ids

Five producers make event ids, each from the UTC day, a name of its own and a counter it
keeps in memory. Within one process the counter only rises, so no id comes twice
(`Numbered`). The day adds nothing to that, and it cannot replace the counter, which
starts at zero again with the next process.

Mirroring notes:
- `producerId` is the text all five format; the ids of the three detectors are
  `SecurityEvent.eventId`.
- An id that a mode other than `detect` keeps out of the file has still been drawn.
-/

namespace EdgeSensor.Sensor

open EdgeSensor.Lib EdgeSensor.Py EdgeSensor.Parser

/-- Who makes events. -/
inductive Producer where
  | mvp
  | iec61850
  | ioc
  | snort
  | suricata
  deriving DecidableEq, Repr

/-- The name in the id. -/
def Producer.name : Producer → String
  | .mvp => "mvp"
  | .iec61850 => "61850"
  | .ioc => "ioc"
  | .snort => "snort"
  | .suricata => "suricata"

/-- What the ids of a producer on a day begin with. -/
def idStem (day : String) (p : Producer) : PyStr :=
  lit "evt-" ++ (lit day ++ (lit "-" ++ (lit p.name ++ lit "-")))

/-- The id of a producer's event number `n`. -/
def producerId (day : String) (p : Producer) (n : Nat) : PyStr := idStem day p ++ lit (pad5 n)

/-- `strftime("%Y%m%d")` prints eight characters. -/
def DayText (day : String) : Prop := (lit day).length = 8

/-! ## Ids tell producer and number -/

theorem lit_injective {s t : String} (h : lit s = lit t) : s = t := by
  unfold lit at h
  refine String.toList_inj.mp (List.map_injective_iff.mpr (fun a b hab => ?_) h)
  exact Char.toNat_inj.mp hab

/-- Padding keeps the number. -/
theorem pad5_injective {n m : Nat} (h : pad5 n = pad5 m) : n = m := by
  have hvalue : ∀ k, Nat.ofDigitChars 10 (pad5 k).toList 0 = k := by
    intro k
    have hdigits : (toString k).toList = Nat.toDigits 10 k := by
      show (Nat.repr k).toList = _
      rw [Nat.repr, String.toList_ofList]
    unfold pad5
    rw [String.toList_append, String.toList_ofList, Nat.ofDigitChars_append,
      Nat.ofDigitChars_replicate_zero, Nat.mul_zero, hdigits, Nat.ofDigitChars_ten_toDigits]
  rw [← hvalue n, h, hvalue m]

/-- An id tells who made it, and which of theirs it is. -/
theorem producerId_inj {day day' : String} {p q : Producer} {n m : Nat} (hday : DayText day)
    (hday' : DayText day') (h : producerId day p n = producerId day' q m) : p = q ∧ n = m := by
  unfold producerId idStem at h
  simp only [List.append_assoc] at h
  have hrest := (List.append_inj (List.append_cancel_left h) (hday.trans hday'.symm)).2
  have hnames := List.append_cancel_left hrest
  have hp : p = q := by
    cases p <;> cases q <;> first | rfl | exact absurd (congrArg (List.take 2) hnames) (by
      simp [lit, Producer.name])
  subst hp
  exact ⟨rfl, pad5_injective (lit_injective (List.append_cancel_left (List.append_cancel_left hnames)))⟩

/-! ## The detectors number their events -/

/-- The event is number `n` of a producer on a day. -/
def BearsId (day : String) (p : Producer) (n : Nat) (e : SecurityEvent) : Prop :=
  lit e.eventId = producerId day p n

theorem lit_id (day : String) (p : Producer) (n : Nat) :
    lit ("evt-" ++ day ++ "-" ++ p.name ++ "-" ++ pad5 n) = producerId day p n := by
  unfold producerId idStem
  simp only [lit_append, List.append_assoc]

namespace MvpDetector

/-- One event takes one number. -/
theorem event_rising (clock : Clock) (rule : RuleId) (fields : EventFields) {d s : MvpDetector}
    (h : s.eventSeq = d.eventSeq) :
    Rising (BearsId clock.day .mvp) d.eventSeq (event clock rule fields s).1.eventSeq
      (event clock rule fields s).2 := by
  rw [← h]
  refine Rising.single ?_
  show lit s!"evt-{clock.day}-mvp-{pad5 (s.eventSeq + 1)}" = _
  rw [← lit_id]
  simp only [String.append_assoc]
  rfl

/-- No event, no number. -/
theorem silent_rising {day : String} {d s : MvpDetector} (h : s.eventSeq = d.eventSeq) :
    Rising (BearsId day .mvp) d.eventSeq s.eventSeq [] := .nil (h ▸ Nat.le_refl _)

section Observation

variable (view : MvpView) (obs : InventoryObservation)

theorem firstSighting_draws (clock : Clock) (rule : RuleId) (key : String)
    (known : AssetInventory → Finset String) (record : AssetInventory → AssetInventory)
    (allowed : Prop) [Decidable allowed] (fields : EventFields) :
    (firstSighting clock rule key known record allowed fields).Draws eventSeq
      (BearsId clock.day .mvp) := by
  intro d
  unfold firstSighting
  split
  · split
    · exact silent_rising rfl
    · exact event_rising _ _ _ rfl
  · exact silent_rising rfl

theorem newMac_draws : (newMac view obs).Draws eventSeq (BearsId view.clock.day .mvp) := by
  unfold newMac
  split
  · exact fun _ => silent_rising rfl
  · exact firstSighting_draws _ _ _ _ _ _ _

theorem newIp_draws : (newIp view obs).Draws eventSeq (BearsId view.clock.day .mvp) := by
  unfold newIp
  split
  · exact fun _ => silent_rising rfl
  · exact firstSighting_draws _ _ _ _ _ _ _

theorem mappingChanged_draws :
    (mappingChanged view obs).Draws eventSeq (BearsId view.clock.day .mvp) := by
  intro d
  unfold mappingChanged
  split
  · split
    · split
      · split
        · exact event_rising _ _ _ rfl
        · exact silent_rising rfl
      · exact silent_rising rfl
    · exact silent_rising rfl
  · exact silent_rising rfl

theorem newPair_draws : (newPair view obs).Draws eventSeq (BearsId view.clock.day .mvp) := by
  unfold newPair
  split
  · exact firstSighting_draws _ _ _ _ _ _ _
  · exact fun _ => silent_rising rfl

theorem newDstPort_draws : (newDstPort view obs).Draws eventSeq (BearsId view.clock.day .mvp) := by
  unfold newDstPort
  split
  · split
    · exact fun _ => silent_rising rfl
    · exact firstSighting_draws _ _ _ _ _ _ _
  · exact fun _ => silent_rising rfl

theorem portScan_draws : (portScan view obs).Draws eventSeq (BearsId view.clock.day .mvp) := by
  intro d
  unfold portScan
  split
  · split
    · simp only
      split
      · exact event_rising _ _ _ rfl
      · exact silent_rising rfl
    · exact silent_rising rfl
  · exact silent_rising rfl

theorem unauthorizedAccess_draws :
    (unauthorizedAccess view obs).Draws eventSeq (BearsId view.clock.day .mvp) := by
  intro d
  unfold unauthorizedAccess
  split
  · split
    · split
      · exact silent_rising rfl
      · split
        · exact event_rising _ _ _ rfl
        · exact silent_rising rfl
    · exact silent_rising rfl
  · exact silent_rising rfl

theorem evaluateObservation_draws :
    (evaluateObservation view obs).Draws eventSeq (BearsId view.clock.day .mvp) :=
  (newMac_draws view obs).andThen <| (newIp_draws view obs).andThen <|
    (mappingChanged_draws view obs).andThen <| (newPair_draws view obs).andThen <|
    (newDstPort_draws view obs).andThen <| (portScan_draws view obs).andThen <|
    unauthorizedAccess_draws view obs

end Observation

theorem evaluateModbus_draws (view : MvpView) (frame : Modbus.ModbusFrame) :
    (evaluateModbus view frame).Draws eventSeq (BearsId view.clock.day .mvp) := by
  intro d
  unfold evaluateModbus
  split
  · split
    · exact silent_rising rfl
    · split
      · exact silent_rising rfl
      · exact event_rising _ _ _ rfl
  · exact silent_rising rfl

section Window

variable (doc : PolicyDoc) (clock : Clock) (now : Rat) (windowSec : Int)

theorem assetRate_draws (asset : Asset) :
    (assetRate doc clock windowSec asset).Draws eventSeq (BearsId clock.day .mvp) := by
  intro d
  unfold assetRate
  split
  · exact silent_rising rfl
  · split
    · exact silent_rising rfl
    · exact event_rising _ _ _ rfl

theorem relaySilent_draws (relay : String × Asset) :
    (relaySilent clock now relay).Draws eventSeq (BearsId clock.day .mvp) := by
  intro d
  unfold relaySilent
  simp only
  split
  · exact silent_rising rfl
  · split
    · exact silent_rising rfl
    · exact event_rising _ _ _ rfl

theorem whenEnabled_draws {day : String} {rule : RuleId} {f : Emitter MvpDetector SecurityEvent}
    (hf : f.Draws eventSeq (BearsId day .mvp)) :
    (whenEnabled rule f).Draws eventSeq (BearsId day .mvp) := by
  intro d
  unfold whenEnabled
  split
  · exact hf d
  · exact silent_rising rfl

theorem evaluateWindow_draws :
    (evaluateWindow doc clock now windowSec).Draws eventSeq (BearsId clock.day .mvp) := by
  have hoffline : (checkRelayOffline doc clock now).Draws eventSeq (BearsId clock.day .mvp) := by
    intro d
    unfold checkRelayOffline
    split
    · exact silent_rising rfl
    · exact Emitter.forEach_draws (relaySilent_draws clock now) _ d
  exact (whenEnabled_draws (Emitter.forEach_draws (assetRate_draws doc clock windowSec) _)).andThen <|
    (whenEnabled_draws hoffline).andThen fun _ => silent_rising rfl

end Window

end MvpDetector

namespace Iec61850Detector

theorem event_rising (clock : Clock) (rule : RuleId) (protocol : String) (fields : EventFields)
    {d s : Iec61850Detector} (h : s.eventSeq = d.eventSeq) :
    Rising (BearsId clock.day .iec61850) d.eventSeq (event clock rule protocol fields s).1.eventSeq
      (event clock rule protocol fields s).2 := by
  rw [← h]
  refine Rising.single ?_
  show lit s!"evt-{clock.day}-61850-{pad5 (s.eventSeq + 1)}" = _
  rw [← lit_id]
  simp only [String.append_assoc]
  rfl

theorem silent_rising {day : String} {d s : Iec61850Detector} (h : s.eventSeq = d.eventSeq) :
    Rising (BearsId day .iec61850) d.eventSeq s.eventSeq [] := .nil (h ▸ Nat.le_refl _)

/-- What the filter takes out has been numbered all the same. -/
theorem filterEnabled_draws {f : Emitter Iec61850Detector SecurityEvent}
    {nth : Nat → SecurityEvent → Prop} (hf : f.Draws eventSeq nth) :
    (filterEnabled f).Draws eventSeq nth :=
  fun d => (hf d).sublist List.filter_sublist

variable (doc : PolicyDoc) (clock : Clock)

theorem gooseNewPublisher_draws (frame : Goose.GooseFrame) :
    (gooseNewPublisher doc clock frame).Draws eventSeq (BearsId clock.day .iec61850) := by
  intro d
  unfold gooseNewPublisher
  split
  · exact silent_rising rfl
  · simp only
    split
    · exact silent_rising rfl
    · exact event_rising _ _ _ _ rfl

theorem gooseTestMode_draws (frame : Goose.GooseFrame) :
    (gooseTestMode doc clock frame).Draws eventSeq (BearsId clock.day .iec61850) := by
  intro d
  unfold gooseTestMode
  simp only
  split
  · exact event_rising _ _ _ _ rfl
  · exact silent_rising rfl

theorem gooseStnumAnomaly_draws (frame : Goose.GooseFrame) :
    (gooseStnumAnomaly doc clock frame).Draws eventSeq (BearsId clock.day .iec61850) := by
  intro d
  unfold gooseStnumAnomaly
  simp only
  split
  · exact silent_rising rfl
  · split
    · exact event_rising _ _ _ _ rfl
    · exact silent_rising rfl

theorem evaluateGoose_draws (frame : Goose.GooseFrame) :
    (evaluateGoose doc clock frame).Draws eventSeq (BearsId clock.day .iec61850) :=
  filterEnabled_draws <| (gooseNewPublisher_draws doc clock frame).andThen <|
    (gooseTestMode_draws doc clock frame).andThen (gooseStnumAnomaly_draws doc clock frame)

theorem mmsNewClient_draws (client ied : String) (pduType : Mms.PduType) :
    (mmsNewClient doc clock client ied pduType).Draws eventSeq (BearsId clock.day .iec61850) := by
  intro d
  unfold mmsNewClient
  split
  · exact silent_rising rfl
  · simp only
    split
    · exact silent_rising rfl
    · exact event_rising _ _ _ _ rfl

theorem mmsWriteAnomaly_draws (client ied : String) (pduType : Mms.PduType) :
    (mmsWriteAnomaly doc clock client ied pduType).Draws eventSeq (BearsId clock.day .iec61850) := by
  intro d
  unfold mmsWriteAnomaly
  split
  · exact event_rising _ _ _ _ rfl
  · exact silent_rising rfl

theorem mmsUnauthorized_draws (client ied : String) (pduType : Mms.PduType) :
    (mmsUnauthorized doc clock client ied pduType).Draws eventSeq (BearsId clock.day .iec61850) := by
  intro d
  unfold mmsUnauthorized
  split
  · exact event_rising _ _ _ _ rfl
  · exact silent_rising rfl

theorem evaluateMms_draws (obs : Mms.MmsObservation) :
    (evaluateMms doc clock obs).Draws eventSeq (BearsId clock.day .iec61850) :=
  filterEnabled_draws <| (mmsNewClient_draws doc clock _ _ _).andThen <|
    (mmsWriteAnomaly_draws doc clock _ _ _).andThen (mmsUnauthorized_draws doc clock _ _ _)

end Iec61850Detector

namespace IocMatcher

variable (doc : PolicyDoc) (whitelisted : String → Bool) (clock : Clock)

theorem evaluateDirection_draws (view : IocView) (ends : Endpoints) (direction : Direction)
    (ip : Option String) :
    (evaluateDirection doc whitelisted clock view ends direction ip).Draws eventSeq
      (BearsId clock.day .ioc) := by
  intro m
  unfold evaluateDirection
  split
  · exact .nil (Nat.le_refl _)
  · split
    · exact .nil (Nat.le_refl _)
    · split
      · exact .nil (Nat.le_refl _)
      · split
        · exact .nil (Nat.le_refl _)
        · refine Rising.single ?_
          show lit s!"evt-{clock.day}-ioc-{pad5 (m.eventSeq + 1)}" = _
          rw [← lit_id]
          simp only [String.append_assoc]
          rfl

theorem evaluate_draws (view : Direction → IocView) (ends : Endpoints) :
    (evaluate doc whitelisted clock view ends).Draws eventSeq (BearsId clock.day .ioc) := by
  intro m
  unfold evaluate
  split
  · exact ((evaluateDirection_draws doc whitelisted clock _ _ _ _).andThen
      (evaluateDirection_draws doc whitelisted clock _ _ _ _)) m
  · exact .nil (Nat.le_refl _)

end IocMatcher

/-! ## Ids of one process -/

/-- All different, and each some producer's, numbered no higher than its counter. -/
structure Numbered (count : Producer → Nat) (ids : List PyStr) : Prop where
  nodup : ids.Nodup
  drawn : ∀ id ∈ ids, ∃ day p n, DayText day ∧ n ≤ count p ∧ id = producerId day p n

theorem Numbered.nil (count : Producer → Nat) : Numbered count [] :=
  ⟨List.nodup_nil, fun _ h => absurd h List.not_mem_nil⟩

/-- Counters may run ahead of the ids. -/
theorem Numbered.mono {count count' : Producer → Nat} {ids : List PyStr} (h : Numbered count ids)
    (hle : ∀ p, count p ≤ count' p) : Numbered count' ids := by
  refine ⟨h.nodup, fun id hid => ?_⟩
  obtain ⟨day, p, n, hday, hn, heq⟩ := h.drawn id hid
  exact ⟨day, p, n, hday, hn.trans (hle p), heq⟩

theorem Numbered.perm {count : Producer → Nat} {ids ids' : List PyStr} (h : Numbered count ids)
    (hperm : ids'.Perm ids) : Numbered count ids' :=
  ⟨hperm.nodup_iff.mpr h.nodup, fun id hid => h.drawn id (hperm.subset hid)⟩

/-- The id is number `n` of a producer, on some day. -/
def IsNth (p : Producer) (n : Nat) (id : PyStr) : Prop := ∃ day, DayText day ∧ id = producerId day p n

theorem IsNth.inj {p q : Producer} {n m : Nat} {id : PyStr} (h : IsNth p n id)
    (h' : IsNth q m id) : p = q ∧ n = m := by
  obtain ⟨day, hday, rfl⟩ := h
  obtain ⟨day', hday', heq⟩ := h'
  exact producerId_inj hday hday' heq

/-- **Ids drawn now are new**: whatever a producer draws lies above its counter. -/
theorem Numbered.append {count count' : Producer → Nat} {ids new : List PyStr} {p : Producer}
    (h : Numbered count ids) (hnew : Rising (IsNth p) (count p) (count' p) new)
    (hle : ∀ q, count q ≤ count' q) : Numbered count' (ids ++ new) := by
  refine ⟨List.nodup_append.mpr ⟨h.nodup, ?_, ?_⟩, fun id hid => ?_⟩
  · refine hnew.rising.imp ?_
    rintro id _ ⟨n, m, hlt, hn, hm⟩ rfl
    exact absurd (hn.inj hm).2 (Nat.ne_of_lt hlt)
  · rintro id hid _ hid' rfl
    obtain ⟨day, q, n, hday, hn, heq⟩ := h.drawn id hid
    obtain ⟨m, hm, _, hnth⟩ := hnew.range id hid'
    obtain ⟨rfl, rfl⟩ := IsNth.inj ⟨day, hday, heq⟩ hnth
    exact absurd hn (Nat.not_le.mpr hm)
  · rcases List.mem_append.mp hid with hid | hid
    · obtain ⟨day, q, n, hday, hn, heq⟩ := h.drawn id hid
      exact ⟨day, q, n, hday, hn.trans (hle q), heq⟩
    · obtain ⟨n, _, hn, day, hday, heq⟩ := hnew.range id hid
      exact ⟨day, p, n, hday, hn, heq⟩

end EdgeSensor.Sensor
