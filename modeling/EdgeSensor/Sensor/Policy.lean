import EdgeSensor.Lib.Dict
import Mathlib.Data.Rat.Defs

/-!
# Detection policies, and the one dict they share

A policy is a JSON object. `PolicyDoc` is its value: the parts the detectors read
and the learner writes, at the types the policy schema gives them, and `other` for the rest
(as text, so that two policies that differ only there still differ).

The sensor passes policies around by reference and copies them one level deep
(`dict(self._baseline)`), so the nested `thresholds` dict stays shared between
the stores and the detectors, and it is the one nested value the code mutates
(`setdefault("thresholds", {}).update(...)`). `Heap` holds exactly these dicts;
`PolicyObj` is a policy object whose `thresholds` is a reference into it, and
`resolve` reads the value a holder of the object sees.

Mirroring notes:
- A key that is absent is `none` where the code can tell (`baseline.get("x")`
  next to a default); where it always substitutes a default, the field has it.
- Numbers in thresholds are exact rationals: no float rounding is modelled.
-/

namespace EdgeSensor.Sensor

open EdgeSensor.Lib

/-- One entry of `policy["assets"]`. -/
structure Asset where
  assetId : Option String := none
  addresses : List String := []
  allowedPeers : List String := []
  allowedModbusFunctionCodes : List Nat := []
  normalWriteCountPerHour : Rat := 0
  normalPacketRateMax : Option Rat := none
  deriving DecidableEq

/-- `policy["global_allowlists"]`. -/
structure GlobalAllowlists where
  mac : List String := []
  ip : List String := []
  communicationPairs : List String := []
  ports : List String := []
  deriving DecidableEq

/-- One entry of `iec61850.goose_publishers`; what only a learned one has is optional. -/
structure GoosePublisher where
  assetId : String := ""
  publisherMac : String := ""
  appid : Int := -1
  gocbRef : String := ""
  production : Bool := true
  goId : Option String := none
  confRev : Option Int := none
  maxSilenceSec : Option Nat := none
  observedFrames : Option Nat := none
  deriving DecidableEq

/-- One entry of `iec61850.mms_ieds`. -/
structure MmsIed where
  iedIp : Option String := none
  allowedMmsClients : List String := []
  assetId : Option String := none
  observedReads : Option Nat := none
  observedWrites : Option Nat := none
  deriving DecidableEq

/-- `policy["iec61850"]`. -/
structure Iec61850Policy where
  goosePublishers : List GoosePublisher := []
  mmsIeds : List MmsIed := []
  thresholds : Dict String Rat := []
  deriving DecidableEq

/-- One entry of `modbus_servers`, as the baseline collector writes it. -/
structure ModbusServer where
  serverIp : String
  unitIds : List Nat := []
  functionCodes : List Nat := []
  allowedClients : List String := []
  deriving DecidableEq

/-- Everything in a policy except `thresholds`. -/
structure PolicyBody where
  policyVersion : Option String := none
  iec61850 : Option Iec61850Policy := none
  modbusServers : Option (List ModbusServer) := none
  assets : Option (List Asset) := none
  globalAllowlists : Option GlobalAllowlists := none
  other : List (String × String) := []
  deriving DecidableEq

/-- The value of a policy object. -/
structure PolicyDoc where
  body : PolicyBody := {}
  thresholds : Option (Dict String Rat) := none
  deriving DecidableEq

/-- The `thresholds` dicts alive in the process; a reference is an index. -/
abbrev Heap := List (Dict String Rat)

/-- A policy object: its own keys, and a reference to its `thresholds` dict. -/
structure PolicyObj where
  body : PolicyBody := {}
  thresholds : Option Nat := none
  deriving DecidableEq

/-- The value a holder of the object sees. -/
def PolicyObj.resolve (obj : PolicyObj) (heap : Heap) : PolicyDoc :=
  ⟨obj.body, obj.thresholds.map fun r => heap.getD r []⟩

/-- The object's reference points into the heap. -/
def PolicyObj.Valid (obj : PolicyObj) (heap : Heap) : Prop :=
  ∀ r, obj.thresholds = some r → r < heap.length

/-- A freshly decoded document: its nested dict is a new one. -/
def PolicyDoc.alloc (doc : PolicyDoc) (heap : Heap) : PolicyObj × Heap :=
  match doc.thresholds with
  | none => (⟨doc.body, none⟩, heap)
  | some t => (⟨doc.body, some heap.length⟩, heap ++ [t])

/-- `if thresholds: baseline.setdefault("thresholds", {}).update(thresholds)`. -/
def PolicyObj.overlay (obj : PolicyObj) (thresholds : Dict String Rat) (heap : Heap) :
    PolicyObj × Heap :=
  if thresholds = [] then (obj, heap)
  else
    match obj.thresholds with
    | none => ({ obj with thresholds := some heap.length }, heap ++ [Dict.update [] thresholds])
    | some r => (obj, heap.set r (Dict.update (heap.getD r []) thresholds))

/-- The same overlay on the value. -/
def PolicyDoc.overlay (doc : PolicyDoc) (thresholds : Dict String Rat) : PolicyDoc :=
  if thresholds = [] then doc
  else ⟨doc.body, some (Dict.update (doc.thresholds.getD []) thresholds)⟩

/-! ## What each object operation does to what the holders see -/

theorem PolicyDoc.resolve_alloc (doc : PolicyDoc) (heap : Heap) :
    (doc.alloc heap).1.resolve (doc.alloc heap).2 = doc := by
  unfold PolicyDoc.alloc PolicyObj.resolve
  obtain ⟨body, t⟩ := doc
  cases t with
  | none => rfl
  | some t => simp

theorem PolicyDoc.alloc_valid (doc : PolicyDoc) (heap : Heap) :
    (doc.alloc heap).1.Valid (doc.alloc heap).2 := by
  unfold PolicyDoc.alloc PolicyObj.Valid
  cases doc.thresholds with
  | none => intro r hr; cases hr
  | some t =>
    intro r hr
    cases hr
    rw [List.length_append]
    exact Nat.lt_succ_self _

theorem PolicyDoc.alloc_length (doc : PolicyDoc) (heap : Heap) :
    heap.length ≤ (doc.alloc heap).2.length := by
  unfold PolicyDoc.alloc
  cases doc.thresholds with
  | none => exact Nat.le_refl _
  | some t =>
    rw [List.length_append]
    exact Nat.le_add_right _ _

theorem PolicyDoc.alloc_body (doc : PolicyDoc) (heap : Heap) : (doc.alloc heap).1.body = doc.body := by
  unfold PolicyDoc.alloc
  cases doc.thresholds <;> rfl

/-- A decoded object's dict is a new one. -/
theorem PolicyDoc.alloc_ref (doc : PolicyDoc) (heap : Heap) {ref : Nat}
    (h : (doc.alloc heap).1.thresholds = some ref) : heap.length ≤ ref := by
  unfold PolicyDoc.alloc at h
  cases ht : doc.thresholds with
  | none =>
    rw [ht] at h
    cases h
  | some t =>
    rw [ht] at h
    cases h
    exact Nat.le_refl _

/-- Decoding another document changes nothing for an object that was there. -/
theorem PolicyDoc.resolve_alloc_of_valid (doc : PolicyDoc) {obj : PolicyObj} {heap : Heap}
    (h : obj.Valid heap) : obj.resolve (doc.alloc heap).2 = obj.resolve heap := by
  unfold PolicyDoc.alloc PolicyObj.resolve
  cases doc.thresholds with
  | none => rfl
  | some t =>
    cases hr : obj.thresholds with
    | none => rfl
    | some r =>
      have hlt := h r hr
      simp [List.getElem?_append_left hlt]

theorem PolicyObj.overlay_length (obj : PolicyObj) (t : Dict String Rat) (heap : Heap) :
    heap.length ≤ (obj.overlay t heap).2.length := by
  unfold PolicyObj.overlay
  split
  · exact Nat.le_refl _
  · cases obj.thresholds with
    | none =>
      rw [List.length_append]
      exact Nat.le_add_right _ _
    | some r => rw [List.length_set]

theorem PolicyObj.overlay_body (obj : PolicyObj) (t : Dict String Rat) (heap : Heap) :
    (obj.overlay t heap).1.body = obj.body := by
  unfold PolicyObj.overlay
  split
  · rfl
  · cases obj.thresholds <;> rfl

theorem PolicyObj.overlay_valid {obj : PolicyObj} (t : Dict String Rat) {heap : Heap}
    (h : obj.Valid heap) : (obj.overlay t heap).1.Valid (obj.overlay t heap).2 := by
  unfold PolicyObj.overlay
  split
  · exact h
  · cases hr : obj.thresholds with
    | none =>
      intro r hr'
      cases hr'
      rw [List.length_append]
      exact Nat.lt_succ_self _
    | some r =>
      intro r' hr'
      rw [List.length_set]
      exact h r' hr'

/-- The object itself sees the overlaid value. -/
theorem PolicyObj.resolve_overlay {obj : PolicyObj} (t : Dict String Rat) {heap : Heap}
    (h : obj.Valid heap) :
    (obj.overlay t heap).1.resolve (obj.overlay t heap).2 = (obj.resolve heap).overlay t := by
  unfold PolicyObj.overlay PolicyDoc.overlay
  split
  · rfl
  · cases hr : obj.thresholds with
    | none => simp [PolicyObj.resolve, hr]
    | some r =>
      have hlt := h r hr
      simp [PolicyObj.resolve, hr, hlt]

/-- A later, larger heap still holds what a valid object refers to. -/
theorem PolicyObj.Valid.mono {obj : PolicyObj} {heap heap' : Heap} (h : obj.Valid heap)
    (hle : heap.length ≤ heap'.length) : obj.Valid heap' :=
  fun r hr => Nat.lt_of_lt_of_le (h r hr) hle

/-- An overlay on another object is invisible, unless the two share their dict. -/
theorem PolicyObj.resolve_overlay_ne {obj other : PolicyObj} (t : Dict String Rat) {heap : Heap}
    (h : other.Valid heap) (hne : ∀ r, other.thresholds = some r → obj.thresholds ≠ some r) :
    other.resolve (obj.overlay t heap).2 = other.resolve heap := by
  unfold PolicyObj.overlay
  split
  · rfl
  · cases hr : obj.thresholds with
    | none =>
      cases hr' : other.thresholds with
      | none => simp [PolicyObj.resolve, hr']
      | some r' => simp [PolicyObj.resolve, hr', List.getElem?_append_left (h r' hr')]
    | some r =>
      cases hr' : other.thresholds with
      | none => simp [PolicyObj.resolve, hr']
      | some r' =>
        have hrr : r ≠ r' := by
          intro heq
          exact hne r' hr' (by rw [hr, heq])
        simp [PolicyObj.resolve, hr', List.getElem?_set_ne hrr]

/-! ## What survives every object operation -/

theorem PolicyDoc.overlay_nil (doc : PolicyDoc) : doc.overlay [] = doc := rfl

theorem PolicyDoc.overlay_overlay (doc : PolicyDoc) (t u : Dict String Rat) :
    (doc.overlay t).overlay u = doc.overlay (t ++ u) := by
  by_cases ht : t = []
  · rw [ht, overlay_nil, List.nil_append]
  · by_cases hu : u = []
    · rw [hu, overlay_nil, List.append_nil]
    · have htu : t ++ u ≠ [] := fun h => ht (List.append_eq_nil_iff.mp h).1
      simp only [PolicyDoc.overlay, if_neg ht, if_neg hu, if_neg htu, Option.getD_some,
        Dict.update_append]

/-- The heap has only grown, and a dict that was there has at most been overlaid:
what every operation of the sensor does to the dicts. -/
def Heap.Overlaid (heap heap' : Heap) : Prop :=
  heap.length ≤ heap'.length ∧ ∀ obj : PolicyObj, obj.Valid heap →
    ∃ t, obj.resolve heap' = (obj.resolve heap).overlay t

theorem Heap.Overlaid.refl (heap : Heap) : heap.Overlaid heap :=
  ⟨Nat.le_refl _, fun _ _ => ⟨[], (PolicyDoc.overlay_nil _).symm⟩⟩

theorem Heap.Overlaid.trans {heap₁ heap₂ heap₃ : Heap} (h₁ : heap₁.Overlaid heap₂)
    (h₂ : heap₂.Overlaid heap₃) : heap₁.Overlaid heap₃ := by
  refine ⟨Nat.le_trans h₁.1 h₂.1, fun obj hobj => ?_⟩
  obtain ⟨t, ht⟩ := h₁.2 obj hobj
  obtain ⟨u, hu⟩ := h₂.2 obj (hobj.mono h₁.1)
  exact ⟨t ++ u, by rw [hu, ht, PolicyDoc.overlay_overlay]⟩

/-- The heap has only grown: nobody sees a difference. -/
def Heap.Grown (heap heap' : Heap) : Prop :=
  heap.length ≤ heap'.length ∧ ∀ obj : PolicyObj, obj.Valid heap →
    obj.resolve heap' = obj.resolve heap

theorem Heap.Grown.refl (heap : Heap) : heap.Grown heap := ⟨Nat.le_refl _, fun _ _ => rfl⟩

theorem Heap.Grown.trans {heap₁ heap₂ heap₃ : Heap} (h₁ : heap₁.Grown heap₂)
    (h₂ : heap₂.Grown heap₃) : heap₁.Grown heap₃ :=
  ⟨Nat.le_trans h₁.1 h₂.1, fun obj hobj => (h₂.2 obj (hobj.mono h₁.1)).trans (h₁.2 obj hobj)⟩

theorem Heap.Grown.overlaid {heap heap' : Heap} (h : heap.Grown heap') : heap.Overlaid heap' :=
  ⟨h.1, fun obj hobj => ⟨[], h.2 obj hobj⟩⟩

theorem PolicyDoc.alloc_grown (doc : PolicyDoc) (heap : Heap) : heap.Grown (doc.alloc heap).2 :=
  ⟨doc.alloc_length heap, fun _ hobj => doc.resolve_alloc_of_valid hobj⟩

theorem PolicyObj.overlay_overlaid (obj : PolicyObj) (t : Dict String Rat) (heap : Heap) :
    heap.Overlaid (obj.overlay t heap).2 := by
  refine ⟨obj.overlay_length t heap, fun other hother => ?_⟩
  by_cases hshared : ∃ r, other.thresholds = some r ∧ obj.thresholds = some r
  · -- the two share their dict, so the overlay shows
    obtain ⟨r, hr, hr'⟩ := hshared
    refine ⟨t, ?_⟩
    have hlt := hother r hr
    unfold PolicyObj.overlay PolicyDoc.overlay
    split
    · rfl
    · simp [PolicyObj.resolve, hr, hr', hlt]
  · refine ⟨[], ?_⟩
    rw [PolicyDoc.overlay_nil]
    exact PolicyObj.resolve_overlay_ne t hother fun r hr hr' => hshared ⟨r, hr, hr'⟩

/-- The object's value is `doc`, perhaps with thresholds laid over it. -/
def PolicyObj.DerivedFrom (obj : PolicyObj) (doc : PolicyDoc) (heap : Heap) : Prop :=
  obj.Valid heap ∧ ∃ t, obj.resolve heap = doc.overlay t

theorem PolicyObj.DerivedFrom.mono {obj : PolicyObj} {doc : PolicyDoc} {heap heap' : Heap}
    (h : obj.DerivedFrom doc heap) (hle : heap.Overlaid heap') : obj.DerivedFrom doc heap' := by
  obtain ⟨hvalid, t, ht⟩ := h
  obtain ⟨u, hu⟩ := hle.2 obj hvalid
  exact ⟨hvalid.mono hle.1, t ++ u, by rw [hu, ht, PolicyDoc.overlay_overlay]⟩

/-- Laying thresholds over a dict newer than `heap` shows nowhere else. -/
theorem Heap.Grown.overlay {heap heap' : Heap} (h : heap.Grown heap') {obj : PolicyObj}
    (hnew : ∀ ref, obj.thresholds = some ref → heap.length ≤ ref) (t : Dict String Rat) :
    heap.Grown (obj.overlay t heap').2 := by
  refine ⟨Nat.le_trans h.1 (obj.overlay_length t heap'), fun other hother => ?_⟩
  rw [PolicyObj.resolve_overlay_ne t (hother.mono h.1), h.2 other hother]
  intro ref href hobj
  exact absurd (hother ref href) (Nat.not_lt.mpr (hnew ref hobj))

theorem PolicyDoc.overlay_body (doc : PolicyDoc) (t : Dict String Rat) :
    (doc.overlay t).body = doc.body := by
  unfold PolicyDoc.overlay
  split <;> rfl

theorem PolicyObj.DerivedFrom.body {obj : PolicyObj} {doc : PolicyDoc} {heap : Heap}
    (h : obj.DerivedFrom doc heap) : obj.body = doc.body := by
  obtain ⟨-, t, ht⟩ := h
  exact (congrArg (·.body) ht).trans (doc.overlay_body t)

/-- In a heap that has only grown, a backed object is derived from what it was. -/
theorem Heap.Grown.derivedFrom_iff {heap heap' : Heap} (h : heap.Grown heap') {obj : PolicyObj}
    (hobj : obj.Valid heap) (doc : PolicyDoc) :
    obj.DerivedFrom doc heap' ↔ obj.DerivedFrom doc heap := by
  unfold PolicyObj.DerivedFrom
  rw [h.2 obj hobj]
  exact and_congr_left fun _ => ⟨fun _ => hobj, fun _ => hobj.mono h.1⟩

theorem PolicyDoc.alloc_derivedFrom (doc : PolicyDoc) (heap : Heap) :
    (doc.alloc heap).1.DerivedFrom doc (doc.alloc heap).2 :=
  ⟨doc.alloc_valid heap, [], doc.resolve_alloc heap⟩

theorem PolicyObj.DerivedFrom.overlay {obj : PolicyObj} {doc : PolicyDoc} {heap : Heap}
    (h : obj.DerivedFrom doc heap) (t : Dict String Rat) :
    (obj.overlay t heap).1.DerivedFrom doc (obj.overlay t heap).2 := by
  obtain ⟨hvalid, u, hu⟩ := h
  refine ⟨PolicyObj.overlay_valid t hvalid, u ++ t, ?_⟩
  rw [PolicyObj.resolve_overlay t hvalid, hu, PolicyDoc.overlay_overlay]

end EdgeSensor.Sensor
