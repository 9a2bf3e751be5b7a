import EdgeSensor.Sensor.ExternalSource

/-!
# When an alert can be mapped

For each conversion the values it fails on, and from them for each bridge the records its
mapper fails on (`bad`). The failures the source catches are those of `int` on a text or a
container; what gets through is an infinite float, a timestamp that is no text, a record
that is no object. What the mapper lets pass can still not be written: the whole record is
quoted in the event, so the event is as writable as the record is, two containers deeper
(`EventOf.writable`).

`Maps` is the one thing the rest knows about a mapper.
-/

namespace EdgeSensor.Sensor

open EdgeSensor.Lib EdgeSensor.Py

variable {text : EngineText}

/-! ## Conversions -/

/-- `int` with the two errors caught fails on an infinite float only. -/
theorem tryInt_spec (x : Value) :
    if x.isInfinite then ∃ e, tryInt text x = .error e else ∃ r, tryInt text x = .ok r := by
  cases x with
  | float x =>
    cases x with
    | inf negative => exact ⟨_, rfl⟩
    | finite q => exact ⟨_, rfl⟩
    | negZero => exact ⟨_, rfl⟩
    | nan => exact ⟨_, rfl⟩
  | str s =>
    show ∃ r, tryInt text (.str s) = .ok r
    unfold tryInt toInt
    cases hread : text.readInt s with
    | none => exact ⟨none, by simp only [hread]⟩
    | some n => exact ⟨some n, by simp only [hread]⟩
  | _ => exact ⟨_, rfl⟩

theorem mapSeverity_spec (x : Value) :
    if x.isInfinite then ∃ e, mapSeverity text x = .error e
    else ∃ severity, mapSeverity text x = .ok severity := by
  have h := @tryInt_spec text x
  unfold mapSeverity
  split
  next hinf =>
    rw [if_pos hinf] at h
    obtain ⟨e, he⟩ := h
    rw [he]
    exact ⟨e, rfl⟩
  next hfinite =>
    rw [if_neg hfinite] at h
    obtain ⟨r, hr⟩ := h
    rw [hr]
    exact ⟨_, rfl⟩

theorem coercePort_spec (x : Value) :
    if x.isInfinite then ∃ e, coercePort text x = .error e
    else ∃ port, coercePort text x = .ok port := by
  have h := @tryInt_spec text x
  cases x with
  | null => exact ⟨none, rfl⟩
  | str s =>
    cases s with
    | nil => exact ⟨none, rfl⟩
    | cons c s => exact h
  | _ => exact h

/-- Part of a record: no deeper, and writable where the record is. -/
def PartOf (record x : Value) : Prop :=
  x.depth ≤ record.depth ∧ (record.encodable = true → x.encodable = true)

theorem PartOf.getD {v record : Value} {key : String} {default : Value} (h : PartOf record v)
    (hdepth : default.depth = 0) (hencodable : default.encodable = true) :
    PartOf record (v.getD key default) :=
  ⟨(Value.depth_getD_le hdepth).trans h.1, fun hr => Value.encodable_getD (h.2 hr) hencodable⟩

theorem PartOf.get {v record : Value} {key : String} (h : PartOf record v) :
    PartOf record (v.get key) := h.getD rfl rfl

theorem partOf_self (record : Value) : PartOf record record := ⟨Nat.le_refl _, id⟩

/-- A timestamp Suricata's mapper fails on: present, and no text. -/
def badEveTimestamp (raw : Value) : Bool := raw.truthy && !raw.isStr

/-- A timestamp Snort's mapper fails on: present, and nothing one can search. -/
def badSnortTimestamp (raw : Value) : Bool := raw.truthy && (containsT raw).isNone

theorem parseEveTimestamp_spec (clock : EngineClock) {record raw : Value} (hraw : PartOf record raw) :
    if badEveTimestamp raw then ∃ e, parseEveTimestamp text clock raw = .error e
    else ∃ t, parseEveTimestamp text clock raw = .ok t ∧ PartOf record t := by
  have hnow : PartOf record (.str (lit clock.now)) := ⟨Nat.zero_le _, fun _ => encodable_lit _⟩
  unfold parseEveTimestamp badEveTimestamp
  cases htruthy : raw.truthy with
  | false => exact ⟨_, rfl, hnow⟩
  | true =>
    cases raw with
    | str s =>
      refine ⟨_, rfl, Nat.zero_le _, fun _ => ?_⟩
      show PyStr.encodable ((text.fromIso _).getD _) = true
      cases hiso : text.fromIso (colonOffset s.strip) with
      | none => exact encodable_lit _
      | some t => exact text.fromIso_encodable _ t hiso
    | _ => exact ⟨_, rfl⟩

theorem parseSnortTimestamp_spec (clock : EngineClock) {record raw : Value} (hraw : PartOf record raw) :
    if badSnortTimestamp raw then ∃ e, parseSnortTimestamp text clock raw = .error e
    else ∃ t, parseSnortTimestamp text clock raw = .ok t ∧ PartOf record t := by
  have hnow : PartOf record (.str (lit clock.now)) := ⟨Nat.zero_le _, fun _ => encodable_lit _⟩
  unfold parseSnortTimestamp badSnortTimestamp
  cases htruthy : raw.truthy with
  | false => exact ⟨_, rfl, hnow⟩
  | true =>
    cases hsearch : containsT raw with
    | none => exact ⟨_, rfl⟩
    | some found =>
      cases found with
      | true => exact ⟨_, rfl, hraw⟩
      | false =>
        refine ⟨_, rfl, Nat.zero_le _, fun _ => ?_⟩
        show PyStr.encodable ((text.strptime _).getD _) = true
        rcases htime : text.strptime _ with _ | t
        · exact encodable_lit _
        · exact text.strptime_encodable _ t htime

/-! ## Texts -/

theorem toStr_encodable {x : Value} (h : x.encodable = true) :
    PyStr.encodable (toStr text x) = true := by
  cases x with
  | null => exact encodable_lit _
  | bool b => cases b <;> exact encodable_lit _
  | int n => exact encodable_lit _
  | str s => exact h
  | float x => exact text.repr_encodable _
  | arr xs => exact text.repr_encodable _
  | obj fields => exact text.repr_encodable _

theorem strOr_encodable {x : Value} {default : String} (h : x.encodable = true) :
    PyStr.encodable (strOr text x default) = true := by
  unfold strOr
  split
  next => exact toStr_encodable h
  next => exact encodable_lit _

/-! ## Events -/

/-- An event made of a record: it quotes the record, and everything in it is part of it. -/
structure EventOf (record : Value) (event : EngineEvent) : Prop where
  quoted : ("raw_event", record) ∈ event.evidence
  evidence : ∀ kv ∈ event.evidence, PartOf record kv.2
  timestamp : PartOf record event.timestamp
  texts : record.encodable = true → ∀ s ∈ [event.ruleId, event.protocol, event.description,
    event.srcIp, event.dstIp], PyStr.encodable s = true

theorem mem_optional {absent : Prop} [Decidable absent] {field kv : PyStr × Value}
    (h : kv ∈ if absent then [] else [field]) : kv = field := by
  split at h
  next => exact absurd h List.not_mem_nil
  next => exact List.mem_singleton.mp h

/-- The fields `to_dict` writes: scalars, the timestamp, the evidence. -/
theorem EngineEvent.mem_toDict {event : EngineEvent} {fields : List (PyStr × Value)}
    (hdict : event.toDict = .obj fields) {kv : PyStr × Value} (h : kv ∈ fields) :
    PyStr.encodable kv.1 = true ∧
      ((∃ s, kv.2 = .str (lit s)) ∨ (∃ n, kv.2 = .int n) ∨ kv.2 = event.timestamp
        ∨ kv.2 = .obj (event.evidence.map fun kv => (lit kv.1, kv.2))
        ∨ ∃ s ∈ [event.ruleId, event.protocol, event.description, event.srcIp, event.dstIp],
          kv.2 = .str s) := by
  unfold EngineEvent.toDict at hdict
  cases hdict
  simp only [List.mem_append, List.mem_cons, List.not_mem_nil, or_false] at h
  rcases h with ((h | h) | h) | h
  · rcases h with rfl | rfl | rfl | rfl | rfl | rfl | rfl | rfl | rfl | rfl | rfl <;>
      refine ⟨encodable_lit _, ?_⟩
    all_goals simp
  · obtain rfl := mem_optional h
    exact ⟨encodable_lit _, by simp⟩
  · obtain rfl := mem_optional h
    exact ⟨encodable_lit _, by simp⟩
  · split at h
    next => exact absurd h List.not_mem_nil
    next =>
      rw [List.mem_singleton] at h
      subst h
      exact ⟨encodable_lit _, by simp⟩

theorem EngineEvent.evidence_mem_toDict {event : EngineEvent} {fields : List (PyStr × Value)}
    (hdict : event.toDict = .obj fields) :
    (lit "evidence", Value.obj (event.evidence.map fun kv => (lit kv.1, kv.2))) ∈ fields := by
  unfold EngineEvent.toDict at hdict
  cases hdict
  simp

/-- **What can be written.** The event lies two containers deeper than its record, and is
encodable exactly if the record is. -/
theorem EventOf.writable {record : Value} {event : EngineEvent} (h : EventOf record event) :
    event.toDict.depth = record.depth + 2 ∧ event.toDict.encodable = record.encodable := by
  obtain ⟨fields, hdict⟩ : ∃ fields, event.toDict = .obj fields := ⟨_, rfl⟩
  have hevidence := EngineEvent.evidence_mem_toDict hdict
  have hquoted : (lit "raw_event", record) ∈ event.evidence.map fun kv => (lit kv.1, kv.2) :=
    List.mem_map.mpr ⟨_, h.quoted, rfl⟩
  -- the evidence is one container around parts of the record, the record among them
  have hdepth : (Value.obj (event.evidence.map fun kv => (lit kv.1, kv.2))).depth
      = record.depth + 1 := by
    rw [Value.depth]
    refine congrArg (· + 1) (Nat.le_antisymm (Value.depthFields_le fun kv hkv => ?_) ?_)
    · obtain ⟨kv', hkv', rfl⟩ := List.mem_map.mp hkv
      exact (h.evidence kv' hkv').1
    · exact Value.le_depthFields hquoted
  refine ⟨?_, ?_⟩
  · rw [hdict, Value.depth]
    refine congrArg (· + 1) (Nat.le_antisymm (Value.depthFields_le fun kv hkv => ?_) ?_)
    · rcases (EngineEvent.mem_toDict hdict hkv).2 with ⟨s, hs⟩ | ⟨n, hn⟩ | ht | he | ⟨s, _, hs⟩
      · rw [hs]
        exact Nat.zero_le _
      · rw [hn]
        exact Nat.zero_le _
      · rw [ht]
        exact h.timestamp.1.trans (Nat.le_succ _)
      · rw [he, hdepth]
      · rw [hs]
        exact Nat.zero_le _
    · have hle := Value.le_depthFields hevidence
      rw [hdepth] at hle
      exact hle
  · rw [hdict, Value.encodable, Bool.eq_iff_iff, Value.encodableFields_iff]
    constructor
    · intro hall
      have hobj := (hall _ hevidence).2
      rw [Value.encodable, Value.encodableFields_iff] at hobj
      exact (hobj _ hquoted).2
    · intro hrecord kv hkv
      obtain ⟨hkey, hvalue⟩ := EngineEvent.mem_toDict hdict hkv
      refine ⟨hkey, ?_⟩
      rcases hvalue with ⟨s, hs⟩ | ⟨n, hn⟩ | ht | he | ⟨s, hmem, hs⟩
      · rw [hs]
        exact encodable_lit s
      · rw [hn]
        rfl
      · rw [ht]
        exact h.timestamp.2 hrecord
      · rw [he, Value.encodable, Value.encodableFields_iff]
        intro kv' hkv'
        obtain ⟨kv'', hkv'', rfl⟩ := List.mem_map.mp hkv'
        exact ⟨encodable_lit _, (h.evidence kv'' hkv'').2 hrecord⟩
      · rw [hs]
        exact h.texts hrecord s hmem

/-! ## Mappers -/

/-- No event comes of the record: an exception, or an event that cannot be written. -/
def Fails (text : EngineText) (result : Except PyErr (Option EngineEvent)) : Prop :=
  (∃ e, result = .error e) ∨
    ∃ event, result = .ok (some event)
      ∧ (text.maxDepth < event.toDict.depth ∨ event.toDict.encodable = false)

/-- An event that can be written. -/
def Writes (text : EngineText) (result : Except PyErr (Option EngineEvent)) : Prop :=
  ∃ event, result = .ok (some event)
    ∧ event.toDict.depth ≤ text.maxDepth ∧ event.toDict.encodable = true

/-- The records that cannot be written as part of an event. -/
def unwritable (text : EngineText) (record : Value) : Bool :=
  text.maxDepth < record.depth + 2 || !record.encodable

/-- What a mapper does with each record: it fails on the bad ones, and makes an event of
each alert among the others. -/
structure Maps (text : EngineText) (map : EngineMap) (isAlert bad : Value → Bool) : Prop where
  fails : ∀ {seq clock record}, bad record = true → Fails text (map seq clock record).1
  writes : ∀ {seq clock record}, bad record = false → isAlert record = true →
    Writes text (map seq clock record).1
  skips : ∀ {seq clock record}, bad record = false → isAlert record = false →
    (map seq clock record).1 = .ok none

/-- The shared part of the mappers fails if one of the conversions does or the event cannot
be written. -/
theorem assemble_spec {record : Value} {seq : Nat} {severity : Except PyErr String}
    {port : Except PyErr (Option Int)} {timestamp : Except PyErr Value}
    {event : Nat → String → Option Int → Value → EngineEvent} {noRank noPort noTime : Bool}
    (hseverity : if noRank then ∃ e, severity = .error e else ∃ s, severity = .ok s)
    (hport : if noPort then ∃ e, port = .error e else ∃ p, port = .ok p)
    (htime : if noTime then ∃ e, timestamp = .error e
      else ∃ t, timestamp = .ok t ∧ PartOf record t)
    (hevent : ∀ {seq s p t}, PartOf record t → EventOf record (event seq s p t)) :
    if noRank || noPort || noTime || unwritable text record
    then Fails text (assemble seq severity port timestamp event).1
    else Writes text (assemble seq severity port timestamp event).1 := by
  cases noRank with
  | true =>
    obtain ⟨e, rfl⟩ := hseverity
    exact .inl ⟨e, rfl⟩
  | false =>
    obtain ⟨s, rfl⟩ := hseverity
    cases noPort with
    | true =>
      obtain ⟨e, rfl⟩ := hport
      exact .inl ⟨e, rfl⟩
    | false =>
      obtain ⟨p, rfl⟩ := hport
      cases noTime with
      | true =>
        obtain ⟨e, rfl⟩ := htime
        exact .inl ⟨e, rfl⟩
      | false =>
        obtain ⟨t, rfl, ht⟩ := htime
        obtain ⟨hdepth, hencodable⟩ := (@hevent (seq + 1) s p t ht).writable
        show if unwritable text record then _ else _
        by_cases hdeep : text.maxDepth < record.depth + 2
        · have hbad : unwritable text record = true := by
            rw [unwritable, decide_eq_true hdeep, Bool.true_or]
          rw [if_pos hbad]
          exact .inr ⟨_, rfl, .inl (hdepth ▸ hdeep)⟩
        · cases hrecord : record.encodable with
          | false =>
            have hbad : unwritable text record = true := by
              rw [unwritable, hrecord, Bool.not_false, Bool.or_true]
            rw [if_pos hbad]
            exact .inr ⟨_, rfl, .inr (hencodable.trans hrecord)⟩
          | true =>
            have hgood : unwritable text record = false := by
              rw [unwritable, decide_eq_false hdeep, hrecord]
              rfl
            rw [if_neg (by rw [hgood]; exact Bool.false_ne_true)]
            exact ⟨_, rfl, hdepth ▸ Nat.not_lt.mp hdeep, hencodable.trans hrecord⟩

/-- The parts of an alert that the events name: what all texts of an event come from. -/
theorem texts_encodable {record gid sid proto message src dst : Value} {engine d₁ d₂ : String}
    (hgid : PartOf record gid) (hsid : PartOf record sid) (hproto : PartOf record proto)
    (hmessage : PartOf record message) (hsrc : PartOf record src) (hdst : PartOf record dst)
    (h : record.encodable = true) :
    ∀ s ∈ [lit engine ++ toStr text gid ++ lit "-" ++ toStr text sid,
      text.lower (strOr text proto d₁), strOr text message d₂, strOr text src "",
      strOr text dst ""], PyStr.encodable s = true := by
  intro s hs
  simp only [List.mem_cons, List.not_mem_nil, or_false] at hs
  rcases hs with rfl | rfl | rfl | rfl | rfl
  · rw [encodable_append, encodable_append, encodable_append, encodable_lit, encodable_lit,
      toStr_encodable (hgid.2 h), toStr_encodable (hsid.2 h)]
    rfl
  · exact text.lower_encodable _ (strOr_encodable (hproto.2 h))
  · exact strOr_encodable (hmessage.2 h)
  · exact strOr_encodable (hsrc.2 h)
  · exact strOr_encodable (hdst.2 h)

namespace SuricataEveMapper

/-- The records the mapper fails on: no object, or an alert with a field it cannot convert. -/
def bad (text : EngineText) (record : Value) : Bool :=
  !record.isObj || (isAlert text record
    && (((alertOf record).get "severity").isInfinite || (record.get "dest_port").isInfinite
      || badEveTimestamp (record.get "timestamp") || unwritable text record))

theorem alertOf_partOf {record : Value} (hobj : record.isObj = true) :
    PartOf record (alertOf record) := by
  unfold alertOf
  split
  next => exact (partOf_self record).get
  next =>
    cases record with
    | obj fields => exact ⟨Nat.le_add_left 1 _, fun _ => rfl⟩
    | _ => cases hobj

theorem eventOf {config : EngineConfig} {clock : EngineClock} {record : Value}
    (hobj : record.isObj = true) {seq : Nat} {severity : String} {port : Option Int} {t : Value}
    (ht : PartOf record t) : EventOf record (event text config clock record seq severity port t) := by
  have halert := alertOf_partOf hobj
  have hrecord := partOf_self record
  refine ⟨?_, ?_, ht, texts_encodable (halert.getD rfl rfl) (halert.getD rfl rfl) hrecord.get
    halert.get hrecord.get hrecord.get⟩
  · simp [event]
  · intro kv hkv
    simp only [event, List.mem_cons, List.not_mem_nil, or_false] at hkv
    rcases hkv with rfl | rfl | rfl | rfl | rfl | rfl | rfl | rfl | rfl | rfl | rfl
    · exact ⟨Nat.zero_le _, fun _ => encodable_lit _⟩
    · exact halert.getD rfl rfl
    · exact halert.getD rfl rfl
    · exact halert.get
    · exact halert.get
    · exact halert.get
    · exact halert.get
    · exact hrecord.get
    · exact hrecord.get
    · exact hrecord.get
    · exact hrecord

/-- **Suricata's mapper.** -/
theorem maps (text : EngineText) (config : EngineConfig) :
    Maps text (map text config) (isAlert text) (bad text) := by
  -- of a record that is an object, and an alert, the shared part decides
  have hshared : ∀ {seq clock record}, record.isObj = true → isAlert text record = true →
      if bad text record then Fails text (map text config seq clock record).1
      else Writes text (map text config seq clock record).1 := by
    intro seq clock record hobj halert
    unfold map bad
    rw [hobj, halert]
    exact assemble_spec (mapSeverity_spec _) (coercePort_spec _)
      (parseEveTimestamp_spec clock (partOf_self record).get) (eventOf hobj)
  refine ⟨?_, ?_, ?_⟩
  · intro seq clock record hbad
    by_cases hobj : record.isObj = true
    · by_cases halert : isAlert text record = true
      · have h := @hshared seq clock record hobj halert
        rw [if_pos hbad] at h
        exact h
      · rw [bad, hobj, Bool.eq_false_iff.mpr halert] at hbad
        cases hbad
    · unfold map
      rw [Bool.eq_false_iff.mpr hobj]
      exact .inl ⟨_, rfl⟩
  · intro seq clock record hgood halert
    by_cases hobj : record.isObj = true
    · have h := @hshared seq clock record hobj halert
      rw [if_neg (Bool.eq_false_iff.mp hgood)] at h
      exact h
    · rw [bad, Bool.eq_false_iff.mpr hobj] at hgood
      cases hgood
  · intro seq clock record hgood halert
    unfold map
    by_cases hobj : record.isObj = true
    · rw [hobj, halert]
      rfl
    · rw [bad, Bool.eq_false_iff.mpr hobj] at hgood
      cases hgood

end SuricataEveMapper

namespace SnortAlertMapper

/-- Every object is an alert. -/
def isAlert (alert : Value) : Bool := alert.isObj

/-- The alerts the mapper fails on: no object, or one with a field it cannot convert. -/
def bad (text : EngineText) (alert : Value) : Bool :=
  !alert.isObj || ((alert.get "priority").isInfinite || (alert.get "dst_port").isInfinite
    || badSnortTimestamp (alert.get "timestamp") || unwritable text alert)

theorem eventOf {config : EngineConfig} {clock : EngineClock} {alert : Value} {seq : Nat}
    {severity : String} {port : Option Int} {t : Value} (ht : PartOf alert t) :
    EventOf alert (event text config clock alert seq severity port t) := by
  have halert := partOf_self alert
  refine ⟨?_, ?_, ht, texts_encodable (halert.getD rfl rfl) (halert.getD rfl rfl) halert.get
    halert.get halert.get halert.get⟩
  · simp [event]
  · intro kv hkv
    simp only [event, List.mem_cons, List.not_mem_nil, or_false] at hkv
    rcases hkv with rfl | rfl | rfl | rfl | rfl | rfl | rfl | rfl | rfl | rfl | rfl | rfl
    · exact ⟨Nat.zero_le _, fun _ => encodable_lit _⟩
    · exact halert.getD rfl rfl
    · exact halert.getD rfl rfl
    · exact halert.get
    · exact halert.get
    · exact halert.get
    · exact halert.get
    · exact halert.get
    · exact halert.get
    · exact halert.get
    · exact halert.get
    · exact halert

/-- **Snort's mapper.** -/
theorem maps (text : EngineText) (config : EngineConfig) :
    Maps text (map text config) isAlert (bad text) := by
  have hshared : ∀ {seq clock alert}, alert.isObj = true →
      if bad text alert then Fails text (map text config seq clock alert).1
      else Writes text (map text config seq clock alert).1 := by
    intro seq clock alert hobj
    unfold map bad
    rw [hobj]
    exact assemble_spec (mapSeverity_spec _) (coercePort_spec _)
      (parseSnortTimestamp_spec clock (partOf_self alert).get) eventOf
  refine ⟨?_, ?_, ?_⟩
  · intro seq clock alert hbad
    by_cases hobj : alert.isObj = true
    · have h := @hshared seq clock alert hobj
      rw [if_pos hbad] at h
      exact h
    · unfold map
      rw [Bool.eq_false_iff.mpr hobj]
      exact .inl ⟨_, rfl⟩
  · intro seq clock alert hgood halert
    have h := @hshared seq clock alert halert
    rw [if_neg (Bool.eq_false_iff.mp hgood)] at h
    exact h
  · intro seq clock alert hgood hno
    rw [bad, show alert.isObj = false from hno] at hgood
    cases hgood

end SnortAlertMapper

end EdgeSensor.Sensor
