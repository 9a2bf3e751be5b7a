import EdgeSensor.Agent.Upload

/-!
# Rules for the upload programs

What a step, a loop body and a read can do, once: a rule for each lists the worlds
it can leave and the ones a crash on the way can leave. Every later result about the
agent applies these rules and looks at no program.
-/

namespace EdgeSensor.Agent.Uplink

open EdgeSensor.Lib EdgeSensor.Lib.Prog EdgeSensor.Py

variable {env : AgentEnv} {E : PyErr → World → Prop} {C : World → Prop} {w : World}

/-! ## Steps -/

theorem wp_remove {Q : Unit → World → Prop} {entryId : Nat} :
    wp env.machine Q E C (remove entryId) w
      ↔ C w ∧ C (w.remove entryId) ∧ Q () (w.remove entryId) := by
  exact wp_perform_const (m := env.machine) (i := AgentOp.remove entryId) fun _ => rfl

theorem wp_enqueue {Q : Unit → World → Prop} {kind : String} {payload : Obj} :
    wp env.machine Q E C (enqueue kind payload) w
      ↔ C w ∧ C (w.enqueue kind payload) ∧ Q () (w.enqueue kind payload) := by
  exact wp_perform_const (m := env.machine) (i := AgentOp.enqueue kind payload) fun _ => rfl

theorem wp_pending {Q : List Row → World → Prop} :
    wp env.machine Q E C pending w ↔ C w ∧ C w ∧ Q w.buffer.rows w := by
  exact wp_perform_const (m := env.machine) (i := AgentOp.pending) fun _ => rfl

theorem wp_loadOffset {Q : Nat → World → Prop} {feed : Feed} :
    wp env.machine Q E C (loadOffset feed) w ↔ C w ∧ C w ∧ Q (w.saved feed) w := by
  exact wp_perform_const (m := env.machine) (i := AgentOp.loadOffset feed) fun _ => rfl

theorem wp_saveOffset {Q : Unit → World → Prop} {feed : Feed} {offset : Nat} {events : List Json} :
    wp env.machine Q E C (saveOffset feed offset events) w
      ↔ C w ∧ C (w.hand feed offset events) ∧ Q () (w.hand feed offset events) := by
  exact wp_perform_const (m := env.machine) (i := AgentOp.saveOffset feed offset events) fun _ => rfl

theorem wp_readContext {Q : ContextFiles → World → Prop} (hC : C w) (hQ : ∀ files, Q files w) :
    wp env.machine Q E C readContext w := by
  exact (wp_perform (m := env.machine) (i := AgentOp.readContext)).mpr ⟨hC, fun c : Choice => ⟨hC, hQ c.files⟩⟩

theorem wp_mqttEnabled {Q : Bool → World → Prop} (hC : C w) (hQ : ∀ b, Q b w) :
    wp env.machine Q E C mqttEnabled w := by
  exact (wp_perform (m := env.machine) (i := AgentOp.mqttEnabled)).mpr ⟨hC, fun c : Choice => ⟨hC, hQ c.mqttEnabled⟩⟩

/-- A whitelist check: a hit is on record. -/
theorem wp_isWhitelisted {Q : Bool → World → Prop} {event : Obj} (hC : C w)
    (hhit : C (w.suppress event) ∧ Q true (w.suppress event)) (hmiss : Q false w) :
    wp env.machine Q E C (isWhitelisted event) w := by
  refine (wp_perform (m := env.machine) (i := AgentOp.isWhitelisted event)).mpr ⟨hC, fun c : Choice => ?_⟩
  unfold AgentEnv.machine AgentEnv.step
  cases hc : c.whitelisted with
  | true => simpa only [hc, if_true] using hhit
  | false =>
    simp only [hc, Bool.false_eq_true, if_false]
    exact ⟨hC, hmiss⟩

/-- An MQTT attempt: acknowledged or not, it is on record. -/
theorem wp_publish {Q : Bool → World → Prop} {entry : Option Nat} {event : Obj} (hC : C w)
    (h : ∀ acked, C (w.attempt ⟨entry, .mqtt, "event", event, acked⟩)
      ∧ Q acked (w.attempt ⟨entry, .mqtt, "event", event, acked⟩)) :
    wp env.machine Q E C (publish entry event) w := by
  exact (wp_perform (m := env.machine) (i := AgentOp.publish entry event)).mpr ⟨hC, fun c : Choice => h (publishSecurityEvent env.qosEvents c.mqtt)⟩

/-- An HTTP attempt: acknowledged, or it raises. -/
theorem wp_post {Q : Unit → World → Prop} {entry : Option Nat} {kind : String} {payload : Obj}
    (hC : C w)
    (hok : C (w.attempt ⟨entry, .http, kind, payload, true⟩)
      ∧ Q () (w.attempt ⟨entry, .http, kind, payload, true⟩))
    (hfail : ∀ e, C (w.attempt ⟨entry, .http, kind, payload, false⟩)
      ∧ E e (w.attempt ⟨entry, .http, kind, payload, false⟩)) :
    wp env.machine Q E C (post entry kind payload) w := by
  refine (wp_perform (m := env.machine) (i := AgentOp.post entry kind payload)).mpr ⟨hC, fun c : Choice => ?_⟩
  unfold AgentEnv.machine AgentEnv.step
  cases hc : c.http with
  | none => simpa only [hc] using hok
  | some e => simpa only [hc] using hfail e

/-! ## Flushing -/

/-- An entry before its HTTP attempt: as it was found, or an MQTT attempt has failed. -/
def BeforeHttp (env : AgentEnv) (row : Row) (w w' : World) : Prop :=
  w' = w ∨ row.kind = "event" ∧ ∃ files,
    w' = w.attempt ⟨some row.id, .mqtt, "event",
      enrichSecurityEvent env.text.repr files row.payload, false⟩

/-- The HTTP attempt of an entry: it is removed when acknowledged, and stays when it raises. -/
theorem wp_flushHttp {Q : Bool → World → Prop} {row : Row} (hC : C w)
    (hok : let w' := w.attempt ⟨some row.id, .http, row.kind, row.payload, true⟩
      C w' ∧ C (w'.remove row.id) ∧ Q true (w'.remove row.id))
    (hfail : let w' := w.attempt ⟨some row.id, .http, row.kind, row.payload, false⟩
      C w' ∧ ∀ e, E e w') :
    wp env.machine Q E C (flushHttp row) w := by
  unfold flushHttp
  rw [wp_bind']
  refine wp_post hC ⟨hok.1, ?_⟩ fun e => ⟨hfail.1, hfail.2 e⟩
  rw [wp_bind', wp_remove]
  exact ⟨hok.1, hok.2.1, hok.2⟩

/-- An event goes by MQTT when that is enabled and acknowledged, and by HTTP otherwise. -/
theorem wp_flushEvent {Q : Bool → World → Prop} {row : Row} (hC : C w) (hkind : row.kind = "event")
    (hmqtt : ∀ files,
      let w' := w.attempt ⟨some row.id, .mqtt, "event",
        enrichSecurityEvent env.text.repr files row.payload, true⟩
      C w' ∧ C (w'.remove row.id) ∧ Q true (w'.remove row.id))
    (hhttp : ∀ w', BeforeHttp env row w w' → C w' ∧ wp env.machine Q E C (flushHttp row) w') :
    wp env.machine Q E C (flushEvent env row) w := by
  unfold flushEvent
  rw [wp_bind']
  refine wp_mqttEnabled hC fun enabled => ?_
  cases enabled with
  | false => exact (hhttp w (.inl rfl)).2
  | true =>
    simp only [if_true]
    rw [wp_bind']
    refine wp_readContext hC fun files => ?_
    rw [wp_bind']
    refine wp_publish hC fun acked => ?_
    cases acked with
    | true =>
      obtain ⟨hw, hdone⟩ := hmqtt files
      refine ⟨hw, ?_⟩
      simp only [if_true]
      rw [wp_bind', wp_remove]
      exact ⟨hw, hdone.1, hdone⟩
    | false => exact hhttp _ (.inr ⟨hkind, files, rfl⟩)

/-- **What flushing one entry can do**: find it whitelisted, deliver it by MQTT or HTTP, drop
it as of unknown kind, and remove it; or fail by HTTP, keep it and stop. -/
theorem wp_flushEntry {Q : Bool → World → Prop} {row : Row} (hC : C w)
    (hhit : row.kind = "event" → C (w.suppress row.payload)
      ∧ C ((w.suppress row.payload).remove row.id)
      ∧ Q true ((w.suppress row.payload).remove row.id))
    (hmqtt : row.kind = "event" → ∀ files,
      let w' := w.attempt ⟨some row.id, .mqtt, "event",
        enrichSecurityEvent env.text.repr files row.payload, true⟩
      C w' ∧ C (w'.remove row.id) ∧ Q true (w'.remove row.id))
    (hhttp : ∀ w', BeforeHttp env row w w' → C w'
      ∧ (let w'' := w'.attempt ⟨some row.id, .http, row.kind, row.payload, true⟩
        C w'' ∧ C (w''.remove row.id) ∧ Q true (w''.remove row.id))
      ∧ (let w'' := w'.attempt ⟨some row.id, .http, row.kind, row.payload, false⟩
        C w'' ∧ Q false w''))
    (hother : row.kind ≠ "event" → row.kind ≠ "health" →
      C (w.remove row.id) ∧ Q true (w.remove row.id)) :
    wp env.machine Q E C (flushEntry env row) w := by
  -- the body raises only after a failed HTTP attempt, and that is the end of the flush
  have hpost : ∀ w', BeforeHttp env row w w' → C w' ∧
      wp env.machine Q (fun _ s => wp env.machine Q E C (pure false) s) C (flushHttp row) w' := by
    intro w' hw'
    obtain ⟨hC', hok, hfail⟩ := hhttp w' hw'
    exact ⟨hC', wp_flushHttp hC' hok ⟨hfail.1, fun _ => hfail⟩⟩
  unfold flushEntry
  rw [wp_attempt]
  by_cases hkind : row.kind = "event"
  · have hevent := wp_flushEvent hC hkind (hmqtt hkind) hpost
    rw [if_pos hkind]
    split
    next =>
      rw [wp_bind']
      refine wp_isWhitelisted hC ?_ ?_
      · obtain ⟨hw, hdone⟩ := hhit hkind
        refine ⟨hw, ?_⟩
        simp only [if_true]
        rw [wp_bind', wp_remove]
        exact ⟨hw, hdone.1, hdone⟩
      · exact hevent
    next => exact hevent
  · rw [if_neg hkind]
    split
    next => exact (hpost w (.inl rfl)).2
    next hhealth =>
      rw [wp_bind', wp_remove]
      obtain ⟨hw, hdone⟩ := hother hkind hhealth
      exact ⟨hC, hw, hw, hdone⟩

/-! ## Uploading -/

/-- `remove_by_event_id` keeps whatever each of its removals keeps. -/
theorem wp_removeByEventId {Q : Unit → World → Prop} (I : World → Prop) {eventId : String}
    (hstart : I w) (hC : ∀ w', I w' → C w') (hend : ∀ w', I w' → Q () w')
    (hremove : ∀ w' row, I w' → row ∈ w.buffer.rows → eventId ≠ "" →
      UploadBuffer.isEvent env.text.repr eventId row = true → I (w'.remove row.id)) :
    wp env.machine Q E C (removeByEventId env eventId) w := by
  unfold removeByEventId
  split
  next => exact ⟨hC w hstart, hend w hstart⟩
  next hne =>
    rw [wp_bind', wp_pending]
    refine ⟨hC w hstart, hC w hstart, ?_⟩
    refine wp_forEach (fun todo w' => I w' ∧ ∀ row ∈ todo, row ∈ w.buffer.rows) ?_
      (fun w' h => ⟨hC w' h.1, hend w' h.1⟩) ⟨hstart, fun _ h => h⟩
    intro row todo w' ⟨hI, hmem⟩
    have htodo : ∀ r ∈ todo, r ∈ w.buffer.rows := fun r hr => hmem r (List.mem_cons_of_mem _ hr)
    split
    next hhit =>
      have hI' := hremove w' row hI (hmem row List.mem_cons_self) hne hhit
      rw [wp_remove]
      exact ⟨hC w' hI, hC _ hI', hI', htodo⟩
    next => exact ⟨hC w' hI, hI, htodo⟩

/-- An event before its HTTP attempt: as it was, or an MQTT attempt has failed. -/
def BeforeUpload (enriched : Obj) (w w' : World) : Prop :=
  w' = w ∨ w' = w.attempt ⟨none, .mqtt, "event", enriched, false⟩

/-- **What uploading can do** to an event that is not whitelisted: deliver it by MQTT or
HTTP and then remove buffered entries of its id, or fail by HTTP and buffer it. -/
theorem wp_upload {Q : Unit → World → Prop} {event : Obj} (hC : C w)
    (hacked : ∀ files,
      let enriched := enrichSecurityEvent env.text.repr files event
      ∀ w' transport, BeforeUpload enriched w w' →
        wp env.machine Q (fun _ _ => False) C
          (removeByEventId env (eventId env.text.repr enriched))
          (w'.attempt ⟨none, transport, "event", enriched, true⟩))
    (hfail : ∀ files,
      let enriched := enrichSecurityEvent env.text.repr files event
      ∀ w', BeforeUpload enriched w w' →
        let w'' := w'.attempt ⟨none, .http, "event", enriched, false⟩
        C w' ∧ C w'' ∧ C (w''.enqueue "event" enriched) ∧ Q () (w''.enqueue "event" enriched)) :
    wp env.machine Q E C (upload env event) w := by
  have hhttp : ∀ files w',
      BeforeUpload (enrichSecurityEvent env.text.repr files event) w w' →
      wp env.machine Q E C (uploadHttp env (enrichSecurityEvent env.text.repr files event)) w' := by
    intro files w' hbefore
    obtain ⟨hC', hC'', hbuffered⟩ := hfail files w' hbefore
    have hdone := hacked files w' .http hbefore
    unfold uploadHttp
    rw [wp_attempt, wp_bind']
    refine wp_post hC' ⟨wp_crash hdone, ?_⟩ fun e => ⟨hC'', ?_⟩
    · exact wp_mono (fun _ _ h => h) (fun _ _ h => h.elim) (fun _ h => h) hdone
    · rw [wp_enqueue]
      exact ⟨hC'', hbuffered⟩
  unfold upload
  rw [wp_bind']
  refine wp_readContext hC fun files => ?_
  rw [wp_bind']
  refine wp_mqttEnabled hC fun enabled => ?_
  cases enabled with
  | false => exact hhttp files w (.inl rfl)
  | true =>
    simp only [if_true]
    rw [wp_bind']
    refine wp_publish hC fun acked => ?_
    cases acked with
    | true =>
      have hdone := hacked files w .mqtt (.inl rfl)
      exact ⟨wp_crash hdone,
        wp_mono (fun _ _ h => h) (fun _ _ h => h.elim) (fun _ h => h) hdone⟩
    | false =>
      have hbefore : BeforeUpload (enrichSecurityEvent env.text.repr files event) w
          (w.attempt ⟨none, .mqtt, "event",
            enrichSecurityEvent env.text.repr files event, false⟩) := .inr rfl
      exact ⟨(hfail files _ hbefore).1, hhttp files _ hbefore⟩

/-- One event of a batch, if it is an object: whitelisted, or uploaded. -/
theorem wp_uploadEvent {Q : Unit → World → Prop} {event : Obj} (hC : C w)
    (hhit : C (w.suppress event) ∧ Q () (w.suppress event))
    (hupload : wp env.machine Q E C (upload env event) w) :
    wp env.machine Q E C (uploadEvent env (.obj event)) w := by
  unfold uploadEvent
  split
  next =>
    simp only [Json.fields?]
    rw [wp_bind']
    refine wp_isWhitelisted hC ⟨hhit.1, ?_⟩ hupload
    simp only [if_true]
    exact hhit
  next => exact hupload

/-- Anything else: the loop is left with an exception, or Python makes a `dict` of it. -/
theorem wp_uploadEvent_other {Q : Unit → World → Prop} {event : Json} (hC : C w)
    (hother : event.fields? = none) (hraise : ∀ e, E e w)
    (hupload : ∀ fields, toDict env event = .ok fields →
      wp env.machine Q E C (upload env fields) w) :
    wp env.machine Q E C (uploadEvent env event) w := by
  unfold uploadEvent
  split
  next =>
    rw [hother]
    exact ⟨hC, hraise _⟩
  next =>
    split
    next => exact ⟨hC, hraise _⟩
    next hfields => exact hupload _ hfields

/-- **What one read can do**: find nothing, or take the complete lines beyond the offset,
save the new offset and hand out the events. -/
theorem wp_pendingEvents {Q : Nat × List Json → World → Prop} {feed : Feed} {offset : Nat}
    (hC : C w)
    (hread : ∀ written, let w' := w.grow feed written
      C w'
      ∧ (w'.written feed = none → Q (offset, []) w')
      ∧ ∀ n, w'.written feed = some n →
        let data := (env.stream feed).take n
        let events := (takenLines data offset).filterMap (lineEvent env.text)
        (data.drop (startOffset data offset) = [] → Q (startOffset data offset, []) w')
        ∧ (data.drop (startOffset data offset) ≠ [] →
          C (w'.hand feed (nextOffset data offset) events)
          ∧ Q (nextOffset data offset, events) (w'.hand feed (nextOffset data offset) events))) :
    wp env.machine Q E C (pendingEvents env feed offset) w := by
  unfold pendingEvents
  rw [wp_bind']
  refine (wp_perform (m := env.machine) (i := AgentOp.readEvents feed)).mpr
    ⟨hC, fun c : Choice => ?_⟩
  obtain ⟨hC', hnone, hsome⟩ := hread c.written
  unfold AgentEnv.machine AgentEnv.step
  refine ⟨hC', ?_⟩
  simp only
  cases hwritten : (w.grow feed c.written).written feed with
  | none => exact ⟨hC', hnone hwritten⟩
  | some n =>
    obtain ⟨hempty, hmore⟩ := hsome n hwritten
    simp only [Option.map_some]
    split
    next h => exact ⟨hC', hempty h⟩
    next h =>
      obtain ⟨hhand, hQ⟩ := hmore h
      rw [wp_bind']
      exact (@wp_saveOffset env E C _ _ _ _ _).mpr ⟨hC', hhand, hhand, hQ⟩

end EdgeSensor.Agent.Uplink
