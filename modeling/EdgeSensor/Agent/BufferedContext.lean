import EdgeSensor.Agent.Accounting

/-!
# The context of a buffered event

An event is enriched when it is handled, and buffered as it then is. A flush posts what is
in the buffer; but before it publishes over MQTT it enriches once more, with whatever the
files say by then. `buffered_as_enqueued_iff`: the two transports deliver the same payload,
the one that was buffered, exactly when the files still give the context they gave.

Mirroring notes:
- `flushedWith` is the machine of the agent during a flush throughout which the context
  files have the same contents; anything else is as the environment chooses.
-/

namespace EdgeSensor.Agent

open EdgeSensor.Lib EdgeSensor.Lib.Prog EdgeSensor.Py

/-- The agent's steps while the context files stay as they are. -/
def AgentEnv.flushedWith (env : AgentEnv) (files : ContextFiles) :
    Machine AgentOp AgentOp.Answer PyErr Choice World :=
  ⟨fun op c w => env.step op { c with files := files } w⟩

/-- An event as `_upload_pending_events` buffers it. -/
structure BufferedEvent (repr : Json → String) (files : ContextFiles) (event : Obj) (row : Row) :
    Prop where
  kind : row.kind = "event"
  payload : row.payload = enrichSecurityEvent repr files event

/-- Whatever a flush with these files delivers of a buffered entry, by whichever transport,
is what was buffered. -/
def DeliveredAsBuffered (env : AgentEnv) (files : ContextFiles) (row : Row) : Prop :=
  ∀ w : World, row ∈ w.buffer.rows → (∀ a ∈ w.attempts, a.entry ≠ some row.id) →
    ∀ cs : List Choice, ∀ a ∈ (exec (env.flushedWith files) cs (Uplink.flushBuffer env) w).2.attempts,
      a.entry = some row.id → a.acked = true → a.payload = row.payload

namespace Uplink

variable {env : AgentEnv} {files : ContextFiles} {row : Row} {w : World}

/-- The step sends no other payload for the entry than the buffered one. -/
def SendsBuffered (row : Row) : AgentOp → Prop
  | .publish entry event => entry = some row.id → event = row.payload
  | .post entry _ payload => entry = some row.id → payload = row.payload
  | _ => True

/-- All attempts of the entry so far carry the buffered payload. -/
def SentBuffered (row : Row) (w : World) : Prop :=
  ∀ a ∈ w.attempts, a.entry = some row.id → a.payload = row.payload

theorem SentBuffered.attempt (h : SentBuffered row w) {a : Attempt}
    (ha : a.entry = some row.id → a.payload = row.payload) : SentBuffered row (w.attempt a) := by
  intro a' hmem
  rcases List.mem_append.mp hmem with hmem | hmem
  · exact h a' hmem
  · rw [List.mem_singleton.mp hmem]
    exact ha

/-- The step lemma: one case for each step. -/
theorem SentBuffered.step {op : AgentOp} {c : Choice} (hop : SendsBuffered row op)
    (h : SentBuffered row w) : SentBuffered row ((env.flushedWith files).perform op c w).2 := by
  unfold AgentEnv.flushedWith
  cases op with
  | publish entry event => exact h.attempt hop
  | post entry kind payload =>
    simp only [AgentEnv.step]
    cases c.http with
    | none => exact h.attempt hop
    | some e => exact h.attempt hop
  | isWhitelisted event =>
    simp only [AgentEnv.step]
    split
    next => exact h
    next => exact h
  | readEvents feed =>
    show SentBuffered row (w.grow feed c.written)
    unfold World.grow
    split
    next => exact h
    next => exact h
  | loadOffset feed => exact h
  | saveOffset feed offset events => exact h
  | readContext => exact h
  | mqttEnabled => exact h
  | pending => exact h
  | enqueue kind payload => exact h
  | remove entryId => exact h

/-- The HTTP end sends what is in the buffer. -/
theorem only_flushHttp {row' : Row} (hown : row'.id = row.id → row' = row) :
    Only (env.flushedWith files) (SendsBuffered row) (flushHttp row') := by
  have hsent : SendsBuffered row (.post (some row'.id) row'.kind row'.payload) := by
    intro hid
    rw [hown (Option.some.inj hid)]
  exact only_bind (only_perform hsent) fun _ => only_bind (only_perform trivial) fun _ => trivial

/-- If enriching the entry again changes nothing, flushing any entry sends nothing else. -/
theorem only_flushEntry {row' : Row} (hown : row'.id = row.id → row' = row)
    (hsame : enrichSecurityEvent env.text.repr files row.payload = row.payload) :
    Only (env.flushedWith files) (SendsBuffered row) (flushEntry env row') := by
  have hhttp := @only_flushHttp env files row row' hown
  have hremove : Only (env.flushedWith files) (SendsBuffered row)
      (remove row'.id >>= fun _ => pure true) :=
    only_bind (only_perform trivial) fun _ => trivial
  have hevent : Only (env.flushedWith files) (SendsBuffered row) (flushEvent env row') := by
    refine only_bind (only_perform trivial) fun enabled => ?_
    cases enabled with
    | false => exact hhttp
    | true =>
      refine only_answer trivial fun c s answer hanswer => ?_
      -- what is read are these files
      cases hanswer
      refine only_bind (only_perform fun hid => ?_) fun acked => ?_
      · rw [hown (Option.some.inj hid)]
        exact hsame
      · cases acked with
        | true => exact hremove
        | false => exact hhttp
  refine only_attempt ?_ fun _ => trivial
  split
  next =>
    split
    next =>
      refine only_bind (only_perform trivial) fun whitelisted => ?_
      cases whitelisted with
      | true => exact hremove
      | false => exact hevent
    next => exact hevent
  next =>
    split
    next => exact hhttp
    next => exact hremove

/-- Enriching changes nothing: nothing else is delivered. -/
theorem deliveredAsBuffered_of_same
    (hsame : enrichSecurityEvent env.text.repr files row.payload = row.payload) :
    DeliveredAsBuffered env files row := by
  intro w hrow hnone cs a ha hentry _
  have hwp : wp (env.flushedWith files) (fun _ w => SentBuffered row w)
      (fun _ w => SentBuffered row w) (SentBuffered row) (flushBuffer env) w := by
    have hstart : SentBuffered row w := fun a ha hentry => absurd hentry (hnone a ha)
    have hpending : ∀ c : Choice,
        (env.flushedWith files).perform .pending c w = (.ok w.buffer.rows, w) := fun _ => rfl
    unfold flushBuffer pending
    rw [wp_bind', wp_perform_const hpending]
    refine ⟨hstart, hstart, ?_⟩
    refine wp_forWhile (fun todo w' => SentBuffered row w' ∧ todo.Sublist w.buffer.rows) ?_
      (fun w' h => ⟨h.1, h.1⟩) ⟨hstart, List.Sublist.refl _⟩
    intro row' todo w' ⟨hsent, hsub⟩
    have hown : row'.id = row.id → row' = row := fun hid =>
      UploadBuffer.eq_of_id_eq hrow (hsub.subset List.mem_cons_self) hid
    have hkeep := wp_only (fun op c s => SentBuffered.step) (only_flushEntry hown hsame) hsent
    refine wp_mono (fun go s hs => ?_) (fun _ _ hs => hs) (fun _ hs => hs) hkeep
    cases go with
    | true => exact ⟨hs, (List.sublist_cons_self row' todo).trans hsub⟩
    | false => exact ⟨hs, hs⟩
  exact wp_exec_crash hwp cs a ha hentry

/-- The choices of a flush as far as its first publish, whatever the enforcer is. -/
def mqttFlush (env : AgentEnv) : List Choice := List.replicate (if env.enforcer then 5 else 4) {}

/-- A buffer with one entry. -/
def oneEntry (row : Row) : World where
  buffer := {
    maxEvents := 1000
    rows := [row]
    lastId := row.id
    sorted := List.pairwise_singleton _ _
    bounded := fun r hr => by rw [List.mem_singleton.mp hr] }
  saved := fun _ => 0
  written := fun _ => none

theorem mqttFlush_attempts (hkind : row.kind = "event") :
    (exec (env.flushedWith files) (mqttFlush env) (flushBuffer env) (oneEntry row)).2.attempts
      = [⟨some row.id, .mqtt, "event", enrichSecurityEvent env.text.repr files row.payload, true⟩] := by
  obtain ⟨text, dictOf, enforcer, qos, stream⟩ := env
  obtain ⟨id, kind, payload⟩ := row
  cases hkind
  have hacked : publishSecurityEvent qos {} = true := by
    unfold publishSecurityEvent publishJson
    simp
  cases enforcer with
  | true =>
    show [Attempt.mk (some id) .mqtt "event" _ (publishSecurityEvent qos {})] = _
    rw [hacked]
  | false =>
    show [Attempt.mk (some id) .mqtt "event" _ (publishSecurityEvent qos {})] = _
    rw [hacked]

end Uplink

/-- **When a buffered event is delivered as it was buffered**: by MQTT and by HTTP alike,
exactly if the files give the context at the flush that they gave when it was handled. -/
theorem buffered_as_enqueued_iff (env : AgentEnv) {event : Obj}
    (hctx : ((contextField event).map (·.1)).Nodup) {files files' : ContextFiles} {row : Row}
    (hrow : BufferedEvent env.text.repr files event row) :
    DeliveredAsBuffered env files' row
      ↔ contextOf env.text.repr files' = contextOf env.text.repr files := by
  rw [← enrich_enrich_iff hctx, ← hrow.payload]
  constructor
  · intro h
    have hattempts := @Uplink.mqttFlush_attempts env files' _ hrow.kind
    refine h (Uplink.oneEntry row) List.mem_cons_self (fun _ ha => absurd ha List.not_mem_nil)
      (Uplink.mqttFlush env)
      ⟨some row.id, .mqtt, "event", enrichSecurityEvent env.text.repr files' row.payload, true⟩
      ?_ rfl rfl
    rw [hattempts]
    exact List.mem_cons_self
  · exact Uplink.deliveredAsBuffered_of_same

/-- The mode file while the sensor learns, and when it detects against a baseline. -/
def learningFiles : ContextFiles where
  op := [("mode", .str "learning")]

def detectFiles : ContextFiles where
  op := [("mode", .str "detect"), ("baseline_profile_id", .str "baseline-7")]

/-- An event handled while the sensor learns. -/
def learningEvent : Obj := [("event_id", .str "a1"), ("rule_id", .str "OT-003")]

def learningRow : Row where
  id := 1
  kind := "event"
  payload := enrichSecurityEvent sampleEnv.text.repr learningFiles learningEvent

theorem buffered_as_enqueued_unchanged :
    DeliveredAsBuffered sampleEnv learningFiles learningRow :=
  (@buffered_as_enqueued_iff sampleEnv learningEvent (by decide) _ _ _ ⟨rfl, rfl⟩).mpr rfl

/-- **The transports differ.** The event was handled in learning mode; flushed in detect mode it
goes out over MQTT as an event of detect mode and of a baseline that was not there, and by
HTTP as it was buffered. -/
theorem flushed_in_other_mode :
    let flush := fun cs => (exec (sampleEnv.flushedWith detectFiles) cs (Uplink.flushBuffer sampleEnv)
      (Uplink.oneEntry learningRow)).2.attempts
    (∃ payload, flush (List.replicate 6 {}) = [⟨some 1, .mqtt, "event", payload, true⟩]
      ∧ Obj.get payload "operational_mode" = .str "detect"
      ∧ Obj.get payload "baseline_profile_id" = .str "baseline-7")
    ∧ flush (List.replicate 6 { mqttEnabled := false })
      = [⟨some 1, .http, "event", learningRow.payload, true⟩]
    ∧ Obj.get learningRow.payload "operational_mode" = .str "learning"
    ∧ Obj.get learningRow.payload "baseline_profile_id" = .null :=
  ⟨⟨_, rfl, rfl, rfl⟩, rfl, rfl, rfl⟩

end EdgeSensor.Agent
