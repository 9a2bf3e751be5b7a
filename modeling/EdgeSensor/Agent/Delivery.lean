import EdgeSensor.Agent.Accounting
import Mathlib.Data.List.Nodup

/-!
# Nothing is lost between iterations

Over any run of the main loop that is not killed, every event handed out is in exactly
one place: acknowledged once, buffered once, or trimmed under enough newer entries
(`every_event_accounted`). The run lemma is the account of `Accounting`, kept by every
entry flushed and every event uploaded (`wp_mainLoop_steady`).

What a flush does to the buffer is stated on its own: it only removes entries, and
attempts none behind one whose HTTP upload failed (`wp_flushBuffer_order`).
-/

namespace EdgeSensor.Agent

open EdgeSensor.Lib EdgeSensor.Lib.Prog EdgeSensor.Py

/-- All events that end up in the three files. -/
def allEvents (env : AgentEnv) : List Json :=
  (records LF (env.stream .packet)).filterMap (lineEvent env.text)
    ++ (records LF (env.stream .snort)).filterMap (lineEvent env.text)
    ++ (records LF (env.stream .suricata)).filterMap (lineEvent env.text)

/-- The event files hold LF-terminated lines without CR, and their events are objects with
pairwise distinct non-empty ids. -/
structure StreamOk (env : AgentEnv) : Prop where
  noCr : ∀ f, CR ∉ env.stream f
  objects : ∀ e ∈ allEvents env, ∃ o, e = .obj o ∧ HasId o
  distinct : ((allEvents env).map (idOf env.text.repr)).Nodup

/-- An agent with an empty buffer, tailers at line ends of what has been written, and
nothing observed yet. -/
structure Fresh (env : AgentEnv) (w : World) : Prop where
  rows : w.buffer.rows = []
  line : ∀ f, AtLine (env.stream f) (w.saved f)
  written : ∀ f, w.saved f ≤ (w.written f).getD 0
  returned : ∀ f, w.returned f = []
  attempts : w.attempts = []
  suppressed : w.suppressed = []
  trimmed : w.trimmed = []

section Handing

variable {env : AgentEnv} {start : Feed → Nat} {w : World}

theorem Tailed.returnedAll_sublist (h : Tailed env start w.saved w.written w.returned) :
    w.returnedAll.Sublist (allEvents env) :=
  ((h.returned_sublist .packet).append (h.returned_sublist .snort)).append
    (h.returned_sublist .suricata)

/-- Distinct ids: each is handed out at most once. -/
theorem Tailed.once (h : Tailed env start w.saved w.written w.returned) (hstream : StreamOk env)
    (id : String) : w.returnedCount env.text.repr id ≤ 1 := by
  have hsub := h.returnedAll_sublist.map (idOf env.text.repr)
  have hcount := List.nodup_iff_count_le_one.mp (hsub.nodup hstream.distinct) id
  rw [List.count, List.countP_map] at hcount
  refine Nat.le_trans (Nat.le_of_eq ?_) hcount
  unfold World.returnedCount
  refine List.countP_congr fun e _ => ?_
  simp

theorem returnedCount_hand (repr : Json → String) (feed : Feed) (offset : Nat) (events : List Json)
    (id : String) :
    (w.hand feed offset events).returnedCount repr id
      = w.returnedCount repr id + inHand repr id events := by
  unfold World.returnedCount World.returnedAll World.hand inHand
  cases feed with
  | packet => simp only [if_true, reduceCtorEq, if_false, List.countP_append]; omega
  | snort => simp only [if_true, reduceCtorEq, if_false, List.countP_append]; omega
  | suricata => simp only [if_true, reduceCtorEq, if_false, List.countP_append]; omega

theorem mem_returnedAll {feed : Feed} {e : Json} (h : e ∈ w.returned feed) : e ∈ w.returnedAll := by
  unfold World.returnedAll
  cases feed with
  | packet => exact List.mem_append_left _ (List.mem_append_left _ h)
  | snort => exact List.mem_append_left _ (List.mem_append_right _ h)
  | suricata => exact List.mem_append_right _ h

/-- A batch is handed out with nothing in hand. -/
theorem Accounted.handOut {repr : Json → String} (h : Accounted repr [] w) {feed : Feed}
    {offset : Nat} {events : List Json}
    (honce : ∀ id, (w.hand feed offset events).returnedCount repr id ≤ 1)
    (hobjects : ∀ e ∈ events, ∃ o, e = .obj o ∧ HasId o) :
    Accounted repr events (w.hand feed offset events) := by
  refine ⟨fun id => ?_, honce, h.rows, h.trims, hobjects⟩
  have hlaw : w.returnedCount repr id
      = w.ackedCount repr id + w.bufferedCount repr id + w.trimmedCount repr id
        + w.suppressedCount repr id + 0 := h.law id
  rw [returnedCount_hand, hlaw]
  rfl

end Handing

/-! ## The run -/

/-- The account and the tailers, with the saved offsets `saved`. -/
structure Steady (env : AgentEnv) (start saved : Feed → Nat) (hand : List Json) (w : World) :
    Prop where
  account : Accounted env.text.repr hand w
  tailed : Tailed env start w.saved w.written w.returned
  saved : w.saved = saved

namespace Uplink

variable {env : AgentEnv} {start saved : Feed → Nat} {w : World}

/-- The rows behind a row outlive its removal. -/
theorem sublist_remove {b : UploadBuffer} {row : Row} {todo : List Row}
    (h : (row :: todo).Sublist b.rows) : todo.Sublist (b.remove row.id).rows := by
  have hrising := b.sorted.sublist h
  rw [List.pairwise_cons] at hrising
  have htail : todo.Sublist b.rows := (List.sublist_cons_self row todo).trans h
  rw [← filter_id_ne_of_lt hrising.1]
  exact htail.filter _

theorem wp_flushBuffer_steady (h : Steady env start saved [] w) :
    wp env.machine (fun _ w' => Steady env start saved [] w') (fun _ _ => False) (fun _ => True)
      (flushBuffer env) w := by
  unfold flushBuffer
  rw [wp_bind', wp_pending]
  refine ⟨trivial, trivial, ?_⟩
  refine wp_forWhile
    (fun todo w' => Steady env start saved [] w' ∧ todo.Sublist w'.buffer.rows)
    ?_ (fun w' hI => ⟨trivial, hI.1⟩) ⟨h, List.Sublist.refl _⟩
  intro row todo w' ⟨hsteady, hsub⟩
  have hrow : row ∈ w'.buffer.rows := hsub.subset List.mem_cons_self
  have htail := sublist_remove hsub
  have haccount := hsteady.account
  refine wp_flushEntry trivial (fun hkind => ⟨trivial, trivial, ?_⟩)
    (fun hkind files => ⟨trivial, trivial, ?_⟩) (fun w'' hbefore => ?_)
    (fun hkind _ => ⟨trivial, ?_⟩)
  · exact ⟨⟨haccount.suppress_remove hrow hkind, hsteady.tailed, hsteady.saved⟩, htail⟩
  · exact ⟨⟨haccount.deliver_remove hrow rfl hkind.symm (eventId_enrich _ _ _), hsteady.tailed,
      hsteady.saved⟩, htail⟩
  · have hnow : Accounted env.text.repr [] w'' ∧ w''.buffer = w'.buffer
        ∧ Tailed env start w''.saved w''.written w''.returned ∧ w''.saved = saved := by
      rcases hbefore with rfl | ⟨-, files, rfl⟩
      · exact ⟨haccount, rfl, hsteady.tailed, hsteady.saved⟩
      · exact ⟨haccount.attempt (.inl rfl), rfl, hsteady.tailed, hsteady.saved⟩
    obtain ⟨hacc, hbuffer, htailed, hsaved⟩ := hnow
    refine ⟨trivial, ⟨trivial, trivial, ?_⟩, trivial, trivial, ?_⟩
    · refine ⟨⟨hacc.deliver_remove (by rw [hbuffer]; exact hrow) rfl rfl rfl, htailed, hsaved⟩, ?_⟩
      show todo.Sublist (w''.buffer.remove row.id).rows
      rw [hbuffer]
      exact htail
    · exact ⟨hacc.attempt (.inl rfl), htailed, hsaved⟩
  · exact ⟨⟨haccount.remove hrow hkind, hsteady.tailed, hsteady.saved⟩, htail⟩

/-- One event of the batch: the account moves on to the rest. -/
theorem wp_uploadEvent_steady {event : Json} {events : List Json}
    (h : Steady env start saved (event :: events) w) :
    wp env.machine (fun _ w' => Steady env start saved events w') (fun _ _ => False)
      (fun _ => True) (uploadEvent env event) w := by
  obtain ⟨o, rfl, hid⟩ := h.account.hand event List.mem_cons_self
  -- nothing of this id is buffered, so there is nothing to remove
  have hnothing : ∀ row ∈ w.buffer.rows, ∀ files,
      ¬ UploadBuffer.isEvent env.text.repr
        (eventId env.text.repr (enrichSecurityEvent env.text.repr files o)) row = true := by
    intro row hrow files hhit
    have hcount := h.account.only_in_hand
    unfold UploadBuffer.isEvent at hhit
    simp only [Bool.and_eq_true, decide_eq_true_eq] at hhit
    have hrowId := (h.account.rows row hrow hhit.1).eventId_eq env.text.repr
    have hnone := List.countP_eq_zero.mp hcount row hrow
    unfold rowHas at hnone
    rw [eventId_enrich, ← hrowId.1] at hhit
    simp [hhit] at hnone
  have hbefore : ∀ files w',
      BeforeUpload (enrichSecurityEvent env.text.repr files o) w w' →
      Accounted env.text.repr (.obj o :: events) w' ∧ w'.buffer = w.buffer
        ∧ Tailed env start w'.saved w'.written w'.returned ∧ w'.saved = saved := by
    intro files w' hcase
    rcases hcase with rfl | rfl
    · exact ⟨h.account, rfl, h.tailed, h.saved⟩
    · exact ⟨h.account.attempt (.inl rfl), rfl, h.tailed, h.saved⟩
  refine wp_uploadEvent trivial ⟨trivial, h.account.suppress, h.tailed, h.saved⟩
    (wp_upload trivial ?_ ?_)
  · intro files enriched w' transport hcase
    obtain ⟨haccount, hbuffer, htailed, hsaved⟩ := hbefore files w' hcase
    refine wp_removeByEventId (fun s => Steady env start saved events s)
      ⟨haccount.deliver rfl rfl (eventId_enrich _ _ _), htailed, hsaved⟩
      (fun _ _ => trivial) (fun _ hs => hs) ?_
    intro s row _ hrow _ hhit
    have hmem : row ∈ w.buffer.rows := by
      rw [← hbuffer]
      exact hrow
    exact absurd hhit (hnothing row hmem files)
  · intro files enriched w' hcase
    obtain ⟨haccount, -, htailed, hsaved⟩ := hbefore files w' hcase
    refine ⟨trivial, trivial, trivial, ?_, htailed, hsaved⟩
    exact (haccount.attempt (.inl rfl)).buffer (eventId_enrich _ _ _) (hid.enrich _ _)

/-- One tailer: read, and upload the batch. Only this feed's offset moves. -/
theorem wp_uploadPendingEvents_steady (hstream : StreamOk env) {feed : Feed}
    (h : Steady env start saved [] w) :
    wp env.machine (fun offset w' => Steady env start (moved saved feed offset) [] w')
      (fun _ _ => False) (fun _ => True) (uploadPendingEvents env feed (saved feed)) w := by
  have hgrown : ∀ written, Steady env start (moved saved feed (saved feed)) []
      (w.grow feed written) := by
    intro written
    rw [moved_self]
    exact ⟨h.account.grow feed written, h.tailed.grow feed written,
      (grow_saved w feed written).trans h.saved⟩
  unfold uploadPendingEvents
  rw [wp_bind']
  refine wp_pendingEvents trivial fun written => ⟨trivial, fun _ => ?_, fun n hn => ⟨?_, ?_⟩⟩
  · exact ⟨trivial, hgrown written⟩
  · have hat := (h.tailed.grow feed written).startOffset_eq hn
    rw [grow_saved, h.saved] at hat
    intro _
    rw [hat]
    exact ⟨trivial, hgrown written⟩
  · intro _
    have hgrow := h.tailed.grow feed written
    have hhand := (hgrow.hand hstream.noCr hn).1
    rw [grow_saved, h.saved] at hhand
    refine ⟨trivial, ?_⟩
    rw [wp_bind']
    refine wp_forEach (fun todo w' => Steady env start (moved saved feed _) todo w')
      (fun event events w' hI => wp_uploadEvent_steady hI) (fun w' hI => ⟨trivial, trivial, hI⟩)
      ⟨(h.account.grow feed written).handOut (hhand.once hstream) ?_, hhand, ?_⟩
    · intro e he
      refine hstream.objects e (hhand.returnedAll_sublist.subset ?_)
      exact mem_returnedAll (mem_hand_returned he)
    · unfold World.hand moved
      rw [grow_saved, h.saved]

theorem wp_iteration_steady (hstream : StreamOk env) {t : Tailers}
    (h : Steady env start t.offset [] w) :
    wp env.machine (fun t' w' => Steady env start t'.offset [] w') (fun _ _ => False)
      (fun _ => True) (iteration env t) w := by
  have hpass : ∀ {α : Type} {Q Q' : α → World → Prop} {p : Proc α} {s : World},
      wp env.machine Q (fun _ _ => False) (fun _ => True) p s → (∀ a s, Q a s → Q' a s) →
      wp env.machine Q' (fun _ _ => False) (fun _ => True) p s :=
    fun hwp hQ => wp_mono hQ (fun _ _ he => he) (fun _ hc => hc) hwp
  unfold iteration
  rw [wp_bind']
  refine hpass (wp_flushBuffer_steady h) fun _ w₀ h₀ => ?_
  rw [wp_bind']
  refine hpass (wp_uploadPendingEvents_steady hstream h₀) fun packet w₁ h₁ => ?_
  rw [wp_bind']
  refine hpass (wp_uploadPendingEvents_steady hstream h₁) fun snort w₂ h₂ => ?_
  rw [wp_bind']
  refine hpass (wp_uploadPendingEvents_steady hstream h₂) fun suricata w₃ h₃ => ?_
  have hoffset : moved (moved (moved t.offset .packet packet) .snort snort) .suricata suricata
      = Tailers.offset ⟨packet, snort, suricata⟩ := by
    funext f
    cases f <;> rfl
  rw [hoffset] at h₃
  exact ⟨trivial, h₃⟩

theorem wp_reportHealth_steady {payload : Obj} (h : Steady env start saved [] w) :
    wp env.machine (fun _ w' => Steady env start saved [] w') (fun _ _ => False) (fun _ => True)
      (reportHealth payload) w := by
  have hkind : ("health" : String) ≠ "event" := by decide
  unfold reportHealth
  rw [wp_attempt]
  refine wp_post trivial ⟨trivial, h.account.attempt (.inr hkind), h.tailed, h.saved⟩
    fun _ => ⟨trivial, ?_⟩
  rw [wp_enqueue]
  exact ⟨trivial, trivial, (h.account.attempt (.inr hkind)).enqueue hkind payload, h.tailed, h.saved⟩

/-- The run lemma, by induction on what the loop does. -/
theorem wp_mainLoop_steady (hstream : StreamOk env) (moves : List Move) {t : Tailers}
    (h : Steady env start t.offset [] w) :
    wp env.machine (fun t' w' => Steady env start t'.offset [] w') (fun _ _ => False)
      (fun _ => True) (mainLoop env moves t) w := by
  induction moves generalizing t w with
  | nil => exact ⟨trivial, h⟩
  | cons move moves ih =>
    cases move with
    | iterate =>
      rw [mainLoop, wp_bind']
      exact wp_mono (fun _ _ h' => ih h') (fun _ _ he => he) (fun _ hc => hc)
        (wp_iteration_steady hstream h)
    | health payload =>
      rw [mainLoop, wp_bind']
      exact wp_mono (fun _ _ h' => ih h') (fun _ _ he => he) (fun _ hc => hc)
        (wp_reportHealth_steady h)

theorem Steady.of_fresh (h : Fresh env w) : Steady env w.saved w.saved [] w := by
  have hreturned : w.returnedAll = [] := by
    unfold World.returnedAll
    rw [h.returned, h.returned, h.returned]
    rfl
  refine ⟨⟨fun id => ?_, fun id => ?_, ?_, ?_, ?_⟩, ⟨h.line, h.written, fun f => ?_⟩, rfl⟩
  · unfold World.returnedCount World.ackedCount World.bufferedCount World.trimmedCount
      World.suppressedCount
    rw [hreturned, h.attempts, h.rows, h.trimmed, h.suppressed]
    rfl
  · unfold World.returnedCount
    rw [hreturned]
    exact Nat.zero_le 1
  · rw [h.rows]
    exact fun _ hrow => absurd hrow List.not_mem_nil
  · rw [h.trimmed]
    exact fun _ ht => absurd ht List.not_mem_nil
  · exact fun _ he => absurd he List.not_mem_nil
  · rw [h.returned, List.append_nil]

theorem wp_session_steady (hstream : StreamOk env) (hfresh : Fresh env w) (moves : List Move) :
    wp env.machine (fun t w' => Steady env w.saved t.offset [] w') (fun _ _ => False)
      (fun _ => True) (session env moves) w := by
  have hstart : Steady env w.saved
      (Tailers.offset ⟨w.saved .packet, w.saved .snort, w.saved .suricata⟩) [] w := by
    have hsame : Tailers.offset ⟨w.saved .packet, w.saved .snort, w.saved .suricata⟩ = w.saved := by
      funext f
      cases f <;> rfl
    rw [hsame]
    exact Steady.of_fresh hfresh
  unfold session startTailers
  rw [wp_bind', wp_bind', wp_loadOffset]
  refine ⟨trivial, trivial, ?_⟩
  rw [wp_bind', wp_loadOffset]
  refine ⟨trivial, trivial, ?_⟩
  rw [wp_bind', wp_loadOffset]
  exact ⟨trivial, trivial, trivial, wp_mainLoop_steady hstream moves hstart⟩

/-! ## The order of a flush -/

/-- A flush so far: rows have only been removed, and each attempt was of an entry in front
of those still to do, none failing by HTTP. -/
structure FlushedUpTo (before : World) (todo : List Row) (w : World) : Prop where
  sub : w.buffer.rows.Sublist before.buffer.rows
  ahead : todo.Sublist before.buffer.rows
  attempts : ∃ new, w.attempts = before.attempts ++ new ∧ ∀ a ∈ new,
    (a.transport = .http → a.acked = true)
      ∧ ∃ row ∈ before.buffer.rows, a.entry = some row.id ∧ ∀ r ∈ todo, row.id < r.id

/-- What one flush may have done: removed entries, and attempted some, none behind an
entry whose HTTP upload failed. -/
structure Flushed (before after : World) : Prop where
  sub : after.buffer.rows.Sublist before.buffer.rows
  attempts : ∃ new, after.attempts = before.attempts ++ new ∧ ∀ a ∈ new,
    ∃ row ∈ before.buffer.rows, a.entry = some row.id
      ∧ (a.transport = .http → a.acked = false →
        ∀ b ∈ new, ∃ row' ∈ before.buffer.rows, b.entry = some row'.id ∧ row'.id ≤ row.id)

section Order

variable {before : World} {row : Row} {todo : List Row}

theorem FlushedUpTo.tail (h : FlushedUpTo before (row :: todo) w) : FlushedUpTo before todo w := by
  obtain ⟨new, hnew, hall⟩ := h.attempts
  refine ⟨h.sub, (List.sublist_cons_self _ _).trans h.ahead, new, hnew, fun b hb => ?_⟩
  obtain ⟨hbOk, r, hr, hbEntry, hlt⟩ := hall b hb
  exact ⟨hbOk, r, hr, hbEntry, fun r' hr' => hlt r' (List.mem_cons_of_mem _ hr')⟩

theorem FlushedUpTo.remove (h : FlushedUpTo before todo w) (entryId : Nat) :
    FlushedUpTo before todo (w.remove entryId) :=
  ⟨List.filter_sublist.trans h.sub, h.ahead, h.attempts⟩

theorem FlushedUpTo.suppress (h : FlushedUpTo before todo w) (event : Obj) :
    FlushedUpTo before todo (w.suppress event) :=
  ⟨h.sub, h.ahead, h.attempts⟩

theorem FlushedUpTo.done (h : FlushedUpTo before todo w) : Flushed before w := by
  obtain ⟨new, hnew, hall⟩ := h.attempts
  refine ⟨h.sub, new, hnew, fun a ha => ?_⟩
  obtain ⟨haOk, r, hr, haEntry, -⟩ := hall a ha
  refine ⟨r, hr, haEntry, fun hhttp hfail => ?_⟩
  rw [haOk hhttp] at hfail
  cases hfail

/-- Before its HTTP attempt an entry may have had an MQTT attempt. -/
theorem FlushedUpTo.front (h : FlushedUpTo before (row :: todo) w) {w' : World}
    (hbefore : BeforeHttp env row w w') :
    w'.buffer = w.buffer ∧ ∃ new, w'.attempts = before.attempts ++ new ∧ ∀ a ∈ new,
      (a.transport = .http → a.acked = true)
        ∧ ∃ r ∈ before.buffer.rows, a.entry = some r.id ∧ r.id ≤ row.id := by
  have hrow : row ∈ before.buffer.rows := h.ahead.subset List.mem_cons_self
  obtain ⟨new, hnew, hall⟩ := h.attempts
  have hfront : ∀ a ∈ new, (a.transport = .http → a.acked = true)
      ∧ ∃ r ∈ before.buffer.rows, a.entry = some r.id ∧ r.id ≤ row.id := by
    intro a ha
    obtain ⟨hok, r, hr, hentry, hlt⟩ := hall a ha
    exact ⟨hok, r, hr, hentry, Nat.le_of_lt (hlt row List.mem_cons_self)⟩
  rcases hbefore with rfl | ⟨-, files, rfl⟩
  · exact ⟨rfl, new, hnew, hfront⟩
  · refine ⟨rfl, new ++ [⟨some row.id, .mqtt, "event",
      enrichSecurityEvent env.text.repr files row.payload, false⟩], ?_, fun a ha => ?_⟩
    · show w.attempts ++ [_] = _
      rw [hnew, List.append_assoc]
    · rcases List.mem_append.mp ha with ha | ha
      · exact hfront a ha
      · rw [List.mem_singleton.mp ha]
        exact ⟨fun hhttp => (by cases hhttp), row, hrow, rfl, Nat.le_refl _⟩

/-- The flush stops at a failed HTTP attempt: what came before was in front of it. -/
theorem FlushedUpTo.stop (h : FlushedUpTo before (row :: todo) w) {w' : World}
    (hbefore : BeforeHttp env row w w') {a : Attempt} (hentry : a.entry = some row.id) :
    Flushed before (w'.attempt a) := by
  have hrow : row ∈ before.buffer.rows := h.ahead.subset List.mem_cons_self
  obtain ⟨hbuffer, new, hnew, hall⟩ := h.front hbefore
  refine ⟨?_, new ++ [a], ?_, fun b hb => ?_⟩
  · show w'.buffer.rows.Sublist _
    rw [hbuffer]
    exact h.sub
  · show w'.attempts ++ [a] = _
    rw [hnew, List.append_assoc]
  · rcases List.mem_append.mp hb with hb | hb
    · obtain ⟨hok, r, hr, hbEntry, -⟩ := hall b hb
      refine ⟨r, hr, hbEntry, fun hhttp hfail => ?_⟩
      rw [hok hhttp] at hfail
      cases hfail
    · rw [List.mem_singleton.mp hb]
      refine ⟨row, hrow, hentry, fun _ _ c hc => ?_⟩
      rcases List.mem_append.mp hc with hc | hc
      · exact (hall c hc).2
      · rw [List.mem_singleton.mp hc]
        exact ⟨row, hrow, hentry, Nat.le_refl _⟩

/-- The entry gets through. -/
theorem FlushedUpTo.delivered (h : FlushedUpTo before (row :: todo) w) {w' : World}
    (hbefore : BeforeHttp env row w w') {a : Attempt} (hentry : a.entry = some row.id)
    (hok : a.acked = true) : FlushedUpTo before todo ((w'.attempt a).remove row.id) := by
  obtain ⟨hbuffer, new, hnew, hall⟩ := h.front hbefore
  have hrising := before.buffer.sorted.sublist h.ahead
  rw [List.pairwise_cons] at hrising
  refine ⟨?_, h.tail.ahead, new ++ [a], ?_, fun b hb => ?_⟩
  · show (w'.buffer.remove row.id).rows.Sublist _
    rw [hbuffer]
    exact List.filter_sublist.trans h.sub
  · show w'.attempts ++ [a] = _
    rw [hnew, List.append_assoc]
  · rcases List.mem_append.mp hb with hb | hb
    · obtain ⟨hbOk, r, hr, hbEntry, hle⟩ := hall b hb
      exact ⟨hbOk, r, hr, hbEntry, fun r' hr' => Nat.lt_of_le_of_lt hle (hrising.1 r' hr')⟩
    · rw [List.mem_singleton.mp hb]
      exact ⟨fun _ => hok, row, h.ahead.subset List.mem_cons_self, hentry, hrising.1⟩

end Order

theorem wp_flushBuffer_order {before : World} :
    wp env.machine (fun _ w' => Flushed before w') (fun _ _ => False) (fun _ => True)
      (flushBuffer env) before := by
  unfold flushBuffer
  rw [wp_bind', wp_pending]
  refine ⟨trivial, trivial, ?_⟩
  refine wp_forWhile (fun todo w' => FlushedUpTo before todo w') ?_
    (fun w' hI => ⟨trivial, hI.done⟩)
    ⟨List.Sublist.refl _, List.Sublist.refl _, [], (List.append_nil _).symm,
      fun _ ha => absurd ha List.not_mem_nil⟩
  intro row todo w' hI
  have hnow : BeforeHttp env row w' w' := .inl rfl
  refine wp_flushEntry trivial (fun _ => ⟨trivial, trivial, ?_⟩)
    (fun _ files => ⟨trivial, trivial, ?_⟩) (fun w'' hbefore => ?_) (fun _ _ => ⟨trivial, ?_⟩)
  · exact (hI.tail.suppress row.payload).remove row.id
  · exact hI.delivered hnow rfl rfl
  · exact ⟨trivial, ⟨trivial, trivial, hI.delivered hbefore rfl rfl⟩, trivial, trivial,
      hI.stop hbefore rfl⟩
  · exact hI.tail.remove row.id

end Uplink

/-! ## The account, read off -/

/-- Trimmed from the buffer, with at least `max_events` newer entries enqueued after it. -/
def World.TrimmedUnder (repr : Json → String) (id : String) (w : World) : Prop :=
  ∃ t ∈ w.trimmed, rowHas repr id t.1 = true ∧ (t.1.id : Int) + w.buffer.maxEvents ≤ t.2

/-- Exactly one of three. -/
def ExactlyOne (a b c : Prop) : Prop := (a ∧ ¬ b ∧ ¬ c) ∨ (¬ a ∧ b ∧ ¬ c) ∨ (¬ a ∧ ¬ b ∧ c)

/-- An event handed out and never suppressed is in exactly one place. -/
theorem Accounted.exactlyOne {repr : Json → String} {w : World} (h : Accounted repr [] w)
    {e : Json} (he : e ∈ w.returnedAll) (hkept : ∀ o ∈ w.suppressed, eventId repr o ≠ idOf repr e) :
    ExactlyOne (w.ackedCount repr (idOf repr e) = 1 ∧ w.bufferedCount repr (idOf repr e) = 0)
      (w.bufferedCount repr (idOf repr e) = 1)
      (w.ackedCount repr (idOf repr e) = 0 ∧ w.TrimmedUnder repr (idOf repr e)) := by
  have hlaw := h.law (idOf repr e)
  have honce := h.once (idOf repr e)
  have hhand : inHand repr (idOf repr e) [] = 0 := rfl
  have hsuppressed : w.suppressedCount repr (idOf repr e) = 0 := by
    refine List.countP_eq_zero.mpr fun o ho => ?_
    simpa using hkept o ho
  have hreturned : 0 < w.returnedCount repr (idOf repr e) :=
    List.countP_pos_iff.mpr ⟨e, he, by simp⟩
  have htrimmed : w.TrimmedUnder repr (idOf repr e) ↔ 0 < w.trimmedCount repr (idOf repr e) := by
    unfold World.trimmedCount
    rw [List.countP_pos_iff]
    constructor
    · intro ⟨t, ht, hhas, _⟩
      exact ⟨t, ht, hhas⟩
    · intro ⟨t, ht, hhas⟩
      exact ⟨t, ht, hhas, h.trims t ht⟩
  unfold ExactlyOne
  rw [htrimmed]
  omega

/-- **Every event is accounted for.** After any run of the main loop from a fresh start,
every event handed out that the whitelist never matched is in exactly one of three
classes: acknowledged exactly once and not buffered; buffered exactly once; trimmed
under at least `max_events` newer entries and never acknowledged. And a flush at any such
point only removes entries and attempts none behind one whose HTTP upload failed. -/
theorem every_event_accounted (env : AgentEnv) (hstream : StreamOk env) (w₀ w : World)
    (hfresh : Fresh env w₀) (moves : List Uplink.Move) (choices : List Choice)
    (t : Uplink.Tailers)
    (hrun : exec env.machine choices (Uplink.session env moves) w₀ = (.ret t, w)) :
    (∀ e ∈ w.returnedAll,
      (∀ o ∈ w.suppressed, eventId env.text.repr o ≠ idOf env.text.repr e) →
      ExactlyOne
        (w.ackedCount env.text.repr (idOf env.text.repr e) = 1
          ∧ w.bufferedCount env.text.repr (idOf env.text.repr e) = 0)
        (w.bufferedCount env.text.repr (idOf env.text.repr e) = 1)
        (w.ackedCount env.text.repr (idOf env.text.repr e) = 0
          ∧ w.TrimmedUnder env.text.repr (idOf env.text.repr e)))
    ∧ ∀ (choices' : List Choice) (w' : World),
      exec env.machine choices' (Uplink.flushBuffer env) w = (.ret (), w') →
      Uplink.Flushed w w' := by
  have hsteady := wp_exec_ret (Uplink.wp_session_steady hstream hfresh moves) hrun
  have hflush := @Uplink.wp_flushBuffer_order env w
  refine ⟨fun e he hkept => hsteady.account.exactlyOne he hkept, fun choices' w' hrun' => ?_⟩
  have hdone := wp_exec_ret hflush hrun'
  exact hdone

theorem sampleEnv_streamOk : StreamOk sampleEnv := by
  have hall : allEvents sampleEnv = [.obj [("event_id", .str "a1")]] := by rfl
  refine ⟨fun f => ?_, fun e he => ?_, ?_⟩
  · cases f <;> decide
  · rw [hall, List.mem_singleton] at he
    exact ⟨_, he, "a1", rfl, by decide⟩
  · rw [hall]
    decide

theorem sampleStart_fresh (env : AgentEnv) : Fresh env sampleStart :=
  ⟨rfl, fun _ => AtLine.zero _, fun _ => Nat.zero_le _, fun _ => rfl, rfl, rfl, rfl⟩

/-- One iteration in which everything is acknowledged. -/
def sampleRun : Proc Uplink.Tailers × World :=
  exec sampleEnv.machine (List.replicate 20 { written := some 19 })
    (Uplink.session sampleEnv [.iterate]) sampleStart

theorem sampleRun_returns : sampleRun = (.ret ⟨19, 0, 0⟩, sampleRun.2) := by rfl

/-- The law at that run: the one event was acknowledged once. -/
theorem every_event_accounted_sample :
    sampleRun.2.returnedAll.length = 1 ∧
    (∀ e ∈ sampleRun.2.returnedAll,
      (∀ o ∈ sampleRun.2.suppressed,
        eventId sampleEnv.text.repr o ≠ idOf sampleEnv.text.repr e) →
      ExactlyOne
        (sampleRun.2.ackedCount sampleEnv.text.repr (idOf sampleEnv.text.repr e) = 1
          ∧ sampleRun.2.bufferedCount sampleEnv.text.repr (idOf sampleEnv.text.repr e) = 0)
        (sampleRun.2.bufferedCount sampleEnv.text.repr (idOf sampleEnv.text.repr e) = 1)
        (sampleRun.2.ackedCount sampleEnv.text.repr (idOf sampleEnv.text.repr e) = 0
          ∧ sampleRun.2.TrimmedUnder sampleEnv.text.repr (idOf sampleEnv.text.repr e)))
    ∧ ∀ (choices' : List Choice) (w' : World),
      exec sampleEnv.machine choices' (Uplink.flushBuffer sampleEnv) sampleRun.2 = (.ret (), w') →
      Uplink.Flushed sampleRun.2 w' :=
  ⟨rfl, every_event_accounted sampleEnv sampleEnv_streamOk sampleStart sampleRun.2
    (sampleStart_fresh sampleEnv) [.iterate] (List.replicate 20 { written := some 19 })
    ⟨19, 0, 0⟩ sampleRun_returns⟩

end EdgeSensor.Agent
