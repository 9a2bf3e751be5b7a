import EdgeSensor.Agent.Accounting

/-!
# What a kill can lose

An event is settled when it has been acknowledged, buffered, trimmed or suppressed, in
any enriched form. Settled is for good: no step of the agent, and no crash between two
steps, takes it back (`Later`), as long as two events with one id are one event.

The tailer saves the offset before the batch is delivered, so a kill loses whatever
of the batch is unsettled at that moment. That is the only way: in a run whose kills
all find the batch settled (`KillOk`), a full iteration leaves every event on a line
finished before it settled (`settled_after_iteration`). A line that is not an object
ends the process like a kill.
-/

namespace EdgeSensor.Agent

open EdgeSensor.Lib EdgeSensor.Lib.Prog EdgeSensor.Py

/-- Acknowledged, suppressed or trimmed, in some enriched form. -/
def Gone (repr : Json → String) (event : Obj) (w : World) : Prop :=
  ∃ p, Enriched repr event p ∧
    ((∃ a ∈ w.attempts, a.acked = true ∧ a.kind = "event" ∧ a.payload = p) ∨ p ∈ w.suppressed ∨
      ∃ t ∈ w.trimmed, t.1.kind = "event" ∧ t.1.payload = p)

/-- In the buffer, in some enriched form. -/
def Buffered (repr : Json → String) (event : Obj) (w : World) : Prop :=
  ∃ row ∈ w.buffer.rows, row.kind = "event" ∧ Enriched repr event row.payload

/-- What a delivered event is. -/
def Settled (repr : Json → String) (event : Obj) (w : World) : Prop :=
  Gone repr event w ∨ Buffered repr event w

/-- The objects that the agent takes the lines of the event files for. -/
def Line (env : AgentEnv) (o : Obj) : Prop :=
  ∃ f, ∃ e ∈ (records LF (env.stream f)).filterMap (lineEvent env.text),
    Uplink.toDict env e = .ok o

/-- Event ids identify events: what an upload of one removes from the buffer is itself. -/
def IdsIdentify (env : AgentEnv) : Prop :=
  ∀ o o', Line env o → Line env o' → eventId env.text.repr o ≠ "" →
    (Obj.get o' "event_id").toStr env.text.repr = eventId env.text.repr o → o' = o

section Settling

variable {repr : Json → String} {event : Obj} {w : World}

theorem Gone.suppress (h : Gone repr event w) (o : Obj) : Gone repr event (w.suppress o) := by
  obtain ⟨p, hp, ha | hs | ht⟩ := h
  · exact ⟨p, hp, .inl ha⟩
  · exact ⟨p, hp, .inr (.inl (List.mem_append_left _ hs))⟩
  · exact ⟨p, hp, .inr (.inr ht)⟩

theorem Gone.attempt (h : Gone repr event w) (a : Attempt) : Gone repr event (w.attempt a) := by
  obtain ⟨p, hp, ⟨a', ha', hrest⟩ | hs | ht⟩ := h
  · exact ⟨p, hp, .inl ⟨a', List.mem_append_left _ ha', hrest⟩⟩
  · exact ⟨p, hp, .inr (.inl hs)⟩
  · exact ⟨p, hp, .inr (.inr ht)⟩

theorem gone_of_acked {p : Obj} (h : Enriched repr event p) {entry : Option Nat}
    {transport : Transport} : Gone repr event (w.attempt ⟨entry, transport, "event", p, true⟩) :=
  ⟨p, h, .inl ⟨_, List.mem_append_right _ (List.mem_singleton_self _), rfl, rfl, rfl⟩⟩

theorem gone_of_suppressed {p : Obj} (h : Enriched repr event p) :
    Gone repr event (w.suppress p) :=
  ⟨p, h, .inr (.inl (List.mem_append_right _ (List.mem_singleton_self _)))⟩

theorem Settled.suppress (h : Settled repr event w) (o : Obj) :
    Settled repr event (w.suppress o) := by
  rcases h with hgone | hbuffered
  · exact .inl (hgone.suppress o)
  · exact .inr hbuffered

theorem Settled.attempt (h : Settled repr event w) (a : Attempt) :
    Settled repr event (w.attempt a) := by
  rcases h with hgone | hbuffered
  · exact .inl (hgone.attempt a)
  · exact .inr hbuffered

/-- A row in front of an enqueue is still there, or trimmed. -/
theorem settled_enqueue_row {kind : String} {payload : Obj} {row : Row}
    (hrow : row ∈ w.buffer.rows ++ [w.buffer.newRow kind payload]) (hkind : row.kind = "event")
    (hp : Enriched repr event row.payload) : Settled repr event (w.enqueue kind payload) := by
  rw [← w.buffer.trimmed_append_rows kind payload] at hrow
  rcases List.mem_append.mp hrow with htrimmed | hkept
  · refine .inl ⟨row.payload, hp, .inr (.inr ⟨(row, w.buffer.lastId + 1), ?_, hkind, rfl⟩)⟩
    exact List.mem_append_right _ (List.mem_map.mpr ⟨row, htrimmed, rfl⟩)
  · exact .inr ⟨row, hkept, hkind, hp⟩

theorem Settled.enqueue (h : Settled repr event w) (kind : String) (payload : Obj) :
    Settled repr event (w.enqueue kind payload) := by
  rcases h with ⟨p, hp, ha | hs | ⟨t, ht, hrest⟩⟩ | ⟨row, hrow, hkind, hp⟩
  · exact .inl ⟨p, hp, .inl ha⟩
  · exact .inl ⟨p, hp, .inr (.inl hs)⟩
  · exact .inl ⟨p, hp, .inr (.inr ⟨t, List.mem_append_left _ ht, hrest⟩)⟩
  · exact settled_enqueue_row (List.mem_append_left _ hrow) hkind hp

theorem settled_of_enqueued {p : Obj} (hp : Enriched repr event p) :
    Settled repr event (w.enqueue "event" p) :=
  settled_enqueue_row (List.mem_append_right _ (List.mem_singleton_self _)) rfl hp

/-- A removal takes nothing back, if what it removes is gone anyway. -/
theorem Settled.remove (h : Settled repr event w) {entryId : Nat}
    (hgone : ∀ row ∈ w.buffer.rows, row.id = entryId → row.kind = "event" →
      Enriched repr event row.payload → Gone repr event w) :
    Settled repr event (w.remove entryId) := by
  rcases h with hgone' | ⟨row, hrow, hkind, hp⟩
  · exact .inl hgone'
  · by_cases hid : row.id = entryId
    · exact .inl (hgone row hrow hid hkind hp)
    · exact .inr ⟨row, List.mem_filter.mpr ⟨hrow, by simpa using hid⟩, hkind, hp⟩

end Settling

/-- `w'` comes after `w` without a read: the tailers' side is as it was, and what was
settled still is. -/
structure Later (env : AgentEnv) (w w' : World) : Prop where
  saved : w'.saved = w.saved
  written : w'.written = w.written
  returned : w'.returned = w.returned
  batch : w'.batch = w.batch
  settled : ∀ o, Line env o → Settled env.text.repr o w → Settled env.text.repr o w'

section LaterRules

variable {env : AgentEnv} {w w' w'' : World}

theorem Later.refl (env : AgentEnv) (w : World) : Later env w w :=
  ⟨rfl, rfl, rfl, rfl, fun _ _ h => h⟩

theorem Later.trans (h : Later env w w') (h' : Later env w' w'') : Later env w w'' :=
  ⟨h'.saved.trans h.saved, h'.written.trans h.written, h'.returned.trans h.returned,
    h'.batch.trans h.batch, fun o ho hs => h'.settled o ho (h.settled o ho hs)⟩

theorem Later.suppress (h : Later env w w') (o : Obj) : Later env w (w'.suppress o) :=
  h.trans ⟨rfl, rfl, rfl, rfl, fun _ _ hs => hs.suppress o⟩

theorem Later.attempt (h : Later env w w') (a : Attempt) : Later env w (w'.attempt a) :=
  h.trans ⟨rfl, rfl, rfl, rfl, fun _ _ hs => hs.attempt a⟩

theorem Later.enqueue (h : Later env w w') (kind : String) (payload : Obj) :
    Later env w (w'.enqueue kind payload) :=
  h.trans ⟨rfl, rfl, rfl, rfl, fun _ _ hs => hs.enqueue kind payload⟩

theorem Later.remove (h : Later env w w') {entryId : Nat}
    (hgone : ∀ row ∈ w'.buffer.rows, row.id = entryId → row.kind = "event" →
      ∀ o, Line env o → Enriched env.text.repr o row.payload → Gone env.text.repr o w') :
    Later env w (w'.remove entryId) :=
  h.trans ⟨rfl, rfl, rfl, rfl, fun o ho hs => hs.remove fun row hrow hid hkind hp =>
    hgone row hrow hid hkind o ho hp⟩

end LaterRules

namespace Uplink

variable {env : AgentEnv} {w : World}

/-- **A flush takes nothing back**, wherever it is cut off. -/
theorem wp_flushBuffer_later :
    wp env.machine (fun _ w' => Later env w w') (fun _ _ => False) (fun w' => Later env w w')
      (flushBuffer env) w := by
  have hrefl := Later.refl env w
  unfold flushBuffer
  rw [wp_bind', wp_pending]
  refine ⟨hrefl, hrefl, ?_⟩
  refine wp_forWhile (fun todo w' => Later env w w' ∧ w'.buffer.rows.Sublist w.buffer.rows
      ∧ ∀ row ∈ todo, row ∈ w.buffer.rows)
    ?_ (fun w' hI => ⟨hI.1, hI.1⟩) ⟨hrefl, List.Sublist.refl _, fun _ h => h⟩
  intro row todo w' ⟨hlater, hsub, hmem⟩
  have hrow := hmem row List.mem_cons_self
  have htodo : ∀ r ∈ todo, r ∈ w.buffer.rows := fun r hr => hmem r (List.mem_cons_of_mem _ hr)
  -- only the entry itself has its id
  have honly : ∀ r ∈ w'.buffer.rows, r.id = row.id → r = row :=
    fun r hr hid => UploadBuffer.eq_of_id_eq hrow (hsub.subset hr) hid
  have hbefore : ∀ w'', BeforeHttp env row w' w'' → Later env w w'' ∧ w''.buffer = w'.buffer := by
    intro w'' hcase
    rcases hcase with rfl | ⟨-, files, rfl⟩
    · exact ⟨hlater, rfl⟩
    · exact ⟨hlater.attempt _, rfl⟩
  refine wp_flushEntry hlater (fun hkind => ?_) (fun hkind files => ?_) (fun w'' hcase => ?_)
    (fun hkind _ => ?_)
  · have hnow := hlater.suppress row.payload
    have hdone : Later env w ((w'.suppress row.payload).remove row.id) := by
      refine hnow.remove fun r hr hid _ o _ hp => ?_
      rw [honly r hr hid] at hp
      exact gone_of_suppressed hp
    exact ⟨hnow, hdone, hdone, List.filter_sublist.trans hsub, htodo⟩
  · have hnow := hlater.attempt ⟨some row.id, .mqtt, "event",
      enrichSecurityEvent env.text.repr files row.payload, true⟩
    have hdone : Later env w ((w'.attempt ⟨some row.id, .mqtt, "event",
        enrichSecurityEvent env.text.repr files row.payload, true⟩).remove row.id) := by
      refine hnow.remove fun r hr hid _ o _ hp => ?_
      rw [honly r hr hid] at hp
      exact gone_of_acked (.again files hp)
    exact ⟨hnow, hdone, hdone, List.filter_sublist.trans hsub, htodo⟩
  · obtain ⟨hnow, hbuffer⟩ := hbefore w'' hcase
    have hacked := hnow.attempt ⟨some row.id, .http, row.kind, row.payload, true⟩
    have hfailed := hnow.attempt ⟨some row.id, .http, row.kind, row.payload, false⟩
    have hdone : Later env w
        ((w''.attempt ⟨some row.id, .http, row.kind, row.payload, true⟩).remove row.id) := by
      refine hacked.remove fun r hr hid hkind o _ hp => ?_
      have hsame : r = row := honly r (by rw [← hbuffer]; exact hr) hid
      rw [hsame] at hp hkind
      rw [hkind]
      exact gone_of_acked hp
    refine ⟨hnow, ⟨hacked, hdone, hdone, ?_, htodo⟩, hfailed, hfailed, hfailed⟩
    show (w''.buffer.remove row.id).rows.Sublist _
    rw [hbuffer]
    exact List.filter_sublist.trans hsub
  · have hdone : Later env w (w'.remove row.id) := by
      refine hlater.remove fun r hr hid hkind' => ?_
      rw [honly r hr hid] at hkind'
      exact absurd hkind' hkind
    exact ⟨hdone, hdone, List.filter_sublist.trans hsub, htodo⟩

/-- **An upload settles its event**, and takes nothing back. -/
theorem wp_upload_later (hids : IdsIdentify env) {o : Obj} (ho : Line env o)
    {E : PyErr → World → Prop} :
    wp env.machine (fun _ w' => Later env w w' ∧ Settled env.text.repr o w') E
      (fun w' => Later env w w') (upload env o) w := by
  have hrefl := Later.refl env w
  have hbefore : ∀ files w', BeforeUpload (enrichSecurityEvent env.text.repr files o) w w' →
      Later env w w' := by
    intro files w' hcase
    rcases hcase with rfl | rfl
    · exact hrefl
    · exact hrefl.attempt _
  refine wp_upload hrefl (fun files => ?_) (fun files => ?_)
  · intro enriched w' transport hcase
    have hstart := (hbefore files w' hcase).attempt ⟨none, transport, "event", enriched, true⟩
    have hversion : Enriched env.text.repr o enriched := .again files .plain
    refine wp_removeByEventId
      (fun s => Later env w s ∧ Gone env.text.repr o s ∧ s.buffer.rows.Sublist w'.buffer.rows)
      ⟨hstart, gone_of_acked hversion, List.Sublist.refl _⟩ (fun s hs => hs.1)
      (fun s hs => ⟨hs.1, .inl hs.2.1⟩) ?_
    intro s row ⟨hlater, hgone, hsub⟩ hrow hne hhit
    unfold UploadBuffer.isEvent at hhit
    simp only [Bool.and_eq_true, decide_eq_true_eq] at hhit
    refine ⟨hlater.remove fun r hr hid _ o' ho' hp => ?_, hgone, List.filter_sublist.trans hsub⟩
    have hsame : r = row := UploadBuffer.eq_of_id_eq hrow (hsub.subset hr) hid
    rw [hsame] at hp
    have hid' := hhit.2
    rw [hp.get_eventId, hversion.eventId_eq] at hid'
    rw [hversion.eventId_eq] at hne
    rw [hids o o' ho ho' hne hid']
    exact hgone
  · intro enriched w' hcase w''
    have hnow := hbefore files w' hcase
    have hfailed : Later env w w'' := hnow.attempt ⟨none, .http, "event", enriched, false⟩
    have hbuffered := hfailed.enqueue "event" enriched
    exact ⟨hnow, hfailed, hbuffered, hbuffered, settled_of_enqueued (.again files .plain)⟩

/-- One event of a batch: settled, or the loop is left. -/
theorem wp_uploadEvent_later (hids : IdsIdentify env) {e : Json}
    (he : ∀ o, toDict env e = .ok o → Line env o) :
    wp env.machine
      (fun _ w' => Later env w w' ∧ ∀ o, toDict env e = .ok o → Settled env.text.repr o w')
      (fun _ w' => Later env w w') (fun w' => Later env w w') (uploadEvent env e) w := by
  have hrefl := Later.refl env w
  cases hfields : e.fields? with
  | some o =>
    rw [Json.fields?_eq_some] at hfields
    subst hfields
    have honly : ∀ o', toDict env (.obj o) = .ok o' → o' = o := by
      intro o' h
      cases h
      rfl
    have hhit := hrefl.suppress o
    refine wp_uploadEvent hrefl ⟨hhit, hhit, fun o' h => ?_⟩ ?_
    · rw [honly o' h]
      exact .inl (gone_of_suppressed .plain)
    · refine wp_mono (fun _ s h => ⟨h.1, fun o' h' => ?_⟩) (fun _ _ h => h) (fun _ h => h)
        (wp_upload_later hids (he o rfl))
      rw [honly o' h']
      exact h.2
  | none =>
    refine wp_uploadEvent_other hrefl hfields (fun _ => hrefl) fun o ho => ?_
    refine wp_mono (fun _ s h => ⟨h.1, fun o' h' => ?_⟩) (fun _ _ h => h) (fun _ h => h)
      (wp_upload_later hids (he o ho))
    rw [ho] at h'
    cases h'
    exact h.2

end Uplink

/-! ## Runs with kills -/

/-- The tailers are in order, and what has been handed out is settled or still owed. -/
structure Owing (env : AgentEnv) (start : Feed → Nat) (todo : List Json) (w : World) : Prop where
  tailed : Tailed env start w.saved w.written w.returned
  owed : ∀ f o, .obj o ∈ w.returned f → Settled env.text.repr o w ∨ .obj o ∈ todo

section OwingRules

variable {env : AgentEnv} {start : Feed → Nat} {todo : List Json} {w w' : World}

theorem Owing.line (h : Owing env start todo w) {f : Feed} {e : Json} (he : e ∈ w.returned f)
    {o : Obj} (ho : Uplink.toDict env e = .ok o) : Line env o :=
  ⟨f, e, (h.tailed.returned_sublist f).subset he, ho⟩

theorem Owing.later (h : Owing env start todo w) (hlater : Later env w w') :
    Owing env start todo w' := by
  refine ⟨?_, fun f o ho => ?_⟩
  · rw [hlater.saved, hlater.written, hlater.returned]
    exact h.tailed
  · rw [hlater.returned] at ho
    rcases h.owed f o ho with hsettled | htodo
    · exact .inl (hlater.settled o (h.line ho rfl) hsettled)
    · exact .inr htodo

theorem Owing.mono {todo' : List Json} (h : Owing env start todo w) (hsub : todo ⊆ todo') :
    Owing env start todo' w :=
  ⟨h.tailed, fun f o ho => (h.owed f o ho).imp_right fun hmem => hsub hmem⟩

/-- The event at the head is settled, so the rest is owed. -/
theorem Owing.next {e : Json} (h : Owing env start (e :: todo) w)
    (hsettled : ∀ o, e = .obj o → Settled env.text.repr o w) : Owing env start todo w := by
  refine ⟨h.tailed, fun f o ho => ?_⟩
  rcases h.owed f o ho with hdone | hmem
  · exact .inl hdone
  · rcases List.mem_cons.mp hmem with heq | hmem
    · exact .inl (hsettled o heq.symm)
    · exact .inr hmem

theorem Owing.grow (h : Owing env start todo w) (feed : Feed) (written : Option Nat) :
    Owing env start todo (w.grow feed written) := by
  refine ⟨h.tailed.grow feed written, ?_⟩
  have howed := h.owed
  unfold World.grow
  split
  next => exact howed
  next => exact howed

/-- A new batch is handed out with nothing owed: now all of it is. -/
theorem Owing.hand (h : Owing env start [] w) {feed : Feed} {offset : Nat} {events : List Json}
    (htailed : Tailed env start (w.hand feed offset events).saved
      (w.hand feed offset events).written (w.hand feed offset events).returned) :
    Owing env start events (w.hand feed offset events) := by
  refine ⟨htailed, fun f o ho => ?_⟩
  have hcase : .obj o ∈ w.returned f ∨ .obj o ∈ events := by
    unfold World.hand at ho
    dsimp only at ho
    split at ho
    next => exact List.mem_append.mp ho
    next => exact .inl ho
  rcases hcase with hold | hnew
  · exact .inl ((h.owed f o hold).resolve_right List.not_mem_nil)
  · exact .inr hnew

end OwingRules

namespace Uplink

variable {env : AgentEnv} {start saved : Feed → Nat} {w : World}

theorem written_le_grow (w : World) (feed : Feed) (written : Option Nat) (f : Feed) :
    (w.written f).getD 0 ≤ ((w.grow feed written).written f).getD 0 := by
  unfold World.grow
  split
  next => exact Nat.le_refl _
  next n =>
    dsimp only
    split
    next => exact Nat.le_max_left _ _
    next => exact Nat.le_refl _

/-- More bytes, more events. -/
theorem eventsUpTo_mono (env : AgentEnv) (f : Feed) {m n : Nat} (h : m ≤ n) :
    eventsUpTo env f m <+: eventsUpTo env f n := by
  obtain ⟨tail, htail⟩ : (env.stream f).take m <+: (env.stream f).take n :=
    List.take_prefix_take_left h
  unfold eventsUpTo records
  rw [← htail, recordsFrom_append, List.filterMap_append]
  exact List.prefix_append _ _

/-- An offset with nothing beyond it has all the lines before it. -/
theorem eventsUpTo_of_drop_nil {f : Feed} {n offset : Nat} (hle : offset ≤ n)
    (hnil : ((env.stream f).take n).drop offset = []) :
    eventsUpTo env f offset = eventsUpTo env f n := by
  have htake : (env.stream f).take offset = (env.stream f).take n := by
    rw [← List.take_append_drop offset ((env.stream f).take n), hnil, List.append_nil,
      List.take_take, Nat.min_eq_left hle]
  unfold eventsUpTo
  rw [htake]

/-- The loop over a batch: each event in turn is settled. -/
theorem wp_batch_owing (hids : IdsIdentify env) {feed : Feed} {events : List Json}
    (h : Owing env start events w) (hbatch : w.batch = events)
    (hreturned : ∀ e ∈ events, e ∈ w.returned feed) :
    wp env.machine (fun _ w' => Owing env start [] w' ∧ Later env w w')
      (fun _ w' => Owing env start w'.batch w') (fun w' => Owing env start w'.batch w')
      (Prog.forEach events (uploadEvent env)) w := by
  refine wp_forEach
    (fun todo s => Owing env start todo s ∧ Later env w s ∧ todo ⊆ events) ?_ ?_
    ⟨h, Later.refl env w, fun _ he => he⟩
  · intro e todo s ⟨howing, hlater, hsub⟩
    have hcrash : ∀ s', Later env s s' → Owing env start s'.batch s' := by
      intro s' hs'
      rw [hs'.batch, hlater.batch, hbatch]
      exact (howing.mono hsub).later hs'
    have hmem : e ∈ s.returned feed := by
      rw [hlater.returned]
      exact hreturned e (hsub List.mem_cons_self)
    refine wp_mono (fun _ s' hs' => ?_) (fun _ s' hs' => hcrash s' hs') hcrash
      (wp_uploadEvent_later hids fun o ho => howing.line hmem ho)
    refine ⟨(howing.later hs'.1).next fun o ho => hs'.2 o ?_, hlater.trans hs'.1,
      fun _ he => hsub (List.mem_cons_of_mem _ he)⟩
    rw [ho, toDict]
  · intro s ⟨howing, hlater, _⟩
    exact ⟨howing.mono (List.nil_subset _), howing, hlater⟩

/-- One tailer. Between two steps at most the batch is owed, and at the end nothing is;
every line finished when the read began lies before the saved offset. -/
theorem wp_uploadPendingEvents_owing (hcr : ∀ f, CR ∉ env.stream f) (hids : IdsIdentify env)
    {feed : Feed} (h : Owing env start [] w) (hsaved : w.saved = saved) :
    wp env.machine
      (fun offset w' => Owing env start [] w' ∧ w'.saved = moved saved feed offset
        ∧ (∀ f, (w.written f).getD 0 ≤ (w'.written f).getD 0)
        ∧ eventsUpTo env feed ((w.written feed).getD 0) <+: eventsUpTo env feed offset)
      (fun _ w' => Owing env start w'.batch w') (fun w' => Owing env start w'.batch w')
      (uploadPendingEvents env feed (saved feed)) w := by
  have hnil : ∀ {s : World}, Owing env start [] s → Owing env start s.batch s :=
    fun hs => hs.mono (List.nil_subset _)
  unfold uploadPendingEvents
  rw [wp_bind']
  refine wp_pendingEvents (hnil h) fun written => ?_
  have hgrown := h.grow feed written
  have hgrownSaved : (w.grow feed written).saved = moved saved feed (saved feed) := by
    rw [grow_saved, hsaved, moved_self]
  refine ⟨hnil hgrown, fun hnone => ?_, fun n hn => ⟨fun hempty => ?_, fun _ => ?_⟩⟩
  · -- no file yet: nothing had been written before either
    have hle := written_le_grow w feed written feed
    rw [hnone, Option.getD_none, Nat.le_zero] at hle
    refine ⟨hnil hgrown, hgrown, hgrownSaved, written_le_grow w feed written, ?_⟩
    rw [hle]
    exact eventsUpTo_mono env feed (Nat.zero_le _)
  · have hat := hgrown.tailed.startOffset_eq hn
    have hle := hgrown.tailed.written feed
    have hmore := written_le_grow w feed written feed
    rw [grow_saved, hsaved] at hat hle
    rw [hn, Option.getD_some] at hle hmore
    rw [hat] at hempty ⊢
    refine ⟨hnil hgrown, hgrown, hgrownSaved, written_le_grow w feed written, ?_⟩
    rw [eventsUpTo_of_drop_nil hle hempty]
    exact eventsUpTo_mono env feed hmore
  · obtain ⟨htailed, hall⟩ := hgrown.tailed.hand hcr hn
    have hmore := written_le_grow w feed written feed
    rw [hn, Option.getD_some] at hmore
    rw [grow_saved, hsaved] at htailed hall
    have hhand := hgrown.hand htailed
    refine ⟨hhand, ?_⟩
    rw [wp_bind']
    refine wp_mono (fun _ s hs => ?_) (fun _ _ hs => hs) (fun _ hs => hs)
      (@wp_batch_owing env start _ hids feed _ hhand rfl fun _ he => mem_hand_returned he)
    obtain ⟨howing, hlater⟩ := hs
    refine ⟨hnil howing, howing, ?_, fun f => ?_, ?_⟩
    · rw [hlater.saved]
      unfold World.hand moved
      rw [grow_saved, hsaved]
    · rw [hlater.written]
      exact written_le_grow w feed written f
    · have hupTo : eventsUpTo env feed (nextOffset ((env.stream feed).take n) (saved feed))
          = eventsUpTo env feed n := by
        rw [← hall]
        unfold World.hand
        dsimp only
        rw [if_pos rfl]
      rw [hupTo]
      exact eventsUpTo_mono env feed hmore

/-- One turn of the loop: nothing is owed at its end, and every line finished when it
began lies before the saved offset. -/
theorem wp_iteration_owing (hcr : ∀ f, CR ∉ env.stream f) (hids : IdsIdentify env) {t : Tailers}
    (h : Owing env start [] w) (hsaved : w.saved = t.offset) :
    wp env.machine
      (fun t' w' => Owing env start [] w' ∧ w'.saved = t'.offset
        ∧ ∀ f, eventsUpTo env f ((w.written f).getD 0) <+: eventsUpTo env f (w'.saved f))
      (fun _ w' => Owing env start w'.batch w') (fun w' => Owing env start w'.batch w')
      (iteration env t) w := by
  unfold iteration
  rw [wp_bind']
  refine wp_mono (fun _ w₀ h₀ => ?_) (fun _ _ he => he.elim)
    (fun s hs => (h.later hs).mono (List.nil_subset _)) wp_flushBuffer_later
  rw [wp_bind']
  refine wp_mono (fun packet w₁ h₁ => ?_) (fun _ _ he => he) (fun _ hc => hc)
    (wp_uploadPendingEvents_owing hcr hids (h.later h₀) (h₀.saved.trans hsaved))
  obtain ⟨howing₁, hsaved₁, hmore₁, hpacket⟩ := h₁
  rw [wp_bind']
  refine wp_mono (fun snort w₂ h₂ => ?_) (fun _ _ he => he) (fun _ hc => hc)
    (wp_uploadPendingEvents_owing hcr hids howing₁ hsaved₁)
  obtain ⟨howing₂, hsaved₂, hmore₂, hsnort⟩ := h₂
  rw [wp_bind']
  refine wp_mono (fun suricata w₃ h₃ => ?_) (fun _ _ he => he) (fun _ hc => hc)
    (wp_uploadPendingEvents_owing hcr hids howing₂ hsaved₂)
  obtain ⟨howing₃, hsaved₃, -, hsuricata⟩ := h₃
  have hoffset : w₃.saved = Tailers.offset ⟨packet, snort, suricata⟩ := by
    rw [hsaved₃]
    funext f
    cases f <;> rfl
  have hsince : ∀ f, (w.written f).getD 0 ≤ (w₁.written f).getD 0 := by
    intro f
    rw [← h₀.written]
    exact hmore₁ f
  refine ⟨howing₃.mono (List.nil_subset _), howing₃, hoffset, fun f => ?_⟩
  rw [hoffset]
  cases f with
  | packet =>
    rw [← h₀.written]
    exact hpacket
  | snort => exact (eventsUpTo_mono env .snort (hsince .snort)).trans hsnort
  | suricata =>
    exact (eventsUpTo_mono env .suricata
      (Nat.le_trans (hsince .suricata) (hmore₂ .suricata))).trans hsuricata

theorem wp_reportHealth_later {payload : Obj} :
    wp env.machine (fun _ w' => Later env w w') (fun _ _ => False) (fun w' => Later env w w')
      (reportHealth payload) w := by
  have hrefl := Later.refl env w
  unfold reportHealth
  rw [wp_attempt]
  refine wp_post hrefl ⟨hrefl.attempt _, hrefl.attempt _⟩ fun _ => ⟨hrefl.attempt _, ?_⟩
  rw [wp_enqueue]
  exact ⟨hrefl.attempt _, (hrefl.attempt _).enqueue _ _, (hrefl.attempt _).enqueue _ _⟩

/-- The run lemma: between two turns nothing is owed, and a crash leaves at most the
batch. -/
theorem wp_mainLoop_owing (hcr : ∀ f, CR ∉ env.stream f) (hids : IdsIdentify env)
    (moves : List Move) {t : Tailers} (h : Owing env start [] w) (hsaved : w.saved = t.offset) :
    wp env.machine (fun t' w' => Owing env start [] w' ∧ w'.saved = t'.offset)
      (fun _ w' => Owing env start w'.batch w') (fun w' => Owing env start w'.batch w')
      (mainLoop env moves t) w := by
  induction moves generalizing t w with
  | nil => exact ⟨h.mono (List.nil_subset _), h, hsaved⟩
  | cons move moves ih =>
    cases move with
    | iterate =>
      rw [mainLoop, wp_bind']
      exact wp_mono (fun _ _ h' => ih h'.1 h'.2.1) (fun _ _ he => he) (fun _ hc => hc)
        (wp_iteration_owing hcr hids h hsaved)
    | health payload =>
      rw [mainLoop, wp_bind']
      exact wp_mono (fun _ _ h' => ih (h.later h') (h'.saved.trans hsaved)) (fun _ _ he => he.elim)
        (fun _ hc => (h.later hc).mono (List.nil_subset _)) wp_reportHealth_later

theorem wp_session_owing (hcr : ∀ f, CR ∉ env.stream f) (hids : IdsIdentify env)
    (moves : List Move) (h : Owing env start [] w) :
    wp env.machine (fun t w' => Owing env start [] w' ∧ w'.saved = t.offset)
      (fun _ w' => Owing env start w'.batch w') (fun w' => Owing env start w'.batch w')
      (session env moves) w := by
  have hcrash : Owing env start w.batch w := h.mono (List.nil_subset _)
  have hsaved : w.saved
      = Tailers.offset ⟨w.saved .packet, w.saved .snort, w.saved .suricata⟩ := by
    funext f
    cases f <;> rfl
  unfold session startTailers
  rw [wp_bind', wp_bind', wp_loadOffset]
  refine ⟨hcrash, hcrash, ?_⟩
  rw [wp_bind', wp_loadOffset]
  refine ⟨hcrash, hcrash, ?_⟩
  rw [wp_bind', wp_loadOffset]
  exact ⟨hcrash, hcrash, hcrash, wp_mainLoop_owing hcr hids moves h hsaved⟩

end Uplink

/-- The condition on a kill: it does not strike while an event of the batch that
`pending_events` handed out last is unsettled. -/
def KillOk (env : AgentEnv) (w : World) : Prop :=
  ∀ o, .obj o ∈ w.batch → Settled env.text.repr o w

/-- Process after process, each killed somewhere, or ended by an exception, where the
condition holds. The next one starts from what is on disk. -/
inductive KilledRun (env : AgentEnv) (w₀ : World) : World → Prop where
  | start : KilledRun env w₀ w₀
  | killed {w : World} (h : KilledRun env w₀ w) (moves : List Uplink.Move) (choices : List Choice)
      (hkill : KillOk env (exec env.machine choices (Uplink.session env moves) w).2) :
      KilledRun env w₀ (exec env.machine choices (Uplink.session env moves) w).2

/-- Nothing read and nothing handed out yet. -/
def Unread (w : World) : Prop := ∀ f, w.saved f = 0 ∧ w.returned f = []

theorem Owing.of_unread {env : AgentEnv} {w : World} (h : Unread w) :
    Owing env (fun _ => 0) [] w := by
  refine ⟨⟨fun f => ?_, fun f => ?_, fun f => ?_⟩, fun f o ho => ?_⟩
  · rw [(h f).1]
    exact AtLine.zero _
  · rw [(h f).1]
    exact Nat.zero_le _
  · rw [(h f).1, (h f).2, List.append_nil]
  · rw [(h f).2] at ho
    exact absurd ho List.not_mem_nil

/-- After kills that meet the condition nothing is owed. -/
theorem KilledRun.owing {env : AgentEnv} (hcr : ∀ f, CR ∉ env.stream f) (hids : IdsIdentify env)
    {w₀ w : World} (h₀ : Unread w₀) (h : KilledRun env w₀ w) : Owing env (fun _ => 0) [] w := by
  induction h with
  | start => exact Owing.of_unread h₀
  | killed _ moves choices hkill ih =>
    have hcrash := wp_exec_crash (Uplink.wp_session_owing hcr hids moves ih) choices
    exact ⟨hcrash.tailed, fun f o ho => .inl ((hcrash.owed f o ho).elim id (hkill o))⟩

/-- **At least once, unless a kill strikes the batch.** In a run of killed processes that
starts with nothing read and whose kills all meet the condition, an iteration that is
not killed settles every object on a line finished before it. -/
theorem settled_after_iteration (env : AgentEnv) (hcr : ∀ f, CR ∉ env.stream f)
    (hids : IdsIdentify env) (w₀ w w₁ w₂ : World) (h₀ : Unread w₀) (hruns : KilledRun env w₀ w)
    (moves : List Uplink.Move) (choices choices' : List Choice) (t₁ t₂ : Uplink.Tailers)
    (hreach : exec env.machine choices (Uplink.session env moves) w = (.ret t₁, w₁))
    (hfull : exec env.machine choices' (Uplink.iteration env t₁) w₁ = (.ret t₂, w₂))
    (f : Feed) (o : Obj) (hline : .obj o ∈ eventsUpTo env f ((w₁.written f).getD 0)) :
    Settled env.text.repr o w₂ := by
  have howing := hruns.owing hcr hids h₀
  have hreached := wp_exec_ret (Uplink.wp_session_owing hcr hids moves howing) hreach
  have hdone := wp_exec_ret (Uplink.wp_iteration_owing hcr hids hreached.1 hreached.2) hfull
  obtain ⟨howing₂, -, hupTo⟩ := hdone
  have hreturned := (hupTo f).subset hline
  rw [howing₂.tailed.returned f] at hreturned
  have hstart : eventsUpTo env f 0 = [] := rfl
  rw [hstart, List.nil_append] at hreturned
  exact (howing₂.owed f o hreturned).resolve_right List.not_mem_nil

/-- The sample line is in the file before the agent starts. -/
def sampleWritten : World := { sampleStart with written := fun f => some (sampleEnv.stream f).length }

theorem sampleWritten_unread : Unread sampleWritten := fun _ => ⟨rfl, rfl⟩

/-- There is one line, so there is one event. -/
theorem sampleEnv_idsIdentify : IdsIdentify sampleEnv := by
  have hline : ∀ o, Line sampleEnv o → o = [("event_id", .str "a1")] := by
    intro o ⟨f, e, he, ho⟩
    have hall : (records LF (sampleEnv.stream f)).filterMap (lineEvent sampleEnv.text)
        ⊆ [.obj [("event_id", .str "a1")]] := by
      cases f with
      | packet => exact fun _ h => h
      | snort => exact List.nil_subset _
      | suricata => exact List.nil_subset _
    have hevent := List.mem_singleton.mp (hall he)
    rw [hevent] at ho
    injection ho with ho
    exact ho.symm
  intro o o' ho ho' _ _
  rw [hline o ho, hline o' ho']

/-- The first process is killed while it loads its offsets, the second has done so. -/
def sampleRestart : Proc Uplink.Tailers × World :=
  exec sampleEnv.machine (List.replicate 3 {}) (Uplink.session sampleEnv [])
    (exec sampleEnv.machine (List.replicate 2 {}) (Uplink.session sampleEnv [.iterate])
      sampleWritten).2

def sampleIteration : Proc Uplink.Tailers × World :=
  exec sampleEnv.machine (List.replicate 20 {}) (Uplink.iteration sampleEnv ⟨0, 0, 0⟩)
    sampleRestart.2

/-- After a kill that strikes no batch, the event on the sample line is settled. -/
theorem settled_after_iteration_sample :
    Obj.get [("event_id", .str "a1")] "event_id" = .str "a1"
      ∧ Settled sampleEnv.text.repr [("event_id", .str "a1")] sampleIteration.2 := by
  refine ⟨rfl, ?_⟩
  refine settled_after_iteration sampleEnv (fun f => ?_) sampleEnv_idsIdentify sampleWritten
    (exec sampleEnv.machine (List.replicate 2 {}) (Uplink.session sampleEnv [.iterate])
      sampleWritten).2 sampleRestart.2 sampleIteration.2 sampleWritten_unread
    (.killed .start [.iterate] (List.replicate 2 {}) fun o ho => ?_) [] (List.replicate 3 {})
    (List.replicate 20 {}) ⟨0, 0, 0⟩ ⟨19, 0, 0⟩ rfl rfl .packet _ ?_
  · cases f <;> decide
  · have hbatch : (exec sampleEnv.machine (List.replicate 2 {})
        (Uplink.session sampleEnv [.iterate]) sampleWritten).2.batch = [] := rfl
    rw [hbatch] at ho
    exact absurd ho List.not_mem_nil
  · have hevents : eventsUpTo sampleEnv .packet ((sampleRestart.2.written .packet).getD 0)
        = [.obj [("event_id", .str "a1")]] := rfl
    rw [hevents]
    exact List.mem_singleton_self _

/-- A process killed right after it saved the offset: three offsets loaded, the buffer
flushed, the file read, the offset saved. -/
def sampleKilled : World :=
  (exec sampleEnv.machine (List.replicate 6 {}) (Uplink.session sampleEnv [.iterate])
    sampleWritten).2

/-- The next process, not killed, in a full iteration. -/
def sampleAfter : Proc Uplink.Tailers × World :=
  exec sampleEnv.machine (List.replicate 20 {}) (Uplink.session sampleEnv [.iterate]) sampleKilled

/-- **The offset is saved before the batch is delivered**, so that kill loses the event:
the next full iteration neither sends it nor buffers it. -/
theorem killed_batch_lost :
    sampleAfter.1 = .ret ⟨19, 0, 0⟩
      ∧ .obj [("event_id", .str "a1")]
        ∈ eventsUpTo sampleEnv .packet ((sampleWritten.written .packet).getD 0)
      ∧ ¬ Settled sampleEnv.text.repr [("event_id", .str "a1")] sampleAfter.2 := by
  refine ⟨rfl, ?_, ?_⟩
  · have hevents : eventsUpTo sampleEnv .packet ((sampleWritten.written .packet).getD 0)
        = [.obj [("event_id", .str "a1")]] := rfl
    rw [hevents]
    exact List.mem_singleton_self _
  · have hattempts : sampleAfter.2.attempts = [] := rfl
    have hsuppressed : sampleAfter.2.suppressed = [] := rfl
    have htrimmed : sampleAfter.2.trimmed = [] := rfl
    have hrows : sampleAfter.2.buffer.rows = [] := rfl
    rintro (⟨p, -, ⟨a, ha, -⟩ | hs | ⟨t, ht, -⟩⟩ | ⟨row, hrow, -⟩)
    · rw [hattempts] at ha
      exact absurd ha List.not_mem_nil
    · rw [hsuppressed] at hs
      exact absurd hs List.not_mem_nil
    · rw [htrimmed] at ht
      exact absurd ht List.not_mem_nil
    · rw [hrows] at hrow
      exact absurd hrow List.not_mem_nil

end EdgeSensor.Agent
