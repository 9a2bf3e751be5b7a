import EdgeSensor.Agent.SightingPayload
import EdgeSensor.Lib.KeyedList
import Mathlib.Data.List.Flatten

/-!
# The retry budget of a sighting

For each event id the outcomes of its POSTs say where it stands (`Lib.Standing`), and the queue
holds exactly the ids that wait, each once, with the number of its failures (`Accounts`). A
sighting that is submitted and an item that is flushed both make one try more.
-/

namespace EdgeSensor.Agent

open EdgeSensor.Lib EdgeSensor.Py

/-- The outcomes of the POSTs of a sighting. -/
def triesOf (posts : List SightingPost) (id : PyStr) : List Bool :=
  (posts.filter fun post => post.eventId = id).map (·.ok)

/-- The items of the queue say that the sighting stands there. -/
def HeldAs (items : List QueuedSighting) (id : PyStr) : Standing → Prop
  | .waiting 0 => ∀ item ∈ items, item.eventId ≠ id
  | .waiting (n + 1) => ∃ item ∈ items, item.eventId = id ∧ item.attempts = n + 1
  | .done _ => ∀ item ∈ items, item.eventId ≠ id
  | .givenUp => ∀ item ∈ items, item.eventId ≠ id

/-- The queue file holds these items, and each sighting's POSTs and the queue agree on where it
stands. -/
structure Accounts (text : SightingText) (cfg : SightingConfig) (s : SightingState)
    (items : List QueuedSighting) : Prop where
  lines : s.lines = items.map QueuedSighting.toDict
  proper : ∀ item ∈ items, item.Proper
  nodup : (items.map (·.eventId)).Nodup
  stands : ∀ id, ∃ st, Standing.after cfg.maxAttempts.toNat (triesOf s.posts id) = some st
    ∧ HeldAs items id st
  due : ∀ post ∈ s.posts, ∀ item, post.item = some item → ∀ due,
    text.fromIso item.nextRetryAt = some due → due ≤ post.sentAt

/-! ## Proper items -/

section Proper

variable {text : SightingText} {cfg : SightingConfig}

theorem plain_iso (t : Int) : PyStr.plain (text.iso t) = true := by
  have hascii := text.iso_ascii t
  refine Bool.and_eq_true _ _ ▸ ⟨List.all_eq_true.mpr fun c hc => ?_, List.all_eq_true.mpr fun c hc => ?_⟩
  · have hlt := hascii c hc
    simp only [isSurrogate, Bool.not_eq_true', Bool.and_eq_false_iff, decide_eq_false_iff_not]
    omega
  · have hlt := hascii c hc
    simp only [isBareLineBreak, Bool.not_eq_true', Bool.or_eq_false_iff, beq_eq_false_iff_ne]
    omega

/-- An item is plain if its texts are. -/
theorem plain_toDict {item : QueuedSighting} (hid : PyStr.plain item.eventId = true)
    (hpayload : item.payload.plain = true) (hqueued : PyStr.plain item.queuedAt = true)
    (hnext : PyStr.plain item.nextRetryAt = true)
    (herror : ∀ error, item.lastError = some error → PyStr.plain error = true) :
    item.toDict.plain = true := by
  have hkeys : ∀ key ∈ ["event_id", "payload", "attempts", "queued_at", "next_retry_at", "last_error"],
      PyStr.unbroken (lit key) = true := by decide
  have hlast : (QueuedSighting.textOrNull item.lastError).plain = true := by
    cases hcase : item.lastError with
    | none => rfl
    | some error => exact herror error hcase
  simp only [Value.plain, PyStr.plain, Bool.and_eq_true] at hid hpayload hqueued hnext hlast ⊢
  simp only [QueuedSighting.toDict, Value.encodable, Value.encodableFields, Value.unbroken,
    Value.unbrokenFields, encodable_lit, Bool.and_true, Bool.true_and, Bool.and_eq_true]
  refine ⟨⟨hid.1, hpayload.1, hqueued.1, hnext.1, hlast.1⟩, ⟨hkeys _ ?_, hid.2⟩, ⟨hkeys _ ?_, hpayload.2⟩,
    hkeys _ ?_, ⟨hkeys _ ?_, hqueued.2⟩, ⟨hkeys _ ?_, hnext.2⟩, hkeys _ ?_, hlast.2⟩
  all_goals simp

/-- The error of a POST is plain. -/
def IngestResult.Plain : IngestResult → Prop
  | .ok => True
  | .failed error => ∀ s, error = some s → PyStr.plain s = true

theorem errorText_plain {error : Option PyStr} (h : (IngestResult.failed error).Plain) :
    PyStr.plain (errorText error) = true ∧ errorText error ≠ [] := by
  unfold errorText
  cases error with
  | none => decide
  | some s =>
    simp only
    split
    next => decide
    next hne => exact ⟨h s rfl, hne⟩

/-- A retry of an item is proper, if the item was made so. -/
theorem scheduleRetry_proper {item : QueuedSighting} {error : Option PyStr} {now : Int}
    (hid : item.eventId ≠ []) (hobj : item.payload.isObj = true) (hqueued : item.queuedAt ≠ [])
    (hidPlain : PyStr.plain item.eventId = true) (hpayload : item.payload.plain = true)
    (hqueuedPlain : PyStr.plain item.queuedAt = true) (herror : (IngestResult.failed error).Plain) :
    (scheduleRetry text cfg item (errorText error) now).Proper := by
  obtain ⟨hplain, hne⟩ := errorText_plain herror
  refine ⟨hid, hobj, hqueued, text.iso_ne_nil _, fun hnil => hne ?_, ?_⟩
  · have htake := Option.some.inj hnil
    rw [List.take_eq_nil_iff] at htake
    exact htake.resolve_left (by decide)
  · refine plain_toDict hidPlain hpayload hqueuedPlain (plain_iso _) fun s hs => ?_
    cases hs
    exact PyStr.plain_take hplain 500

/-- The texts of a proper item. -/
theorem QueuedSighting.Proper.texts {item : QueuedSighting} (h : item.Proper) :
    PyStr.plain item.eventId = true ∧ item.payload.plain = true
      ∧ PyStr.plain item.queuedAt = true := by
  have hplain := h.plain
  simp only [Value.plain, QueuedSighting.toDict, Value.encodable, Value.encodableFields,
    Value.unbroken, Value.unbrokenFields, Bool.and_eq_true] at hplain
  obtain ⟨⟨⟨-, hid⟩, ⟨-, hpayload⟩, -, ⟨-, hqueued⟩, -⟩, ⟨-, hid'⟩, ⟨-, hpayload'⟩, -, ⟨-, hqueued'⟩, -⟩ := hplain
  simp only [PyStr.plain, Value.plain, Bool.and_eq_true]
  exact ⟨⟨hid, hid'⟩, ⟨hpayload, hpayload'⟩, hqueued, hqueued'⟩

end Proper

/-! ## One call -/

section Calls

variable {text : SightingText} {cfg : SightingConfig} {s : SightingState}
  {items items' : List QueuedSighting} {id : PyStr}

theorem triesOf_append (posts more : List SightingPost) (id : PyStr) :
    triesOf (posts ++ more) id = triesOf posts id ++ triesOf more id := by
  unfold triesOf
  rw [List.filter_append, List.map_append]

/-- Where a sighting stands depends on its own items. -/
theorem HeldAs.congr {st : Standing} (hsame : ∀ item, item.eventId = id → (item ∈ items' ↔ item ∈ items))
    (h : HeldAs items id st) : HeldAs items' id st := by
  have hnone : (∀ item ∈ items, item.eventId ≠ id) → ∀ item ∈ items', item.eventId ≠ id :=
    fun hnone item hmem hid => hnone item ((hsame item hid).mp hmem) hid
  cases st with
  | waiting n =>
    cases n with
    | zero => exact hnone h
    | succ n =>
      obtain ⟨item, hmem, hid, hattempts⟩ := h
      exact ⟨item, (hsame item hid).mpr hmem, hid, hattempts⟩
  | done n => exact hnone h
  | givenUp => exact hnone h

/-- A sighting without an item: what a success brings, and a failure with or without an item. -/
theorem heldAs_of_none {st : Standing} (hnone : ∀ item ∈ items, item.eventId ≠ id)
    (hst : ∀ n, st ≠ .waiting (n + 1)) : HeldAs items id st := by
  cases st with
  | waiting n =>
    cases n with
    | zero => exact hnone
    | succ n => exact absurd rfl (hst n)
  | done n => exact hnone
  | givenUp => exact hnone

/-- A sighting that has not been posted is not in the queue. -/
theorem Accounts.none_of_untried (h : Accounts text cfg s items) (hnew : triesOf s.posts id = []) :
    ∀ item ∈ items, item.eventId ≠ id := by
  obtain ⟨st, hst, hheld⟩ := h.stands id
  rw [hnew] at hst
  cases hst
  exact hheld

/-- **A new sighting**: one try more for it, and nothing changes for the others. -/
theorem Accounts.submit (hm : 1 ≤ cfg.maxAttempts) (h : Accounts text cfg s items) {payload : Value}
    {attempt : PostAttempt} (hid : id ≠ []) (hidPlain : PyStr.plain id = true)
    (hobj : payload.isObj = true) (hpayload : payload.plain = true)
    (hresult : attempt.result.Plain) (hnew : triesOf s.posts id = []) :
    ∃ items' ok, Accounts text cfg (submit text cfg s payload id attempt).1 items'
      ∧ (∃ submitted, (submit text cfg s payload id attempt).2 = .ok submitted)
      ∧ (submit text cfg s payload id attempt).1.posts
        = s.posts ++ [{ eventId := id, ok := ok, sentAt := attempt.now }] := by
  have hnone := h.none_of_untried hnew
  have hfilter : (items.filter fun item => item.eventId ≠ id) = items :=
    List.filter_eq_self.mpr fun item hmem => decide_eq_true (hnone item hmem)
  have hremove : ∀ now, removeQueued text now id s.lines = .ok (items.map QueuedSighting.toDict) := by
    intro now
    rw [h.lines, removeQueued_written h.proper hid, hfilter]
  have htries : ∀ ok id', triesOf (s.posts ++ [{ eventId := id, ok := ok, sentAt := attempt.now }]) id'
      = if id' = id then [ok] else triesOf s.posts id' := by
    intro ok id'
    rw [triesOf_append]
    split
    next heq =>
      subst heq
      rw [hnew]
      simp [triesOf]
    next hne =>
      have hne' : id ≠ id' := Ne.symm hne
      simp [triesOf, hne']
  have hdue : ∀ ok, ∀ post ∈ s.posts ++ [({ eventId := id, ok := ok, sentAt := attempt.now } : SightingPost)],
      ∀ item, post.item = some item → ∀ due, text.fromIso item.nextRetryAt = some due →
        due ≤ post.sentAt := by
    intro ok post hpost item hitem
    rcases List.mem_append.mp hpost with hold | hone
    · exact h.due post hold item hitem
    · rw [List.mem_singleton.mp hone] at hitem
      cases hitem
  -- the queue stays as it is: the sighting is ingested, or its first failure was its last
  have hkept : ∀ ok lines st, lines = items.map QueuedSighting.toDict →
      Standing.after cfg.maxAttempts.toNat [ok] = some st → (∀ n, st ≠ .waiting (n + 1)) →
      Accounts text cfg { lines := lines, posts := s.posts ++ [⟨id, ok, attempt.now, none⟩] } items := by
    rintro ok lines st rfl hst hwaiting
    refine ⟨rfl, h.proper, h.nodup, fun id' => ?_, hdue ok⟩
    simp only [htries]
    split
    next heq =>
      subst heq
      exact ⟨st, hst, heldAs_of_none hnone hwaiting⟩
    next => exact h.stands id'
  unfold Agent.submit submitQueue
  cases hcase : attempt.result with
  | ok =>
    simp only [hremove, Except.map]
    exact ⟨items, true, hkept true _ (.done 0) rfl rfl (fun n => by simp), ⟨true, rfl⟩, rfl⟩
  | failed error =>
    rw [hcase] at hresult
    have hload : loadAll text (text.iso attempt.after) s.lines = .ok items := by
      rw [h.lines]
      exact loadAll_written h.proper
    have hfind : (items.find? fun item => item.eventId = id) = none :=
      List.find?_eq_none.mpr fun item hmem => by
        rw [decide_eq_true_eq]
        exact hnone item hmem
    simp only [bind, Except.bind, hload, hfind, Option.any_none, Bool.false_eq_true, if_false,
      Option.getD_none]
    generalize hupdated : scheduleRetry text cfg _ _ _ = updated
    have hattempts : updated.attempts = 1 := by
      rw [← hupdated]
      rfl
    have hupdatedId : updated.eventId = id := by
      rw [← hupdated]
      rfl
    rw [hattempts]
    by_cases hlast : cfg.maxAttempts ≤ 1
    · -- one failure is all there is
      have hone : cfg.maxAttempts.toNat = 1 := by omega
      rw [if_pos hlast, hremove]
      refine ⟨items, false, hkept false _ .givenUp rfl ?_ (fun n => by simp), ⟨false, rfl⟩, rfl⟩
      rw [hone]
      rfl
    · have hproper : updated.Proper := by
        rw [← hupdated]
        exact scheduleRetry_proper hid hobj (text.iso_ne_nil _) hidPlain hpayload (plain_iso _) hresult
      have hall : ∀ item ∈ items ++ [updated], item.Proper := by
        intro item hmem
        rcases List.mem_append.mp hmem with hold | hone
        · exact h.proper item hold
        · rw [List.mem_singleton.mp hone]
          exact hproper
      rw [if_neg hlast, hfilter, rewriteQueue_proper hall]
      refine ⟨items ++ [updated], false, ⟨rfl, hall, ?_, fun id' => ?_, hdue false⟩, ⟨false, rfl⟩, rfl⟩
      · rw [List.map_append, List.map_cons, List.map_nil, hupdatedId]
        refine List.nodup_append.mpr ⟨h.nodup, List.pairwise_singleton _ id, fun k hk k' hk' => ?_⟩
        obtain ⟨item, hmem, rfl⟩ := List.mem_map.mp hk
        rw [List.mem_singleton.mp hk']
        exact hnone item hmem
      · simp only [htries]
        split
        next heq =>
          subst heq
          refine ⟨.waiting 1, ?_, updated, ?_, hupdatedId, hattempts⟩
          · have hlt : 0 + 1 < cfg.maxAttempts.toNat := by omega
            show some (if 0 + 1 < cfg.maxAttempts.toNat then Standing.waiting 1 else .givenUp) = _
            rw [if_pos hlt]
          · exact List.mem_append.mpr (.inr (List.mem_singleton.mpr rfl))
        next hne =>
          obtain ⟨st, hst, hheld⟩ := h.stands id'
          refine ⟨st, hst, hheld.congr fun item hitem => ?_⟩
          rw [List.mem_append, List.mem_singleton]
          refine ⟨fun hmem => hmem.resolve_right ?_, .inl⟩
          rintro rfl
          exact hne (hitem.symm.trans hupdatedId)

/-- An item of the queue waits, with the number of its failures. -/
theorem Accounts.waiting (hm : 1 ≤ cfg.maxAttempts) (h : Accounts text cfg s items)
    {item : QueuedSighting} (hmem : item ∈ items) :
    ∃ n : Nat, Standing.after cfg.maxAttempts.toNat (triesOf s.posts item.eventId)
        = some (.waiting (n + 1))
      ∧ item.attempts = n + 1 ∧ item.attempts < cfg.maxAttempts := by
  obtain ⟨st, hst, hheld⟩ := h.stands item.eventId
  have hbudget : 1 ≤ cfg.maxAttempts.toNat := by omega
  have houtcomes := Standing.after_eq hbudget hst
  cases st with
  | waiting n =>
    cases n with
    | zero => exact absurd rfl (hheld item hmem)
    | succ n =>
      obtain ⟨item', hmem', hid, hattempts⟩ := hheld
      have heq : item' = item := List.inj_on_of_nodup_map h.nodup hmem' hmem hid
      rw [heq] at hattempts
      refine ⟨n, hst, hattempts, ?_⟩
      have hlt : n + 1 < cfg.maxAttempts.toNat := houtcomes.2
      omega
  | done n => exact absurd rfl (hheld item hmem)
  | givenUp => exact absurd rfl (hheld item hmem)

/-- What becomes of an item that is flushed: it stays, as it is not due; or it is posted, and is
taken, dropped, or waits for one more time. -/
inductive FlushCases (text : SightingText) (cfg : SightingConfig) (item : QueuedSighting)
    (attempt : PostAttempt) : Option QueuedSighting × Option SightingPost → Prop where
  | stays : FlushCases text cfg item attempt (some item, none)
  | taken (due : retryDue text item attempt.now = true) :
    FlushCases text cfg item attempt (none, some ⟨item.eventId, true, attempt.now, some item⟩)
  | dropped (due : retryDue text item attempt.now = true) (last : cfg.maxAttempts ≤ item.attempts + 1) :
    FlushCases text cfg item attempt (none, some ⟨item.eventId, false, attempt.now, some item⟩)
  | retried (updated : QueuedSighting) (proper : updated.Proper) (id : updated.eventId = item.eventId)
    (count : updated.attempts = item.attempts + 1) (less : item.attempts + 1 < cfg.maxAttempts)
    (due : retryDue text item attempt.now = true) :
    FlushCases text cfg item attempt (some updated, some ⟨item.eventId, false, attempt.now, some item⟩)

theorem flushItem_cases {item : QueuedSighting} {attempt : PostAttempt} (hitem : item.Proper)
    (hresult : attempt.result.Plain) (hlt : item.attempts < cfg.maxAttempts) :
    FlushCases text cfg item attempt (flushItem text cfg item attempt) := by
  unfold flushItem
  rw [if_neg (Int.not_le.mpr hlt)]
  cases hretry : retryDue text item attempt.now with
  | false => exact .stays
  | true =>
    cases hcase : attempt.result with
    | ok => exact .taken hretry
    | failed error =>
      rw [hcase] at hresult
      by_cases hlast : cfg.maxAttempts ≤ item.attempts + 1
      · have hgone : cfg.maxAttempts
            ≤ (scheduleRetry text cfg item (errorText error) attempt.after).attempts := hlast
        simp only [hgone, if_true]
        exact .dropped hretry hlast
      · have hmore : ¬ cfg.maxAttempts
            ≤ (scheduleRetry text cfg item (errorText error) attempt.after).attempts := hlast
        obtain ⟨hid, hpayload, hqueued⟩ := hitem.texts
        simp only [hmore, if_false]
        exact .retried _ (scheduleRetry_proper hitem.eventId hitem.payload hitem.queuedAt hid hpayload
          hqueued hresult) rfl rfl (Int.not_le.mp hlast) hretry

/-- What remains of an item, and its POST, are under its event id. -/
theorem FlushCases.ids {item : QueuedSighting} {attempt : PostAttempt}
    {result : Option QueuedSighting × Option SightingPost} (h : FlushCases text cfg item attempt result) :
    (∀ item', result.1 = some item' → item'.eventId = item.eventId)
      ∧ ∀ post, result.2 = some post → post.eventId = item.eventId := by
  cases h with
  | stays => exact ⟨fun _ h => by cases h; rfl, nofun⟩
  | taken => exact ⟨nofun, fun _ h => by cases h; rfl⟩
  | dropped => exact ⟨nofun, fun _ h => by cases h; rfl⟩
  | retried updated _ hid => exact ⟨fun _ h => by cases h; exact hid, fun _ h => by cases h; rfl⟩

/-- What `flush_queue` leaves in the queue, and its POSTs. -/
def flushed (text : SightingText) (cfg : SightingConfig) (attempt : QueuedSighting → PostAttempt)
    (items : List QueuedSighting) : List QueuedSighting × List SightingPost :=
  (items.filterMap fun item => (flushItem text cfg item (attempt item)).1,
    items.filterMap fun item => (flushItem text cfg item (attempt item)).2)

section Flushed

variable {attempt : QueuedSighting → PostAttempt}

/-- Each item of the queue, when it is flushed. -/
theorem Accounts.flushItem_cases (hm : 1 ≤ cfg.maxAttempts) (h : Accounts text cfg s items)
    (hresult : ∀ item, (attempt item).result.Plain) {item : QueuedSighting} (hmem : item ∈ items) :
    FlushCases text cfg item (attempt item) (flushItem text cfg item (attempt item)) :=
  Agent.flushItem_cases (h.proper item hmem) (hresult item) (h.waiting hm hmem).choose_spec.2.2

/-- What remains in the queue is proper. -/
theorem Accounts.flushed_proper (hm : 1 ≤ cfg.maxAttempts) (h : Accounts text cfg s items)
    (hresult : ∀ item, (attempt item).result.Plain) :
    ∀ item ∈ (flushed text cfg attempt items).1, item.Proper := by
  intro item' hmem'
  obtain ⟨item, hmem, hmade⟩ := List.mem_filterMap.mp hmem'
  have hcases := h.flushItem_cases hm hresult hmem
  generalize flushItem text cfg item (attempt item) = result at hcases hmade
  cases hcases with
  | stays =>
    cases hmade
    exact h.proper _ hmem
  | taken => cases hmade
  | dropped => cases hmade
  | retried updated hproper =>
    cases hmade
    exact hproper

/-- An item is posted when it is due. -/
theorem Accounts.flushed_due (hm : 1 ≤ cfg.maxAttempts) (h : Accounts text cfg s items)
    (hresult : ∀ item, (attempt item).result.Plain) :
    ∀ post ∈ (flushed text cfg attempt items).2, ∀ item, post.item = some item → ∀ due,
      text.fromIso item.nextRetryAt = some due → due ≤ post.sentAt := by
  intro post hpost item' hitem' due hdue
  obtain ⟨item, hmem, hmade⟩ := List.mem_filterMap.mp hpost
  have hfound : post.item = some item ∧ post.sentAt = (attempt item).now
      ∧ retryDue text item (attempt item).now = true := by
    have hcases := h.flushItem_cases hm hresult hmem
    generalize flushItem text cfg item (attempt item) = result at hcases hmade
    cases hcases with
    | stays => cases hmade
    | taken hretry =>
      cases hmade
      exact ⟨rfl, rfl, hretry⟩
    | dropped hretry =>
      cases hmade
      exact ⟨rfl, rfl, hretry⟩
    | retried updated _ _ _ _ hretry =>
      cases hmade
      exact ⟨rfl, rfl, hretry⟩
  obtain ⟨hpostItem, hsent, hretry⟩ := hfound
  rw [hpostItem] at hitem'
  cases hitem'
  unfold retryDue at hretry
  rw [hdue] at hretry
  rw [hsent]
  exact of_decide_eq_true hretry

/-- The sighting of an item stands where its POST, if there is one, has brought it. -/
theorem Accounts.flushed_stands (hm : 1 ≤ cfg.maxAttempts) (h : Accounts text cfg s items)
    (hresult : ∀ item, (attempt item).result.Plain) {item : QueuedSighting} (hmem : item ∈ items) :
    ∃ st, Standing.after cfg.maxAttempts.toNat (triesOf s.posts item.eventId
        ++ triesOf (flushed text cfg attempt items).2 item.eventId) = some st
      ∧ HeldAs (flushed text cfg attempt items).1 item.eventId st := by
  obtain ⟨n, hst, hattempts, hmax⟩ := h.waiting hm hmem
  have hids := fun item (hmem : item ∈ items) => (h.flushItem_cases hm hresult hmem).ids
  have hkept := filter_filterMap_of_mem (fun item hmem => (hids item hmem).1) h.nodup hmem
  have hmade := filter_filterMap_of_mem (fun item hmem => (hids item hmem).2) h.nodup hmem
  have htries : triesOf (flushed text cfg attempt items).2 item.eventId
      = (flushItem text cfg item (attempt item)).2.toList.map (·.ok) := congrArg (List.map _) hmade
  have hone : ∀ item', (flushItem text cfg item (attempt item)).1 = some item' →
      item' ∈ (flushed text cfg attempt items).1 := fun item' hitem' =>
    List.mem_filterMap.mpr ⟨item, hmem, hitem'⟩
  have hgone : (flushItem text cfg item (attempt item)).1 = none →
      ∀ item' ∈ (flushed text cfg attempt items).1, item'.eventId ≠ item.eventId := by
    intro hnone item' hitem' hid
    rw [hnone] at hkept
    exact List.filter_eq_nil_iff.mp hkept item' hitem' (decide_eq_true hid)
  have hcases := h.flushItem_cases hm hresult hmem
  rw [htries]
  generalize flushItem text cfg item (attempt item) = result at hcases hone hgone
  cases hcases with
  | stays =>
    refine ⟨.waiting (n + 1), ?_, item, hone item rfl, rfl, hattempts⟩
    rw [show (Option.toList (none : Option SightingPost)).map (·.ok) = [] from rfl, List.append_nil]
    exact hst
  | taken => exact ⟨.done (n + 1), Standing.after_concat_some hst rfl, hgone rfl⟩
  | dropped _ hlast =>
    refine ⟨.givenUp, Standing.after_concat_some hst ?_, hgone rfl⟩
    have hnot : ¬ n + 1 + 1 < cfg.maxAttempts.toNat := by omega
    exact congrArg some (if_neg hnot)
  | retried updated _ hid hcount hless =>
    refine ⟨.waiting (n + 1 + 1), Standing.after_concat_some hst ?_, updated, hone updated rfl, hid, ?_⟩
    · have hlt : n + 1 + 1 < cfg.maxAttempts.toNat := by omega
      exact congrArg some (if_pos hlt)
    · rw [hcount, hattempts]
      rfl

/-- **The items that are flushed**: one try more for each that is due. -/
theorem Accounts.flushed (hm : 1 ≤ cfg.maxAttempts) (h : Accounts text cfg s items)
    (hresult : ∀ item, (attempt item).result.Plain) :
    Accounts text cfg
      { lines := (flushed text cfg attempt items).1.map QueuedSighting.toDict
        posts := s.posts ++ (flushed text cfg attempt items).2 }
      (flushed text cfg attempt items).1 := by
  have hids := fun item (hmem : item ∈ items) => (h.flushItem_cases hm hresult hmem).ids
  refine ⟨rfl, h.flushed_proper hm hresult, ?_, fun id => ?_, fun post hpost => ?_⟩
  · exact (map_filterMap_sublist fun item hmem => (hids item hmem).1).nodup h.nodup
  · rw [triesOf_append]
    by_cases hheld : ∃ item ∈ items, item.eventId = id
    · obtain ⟨item, hmem, rfl⟩ := hheld
      exact h.flushed_stands hm hresult hmem
    · have hnone : ∀ item ∈ items, item.eventId ≠ id := fun item hmem hid => hheld ⟨item, hmem, hid⟩
      have hkept := filter_filterMap_of_ne (fun item hmem => (hids item hmem).1) hnone
      have hmade := filter_filterMap_of_ne (fun item hmem => (hids item hmem).2) hnone
      have htries : triesOf (Agent.flushed text cfg attempt items).2 id = [] := congrArg (List.map _) hmade
      rw [htries, List.append_nil]
      obtain ⟨st, hst, hheld'⟩ := h.stands id
      refine ⟨st, hst, hheld'.congr fun item hid => ⟨fun hmem => ?_, fun hmem => absurd hid (hnone item hmem)⟩⟩
      exact absurd (decide_eq_true hid) (List.filter_eq_nil_iff.mp hkept item hmem)
  · rcases List.mem_append.mp hpost with hold | hnew
    · exact h.due post hold
    · exact h.flushed_due hm hresult post hnew

end Flushed

/-- The queue is flushed only of sightings that have been posted. -/
theorem Accounts.flushed_tried (hm : 1 ≤ cfg.maxAttempts) (h : Accounts text cfg s items)
    {attempt : QueuedSighting → PostAttempt} (hresult : ∀ item, (attempt item).result.Plain)
    (hnew : triesOf s.posts id = []) : triesOf (Agent.flushed text cfg attempt items).2 id = [] :=
  congrArg (List.map _) (filter_filterMap_of_ne
    (fun _ hmem => (h.flushItem_cases hm hresult hmem).ids.2) (h.none_of_untried hnew))

end Calls

/-! ## Runs -/

section Runs

variable (text : SightingText) (cfg : SightingConfig)

/-- The event ids that the loop posts: those of the sightings before an event that raises. -/
def sightings : List Arrival → List PyStr
  | [] => []
  | arrival :: arrivals =>
    match sightingOf text cfg arrival with
    | .error _ => []
    | .ok none => sightings arrivals
    | .ok (some (_, eventId)) => eventId :: sightings arrivals

/-- The sightings of a call. -/
def SightingCall.sightings : SightingCall → List PyStr
  | .newEvents arrivals => if cfg.enabled then Agent.sightings text cfg arrivals else []
  | .flush _ _ => []

/-- No text of an arrival, if it is a sighting, has half a surrogate pair or a bare line break. -/
structure Arrival.Plain (arrival : Arrival) : Prop where
  texts : ∀ payload eventId, sightingOf text cfg arrival = .ok (some (payload, eventId)) →
    PyStr.plain eventId = true ∧ payload.plain = true
  result : arrival.attempt.result.Plain

/-- Nor has any text of a call. -/
def SightingCall.Plain : SightingCall → Prop
  | .newEvents arrivals => ∀ arrival ∈ arrivals, arrival.Plain text cfg
  | .flush _ attempt => ∀ item, (attempt item).result.Plain

variable {text cfg} {s : SightingState} {items : List QueuedSighting} {id : PyStr}

/-- A sighting has an event id, and its payload is an object. -/
theorem sightingOf_some {arrival : Arrival} {payload : Value} {eventId : PyStr}
    (h : sightingOf text cfg arrival = .ok (some (payload, eventId))) :
    eventId ≠ [] ∧ payload.isObj = true := by
  unfold sightingOf at h
  split at h
  next => cases h
  next =>
    cases hbuild : cfg.build arrival.event with
    | error e =>
      rw [hbuild] at h
      cases h
    | ok built =>
      rw [hbuild] at h
      cases built with
      | none => cases h
      | some fields =>
        simp only [Except.map, Option.bind_some, Except.ok.injEq] at h
        generalize (if (arrival.event.get "event_id").truthy = true then _ else _) = found at h
        split at h
        next => cases h
        next hne =>
          cases h
          exact ⟨hne, rfl⟩

/-- **The loop over the new events**: a try more for each sighting, in order. -/
theorem Accounts.processEvents (hm : 1 ≤ cfg.maxAttempts) {arrivals : List Arrival}
    (h : Accounts text cfg s items) (hplain : ∀ arrival ∈ arrivals, arrival.Plain text cfg)
    (hnodup : (Agent.sightings text cfg arrivals).Nodup)
    (hnew : ∀ id ∈ Agent.sightings text cfg arrivals, triesOf s.posts id = []) :
    ∃ items', Accounts text cfg (processEvents text cfg s arrivals).1 items'
      ∧ ∀ id, triesOf (Agent.processEvents text cfg s arrivals).1.posts id ≠ []
        ↔ triesOf s.posts id ≠ [] ∨ id ∈ Agent.sightings text cfg arrivals := by
  induction arrivals generalizing s items with
  | nil => exact ⟨items, h, fun id => by simp [Agent.processEvents, Agent.sightings]⟩
  | cons arrival arrivals ih =>
    have hrest : ∀ arrival ∈ arrivals, arrival.Plain text cfg :=
      fun arrival hmem => hplain arrival (List.mem_cons_of_mem _ hmem)
    unfold Agent.processEvents Agent.sightings
    unfold Agent.sightings at hnodup hnew
    cases hsighting : sightingOf text cfg arrival with
    | error e => exact ⟨items, h, fun id => by simp⟩
    | ok found =>
      rw [hsighting] at hnodup hnew
      cases found with
      | none => exact ih h hrest hnodup hnew
      | some found =>
        obtain ⟨payload, eventId⟩ := found
        simp only at hnodup hnew ⊢
        rw [List.nodup_cons] at hnodup
        have harrival := hplain arrival List.mem_cons_self
        obtain ⟨hidPlain, hpayload⟩ := harrival.texts payload eventId hsighting
        obtain ⟨hid, hobj⟩ := sightingOf_some hsighting
        obtain ⟨items', ok, haccounts, ⟨submitted, hsubmitted⟩, hposts⟩ :=
          h.submit hm hid hidPlain hobj hpayload harrival.result (hnew eventId List.mem_cons_self)
        have htries : ∀ id', triesOf (Agent.submit text cfg s payload eventId arrival.attempt).1.posts id'
            = triesOf s.posts id' ++ if id' = eventId then [ok] else [] := by
          intro id'
          rw [hposts, triesOf_append]
          split
          next heq =>
            subst heq
            simp [triesOf]
          next hne => simp [triesOf, Ne.symm hne]
        obtain ⟨items'', haccounts', htried⟩ := ih haccounts hrest hnodup.2 fun id' hid' => by
          have hne : id' ≠ eventId := fun heq => hnodup.1 (heq ▸ hid')
          rw [htries, if_neg hne, List.append_nil]
          exact hnew id' (List.mem_cons_of_mem _ hid')
        rw [show Agent.submit text cfg s payload eventId arrival.attempt
            = ((Agent.submit text cfg s payload eventId arrival.attempt).1, .ok submitted) from
          Prod.ext rfl hsubmitted]
        refine ⟨items'', haccounts', fun id' => ?_⟩
        simp only
        rw [htried id', htries, List.mem_cons]
        by_cases heq : id' = eventId
        · simp [heq]
        · simp [heq]

/-- One call keeps the accounts, and posts its own sightings for the first time. -/
theorem Accounts.next (hm : 1 ≤ cfg.maxAttempts) (h : Accounts text cfg s items) {call : SightingCall}
    (hplain : call.Plain text cfg) (hnodup : (call.sightings text cfg).Nodup)
    (hnew : ∀ id ∈ call.sightings text cfg, triesOf s.posts id = []) :
    ∃ items', Accounts text cfg (call.next text cfg s) items'
      ∧ ∀ id, triesOf (call.next text cfg s).posts id ≠ []
        ↔ triesOf s.posts id ≠ [] ∨ id ∈ call.sightings text cfg := by
  cases call with
  | newEvents arrivals =>
    unfold SightingCall.sightings at hnodup hnew
    unfold SightingCall.next SightingCall.sightings processNewEvents
    simp only at hnodup hnew ⊢
    split at hnodup
    next henabled =>
      rw [if_pos henabled] at hnew
      rw [if_pos henabled]
      simp only [henabled, if_true]
      exact h.processEvents hm hplain hnodup hnew
    next hdisabled =>
      rw [if_neg hdisabled]
      simp only [hdisabled, Bool.false_eq_true, if_false]
      exact ⟨items, h, fun id => by simp⟩
  | flush now attempt =>
    have hsame : ∀ {s' : SightingState}, s' = s → ∃ items', Accounts text cfg s' items'
        ∧ ∀ id, triesOf s'.posts id ≠ [] ↔ triesOf s.posts id ≠ [] ∨ id ∈ ([] : List PyStr) := by
      rintro _ rfl
      exact ⟨items, h, fun id => by simp⟩
    unfold SightingCall.next SightingCall.sightings flushQueue
    have hload : loadAll text (text.iso now) s.lines = .ok items := by
      rw [h.lines]
      exact loadAll_written h.proper
    simp only [hload]
    split
    next => exact hsame rfl
    next =>
      cases hitems : items with
      | nil => exact hsame rfl
      | cons item rest =>
        have hflushed := h.flushed hm hplain
        simp only
        rw [← hitems, List.filterMap_map, List.filterMap_map]
        have hqueue : rewriteQueue (items.filterMap ((fun result => result.1) ∘ fun item =>
            flushItem text cfg item (attempt item)))
              = .ok ((Agent.flushed text cfg attempt items).1.map QueuedSighting.toDict) :=
          rewriteQueue_proper hflushed.proper
        simp only [hqueue]
        refine ⟨_, hflushed, fun id => ?_⟩
        show triesOf (s.posts ++ (Agent.flushed text cfg attempt items).2) id ≠ [] ↔ _
        rw [triesOf_append]
        constructor
        · intro htried
          by_contra hnot
          have hnone : triesOf s.posts id = [] := not_not.mp fun hsome => hnot (.inl hsome)
          rw [hnone, h.flushed_tried hm hplain hnone] at htried
          exact htried rfl
        · rintro (htried | hmem)
          · exact fun hnil => htried (List.append_eq_nil_iff.mp hnil).1
          · cases hmem

/-- What has become of a sighting between calls. -/
inductive SightingFate where
  | ingested
  | queued
  | dropped
  deriving DecidableEq

/-- That it has become of a sighting, by its POSTs and the queue. -/
def SightingFate.Holds (cfg : SightingConfig) (posts : List SightingPost) (items : List QueuedSighting)
    (id : PyStr) : SightingFate → Prop
  | .ingested => true ∈ triesOf posts id ∧ ∀ item ∈ items, item.eventId ≠ id
  | .queued => ∃ item, (items.filter fun item => item.eventId = id) = [item]
    ∧ 1 ≤ item.attempts ∧ item.attempts < cfg.maxAttempts
  | .dropped => triesOf posts id = List.replicate cfg.maxAttempts.toNat false
    ∧ ∀ item ∈ items, item.eventId ≠ id

/-- Where the sightings so far stand between calls. -/
structure RetryBudget (text : SightingText) (cfg : SightingConfig) (s : SightingState)
    (items : List QueuedSighting) (seen : List PyStr) : Prop where
  /-- The queue reads as these items. -/
  loaded : ∀ now, loadAll text now s.lines = .ok items
  distinct : (items.map (·.eventId)).Nodup
  budget : ∀ id, ((triesOf s.posts id).length : Int) ≤ cfg.maxAttempts
  posted : ∀ id, triesOf s.posts id ≠ [] ↔ id ∈ seen
  fate : ∀ id ∈ seen, ∃! fate : SightingFate, fate.Holds cfg s.posts items id
  /-- An item of the queue was posted at its time or later. -/
  due : ∀ post ∈ s.posts, ∀ item, post.item = some item → ∀ due,
    text.fromIso item.nextRetryAt = some due → due ≤ post.sentAt

theorem mem_of_filter_eq_singleton {item : QueuedSighting}
    (h : (items.filter fun item => item.eventId = id) = [item]) : item ∈ items ∧ item.eventId = id := by
  have hmem : item ∈ items.filter fun item => item.eventId = id := by
    rw [h]
    exact List.mem_singleton.mpr rfl
  exact ⟨List.mem_of_mem_filter hmem, of_decide_eq_true (List.mem_filter.mp hmem).2⟩

/-- The three fates exclude each other. -/
theorem SightingFate.Holds.unique {posts : List SightingPost} {fate fate' : SightingFate}
    (h : fate.Holds cfg posts items id) (h' : fate'.Holds cfg posts items id) : fate' = fate := by
  have hqueued : (∀ item ∈ items, item.eventId ≠ id) → ¬ SightingFate.queued.Holds cfg posts items id := by
    rintro hnone ⟨item, hfilter, -, -⟩
    obtain ⟨hmem, hid⟩ := mem_of_filter_eq_singleton hfilter
    exact hnone item hmem hid
  have hdropped : true ∈ triesOf posts id → ¬ SightingFate.dropped.Holds cfg posts items id := by
    rintro htrue ⟨htries, -⟩
    rw [htries] at htrue
    exact Bool.noConfusion (List.eq_of_mem_replicate htrue)
  cases fate <;> cases fate'
  case ingested.ingested | queued.queued | dropped.dropped => rfl
  case ingested.queued => exact absurd h' (hqueued h.2)
  case ingested.dropped => exact absurd h' (hdropped h.1)
  case queued.ingested => exact absurd h (hqueued h'.2)
  case queued.dropped => exact absurd h (hqueued h'.2)
  case dropped.ingested => exact absurd h (hdropped h'.1)
  case dropped.queued => exact absurd h' (hqueued h.2)

/-- A sighting that has been posted has one of the three fates. -/
theorem Accounts.exists_fate (hm : 1 ≤ cfg.maxAttempts) (h : Accounts text cfg s items)
    (hposted : triesOf s.posts id ≠ []) : ∃ fate : SightingFate, fate.Holds cfg s.posts items id := by
  obtain ⟨st, hst, hheld⟩ := h.stands id
  have hbudget : 1 ≤ cfg.maxAttempts.toNat := by omega
  have houtcomes := Standing.after_eq hbudget hst
  cases st with
  | waiting n =>
    cases n with
    | zero => exact absurd houtcomes.1 hposted
    | succ n =>
      obtain ⟨item, hmem, rfl, hattempts⟩ := hheld
      have hless : n + 1 < cfg.maxAttempts.toNat := houtcomes.2
      refine ⟨.queued, item, ?_, by omega, by omega⟩
      exact filter_key_eq_singleton h.nodup hmem
  | done n =>
    refine ⟨.ingested, ?_, hheld⟩
    rw [houtcomes.1]
    exact List.mem_append.mpr (.inr (List.mem_singleton.mpr rfl))
  | givenUp => exact ⟨.dropped, houtcomes, hheld⟩

/-- What the accounts say of the sightings so far. -/
theorem Accounts.retryBudget (hm : 1 ≤ cfg.maxAttempts) (h : Accounts text cfg s items)
    {seen : List PyStr} (hposted : ∀ id, triesOf s.posts id ≠ [] ↔ id ∈ seen) :
    RetryBudget text cfg s items seen where
  loaded now := by
    rw [h.lines]
    exact loadAll_written h.proper
  distinct := h.nodup
  budget id := by
    obtain ⟨st, hst, -⟩ := h.stands id
    have hbudget : 1 ≤ cfg.maxAttempts.toNat := by omega
    have hlength := Standing.length_le hbudget hst
    omega
  posted := hposted
  fate id hseen := by
    obtain ⟨fate, hfate⟩ := h.exists_fate hm ((hposted id).mpr hseen)
    exact ⟨fate, hfate, fun fate' hfate' => hfate.unique hfate'⟩
  due := h.due

/-- The texts, as far as the run needs them. -/
def sampleSightingText : SightingText where
  text := { repr := fun _ => [], lower := fun s => s }
  toInt := fun _ => .error (.valueError "invalid literal for int() with base 10")
  iso := fun t => lit "1970-01-01T00:00:0" ++ [48 + (t / 1000000).toNat % 10] ++ lit "+00:00"
  fromIso := fun s => (s.drop 18).head?.map fun c => ((c : Int) - 48) * 1000000
  iso_ascii := fun t c hc => by
    have hdigit : 48 + (t / 1000000).toNat % 10 < 128 := by omega
    have hbefore : ∀ c ∈ lit "1970-01-01T00:00:0", c < 128 := by decide
    have hafter : ∀ c ∈ lit "+00:00", c < 128 := by decide
    rcases List.mem_append.mp hc with hc | hc
    · rcases List.mem_append.mp hc with hc | hc
      · exact hbefore c hc
      · rw [List.mem_singleton.mp hc]
        exact hdigit
    · exact hafter c hc
  iso_ne_nil := fun t => List.cons_ne_nil _ _

def sampleSightingConfig : SightingConfig where
  maxAttempts := 2
  build := buildSightingIngestPayload sampleSightingText
    { sensorId := lit "edge-1", siteId := lit "site-1", sourceSystem := lit "sensel-ot-edge" }

def sampleSighting (id : String) : Value :=
  .obj [(lit "event_id", .str (lit id)), (lit "event_type", .str (lit "CTI_IOC_OBSERVED")),
    (lit "rule_id", .str (lit "OT-019")),
    (lit "evidence", .obj [(lit "ioc_value", .str (lit "203.0.113.9"))])]

def sampleSightingCalls : List SightingCall :=
  let refused := IngestResult.failed (some (lit "HTTP 503"))
  [.newEvents [{ event := sampleSighting "e1", attempt := ⟨0, refused, 0⟩ }],
    .newEvents [{ event := sampleSighting "e2", attempt := ⟨1000000, refused, 1000000⟩ }],
    .flush 2000000 fun _ => ⟨2000000, refused, 2000000⟩,
    .flush 6000000 fun item => if item.eventId = lit "e1" then ⟨6000000, refused, 6000000⟩
      else ⟨6000000, .ok, 6000000⟩]

end Runs

end EdgeSensor.Agent
