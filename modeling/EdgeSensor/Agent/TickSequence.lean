import EdgeSensor.Agent.TopologyDelta
import Mathlib.Data.List.Chain

/-!
# Ticks one after the other (`northbound/observe_tick_publisher.py`)

The portal puts the ticks of a session together by their `minute_index` and `continuity`. Both
come from the state file, which outlives the agent and the session.

`ticks_in_sequence` says what they are worth. The index numbers all ticks there have ever been,
whatever sessions and processes they are of, without a gap. A tick is `ok` exactly if the one
before it was of the same session and came from a process that began at the same second of the
host's clock; that clock begins anew with the host, so this may well be another process. And
ticks of one process that nobody forced are an interval apart.

Mirroring notes:
- The state file is there as it was left, and only this publisher writes it.
- A call does something or it raises; a tick that did not go out leaves no trace.
-/

namespace EdgeSensor.Agent

open EdgeSensor.Lib EdgeSensor.Py EdgeSensor.Sensor

/-- A tick that went out, with the process and the call it comes from. -/
structure SentTick where
  tick : ObserveTick
  process : Nat
  bootId : String
  now : Rat
  force : Bool

/-- The publisher of the process that runs, the state file, and what went out. -/
structure TickRun where
  publisher : ObserveTickPublisher
  process : Nat := 0
  state : Option ObserveTickState := none
  sent : List SentTick := []

inductive TickEvent where
  /-- The agent starts anew. -/
  | restart (bootAt : Rat)
  | publish (live : Option TopologySnapshot) (call : TickCall)

namespace TickRun

variable (repr : Json → String)

def step (w : TickRun) : TickEvent → TickRun
  | .restart bootAt =>
    { w with
      publisher := { w.publisher with lastPublish := 0, bootAt := bootAt }
      process := w.process + 1 }
  | .publish live call =>
    let result := w.publisher.maybePublish repr w.state live call
    { w with
      publisher := result.1
      state := result.2.1
      sent := w.sent ++ (result.2.2.1.map fun tick =>
        ⟨tick, w.process, w.publisher.bootId, call.now, call.force⟩).toList }

def run (publisher : ObserveTickPublisher) (events : List TickEvent) : TickRun :=
  events.foldl (step repr) { publisher := publisher }

/-- What a tick says of the one before it. -/
structure Follows (interval : Rat) (a b : SentTick) : Prop where
  continuity : b.tick.continuity = .ok ↔ a.tick.sessionId = b.tick.sessionId ∧ a.bootId = b.bootId
  spaced : a.process = b.process → b.force = false → interval ≤ b.now - a.now

/-- What every step preserves: the state file tells of the last tick. -/
structure Inv (interval : Rat) (w : TickRun) : Prop where
  same_interval : w.publisher.interval = interval
  index : w.sent.map (·.tick.minuteIndex) = List.range' 1 w.sent.length
  first : ∀ s ∈ w.sent.head?, s.tick.continuity = .reset
  chain : w.sent.IsChain (Follows interval)
  state : w.state.map (fun state => (state.sessionId, state.minuteIndex, state.agentBootId))
    = w.sent.getLast?.map fun s => (s.tick.sessionId, w.sent.length, s.bootId)
  last : ∀ s ∈ w.sent.getLast?, s.process ≤ w.process ∧
    (s.process = w.process → w.publisher.lastPublish = s.now)

variable {repr} {w : TickRun} {interval : Rat}

/-- A call that is due, and whose message goes out. -/
structure Sends (repr : Json → String) (publisher : ObserveTickPublisher)
    (state : Option ObserveTickState) (live : Option TopologySnapshot) (call : TickCall)
    (kind : SessionKind) (sessionId : String) (body : Obj) : Prop where
  due : publisher.due repr call = some (kind, sessionId)
  sent : (publisher.maybePublish repr state live call).2.2.1
    = some (publisher.tick repr state live call kind sessionId body)
  publisher_eq : (publisher.maybePublish repr state live call).1
    = { publisher with lastPublish := call.now }
  state_eq : (publisher.maybePublish repr state live call).2.1.map
      (fun state => (state.sessionId, state.minuteIndex, state.agentBootId))
    = some (sessionId, (state.map (·.minuteIndex)).getD 0 + 1, publisher.bootId)

/-- A call sends a tick, or it changes nothing. -/
theorem maybePublish_cases (repr : Json → String) (publisher : ObserveTickPublisher)
    (state : Option ObserveTickState) (live : Option TopologySnapshot) (call : TickCall) :
    ((publisher.maybePublish repr state live call).1 = publisher
        ∧ (publisher.maybePublish repr state live call).2.1 = state
        ∧ (publisher.maybePublish repr state live call).2.2.1 = none)
      ∨ ∃ kind sessionId body, Sends repr publisher state live call kind sessionId body := by
  unfold ObserveTickPublisher.maybePublish
  cases hdue : publisher.due repr call with
  | none => exact .inl ⟨rfl, rfl, rfl⟩
  | some found =>
    obtain ⟨kind, sessionId⟩ := found
    cases hbody : call.body with
    | error e => exact .inl ⟨rfl, rfl, rfl⟩
    | ok body =>
      cases hok : call.ok with
      | false => exact .inl ⟨rfl, rfl, rfl⟩
      | true =>
        have hcall : publisher.maybePublish repr state live call
            = ({ publisher with lastPublish := call.now },
              some {
                sessionId := sessionId
                minuteIndex := (publisher.tick repr state live call kind sessionId body).minuteIndex
                agentBootId := publisher.bootId
                lastPublishAt := (publisher.tick repr state live call kind sessionId body).observedAt
                topologyCounts := (publisher.tick repr state live call kind sessionId body).topologyDelta.map
                  fun _ => readTopologyCounts call.during },
              some (publisher.tick repr state live call kind sessionId body), .ok true) := by
          unfold ObserveTickPublisher.maybePublish
          rw [hdue, hbody, hok]
          rfl
        refine .inr ⟨kind, sessionId, body, hdue, ?_, ?_, ?_⟩
        · rw [hcall]
        · rw [hcall]
        · rw [hcall]
          rfl

/-- A call that nobody forced is due only if an interval has passed. -/
theorem interval_le_of_due {publisher : ObserveTickPublisher} {call : TickCall}
    {found : SessionKind × String} (h : publisher.due repr call = some found)
    (hforce : call.force = false) : publisher.interval ≤ call.now - publisher.lastPublish := by
  unfold ObserveTickPublisher.due at h
  split at h
  next => cases h
  next =>
    split at h
    next => cases h
    next hearly =>
      rw [hforce] at hearly
      by_contra hlt
      exact hearly (by simpa using hlt)

/-- The state file, where a tick went out before. -/
theorem Inv.state_some (h : w.Inv interval) {s : SentTick} (hs : s ∈ w.sent.getLast?) :
    ∃ state, w.state = some state ∧ state.sessionId = s.tick.sessionId
      ∧ state.minuteIndex = w.sent.length ∧ state.agentBootId = s.bootId := by
  have hstate := h.state
  rw [Option.mem_def.mp hs, Option.map_some] at hstate
  obtain ⟨state, hsome, heq⟩ := Option.map_eq_some_iff.mp hstate
  simp only [Prod.mk.injEq] at heq
  exact ⟨state, hsome, heq⟩

theorem Inv.state_none (h : w.Inv interval) (hnone : w.sent = []) : w.state = none := by
  have hstate := h.state
  rw [hnone] at hstate
  exact Option.map_eq_none_iff.mp hstate

/-- The next tick has the next index. -/
theorem Inv.next_index (h : w.Inv interval) :
    (w.state.map (·.minuteIndex)).getD 0 = w.sent.length := by
  rcases List.eq_nil_or_concat w.sent with hnil | ⟨front, s, hconcat⟩
  · rw [h.state_none hnil, hnil]
    rfl
  · obtain ⟨state, hstate, -, hindex, -⟩ := h.state_some (s := s) (by rw [hconcat]; simp)
    rw [hstate, ← hindex]
    rfl

/-- What a tick says of its session and its process. -/
theorem continuity_eq_ok_iff {publisher : ObserveTickPublisher} {state : ObserveTickState}
    {live : Option TopologySnapshot} {call : TickCall} {kind : SessionKind} {sessionId : String}
    {body : Obj} :
    (publisher.tick repr (some state) live call kind sessionId body).continuity = .ok
      ↔ state.sessionId = sessionId ∧ state.agentBootId = publisher.bootId := by
  show (if some state.sessionId ≠ some sessionId then Continuity.reset
    else if some state.agentBootId ≠ some publisher.bootId then .reset else .ok) = .ok ↔ _
  split
  next hsession =>
    exact ⟨fun heq => (by cases heq), fun heq => absurd (congrArg some heq.1) hsession⟩
  next hsession =>
    have hsame := Option.some.inj (not_not.mp hsession)
    split
    next hboot =>
      exact ⟨fun heq => (by cases heq), fun heq => absurd (congrArg some heq.2) hboot⟩
    next hboot => exact ⟨fun _ => ⟨hsame, Option.some.inj (not_not.mp hboot)⟩, fun _ => rfl⟩

theorem Inv.publish (h : w.Inv interval) (live : Option TopologySnapshot) (call : TickCall) :
    (w.step repr (.publish live call)).Inv interval := by
  unfold TickRun.step
  rcases maybePublish_cases repr w.publisher w.state live call with
    ⟨hpublisher, hstate, hsent⟩ | ⟨kind, sessionId, body, hsends⟩
  · simp only [hpublisher, hstate, hsent, Option.map_none, Option.toList_none, List.append_nil]
    exact h
  · simp only [hsends.publisher_eq, hsends.sent, Option.map_some, Option.toList_some]
    have hindex : (w.publisher.tick repr w.state live call kind sessionId body).minuteIndex
        = w.sent.length + 1 := congrArg (· + 1) h.next_index
    refine ⟨h.same_interval, ?_, ?_, ?_, ?_, ?_⟩
    · rw [List.map_append, h.index, List.length_append, List.map_singleton, hindex,
        List.length_singleton, List.range'_1_concat, Nat.add_comm 1]
    · intro s hs
      rcases List.eq_nil_or_concat w.sent with hnil | ⟨front, last, hconcat⟩
      · rw [hnil] at hs
        cases hs
        show (ObserveTickPublisher.tick ..).continuity = _
        rw [h.state_none hnil]
        rfl
      · have hne : w.sent ≠ [] := by rw [hconcat]; simp
        rw [List.head?_append_of_ne_nil _ hne] at hs
        exact h.first s hs
    · refine List.isChain_append.mpr ⟨h.chain, List.isChain_singleton _, fun s hs t ht => ?_⟩
      cases ht
      obtain ⟨state, hstate, hsession, -, hboot⟩ := h.state_some hs
      refine ⟨?_, fun hprocess hforce => ?_⟩
      · show (ObserveTickPublisher.tick ..).continuity = _ ↔ _
        rw [hstate, continuity_eq_ok_iff, hsession, hboot]
        rfl
      · rw [← (h.last s hs).2 hprocess, ← h.same_interval]
        exact interval_le_of_due hsends.due hforce
    · rw [hsends.state_eq, h.next_index, List.getLast?_concat, List.length_append]
      rfl
    · intro s hs
      rw [List.getLast?_concat] at hs
      cases hs
      exact ⟨le_refl _, fun _ => rfl⟩

theorem Inv.restart (h : w.Inv interval) (bootAt : Rat) :
    (w.step repr (.restart bootAt)).Inv interval := by
  refine ⟨h.same_interval, h.index, h.first, h.chain, h.state, fun s hs => ?_⟩
  have hle := (h.last s hs).1
  refine ⟨Nat.le_succ_of_le hle, fun heq => ?_⟩
  have hprocess : s.process = w.process + 1 := heq
  omega

theorem inv_run (repr : Json → String) (publisher : ObserveTickPublisher) (events : List TickEvent) :
    (run repr publisher events).Inv publisher.interval := by
  induction events using List.reverseRecOn with
  | nil =>
    exact ⟨rfl, rfl, fun _ h => (by cases h), List.IsChain.nil, rfl, fun _ h => (by cases h)⟩
  | append_singleton events e ih =>
    unfold run
    rw [List.foldl_concat]
    cases e with
    | restart bootAt => exact ih.restart bootAt
    | publish live call => exact ih.publish live call

end TickRun

end EdgeSensor.Agent
