import EdgeSensor.Sensor.Coverage
import EdgeSensor.Sensor.Pipeline

/-!
# The coverage tally is exact

`_emit` of `src/pipeline/processor.py` writes each event down and then has the counter record
it. After any calls, the counts of a snapshot are those of the events that were written:
`coverage_tally_exact`.

What the two tables hold is said by `Tallied`: seen through their counts they are the tally of
a list of keys, one for each time a rule or a technique was hit. That an event hits a technique
once is a fact about the table of techniques and its fallback (`nodup_techniqueIds`).

Mirroring notes:
- An append that raises ends the call: its event is neither in the file nor counted, and no
  later one is.
- An event is here what the counter reads of it; `emit_coverage` says that the call is that of
  the pipeline.
-/

namespace EdgeSensor.Sensor

open EdgeSensor.Lib

/-- The ids of the techniques of an event. -/
def CoverageEvent.techniqueIds (event : CoverageEvent) : List String :=
  (techniquesFor event.ruleId event.eventType event.description).map (·.id)

/-! ## `_emit` -/

/-- An event handed to `_emit`, the clock as the counter reads it, and whether it is appended. -/
structure Emission where
  event : CoverageEvent
  now : String
  appended : Bool := true

/-- What `_emit` works on: the mode store, the events in the file, the counter. -/
structure EmitState where
  modeStore : StampStore ModeArtifact
  events : List CoverageEvent := []
  coverage : CoverageCounter

namespace EmitState

/-- The loop over the events. -/
def persist (s : EmitState) : List Emission → EmitState
  | [] => s
  | emission :: rest =>
    if emission.appended then
      persist { s with
        events := s.events ++ [emission.event]
        coverage := s.coverage.record emission.now emission.event } rest
    else s

/-- A call of `_emit`, with its poll of the mode store. -/
structure Call where
  mode : Reading ModeArtifact
  emissions : List Emission

/-- `_emit`. -/
def emit (s : EmitState) (call : Call) : EmitState :=
  let asked := readMode s.modeStore call.mode
  if asked.2 = .detect then { s with modeStore := asked.1 }.persist call.emissions
  else { s with modeStore := asked.1 }

end EmitState

/-- To the counter an event is the same before and after the append. -/
theorem withRef_toCoverage (event : SecurityEvent) (ref : String) :
    (event.withRef ref).toCoverage = event.toCoverage := by
  unfold SecurityEvent.withRef
  split <;> rfl

theorem persist_appended (s : EmitState) (now : String) (events : List SecurityEvent) :
    (s.persist (events.map fun event => ⟨event.toCoverage, now, true⟩)).events
      = s.events ++ events.map SecurityEvent.toCoverage := by
  induction events generalizing s with
  | nil => exact (List.append_nil _).symm
  | cons event events ih =>
    rw [List.map_cons, EmitState.persist, if_pos rfl, ih, List.map_cons, List.append_assoc]
    rfl

/-- `_emit` of the pipeline keeps the same events. -/
theorem emit_coverage (access : ModeAccess) (env : PacketEnv) (events : List SecurityEvent)
    (s : PacketPipeline) (coverage : CoverageCounter) (now : String) :
    (EmitState.emit ⟨s.modeStore, s.events.map SecurityEvent.toCoverage, coverage⟩
        ⟨env.mode access, events.map fun event => ⟨event.toCoverage, now, true⟩⟩).events
      = (s.emit access env events).events.map SecurityEvent.toCoverage := by
  unfold EmitState.emit PacketPipeline.emit PacketPipeline.modeAt
  simp only
  split
  · rw [persist_appended, List.map_append, List.map_map]
    congr 1
    exact List.map_congr_left fun event _ => (withRef_toCoverage event _).symm
  · rfl

/-! ## Techniques -/

/-- The table lists no technique twice, and none without an id. -/
theorem mitreIcs_ids : ∀ entry ∈ MITRE_ICS ++ KEYWORD_FALLBACK ++ [("DEFAULT", DEFAULT_TECHNIQUES)],
    (entry.2.map (·.id)).Nodup ∧ ∀ tech ∈ entry.2, tech.id ≠ "" := by
  decide

theorem techniquesFor_mem (ruleId eventType description : String) :
    ∃ entry ∈ MITRE_ICS ++ KEYWORD_FALLBACK ++ [("DEFAULT", DEFAULT_TECHNIQUES)],
      techniquesFor ruleId eventType description = entry.2 := by
  unfold techniquesFor
  cases hrule : MITRE_ICS.get? (Py.upper (Py.strip ruleId)) with
  | some techniques =>
    have hmem := Dict.mem_of_get? hrule
    exact ⟨_, List.mem_append_left _ (List.mem_append_left _ hmem), rfl⟩
  | none =>
    simp only
    split
    next entry hentry =>
      have hmem := List.mem_of_find?_eq_some hentry
      exact ⟨entry, List.mem_append_left _ (List.mem_append_right _ hmem), rfl⟩
    next => exact ⟨_, List.mem_append_right _ List.mem_cons_self, rfl⟩

theorem nodup_techniqueIds (event : CoverageEvent) : event.techniqueIds.Nodup := by
  obtain ⟨entry, hentry, heq⟩ := techniquesFor_mem event.ruleId event.eventType event.description
  unfold CoverageEvent.techniqueIds
  rw [heq]
  exact (mitreIcs_ids entry hentry).1

theorem technique_id_ne {event : CoverageEvent} {tech : Technique}
    (h : tech ∈ techniquesFor event.ruleId event.eventType event.description) : tech.id ≠ "" := by
  obtain ⟨entry, hentry, heq⟩ := techniquesFor_mem event.ruleId event.eventType event.description
  rw [heq] at h
  exact (mitreIcs_ids entry hentry).2 tech h

/-! ## The two tables -/

/-- Every hit of a technique, with the rule that hit it. -/
def techniqueHits (events : List CoverageEvent) : List (String × String) :=
  events.flatMap fun event => event.techniqueIds.map fun id => (id, event.ruleId)

/-- The table of techniques after these hits. -/
structure Tallied (hits : List (String × String)) (techniques : Dict String TechniqueTally) :
    Prop where
  counts : Dict.mapValues (·.count) techniques = Dict.tally (hits.map (·.1))
  nodup : ∀ id entry, techniques.get? id = some entry → entry.rules.Nodup
  rules : ∀ id entry, techniques.get? id = some entry →
    ∀ rule, rule ∈ entry.rules ↔ (id, rule) ∈ hits

section Tables

variable {now : String} {hits : List (String × String)} {techniques : Dict String TechniqueTally}

/-- One more event of a rule is one more in the tally of rules. -/
theorem mapValues_countRule (event : CoverageEvent) (rules : Dict String RuleTally) :
    Dict.mapValues (·.count) (CoverageCounter.countRule now event rules)
      = (Dict.mapValues (·.count) rules).upsert event.ruleId 0 (· + 1) := by
  unfold CoverageCounter.countRule Dict.upsert
  rw [Dict.get?_mapValues]
  cases rules.get? event.ruleId with
  | none => exact Dict.mapValues_set _ _ _ _
  | some rule => exact Dict.mapValues_set _ _ _ _

/-- A technique that is not in the table yet was not hit. -/
theorem Tallied.not_hit (h : Tallied hits techniques) {id : String}
    (hnone : techniques.get? id = none) (rule : String) : (id, rule) ∉ hits := by
  intro hmem
  have hget := Dict.get?_mapValues (·.count) techniques id
  rw [hnone, h.counts, Dict.get?_tally, if_pos (List.mem_map_of_mem hmem)] at hget
  cases hget

/-- One more hit. -/
theorem Tallied.hit (h : Tallied hits techniques) {tech : Technique} (hid : tech.id ≠ "")
    (ruleId : String) :
    Tallied (hits ++ [(tech.id, ruleId)])
      (CoverageCounter.countTechnique now ruleId techniques tech) := by
  have hcounts : ∀ entry : TechniqueTally,
      entry.count = ((techniques.get? tech.id).map (·.count)).getD 0 + 1 →
      Dict.mapValues (·.count) (techniques.set tech.id entry)
        = Dict.tally ((hits ++ [(tech.id, ruleId)]).map (·.1)) := by
    intro entry hcount
    rw [List.map_append, List.map_singleton, Dict.tally_concat, ← h.counts, Dict.mapValues_set,
      Dict.upsert, Dict.get?_mapValues, hcount]
  -- of the other techniques nothing new is said
  have hother : ∀ {id rule : String}, tech.id ≠ id →
      ((id, rule) ∈ hits ++ [(tech.id, ruleId)] ↔ (id, rule) ∈ hits) := by
    intro id rule hne
    simp [hne.symm]
  unfold CoverageCounter.countTechnique
  rw [if_neg hid]
  cases hget : techniques.get? tech.id with
  | none =>
    refine ⟨hcounts _ (by rw [hget]; rfl), fun id entry hentry => ?_,
      fun id entry hentry rule => ?_⟩
    · rw [Dict.get?_set] at hentry
      split at hentry
      next =>
        cases hentry
        exact List.nodup_singleton _
      next => exact h.nodup id entry hentry
    · rw [Dict.get?_set] at hentry
      split at hentry
      next heq =>
        cases hentry
        subst heq
        simp [h.not_hit hget rule]
      next hne =>
        rw [hother hne]
        exact h.rules id entry hentry rule
  | some old =>
    refine ⟨hcounts _ (by rw [hget]; rfl), fun id entry hentry => ?_,
      fun id entry hentry rule => ?_⟩
    · rw [Dict.get?_set] at hentry
      split at hentry
      next =>
        cases hentry
        simp only
        split
        next => exact h.nodup tech.id old hget
        next hnew =>
          refine List.Nodup.append (h.nodup tech.id old hget) (List.nodup_singleton _) ?_
          exact List.disjoint_singleton.mpr hnew
      next => exact h.nodup id entry hentry
    · rw [Dict.get?_set] at hentry
      split at hentry
      next heq =>
        cases hentry
        subst heq
        have hold := h.rules tech.id old hget rule
        simp only [List.mem_append, List.mem_singleton, Prod.mk.injEq, true_and]
        split
        next hthere =>
          rw [hold, iff_self_or]
          rintro rfl
          exact hold.mp hthere
        next => rw [List.mem_append, List.mem_singleton, hold]
      next hne =>
        rw [hother hne]
        exact h.rules id entry hentry rule

/-- The hits of one event. -/
theorem Tallied.hitAll (h : Tallied hits techniques) {ruleId : String} {techs : List Technique}
    (hids : ∀ tech ∈ techs, tech.id ≠ "") :
    Tallied (hits ++ techs.map fun tech => (tech.id, ruleId))
      (techs.foldl (CoverageCounter.countTechnique now ruleId) techniques) := by
  induction techs generalizing hits techniques with
  | nil =>
    rw [List.map_nil, List.append_nil]
    exact h
  | cons tech techs ih =>
    have hfirst : Tallied (hits ++ [(tech.id, ruleId)])
        (CoverageCounter.countTechnique now ruleId techniques tech) :=
      h.hit (hids tech List.mem_cons_self) ruleId
    have hrest := ih hfirst fun tech htech => hids tech (List.mem_cons_of_mem _ htech)
    rw [List.append_assoc] at hrest
    exact hrest

end Tables

/-! ## The counter -/

/-- The counter has counted these events. -/
structure CountedAll (events : List CoverageEvent) (c : CoverageCounter) : Prop where
  enabled : c.enabled = true
  total : c.total = events.length
  rules : Dict.mapValues (·.count) c.rules = Dict.tally (events.map (·.ruleId))
  techniques : Tallied (techniqueHits events) c.techniques

theorem CountedAll.record {events : List CoverageEvent} {c : CoverageCounter}
    (h : CountedAll events c) (now : String) {event : CoverageEvent} (hid : event.ruleId ≠ "") :
    CountedAll (events ++ [event]) (c.record now event) := by
  have hcounts : c.Counts event := ⟨h.enabled, hid⟩
  refine ⟨?_, ?_, ?_, ?_⟩
  · unfold CoverageCounter.record
    rw [if_pos hcounts]
    exact h.enabled
  · rw [CoverageCounter.record_total hcounts, h.total, List.length_append]
    rfl
  · rw [CoverageCounter.record_rules hcounts, mapValues_countRule, h.rules, List.map_append,
      List.map_singleton, Dict.tally_concat]
  · have hhits : techniqueHits (events ++ [event]) = techniqueHits events
        ++ (techniquesFor event.ruleId event.eventType event.description).map
          fun tech => (tech.id, event.ruleId) := by
      unfold techniqueHits CoverageEvent.techniqueIds
      rw [List.flatMap_append, List.flatMap_singleton, List.map_map]
      rfl
    rw [CoverageCounter.record_techniques hcounts, hhits]
    exact h.techniques.hitAll fun tech htech => technique_id_ne htech

theorem CountedAll.persist {s : EmitState} (h : CountedAll s.events s.coverage)
    {emissions : List Emission} (hids : ∀ emission ∈ emissions, emission.event.ruleId ≠ "") :
    CountedAll (s.persist emissions).events (s.persist emissions).coverage := by
  induction emissions generalizing s with
  | nil => exact h
  | cons emission rest ih =>
    rw [EmitState.persist]
    split
    next =>
      refine ih ?_ fun emission hmem => hids emission (List.mem_cons_of_mem _ hmem)
      exact h.record emission.now (hids emission List.mem_cons_self)
    next => exact h

/-- One call of `_emit` counts what it writes. -/
theorem CountedAll.emit {s : EmitState} (h : CountedAll s.events s.coverage) {call : EmitState.Call}
    (hids : ∀ emission ∈ call.emissions, emission.event.ruleId ≠ "") :
    CountedAll (s.emit call).events (s.emit call).coverage := by
  unfold EmitState.emit
  obtain ⟨store, mode⟩ := readMode s.modeStore call.mode
  simp only
  split
  · exact @CountedAll.persist { s with modeStore := store } h _ hids
  · exact h

/-! ## The snapshot -/

/-- A snapshot has the counts of these events. -/
structure ExactTally (events : List CoverageEvent) (file : CoverageFile) : Prop where
  total : file.events = events.length
  sum : (file.rules.map (·.2.count)).sum = events.length
  ruleKeys : (file.rules.map (·.1)).Nodup ∧ ∀ id, id ∈ file.rules.map (·.1) ↔ ∃ event ∈ events,
    event.ruleId = id
  rule : ∀ entry ∈ file.rules, entry.2.count = events.countP (·.ruleId = entry.1)
  techniqueKeys : (file.techniques.map (·.1)).Nodup ∧ ∀ id, id ∈ file.techniques.map (·.1)
    ↔ ∃ event ∈ events, id ∈ event.techniqueIds
  technique : ∀ entry ∈ file.techniques,
    entry.2.count = events.countP fun event => entry.1 ∈ event.techniqueIds
  rulesOf : ∀ entry ∈ file.techniques, entry.2.rules.Nodup ∧ ∀ rule, rule ∈ entry.2.rules
    ↔ ∃ event ∈ events, entry.1 ∈ event.techniqueIds ∧ event.ruleId = rule
  rulesHit : file.rulesHit = (events.map (·.ruleId)).toFinset.card
  techniquesHit : file.techniquesHit = (events.flatMap (·.techniqueIds)).toFinset.card

section Snapshot

variable {events : List CoverageEvent} {c : CoverageCounter}

theorem mem_techniqueHits {id rule : String} :
    (id, rule) ∈ techniqueHits events
      ↔ ∃ event ∈ events, id ∈ event.techniqueIds ∧ event.ruleId = rule := by
  unfold techniqueHits
  simp [List.mem_flatMap]

theorem techniqueHits_ids (events : List CoverageEvent) :
    (techniqueHits events).map (·.1) = events.flatMap (·.techniqueIds) := by
  unfold techniqueHits
  rw [List.map_flatMap]
  simp [Function.comp_def]

/-- Each event that hits the technique hits it once. -/
theorem count_techniqueIds (events : List CoverageEvent) (id : String) :
    (events.flatMap (·.techniqueIds)).count id
      = events.countP fun event => id ∈ event.techniqueIds := by
  induction events with
  | nil => rfl
  | cons event events ih =>
    rw [List.flatMap_cons, List.count_append, ih, (nodup_techniqueIds event).count,
      List.countP_cons, Nat.add_comm]
    simp

/-- What the counter has counted, the snapshot says. -/
theorem CountedAll.exactTally (h : CountedAll events c) (generatedAt : String) :
    ExactTally events (c.snapshot generatedAt) := by
  have hkeys : c.Ok := by
    constructor
    · rw [← Dict.keys_mapValues (·.count), h.rules]
      exact Dict.nodup_tally _
    · rw [← Dict.keys_mapValues (·.count), h.techniques.counts]
      exact Dict.nodup_tally _
  have hrules : (c.snapshot generatedAt).rules.Perm c.rules := List.mergeSort_perm _ _
  have htechniques : (c.snapshot generatedAt).techniques.Perm c.techniques :=
    List.mergeSort_perm _ _
  have hrule : ∀ id, (c.rules.get? id).map (·.count)
      = if id ∈ events.map (·.ruleId) then some ((events.map (·.ruleId)).count id) else none := by
    intro id
    rw [← Dict.get?_mapValues, h.rules, Dict.get?_tally]
  have htechnique : ∀ id, (c.techniques.get? id).map (·.count)
      = if id ∈ events.flatMap (·.techniqueIds)
        then some ((events.flatMap (·.techniqueIds)).count id) else none := by
    intro id
    rw [← Dict.get?_mapValues, h.techniques.counts, Dict.get?_tally, techniqueHits_ids]
  refine ⟨h.total, ?_, ⟨?_, fun id => ?_⟩, fun entry hentry => ?_, ⟨?_, fun id => ?_⟩,
    fun entry hentry => ?_, fun entry hentry => ?_, ?_, ?_⟩
  · have hsum := Dict.sum_tally (events.map (·.ruleId))
    rw [← h.rules, Dict.mapValues, List.map_map, List.length_map] at hsum
    rw [(hrules.map _).sum_eq]
    exact hsum
  · exact ((hrules.map _).nodup_iff).mpr hkeys.rules
  · rw [(hrules.map _).mem_iff, ← Dict.keys_mapValues (·.count), h.rules, Dict.mem_keys_tally,
      List.mem_map]
  · have hget := hrule entry.1
    rw [Dict.get?_of_mem hkeys.rules (hrules.mem_iff.mp hentry)] at hget
    split at hget
    next =>
      refine (Option.some.inj hget).trans ?_
      rw [List.count_eq_countP, List.countP_map]
      exact List.countP_congr fun event _ => by simp
    next => cases hget
  · exact ((htechniques.map _).nodup_iff).mpr hkeys.techniques
  · rw [(htechniques.map _).mem_iff, ← Dict.keys_mapValues (·.count), h.techniques.counts,
      Dict.mem_keys_tally, techniqueHits_ids, List.mem_flatMap]
  · have hget := htechnique entry.1
    rw [Dict.get?_of_mem hkeys.techniques (htechniques.mem_iff.mp hentry)] at hget
    split at hget
    next => exact (Option.some.inj hget).trans (count_techniqueIds events entry.1)
    next => cases hget
  · have hget := Dict.get?_of_mem hkeys.techniques (htechniques.mem_iff.mp hentry)
    refine ⟨h.techniques.nodup _ _ hget, fun rule => ?_⟩
    rw [h.techniques.rules _ _ hget, mem_techniqueHits]
  · show c.rules.length = _
    rw [← Dict.length_tally, ← h.rules, Dict.mapValues, List.length_map]
  · show c.techniques.length = _
    rw [← techniqueHits_ids, ← Dict.length_tally, ← h.techniques.counts, Dict.mapValues,
      List.length_map]

end Snapshot

/-- **The tally is exact.** After any calls of `_emit`, with coverage enabled and a rule id in
each event: the snapshot has the counts of the events that were written down. -/
theorem coverage_tally_exact (modeStore : StampStore ModeArtifact) (sensorId siteId since : String)
    (calls : List EmitState.Call)
    (hids : ∀ call ∈ calls, ∀ emission ∈ call.emissions, emission.event.ruleId ≠ "")
    (generatedAt : String) :
    let start : EmitState :=
      { modeStore := modeStore
        coverage := { sensorId := sensorId, siteId := siteId, since := since } }
    let s := calls.foldl EmitState.emit start
    ExactTally s.events (s.coverage.snapshot generatedAt) := by
  intro start s
  have hcounted : ∀ (calls : List EmitState.Call) (s : EmitState),
      (∀ call ∈ calls, ∀ emission ∈ call.emissions, emission.event.ruleId ≠ "") →
      CountedAll s.events s.coverage →
      CountedAll (calls.foldl EmitState.emit s).events (calls.foldl EmitState.emit s).coverage := by
    intro calls
    induction calls with
    | nil => exact fun _ _ h => h
    | cons call calls ih =>
      intro s hids h
      exact ih _ (fun call hmem => hids call (List.mem_cons_of_mem _ hmem))
        (h.emit (hids call List.mem_cons_self))
  have hstart : CountedAll start.events start.coverage := by
    refine ⟨rfl, rfl, rfl, rfl, ?_, ?_⟩
    · exact fun _ _ hentry => by cases hentry
    · exact fun _ _ hentry => by cases hentry
  exact (hcounted calls start hids hstart).exactTally generatedAt

/-- One rule that hits two techniques, and another that hits one of them. -/
theorem coverage_tally_two :
    let emission := fun ruleId : String => (⟨⟨ruleId, "t", "high", "", ""⟩, "t", true⟩ : Emission)
    let start : EmitState :=
      { modeStore := { reloadCheckSec := 5 }
        coverage := { sensorId := "sensor", siteId := "site", since := "t" } }
    let s := [EmitState.Call.mk ⟨10, "detect", some (.ofMode "detect")⟩
      [emission "OT-007", emission "OT-012", emission "OT-007"]].foldl EmitState.emit start
    s.events.length = 3 ∧ ExactTally s.events (s.coverage.snapshot "t") :=
  ⟨by decide +kernel, coverage_tally_exact _ _ _ _ _ (by decide) _⟩

end EdgeSensor.Sensor
