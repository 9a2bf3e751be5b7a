import EdgeSensor.Sensor.Phases

/-!
# OT-003 over a packet history

What OT-003 is for: a packet whose MAC was last seen with another address is
reported, with both addresses (`ReportedAsChanged`). What the code does: `observe`
has already written the packet's own address under the MAC as it is spelled when the
rule looks under the lower-case spelling. So a MAC in lower case always finds its own
address and is never reported, and any other spelling finds what was last seen under
exactly the lower-case one (`lookup_after_observe`).

`TableFollows` is the invariant that carries this over a run: the table holds, for
each spelling, the address of its last packet.
-/

namespace EdgeSensor.Sensor.PacketPipeline

open EdgeSensor.Lib EdgeSensor.Py EdgeSensor.Parser

/-- Source MAC and source address of a packet, when it has both. -/
def mapping (packet : Packet) : Option (String × String) :=
  match truthy (observation packet).srcMac, truthy (observation packet).srcIp with
  | some mac, some ip => some (mac, ip)
  | _, _ => none

/-- The address of the most recent packet in a history (oldest first) whose MAC
satisfies `p`. -/
def lastIp (p : String → Bool) (history : List Packet) : Option String :=
  history.foldl (fun last packet =>
    match mapping packet with
    | some (mac, ip) => if p mac then some ip else last
    | none => last) none

/-- The same MAC up to case. -/
def sameMac (mac : String) : String → Bool := fun other => lower other = lower mac

/-- The packet's MAC was last seen, in whatever spelling, with another address. -/
def MappingChange (history : List Packet) (packet : Packet) (previous observed : String) : Prop :=
  ∃ mac, mapping packet = some (mac, observed)
    ∧ lastIp (sameMac mac) history = some previous ∧ previous ≠ observed

/-- What OT-003 is for: it reports exactly the change there is, and nothing else. -/
def ReportedAsChanged (history : List Packet) (packet : Packet) (events : List SecurityEvent) :
    Prop :=
  (∀ previous observed, (∃ e ∈ events, MvpDetector.ReportsChange previous observed e)
      ↔ MappingChange history packet previous observed)
    ∧ ∀ e ∈ events, e.ruleId = .ot003 →
      ∃ previous observed, MvpDetector.ReportsChange previous observed e

/-- When the code's lookup gives the right answer: for a MAC in lower case, no change
to report; for any other spelling, the lower-case spelling has seen the same other
address last. -/
def LookupAgrees (history : List Packet) (packet : Packet) : Prop :=
  ∀ mac ip, mapping packet = some (mac, ip) →
    if lower mac = mac then ∀ previous, lastIp (sameMac mac) history = some previous → previous = ip
    else ∀ previous, previous ≠ ip →
      (lastIp (sameMac mac) history = some previous ↔ lastIp (· = lower mac) history = some previous)

theorem lastIp_append (p : String → Bool) (history : List Packet) (packet : Packet) :
    lastIp p (history ++ [packet]) = match mapping packet with
      | some (mac, ip) => if p mac then some ip else lastIp p history
      | none => lastIp p history := by
  rw [lastIp, List.foldl_append]
  rfl

theorem mapping_ip_ne {packet : Packet} {mac ip : String} (h : mapping packet = some (mac, ip)) :
    ip ≠ "" := by
  unfold mapping at h
  split at h
  next hm hi =>
    cases h
    exact (truthy_eq_some.mp hi).2
  next => cases h

/-- No address in a history is empty. -/
theorem lastIp_ne {p : String → Bool} {history : List Packet} {ip : String}
    (h : lastIp p history = some ip) : ip ≠ "" := by
  induction history using List.reverseRecOn with
  | nil => cases h
  | append_singleton history packet ih =>
    rw [lastIp_append] at h
    split at h
    next mac ip' hmap =>
      split at h
      · cases h
        exact mapping_ip_ne hmap
      · exact ih h
    next => exact ih h

/-! ## The table follows the history -/

/-- For each spelling, the table holds the address of its last packet. -/
def TableFollows (s : PacketPipeline) (history : List Packet) : Prop :=
  ∀ key, s.mvp.inventory.macToIp.get? key = lastIp (· = key) history

/-- `observe` writes the packet's own pair, under the MAC as it is spelled. -/
theorem observe_macToIp (inv : AssetInventory) (packet : Packet) (now : Rat) :
    (inv.observe (observation packet) now).macToIp = match mapping packet with
      | some (mac, ip) => inv.macToIp.set mac ip
      | none => inv.macToIp := by
  unfold AssetInventory.observe mapping
  cases truthy (observation packet).srcMac with
  | none => rfl
  | some mac => cases truthy (observation packet).srcIp <;> rfl

/-- After a call, the table is the one `observe` made of the table before it. -/
theorem feed_macToIp (s : PacketPipeline) (input : PacketEnv × Packet) :
    (feed s input).mvp.inventory.macToIp
      = (s.mvp.inventory.observe (observation input.2) input.1.clock.observe).macToIp := by
  have hlatch := congrArg (fun latch => latch.1.2.2) (feed_mvp_latchState s input)
  have hrules := congrArg (·.2.2) (MvpDetector.evaluateObservation_preserves
    ((beforeObservation s input).mvpView input.1) (observation input.2)
    ((beforeObservation s input).observed input.1 input.2))
  have hinv : (beforeObservation s input).mvp.inventory = s.mvp.inventory := by
    rw [beforeObservation_mvp]
    exact (prologue_frame _ _ _).1
  refine hlatch.trans (hrules.trans ?_)
  unfold MvpDetector.config observed
  simp only
  rw [hinv]

theorem TableFollows.feed {s : PacketPipeline} {history : List Packet} (h : TableFollows s history)
    (input : PacketEnv × Packet) : TableFollows (feed s input) (history ++ [input.2]) := by
  intro key
  rw [feed_macToIp, observe_macToIp, lastIp_append]
  split
  next mac ip hmap => rw [Dict.get?_set, h key]; simp
  next hmap => exact h key

/-- From a fresh pipeline, the table follows the packets fed so far. -/
theorem tableFollows_feedAll (env : InitEnv) (inputs : List (PacketEnv × Packet)) :
    TableFollows (feedAll (init env) inputs) (inputs.map (·.2)) := by
  induction inputs using List.reverseRecOn with
  | nil =>
    intro key
    rfl
  | append_singleton inputs input ih =>
    rw [feedAll, List.foldl_append, List.map_append]
    exact ih.feed input

/-! ## What the rule finds in the table -/

/-- What the rule looks up: its own address for a MAC in lower case, and otherwise
what the lower-case spelling saw last. -/
theorem lookup_after_observe {s : PacketPipeline} {history : List Packet}
    (h : TableFollows s history) {packet : Packet} {mac ip : String}
    (hmap : mapping packet = some (mac, ip)) (now : Rat) :
    (s.mvp.inventory.observe (observation packet) now).macToIp.get? (lower mac)
      = if lower mac = mac then some ip else lastIp (· = lower mac) history := by
  rw [observe_macToIp, hmap]
  simp only
  rw [Dict.get?_set, h]
  by_cases hl : lower mac = mac
  · rw [if_pos hl.symm, if_pos hl]
  · rw [if_neg (fun heq => hl heq.symm), if_neg hl]

/-- The capture reference does not touch what an event says about a change. -/
theorem reportsChange_withRef (previous observed : String) (e : SecurityEvent) (ref : String) :
    MvpDetector.ReportsChange previous observed (e.withRef ref)
      ↔ MvpDetector.ReportsChange previous observed e := by
  unfold MvpDetector.ReportsChange
  rw [SecurityEvent.withRef_ruleId, SecurityEvent.mem_withRef_evidence (by decide),
    SecurityEvent.mem_withRef_evidence (by decide)]

/-- What a packet's OT-003 events say, in `detect` with the rule enabled: the address
the lookup found, when it is another one. -/
theorem exists_reported_iff {s : PacketPipeline} {history : List Packet}
    (h : TableFollows s history) (input : PacketEnv × Packet)
    (henabled : enabled (beforeObservation s input).mvp.rulesEnabled .ot003)
    (hdetect : (beforeObservation s input).modeAt .emitObservation input.1 = .detect)
    (previous observed : String) :
    (∃ e ∈ newEvents s input, MvpDetector.ReportsChange previous observed e)
      ↔ ∃ mac, mapping input.2 = some (mac, observed) ∧ previous ≠ observed ∧ lower mac ≠ mac
        ∧ lastIp (· = lower mac) history = some previous := by
  have hinv : (beforeObservation s input).mvp.inventory = s.mvp.inventory := by
    rw [beforeObservation_mvp]
    exact (prologue_frame _ _ _).1
  obtain ⟨d', hconfig, hmem⟩ := MvpDetector.mem_evaluateObservation_ot003
    ((beforeObservation s input).mvpView input.1) (observation input.2)
    ((beforeObservation s input).observed input.1 input.2)
  have hrules : d'.rulesEnabled = (beforeObservation s input).mvp.rulesEnabled :=
    congrArg (·.2.1) hconfig
  have htable : d'.inventory.macToIp
      = (s.mvp.inventory.observe (observation input.2) input.1.clock.observe).macToIp := by
    refine (congrArg (·.2.2) hconfig).trans ?_
    unfold MvpDetector.config PacketPipeline.observed
    simp only
    rw [hinv]
  -- the events of the call are those of the rule, on a detector with this table
  have hevents : (∃ e ∈ newEvents s input, MvpDetector.ReportsChange previous observed e)
      ↔ ∃ e ∈ (MvpDetector.mappingChanged ((beforeObservation s input).mvpView input.1)
          (observation input.2) d').2, MvpDetector.ReportsChange previous observed e := by
    rw [exists_newEvents_observation s input (fun e h => by rw [h.1]; rfl)
      (reportsChange_withRef previous observed), and_iff_right hdetect]
    constructor
    · intro ⟨e, he, hrep⟩
      exact ⟨e, (hmem e hrep.1).mp he, hrep⟩
    · intro ⟨e, he, hrep⟩
      exact ⟨e, (hmem e hrep.1).mpr he, hrep⟩
  rw [hevents, MvpDetector.exists_mappingChanged _ _ _ (by rw [hrules]; exact henabled), htable]
  constructor
  · intro ⟨hip, hne, mac, hmac, hlook⟩
    have hmap : mapping input.2 = some (mac, observed) := by
      unfold mapping
      rw [hmac, hip]
    rw [lookup_after_observe h hmap] at hlook
    by_cases hl : lower mac = mac
    · rw [if_pos hl] at hlook
      exact absurd (Option.some.inj (truthy_eq_some.mp hlook).1).symm hne
    · rw [if_neg hl] at hlook
      exact ⟨mac, hmap, hne, hl, (truthy_eq_some.mp hlook).1⟩
  · intro ⟨mac, hmap, hne, hl, hlast⟩
    have hparts := hmap
    unfold mapping at hparts
    split at hparts
    next m a hmac hip =>
      cases hparts
      refine ⟨hip, hne, mac, hmac, ?_⟩
      rw [lookup_after_observe h hmap, if_neg hl]
      exact truthy_eq_some.mpr ⟨hlast, lastIp_ne hlast⟩
    next => cases hparts

/-- No OT-003 event is silent about the addresses. -/
theorem newEvents_reports (s : PacketPipeline) (input : PacketEnv × Packet) :
    ∀ e ∈ newEvents s input, e.ruleId = .ot003 →
      ∃ previous observed, MvpDetector.ReportsChange previous observed e := by
  intro e he hrule
  obtain ⟨d', -, hmem⟩ := MvpDetector.mem_evaluateObservation_ot003
    ((beforeObservation s input).mvpView input.1) (observation input.2)
    ((beforeObservation s input).observed input.1 input.2)
  have hin := (mem_newEvents_observation s input (by rw [hrule]; rfl)).mp he
  unfold passed at hin
  split at hin
  next =>
    obtain ⟨e', he', rfl⟩ := List.mem_map.mp hin
    rw [SecurityEvent.withRef_ruleId] at hrule
    obtain ⟨previous, observed, hrep⟩ :=
      MvpDetector.mappingChanged_reports _ _ _ e' ((hmem e' hrule).mp he')
    exact ⟨previous, observed, (reportsChange_withRef previous observed e' _).mpr hrep⟩
  next => cases hin

/-- **When OT-003 does what it is for.** At the next packet after any sequence of
packets, in `detect` with the rule enabled, exactly the changes are reported if and
only if the lookup agrees with the history. -/
theorem ot003_reports_changes_iff (env : InitEnv) (inputs : List (PacketEnv × Packet))
    (input : PacketEnv × Packet)
    (henabled : enabled (beforeObservation (feedAll (init env) inputs) input).mvp.rulesEnabled .ot003)
    (hdetect : (beforeObservation (feedAll (init env) inputs) input).modeAt .emitObservation input.1
      = .detect) :
    ReportedAsChanged (inputs.map (·.2)) input.2 (newEvents (feedAll (init env) inputs) input)
      ↔ LookupAgrees (inputs.map (·.2)) input.2 := by
  have hreported := exists_reported_iff (tableFollows_feedAll env inputs) input henabled hdetect
  unfold ReportedAsChanged LookupAgrees MappingChange
  rw [and_iff_left (newEvents_reports _ input)]
  simp only [hreported]
  constructor
  · intro h mac ip hmap
    split
    next hl =>
      intro previous hlast
      by_contra hne
      obtain ⟨mac', hmap', -, hl', -⟩ := (h previous ip).mpr ⟨mac, hmap, hlast, hne⟩
      rw [hmap] at hmap'
      cases hmap'
      exact hl' hl
    next hl =>
      intro previous hne
      constructor
      · intro hlast
        obtain ⟨mac', hmap', -, -, hlow⟩ := (h previous ip).mpr ⟨mac, hmap, hlast, hne⟩
        rw [hmap] at hmap'
        cases hmap'
        exact hlow
      · intro hlow
        obtain ⟨mac', hmap', hlast, -⟩ := (h previous ip).mp ⟨mac, hmap, hne, hl, hlow⟩
        rw [hmap] at hmap'
        cases hmap'
        exact hlast
  · intro h previous observed
    constructor
    · intro ⟨mac, hmap, hne, hl, hlow⟩
      have hcase := h mac observed hmap
      rw [if_neg hl] at hcase
      exact ⟨mac, hmap, (hcase previous hne).mpr hlow, hne⟩
    · intro ⟨mac, hmap, hlast, hne⟩
      have hcase := h mac observed hmap
      by_cases hl : lower mac = mac
      · rw [if_pos hl] at hcase
        exact absurd (hcase previous hlast) hne
      · rw [if_neg hl] at hcase
        exact ⟨mac, hmap, hne, hl, (hcase previous hne).mp hlast⟩

/-- A host, as the capture library prints its address. -/
def hostPacket (mac ip : String) : Packet where
  raw := [0]
  ether := some { src := mac, dst := "ff:ff:ff:ff:ff:ff", type := 0x0800, payload := [] }
  ip := some { src := ip, dst := "10.0.0.1" }

/-- A mode file that says `detect`, and the sensor that reads it. -/
def detectFile : Reading ModeArtifact := ⟨0, "1", some (.ofMode "detect")⟩

theorem ot003_reports_changes_first_packet :
    ReportedAsChanged [] (hostPacket "00:1b:1b:00:00:01" "10.0.0.5")
        (newEvents (feedAll (init (.bare 0 detectFile)) [])
          (.bare 0 detectFile, hostPacket "00:1b:1b:00:00:01" "10.0.0.5"))
      ↔ LookupAgrees [] (hostPacket "00:1b:1b:00:00:01" "10.0.0.5") :=
  ot003_reports_changes_iff (.bare 0 detectFile) []
    (.bare 0 detectFile, hostPacket "00:1b:1b:00:00:01" "10.0.0.5")
    (by decide +kernel) (by decide +kernel)

/-- A host that moves from 10.0.0.5 to 10.0.0.9 in front of a sensor in `detect`, all
rules enabled, is not reported. -/
theorem ot003_misses_moved_host :
    ¬ ReportedAsChanged [hostPacket "00:1b:1b:00:00:01" "10.0.0.5"]
      (hostPacket "00:1b:1b:00:00:01" "10.0.0.9")
      (newEvents (feedAll (init (.bare 0 detectFile))
          [(.bare 0 detectFile, hostPacket "00:1b:1b:00:00:01" "10.0.0.5")])
        (.bare 0 detectFile, hostPacket "00:1b:1b:00:00:01" "10.0.0.9")) := by
  intro h
  have hchange : MappingChange [hostPacket "00:1b:1b:00:00:01" "10.0.0.5"]
      (hostPacket "00:1b:1b:00:00:01" "10.0.0.9") "10.0.0.5" "10.0.0.9" :=
    ⟨"00:1b:1b:00:00:01", by decide +kernel, by decide +kernel, by decide⟩
  have hreported := exists_reported_iff (tableFollows_feedAll (.bare 0 detectFile)
      [(.bare 0 detectFile, hostPacket "00:1b:1b:00:00:01" "10.0.0.5")])
    (.bare 0 detectFile, hostPacket "00:1b:1b:00:00:01" "10.0.0.9")
    (by decide +kernel) (by decide +kernel) "10.0.0.5" "10.0.0.9"
  obtain ⟨mac, hmap, -, hl, -⟩ := hreported.mp ((h.1 "10.0.0.5" "10.0.0.9").mpr hchange)
  have hmac : mapping (hostPacket "00:1b:1b:00:00:01" "10.0.0.9")
      = some ("00:1b:1b:00:00:01", "10.0.0.9") := by decide +kernel
  rw [hmac] at hmap
  cases hmap
  exact hl (by decide +kernel)

end EdgeSensor.Sensor.PacketPipeline
