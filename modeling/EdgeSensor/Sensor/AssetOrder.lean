import EdgeSensor.Sensor.AssetRoles

/-!
# The classification of assets and the order of rows

Level, operating system and confidence of an asset depend on its roles alone. Its type is
the last one named, and is the same in every order of the rows, and that of the evidence its
level comes from, exactly when the address has one role (`classification_iff`): a Modbus
server nothing else, an IED at most a Modbus client besides, an LDAP or DNS server no client
of any kind. The one server that may be a Modbus client is one among its own clients, which
is then an HMI in every order.
-/

namespace EdgeSensor.Sensor

open EdgeSensor.Lib EdgeSensor.Py

/-! ## What the strongest role says of the level -/

section Level

variable {tables : UnicodeTables} {observed : Observed} {portHints : Dict String PortHint}
  {ip : String} {s s' : Standing}

/-- An address has no role that is stronger than its strongest. -/
theorem Strongest.not_plays (h : Strongest tables observed portHints ip s)
    (hlt : s.confidence < s'.confidence) : ¬ Plays tables observed portHints ip s' :=
  fun hplays => absurd (h.2 s' hplays) (not_le.mpr hlt)

/-- How the level goes with the confidence. -/
structure LevelRule (polls : Prop) (s : Standing) : Prop where
  field : 80 / 100 ≤ s.confidence → s.purdueLevel = some "L1"
  service : s.confidence = 75 / 100 → ¬ polls → s.purdueLevel = some "L4"
  peer : s.confidence = 40 / 100 → s.purdueLevel = none
  other : s.confidence < 80 / 100 → s.confidence ≠ 40 / 100 → (s.confidence = 75 / 100 → polls) →
    s.purdueLevel = some "L2"

theorem Settles.levelRule (h : Settles tables observed portHints ip s) :
    LevelRule (PollsModbus observed ip) s := by
  obtain ⟨⟨hplays, _⟩, hfirst⟩ := h
  cases hplays with
  | plc h => constructor <;> norm_num [Standing.plc]
  | operator h =>
    cases LooksWindows portHints ip with
    | false => constructor <;> norm_num [Standing.operator, h]
    | true => constructor <;> norm_num [Standing.operator]
  | ied h => constructor <;> norm_num [Standing.ied]
  | server type h =>
    have hpolls : ¬ PollsModbus observed ip := fun hpolls => hfirst hpolls type rfl
    constructor <;> norm_num [Standing.server, hpolls]
  | client h => constructor <;> norm_num [Standing.client]
  | windowsHost h => constructor <;> norm_num [Standing.windowsHost]
  | peer h => constructor <;> norm_num [Standing.peer]

/-- Whatever settles the level, it is the same level, at the same confidence. -/
theorem Settles.level_unique (h : Settles tables observed portHints ip s)
    (h' : Settles tables observed portHints ip s') :
    s.purdueLevel = s'.purdueLevel ∧ s.confidence = s'.confidence := by
  have heq : s.confidence = s'.confidence :=
    le_antisymm (h'.1.2 s h.1.1) (h.1.2 s' h'.1.1)
  refine ⟨?_, heq⟩
  have hrule := h.levelRule
  have hrule' := h'.levelRule
  by_cases hfield : 80 / 100 ≤ s.confidence
  · rw [hrule.field hfield, hrule'.field (heq ▸ hfield)]
  · by_cases hpeer : s.confidence = 40 / 100
    · rw [hrule.peer hpeer, hrule'.peer (heq ▸ hpeer)]
    · by_cases hservice : s.confidence = 75 / 100 ∧ ¬ PollsModbus observed ip
      · rw [hrule.service hservice.1 hservice.2, hrule'.service (heq ▸ hservice.1) hservice.2]
      · have hother : s.confidence = 75 / 100 → PollsModbus observed ip :=
          fun hc => not_not.mp fun hpolls => hservice ⟨hc, hpolls⟩
        rw [hrule.other (not_le.mp hfield) hpeer hother,
          hrule'.other (heq ▸ not_le.mp hfield) (heq ▸ hpeer) (heq ▸ hother)]

end Level

/-! ## One role -/

/-- An LDAP or DNS server among its own clients. -/
def ServesItself (portHints : Dict String PortHint) (ip : String) : Prop :=
  ∃ info, (ip, info) ∈ portHints ∧ ip ∈ info.served

/-- The hints give the address a role. -/
def HasHintRole (portHints : Dict String PortHint) (ip : String) : Prop :=
  (∃ type, ServesAs portHints ip type) ∨ IsServed portHints ip ∨ IsWindowsHost portHints ip

/-- The roles of the address name one type, in whatever order. -/
structure OneRole (observed : Observed) (portHints : Dict String PortHint) (ip : String) :
    Prop where
  modbusServer : ServesModbus observed ip →
    ¬ PollsModbus observed ip ∧ ¬ IsIed observed ip ∧ ¬ HasHintRole portHints ip
  ied : IsIed observed ip → ¬ HasHintRole portHints ip
  server : ∀ type, ServesAs portHints ip type →
    ¬ PollsModbus observed ip ∧ ¬ IsServed portHints ip
      ∨ PollsModbus observed ip ∧ ServesItself portHints ip

section Names

variable {platform : Platform} {observed : Observed} {portHints : Dict String PortHint}
  {ip : String} {s row : Standing}

/-- The hints name the type before the IEDs do, and these before the Modbus servers. -/
theorem lastNamed_topologyCalls :
    lastNamed (standings ip (topologyCalls platform observed portHints))
      = (lastNamed (standings ip (portHints.flatMap (hintCalls portHints)))).or
        ((lastNamed (standings ip (observed.mmsIeds.flatMap mmsCalls))).or
          (lastNamed (standings ip (observed.modbusServers.flatMap (modbusCalls portHints))))) := by
  have hpeers : lastNamed (standings ip (observed.commPairs.flatMap (pairCalls platform))) = none := by
    refine lastNamed_eq_none fun s hs => ?_
    rw [(mem_standings_pairPass.mp hs).1]
    rfl
  unfold topologyCalls
  rw [standings_append, standings_append, standings_append, lastNamed_append, lastNamed_append,
    lastNamed_append, hpeers]
  rfl

theorem lastNamed_hintPass_eq_none (h : ¬ HasHintRole portHints ip) :
    lastNamed (standings ip (portHints.flatMap (hintCalls portHints))) = none := by
  refine lastNamed_eq_none fun s hs => absurd ?_ h
  rcases mem_standings_hintPass.mp hs with ⟨type, _, hserves⟩ | ⟨_, hserved⟩ | ⟨_, hhost⟩
  · exact .inl ⟨type, hserves⟩
  · exact .inr (.inl hserved)
  · exact .inr (.inr hhost)

theorem serverType_ne_unknown {type : String} (h : ServesAs portHints ip type) :
    type ≠ "unknown" := by
  obtain ⟨info, _, htype⟩ := h
  rcases serviceType_cases htype with rfl | rfl
  · decide
  · decide

/-- A role by the hints names the type: that of a server, or that of an HMI. -/
theorem lastNamed_hintPass (h : HasHintRole portHints ip) :
    ∃ type, lastNamed (standings ip (portHints.flatMap (hintCalls portHints))) = some type
      ∧ (type = "hmi" ∨ ServesAs portHints ip type) := by
  have hne : lastNamed (standings ip (portHints.flatMap (hintCalls portHints))) ≠ none := by
    rcases h with ⟨type, hserves⟩ | hserved | hhost
    · exact lastNamed_ne_none (mem_standings_hintPass.mpr (.inl ⟨type, rfl, hserves⟩))
        (serverType_ne_unknown hserves)
    · exact lastNamed_ne_none (mem_standings_hintPass.mpr (.inr (.inl ⟨rfl, hserved⟩)))
        (by decide)
    · exact lastNamed_ne_none (mem_standings_hintPass.mpr (.inr (.inr ⟨rfl, hhost⟩)))
        (by decide)
  obtain ⟨type, htype⟩ := Option.ne_none_iff_exists'.mp hne
  obtain ⟨s, hs, rfl⟩ := mem_of_lastNamed htype
  refine ⟨_, htype, ?_⟩
  rcases mem_standings_hintPass.mp hs with ⟨type, rfl, hserves⟩ | ⟨rfl, _⟩ | ⟨rfl, _⟩
  · exact .inr hserves
  · exact .inl rfl
  · exact .inl rfl

theorem lastNamed_mmsPass (h : IsIed observed ip) :
    lastNamed (standings ip (observed.mmsIeds.flatMap mmsCalls)) = some "ied" := by
  refine lastNamed_eq (mem_standings_mmsPass.mpr ⟨rfl, h⟩) (by decide) fun s hs _ => ?_
  rw [(mem_standings_mmsPass.mp hs).1]

theorem lastNamed_mmsPass_eq_none (h : ¬ IsIed observed ip) :
    lastNamed (standings ip (observed.mmsIeds.flatMap mmsCalls)) = none :=
  lastNamed_eq_none fun _ hs => absurd (mem_standings_mmsPass.mp hs).2 h

/-! Row by row, for a pass of any kind. -/

theorem lastNamed_rows_cases {α : Type} {rows : List α} {f : α → List TopologyCall} {type : String}
    (hall : ∀ r ∈ rows, lastNamed (standings ip (f r)) = none
      ∨ lastNamed (standings ip (f r)) = some type) :
    lastNamed (standings ip (rows.flatMap f)) = none
      ∨ lastNamed (standings ip (rows.flatMap f)) = some type := by
  induction rows with
  | nil => exact .inl rfl
  | cons first rows ih =>
    rw [List.flatMap_cons, standings_append, lastNamed_append]
    rcases ih fun r hr => hall r (List.mem_cons_of_mem _ hr) with hrest | hrest
    · rw [hrest, Option.none_or]
      exact hall first List.mem_cons_self
    · rw [hrest]
      exact .inr rfl

/-- Rows that name one type or none leave it last, if one of them names it. -/
theorem lastNamed_rows {α : Type} {rows : List α} {f : α → List TopologyCall} {type : String}
    (hall : ∀ r ∈ rows, lastNamed (standings ip (f r)) = none
      ∨ lastNamed (standings ip (f r)) = some type)
    {r : α} (hr : r ∈ rows) (hnamed : lastNamed (standings ip (f r)) = some type) :
    lastNamed (standings ip (rows.flatMap f)) = some type := by
  obtain ⟨before, after, rfl⟩ := List.append_of_mem hr
  rw [List.flatMap_append, List.flatMap_cons, standings_append, standings_append,
    lastNamed_append, lastNamed_append]
  have hafter := lastNamed_rows_cases fun r' hr' =>
    hall r' (List.mem_append_right _ (List.mem_cons_of_mem _ hr'))
  rcases hafter with hafter | hafter
  · rw [hafter, hnamed]
    rfl
  · rw [hafter]
    rfl

/-- A row that names a type can be put last. -/
theorem rows_reordered {α : Type} {rows : List α} {f : α → List TopologyCall} {type : String}
    {r : α} (hr : r ∈ rows) (hnamed : lastNamed (standings ip (f r)) = some type) :
    ∃ rows' : List α, rows'.Perm rows ∧ lastNamed (standings ip (rows'.flatMap f)) = some type := by
  obtain ⟨before, after, rfl⟩ := List.append_of_mem hr
  refine ⟨before ++ after ++ [r], ?_, ?_⟩
  · rw [List.append_assoc]
    exact List.Perm.append_left before List.perm_append_comm
  · rw [List.flatMap_append, standings_append, lastNamed_append, List.flatMap_singleton, hnamed]
    rfl

/-- A Modbus server names a client of its own an HMI, last. -/
theorem lastNamed_modbusCalls {row : ModbusServer} (h : row.PolledBy ip) :
    lastNamed (standings ip (modbusCalls portHints row)) = some "hmi" := by
  obtain ⟨hserver, hne, hclient⟩ := h
  rw [standings_modbusCalls, lastNamed_append, if_neg hserver]
  have hmem : Standing.operator (LooksWindows portHints ip) ∈ standings ip
      (row.allowedClients.flatMap (modbusClientCalls portHints (strip row.serverIp))) :=
    mem_standings_clients.mpr ⟨rfl, hne, hclient⟩
  have hknown : (Standing.operator (LooksWindows portHints ip)).assetType ≠ "unknown" :=
    show "hmi" ≠ "unknown" by decide
  rw [lastNamed_eq hmem hknown fun s hs _ => by rw [(mem_standings_clients.mp hs).1]]
  rfl

/-- The hints of a server name its clients HMIs, after the server itself. -/
theorem lastNamed_served {entry : String × PortHint} (h : ip ∈ entry.2.served) :
    lastNamed (standings ip (hintCalls portHints entry)) = some "hmi" := by
  cases htype : entry.2.serviceType with
  | none =>
    rw [served_eq_nil htype] at h
    cases h
  | some type =>
    obtain ⟨args, protocol, _, _, hcalls⟩ := @hintCalls_service portHints _ _ htype
    rw [hcalls, standings_cons_touch, lastNamed_append,
      lastNamed_eq (mem_standings_served.mpr ⟨rfl, h⟩) (by decide) fun s hs _ => by
        rw [(mem_standings_served.mp hs).1]]
    rfl

/-- The hints of a server that is no client of its own name its type. -/
theorem lastNamed_server {entry : String × PortHint} {type : String}
    (htype : entry.2.serviceType = some type) (h : ip ∉ entry.2.served) (hown : entry.1 = ip)
    (hknown : type ≠ "unknown") :
    lastNamed (standings ip (hintCalls portHints entry)) = some type := by
  have hmem : Standing.server type ∈ standings ip (hintCalls portHints entry) :=
    mem_standings_hintCalls.mpr (.inl ⟨type, rfl, hown, htype⟩)
  refine lastNamed_eq hmem hknown fun s hs _ => ?_
  rcases mem_standings_hintCalls.mp hs with ⟨other, rfl, _, hother⟩ | ⟨_, hserved⟩ | ⟨_, _, hhost⟩
  · cases htype.symm.trans hother
    rfl
  · exact absurd hserved h
  · cases htype.symm.trans hhost.2.1

/-- The hints of another address name this one an HMI, or not at all. -/
theorem lastNamed_other {entry : String × PortHint} (h : entry.1 ≠ ip) :
    lastNamed (standings ip (hintCalls portHints entry)) = none
      ∨ lastNamed (standings ip (hintCalls portHints entry)) = some "hmi" := by
  by_cases hserved : ip ∈ entry.2.served
  · exact .inr (lastNamed_served hserved)
  · refine .inl (lastNamed_eq_none fun s hs => ?_)
    rcases mem_standings_hintCalls.mp hs with ⟨_, _, hown, _⟩ | ⟨_, hmem⟩ | ⟨_, hown, _⟩
    · exact absurd hown h
    · exact absurd hmem hserved
    · exact absurd hown h

/-! ## The type, from the roles -/

/-- An address has hints once. -/
theorem info_unique {info info' : PortHint} (hkeys : (portHints.map (·.1)).Nodup)
    (h : (ip, info) ∈ portHints) (h' : (ip, info') ∈ portHints) : info = info' := by
  have hget := Dict.get?_of_mem hkeys h
  rw [Dict.get?_of_mem hkeys h'] at hget
  exact (Option.some.inj hget).symm

theorem ServesAs.unique {type type' : String} (hkeys : (portHints.map (·.1)).Nodup)
    (h : ServesAs portHints ip type) (h' : ServesAs portHints ip type') : type = type' := by
  obtain ⟨info, hmem, htype⟩ := h
  obtain ⟨info', hmem', htype'⟩ := h'
  cases info_unique hkeys hmem hmem'
  exact Option.some.inj (htype.symm.trans htype')

theorem ServesAs.not_windows {type : String} (hkeys : (portHints.map (·.1)).Nodup)
    (h : ServesAs portHints ip type) : ¬ IsWindowsHost portHints ip := by
  rintro ⟨info', hmem', hhost⟩
  obtain ⟨info, hmem, htype⟩ := h
  cases info_unique hkeys hmem hmem'
  cases htype.symm.trans hhost.2.1

/-- A server among its own clients is named an HMI last, whatever the order. -/
theorem lastNamed_servesItself (hkeys : (portHints.map (·.1)).Nodup) (h : ServesItself portHints ip) :
    lastNamed (standings ip (portHints.flatMap (hintCalls portHints))) = some "hmi" := by
  obtain ⟨info, hmem, hserved⟩ := h
  refine lastNamed_rows (fun entry hentry => ?_) hmem (lastNamed_served hserved)
  by_cases hown : entry.1 = ip
  · obtain ⟨own, info'⟩ := entry
    cases hown
    cases info_unique hkeys hmem hentry
    exact .inr (lastNamed_served hserved)
  · exact lastNamed_other hown

/-- The standings of an address name one type: that is the last. -/
theorem lastNamed_of_plays (hs : Plays platform.tables observed portHints ip s)
    (hnamed : s.assetType ≠ "unknown")
    (hall : ∀ s', Plays platform.tables observed portHints ip s' → s'.assetType ≠ "unknown" →
      s'.assetType = s.assetType) :
    lastNamed (standings ip (topologyCalls platform observed portHints)) = some s.assetType :=
  lastNamed_eq (mem_standings_topologyCalls.mpr hs) hnamed fun s' hs' hnamed' =>
    hall s' (mem_standings_topologyCalls.mp hs') hnamed'

/-- With one role, the type is that of the standing that settles the level. -/
theorem OneRole.lastNamed (h : OneRole observed portHints ip) (hkeys : (portHints.map (·.1)).Nodup)
    (hs : Settles platform.tables observed portHints ip s) :
    (lastNamed (standings ip (topologyCalls platform observed portHints))).getD "unknown"
      = s.assetType := by
  obtain ⟨hstrongest, hfirst⟩ := hs
  have hplays := hstrongest.1
  cases hplays with
  | plc hserves =>
    obtain ⟨hpolls, hied, hhints⟩ := h.modbusServer hserves
    rw [lastNamed_of_plays hstrongest.1 (by decide)]
    · rfl
    · intro s' hs' hnamed
      cases hs' with
      | plc _ => rfl
      | operator hother => exact absurd hother hpolls
      | ied hother => exact absurd hother hied
      | server type hother => exact absurd (.inl ⟨type, hother⟩) hhints
      | client hother => exact absurd (.inr (.inl hother)) hhints
      | windowsHost hother => exact absurd (.inr (.inr hother)) hhints
      | peer _ => exact absurd rfl hnamed
  | ied hied =>
    rw [lastNamed_topologyCalls, lastNamed_hintPass_eq_none (h.ied hied), lastNamed_mmsPass hied]
    rfl
  | operator hpolls =>
    by_cases hitself : ServesItself portHints ip
    · rw [lastNamed_topologyCalls, lastNamed_servesItself hkeys hitself]
      rfl
    · rw [lastNamed_of_plays hstrongest.1 (show "hmi" ≠ "unknown" by decide)]
      · rfl
      · intro s' hs' hnamed
        cases hs' with
        | plc hserves => exact absurd hpolls (h.modbusServer hserves).1
        | operator _ => rfl
        | ied hied =>
          refine absurd (.ied hied) (hstrongest.not_plays ?_)
          exact (operator_confidence _).2.trans_lt (by norm_num [Standing.ied])
        | server type hserves =>
          rcases h.server type hserves with ⟨hnot, _⟩ | ⟨_, hself⟩
          · exact absurd hpolls hnot
          · exact absurd hself hitself
        | client _ => rfl
        | windowsHost _ => rfl
        | peer _ => exact absurd rfl hnamed
  | server type hserves =>
    have hpolls : ¬ PollsModbus observed ip := fun hpolls => hfirst hpolls type rfl
    have hserved : ¬ IsServed portHints ip :=
      (h.server type hserves).elim (·.2) fun hboth => absurd hboth.1 hpolls
    have hhints : HasHintRole portHints ip := .inl ⟨type, hserves⟩
    rw [lastNamed_of_plays hstrongest.1 (serverType_ne_unknown hserves)]
    · rfl
    · intro s' hs' hnamed
      cases hs' with
      | plc hother => exact absurd hhints (h.modbusServer hother).2.2
      | operator hother => exact absurd hother hpolls
      | ied hother => exact absurd hhints (h.ied hother)
      | server other hother => exact hother.unique hkeys hserves
      | client hother => exact absurd hother hserved
      | windowsHost hother => exact absurd hother (hserves.not_windows hkeys)
      | peer _ => exact absurd rfl hnamed
  | client hserved =>
    rw [lastNamed_of_plays hstrongest.1 (by decide)]
    · rfl
    · intro s' hs' hnamed
      cases hs' with
      | plc hother =>
        exact absurd (.plc hother) (hstrongest.not_plays (by norm_num [Standing.plc, Standing.client]))
      | operator _ => rfl
      | ied hother =>
        exact absurd (.ied hother) (hstrongest.not_plays (by norm_num [Standing.ied, Standing.client]))
      | server type hother =>
        exact absurd (.server type hother)
          (hstrongest.not_plays (by norm_num [Standing.server, Standing.client]))
      | client _ => rfl
      | windowsHost _ => rfl
      | peer _ => exact absurd rfl hnamed
  | windowsHost hhost =>
    rw [lastNamed_of_plays hstrongest.1 (by decide)]
    · rfl
    · intro s' hs' hnamed
      cases hs' with
      | plc hother => exact absurd (.inr (.inr hhost)) (h.modbusServer hother).2.2
      | operator _ => rfl
      | ied hother => exact absurd (.inr (.inr hhost)) (h.ied hother)
      | server type hother => exact absurd hhost (hother.not_windows hkeys)
      | client _ => rfl
      | windowsHost _ => rfl
      | peer _ => exact absurd rfl hnamed
  | peer _ =>
    -- a mere peer has no role that names a type
    rw [lastNamed_eq_none]
    · rfl
    · intro s' hs'
      cases mem_standings_topologyCalls.mp hs' with
      | plc hother =>
        exact absurd (.plc hother) (hstrongest.not_plays (by norm_num [Standing.plc, Standing.peer]))
      | operator hother =>
        refine absurd (.operator hother) (hstrongest.not_plays ?_)
        exact lt_of_lt_of_le (by norm_num [Standing.peer]) (operator_confidence _).1
      | ied hother =>
        exact absurd (.ied hother) (hstrongest.not_plays (by norm_num [Standing.ied, Standing.peer]))
      | server type hother =>
        exact absurd (.server type hother)
          (hstrongest.not_plays (by norm_num [Standing.server, Standing.peer]))
      | client hother =>
        exact absurd (.client hother)
          (hstrongest.not_plays (by norm_num [Standing.client, Standing.peer]))
      | windowsHost hother =>
        exact absurd (.windowsHost hother)
          (hstrongest.not_plays (by norm_num [Standing.windowsHost, Standing.peer]))
      | peer _ => rfl

end Names

/-! ## Other orders of the rows -/

/-- The same rows, in other orders. -/
structure Reordered (observed : Observed) (portHints : Dict String PortHint)
    (observed' : Observed) (portHints' : Dict String PortHint) : Prop where
  modbusServers : observed'.modbusServers.Perm observed.modbusServers
  mmsIeds : observed'.mmsIeds.Perm observed.mmsIeds
  portHints : portHints'.Perm portHints
  commPairs : observed'.commPairs.Perm observed.commPairs

section Reordered

variable {tables : UnicodeTables} {observed observed' : Observed}
  {portHints portHints' : Dict String PortHint} {ip : String} {s : Standing}

theorem Reordered.refl (observed : Observed) (portHints : Dict String PortHint) :
    Reordered observed portHints observed portHints :=
  ⟨.refl _, .refl _, .refl _, .refl _⟩

theorem Reordered.symm (h : Reordered observed portHints observed' portHints') :
    Reordered observed' portHints' observed portHints :=
  ⟨h.modbusServers.symm, h.mmsIeds.symm, h.portHints.symm, h.commPairs.symm⟩

theorem Reordered.nodup (h : Reordered observed portHints observed' portHints')
    (hkeys : (portHints.map (·.1)).Nodup) : (portHints'.map (·.1)).Nodup :=
  (h.portHints.map _).nodup_iff.mpr hkeys

theorem Reordered.hintsForIp (h : Reordered observed portHints observed' portHints')
    (hkeys : (portHints.map (·.1)).Nodup) : hintsForIp portHints' = hintsForIp portHints := by
  funext ip
  unfold EdgeSensor.Sensor.hintsForIp
  rw [Dict.get?_perm h.portHints (h.nodup hkeys)]

theorem Reordered.servesModbus (h : Reordered observed portHints observed' portHints') :
    ServesModbus observed' ip ↔ ServesModbus observed ip := by
  unfold ServesModbus
  simp only [h.modbusServers.mem_iff]

theorem Reordered.pollsModbus (h : Reordered observed portHints observed' portHints') :
    PollsModbus observed' ip ↔ PollsModbus observed ip := by
  unfold PollsModbus
  simp only [h.modbusServers.mem_iff]

theorem Reordered.isIed (h : Reordered observed portHints observed' portHints') :
    IsIed observed' ip ↔ IsIed observed ip := by
  unfold IsIed
  simp only [h.mmsIeds.mem_iff]

theorem Reordered.servesAs (h : Reordered observed portHints observed' portHints')
    {type : String} : ServesAs portHints' ip type ↔ ServesAs portHints ip type := by
  unfold ServesAs
  simp only [h.portHints.mem_iff]

theorem Reordered.isServed (h : Reordered observed portHints observed' portHints') :
    IsServed portHints' ip ↔ IsServed portHints ip := by
  unfold IsServed
  simp only [h.portHints.mem_iff]

theorem Reordered.servesItself (h : Reordered observed portHints observed' portHints') :
    ServesItself portHints' ip ↔ ServesItself portHints ip := by
  unfold ServesItself
  simp only [h.portHints.mem_iff]

theorem Reordered.isWindowsHost (h : Reordered observed portHints observed' portHints') :
    IsWindowsHost portHints' ip ↔ IsWindowsHost portHints ip := by
  unfold IsWindowsHost
  simp only [h.portHints.mem_iff]

/-- One role is one role in every order. -/
theorem Reordered.oneRole (h : Reordered observed portHints observed' portHints')
    (hone : OneRole observed portHints ip) : OneRole observed' portHints' ip := by
  have hhints : HasHintRole portHints' ip ↔ HasHintRole portHints ip := by
    unfold HasHintRole
    simp only [h.servesAs, h.isServed, h.isWindowsHost]
  constructor
  · rw [h.servesModbus, h.pollsModbus, h.isIed, hhints]
    exact hone.modbusServer
  · rw [h.isIed, hhints]
    exact hone.ied
  · intro type
    rw [h.servesAs, h.pollsModbus, h.isServed, h.servesItself]
    exact hone.server type

/-- The roles are the same in every order. -/
theorem Reordered.plays (h : Reordered observed portHints observed' portHints')
    (hkeys : (portHints.map (·.1)).Nodup) (hplays : Plays tables observed portHints ip s) :
    Plays tables observed' portHints' ip s := by
  have hwindows : LooksWindows portHints' ip = LooksWindows portHints ip := by
    unfold LooksWindows
    rw [h.hintsForIp hkeys]
  cases hplays with
  | plc hserves => exact .plc (h.servesModbus.mpr hserves)
  | operator hpolls =>
    rw [← hwindows]
    exact .operator (h.pollsModbus.mpr hpolls)
  | ied hied => exact .ied (h.isIed.mpr hied)
  | server type hserves => exact .server type (h.servesAs.mpr hserves)
  | client hserved => exact .client (h.isServed.mpr hserved)
  | windowsHost hhost => exact .windowsHost (h.isWindowsHost.mpr hhost)
  | peer hpeer =>
    obtain ⟨pair, hpair, hshows⟩ := hpeer
    exact .peer ⟨pair, h.commPairs.mem_iff.mpr hpair, hshows⟩

theorem Reordered.settles (h : Reordered observed portHints observed' portHints')
    (hkeys : (portHints.map (·.1)).Nodup) (hs : Settles tables observed portHints ip s) :
    Settles tables observed' portHints' ip s := by
  obtain ⟨⟨hplays, hmax⟩, hfirst⟩ := hs
  refine ⟨⟨h.plays hkeys hplays, fun s' hs' => ?_⟩, fun hpolls => hfirst (h.pollsModbus.mp hpolls)⟩
  exact hmax s' (h.symm.plays (h.nodup hkeys) hs')

end Reordered

/-! ## One role is needed -/

section Needed

variable {platform : Platform} {observed : Observed} {portHints : Dict String PortHint}
  {ip type : String} {level : Option String}

/-- A type that is last in every order, and comes with a level from one of the strongest
standings, the level being the one concluded. -/
structure Settled (platform : Platform) (observed : Observed) (portHints : Dict String PortHint)
    (ip type : String) (level : Option String) : Prop where
  last : ∀ observed' portHints', Reordered observed portHints observed' portHints' →
    (lastNamed (standings ip (topologyCalls platform observed' portHints'))).getD "unknown" = type
  strongest : ∃ s, Strongest platform.tables observed portHints ip s ∧ s.assetType = type
    ∧ s.purdueLevel = level
  settles : ∃ s, Settles platform.tables observed portHints ip s ∧ s.purdueLevel = level

/-- Only a field device is as strong as an IED. -/
theorem Plays.field {tables : UnicodeTables} {s : Standing} (h : Plays tables observed portHints ip s)
    (hstrong : Standing.ied.confidence ≤ s.confidence) : s = .plc ∧ ServesModbus observed ip ∨ s = .ied := by
  cases h with
  | plc hserves => exact .inl ⟨rfl, hserves⟩
  | operator _ =>
    refine absurd (hstrong.trans (operator_confidence _).2) ?_
    norm_num [Standing.ied]
  | ied _ => exact .inr rfl
  | server _ _ => norm_num [Standing.ied, Standing.server] at hstrong
  | client _ => norm_num [Standing.ied, Standing.client] at hstrong
  | windowsHost _ => norm_num [Standing.ied, Standing.windowsHost] at hstrong
  | peer _ => norm_num [Standing.ied, Standing.peer] at hstrong

/-- A Modbus server is settled as a PLC. -/
theorem Settled.type_plc (h : Settled platform observed portHints ip type level)
    (hserves : ServesModbus observed ip) : type = "plc" := by
  obtain ⟨s, hs, rfl, _⟩ := h.strongest
  have hplc := hs.2 _ (.plc hserves)
  rcases hs.1.field (le_trans (by norm_num [Standing.plc, Standing.ied]) hplc) with ⟨rfl, _⟩ | rfl
  · rfl
  · norm_num [Standing.plc, Standing.ied] at hplc

/-- An IED that is no Modbus server is settled as an IED. -/
theorem Settled.type_ied (h : Settled platform observed portHints ip type level)
    (hied : IsIed observed ip) (hserves : ¬ ServesModbus observed ip) : type = "ied" := by
  obtain ⟨s, hs, rfl, _⟩ := h.strongest
  rcases hs.1.field (hs.2 _ (.ied hied)) with ⟨rfl, hother⟩ | rfl
  · exact absurd hother hserves
  · rfl

/-- A role by the hints settles the type as that of a server or an HMI. -/
theorem Settled.type_hints (h : Settled platform observed portHints ip type level)
    (hhints : HasHintRole portHints ip) : type = "hmi" ∨ ServesAs portHints ip type := by
  obtain ⟨named, hnamed, hcases⟩ := lastNamed_hintPass hhints
  have hlast := h.last observed portHints (.refl _ _)
  rw [lastNamed_topologyCalls, hnamed] at hlast
  cases hlast
  exact hcases

/-- The hints settle no type that the other passes do. -/
theorem Settled.no_hints (h : Settled platform observed portHints ip type level)
    (htype : type = "plc" ∨ type = "ied") : ¬ HasHintRole portHints ip := by
  intro hhints
  rcases h.type_hints hhints with rfl | ⟨info, _, hservice⟩
  · exact htype.elim (by decide) (by decide)
  · rcases serviceType_cases hservice with rfl | rfl
    · exact htype.elim (by decide) (by decide)
    · exact htype.elim (by decide) (by decide)

/-- A Modbus server has no other role. -/
theorem Settled.modbusServer (h : Settled platform observed portHints ip type level)
    (hserves : ServesModbus observed ip) :
    ¬ PollsModbus observed ip ∧ ¬ IsIed observed ip ∧ ¬ HasHintRole portHints ip := by
  have htype := h.type_plc hserves
  have hhints := h.no_hints (.inl htype)
  have hied : ¬ IsIed observed ip := by
    intro hied
    have hlast := h.last observed portHints (.refl _ _)
    rw [lastNamed_topologyCalls, lastNamed_hintPass_eq_none hhints, lastNamed_mmsPass hied,
      htype] at hlast
    exact absurd hlast (show "ied" ≠ "plc" by decide)
  refine ⟨?_, hied, hhints⟩
  rintro ⟨row, hrow, hpolled⟩
  -- with the row it is a client in last, it would be an HMI
  have hhmi : lastNamed (standings ip (modbusCalls portHints row)) = some "hmi" :=
    lastNamed_modbusCalls hpolled
  obtain ⟨rows', hperm, hnamed⟩ := rows_reordered hrow hhmi
  have hlast := h.last { observed with modbusServers := rows' } portHints
    ⟨hperm, .refl _, .refl _, .refl _⟩
  rw [lastNamed_topologyCalls, lastNamed_hintPass_eq_none hhints,
    lastNamed_mmsPass_eq_none (show ¬ IsIed { observed with modbusServers := rows' } ip from hied),
    hnamed, htype] at hlast
  exact absurd hlast (by decide)

/-- With an entry of the hints last, the type is what that entry names. -/
theorem Settled.type_entry (h : Settled platform observed portHints ip type level)
    (hkeys : (portHints.map (·.1)).Nodup) {entry : String × PortHint} (hentry : entry ∈ portHints)
    {named : String}
    (hnamed : lastNamed (standings ip (hintCalls portHints entry)) = some named) :
    type = named := by
  obtain ⟨rows', hperm, hrows⟩ := rows_reordered hentry hnamed
  have hreordered : Reordered observed portHints observed rows' :=
    ⟨.refl _, .refl _, hperm, .refl _⟩
  -- the calls of an entry are the same in every order of the hints
  have hcalls : hintCalls rows' = hintCalls portHints := by
    funext other
    unfold hintCalls clientCalls
    rw [hreordered.hintsForIp hkeys]
  have hlast := h.last observed rows' hreordered
  rw [lastNamed_topologyCalls, hcalls, hrows] at hlast
  exact hlast.symm

/-- An LDAP or DNS server is no client, or a Modbus client among its own clients. -/
theorem Settled.server (h : Settled platform observed portHints ip type level)
    (hkeys : (portHints.map (·.1)).Nodup) {service : String}
    (hserves : ServesAs portHints ip service) :
    ¬ PollsModbus observed ip ∧ ¬ IsServed portHints ip
      ∨ PollsModbus observed ip ∧ ServesItself portHints ip := by
  have hhmi : service ≠ "hmi" := by
    obtain ⟨info, _, hservice⟩ := hserves
    rcases serviceType_cases hservice with rfl | rfl
    · decide
    · decide
  have hmodbus : ¬ ServesModbus observed ip :=
    fun hother => (h.modbusServer hother).2.2 (.inl ⟨_, hserves⟩)
  have hied : ¬ IsIed observed ip :=
    fun hother => h.no_hints (.inr (h.type_ied hother hmodbus)) (.inl ⟨_, hserves⟩)
  -- what is as strong as the server: a Modbus client, or the server
  have hstrong : ∀ s, Strongest platform.tables observed portHints ip s →
      s = .server service ∨ PollsModbus observed ip ∧ s = .operator (LooksWindows portHints ip) := by
    intro s hs
    have hle := hs.2 _ (.server service hserves)
    cases hs.1 with
    | plc hother => exact absurd hother hmodbus
    | operator hpolls => exact .inr ⟨hpolls, rfl⟩
    | ied hother => exact absurd hother hied
    | server other hother => exact .inl (by rw [hother.unique hkeys hserves])
    | client _ => norm_num [Standing.server, Standing.client] at hle
    | windowsHost hother => exact absurd hother (hserves.not_windows hkeys)
    | peer _ => norm_num [Standing.server, Standing.peer] at hle
  obtain ⟨s, hs, hstype, hslevel⟩ := h.strongest
  by_cases hitself : ServesItself portHints ip
  · obtain ⟨info, hmem, hserved⟩ := hitself
    have htype := h.type_entry hkeys hmem (lastNamed_served hserved)
    refine .inr ⟨?_, info, hmem, hserved⟩
    rcases hstrong s hs with rfl | ⟨hpolls, _⟩
    · exact absurd (hstype.trans htype) hhmi
    · exact hpolls
  · obtain ⟨info, hmem, hservice⟩ := hserves
    have hnot : ip ∉ info.served := fun hserved => hitself ⟨info, hmem, hserved⟩
    have htype : type = service := h.type_entry hkeys hmem (lastNamed_server hservice hnot rfl
      (serverType_ne_unknown ⟨info, hmem, hservice⟩))
    refine .inl ⟨fun hpolls => ?_, ?_⟩
    · -- the level is that of the Modbus client, the type that of the server
      obtain ⟨s₀, hs₀, hlevel⟩ := h.settles
      rcases hstrong s hs with rfl | ⟨_, rfl⟩
      · rcases hstrong s₀ hs₀.1 with rfl | ⟨_, rfl⟩
        · exact hs₀.2 hpolls _ rfl
        · exact absurd (hlevel.trans hslevel.symm) (show some "L2" ≠ some "L4" by decide)
      · exact hhmi (htype.symm.trans hstype.symm)
    · rintro ⟨entry, hentry, hserved⟩
      exact hhmi (htype.symm.trans (h.type_entry hkeys hentry (lastNamed_served hserved)))

theorem Settled.oneRole (h : Settled platform observed portHints ip type level)
    (hkeys : (portHints.map (·.1)).Nodup) : OneRole observed portHints ip := by
  refine ⟨h.modbusServer, fun hied => ?_, fun service hserves => h.server hkeys hserves⟩
  by_cases hserves : ServesModbus observed ip
  · exact (h.modbusServer hserves).2.2
  · exact h.no_hints (.inr (h.type_ied hied hserves))

end Needed

/-! ## The snapshot -/

/-- No two addresses shown as assets share an id. -/
def Apart (platform : Platform) (tenantId sensorId : String) (observed : Observed)
    (portHints : Dict String PortHint) : Prop :=
  ∀ ip ip', ShowsAsset platform.tables observed portHints ip →
    ShowsAsset platform.tables observed portHints ip' →
    assetIdOf platform tenantId sensorId ip = assetIdOf platform tenantId sensorId ip' → ip = ip'

/-- The assets of one snapshot are in another, classified the same. -/
def SameStandings (s s' : TopologySnapshot) : Prop :=
  ∀ a ∈ s.assets, ∃ a' ∈ s'.assets, a'.assetId = a.assetId ∧ a'.standing = a.standing

/-- Type and level of the asset are those of one of its touches, with the highest confidence of
them all. -/
def FromOneTouch (calls : List TopologyCall) (a : TopologyAsset) : Prop :=
  ∃ args, .touch args ∈ calls ∧ args.ip = a.ip ∧ args.assetType = a.assetType
    ∧ args.purdueLevel = a.purdueLevel
    ∧ ∀ other, .touch other ∈ calls → other.ip = a.ip → other.confidence ≤ args.confidence

section Snapshot

variable {platform : Platform} {tenantId sensorId : String} {observed observed' : Observed}
  {portHints portHints' : Dict String PortHint} {ip : String}

theorem showsAsset_iff : ShowsAsset platform.tables observed portHints ip
    ↔ ∃ s, Plays platform.tables observed portHints ip s := by
  rw [← mem_touchedIps_topologyCalls, mem_touchedIps_iff]
  simp only [mem_standings_topologyCalls]

theorem Reordered.apart (h : Reordered observed portHints observed' portHints')
    (hkeys : (portHints.map (·.1)).Nodup)
    (hapart : Apart platform tenantId sensorId observed portHints) :
    Apart platform tenantId sensorId observed' portHints' := by
  have hshows : ∀ {ip}, ShowsAsset platform.tables observed' portHints' ip →
      ShowsAsset platform.tables observed portHints ip := by
    intro ip hshows
    obtain ⟨s, hs⟩ := showsAsset_iff.mp hshows
    exact showsAsset_iff.mpr ⟨s, h.symm.plays (h.nodup hkeys) hs⟩
  exact fun ip ip' hip hip' => hapart ip ip' (hshows hip) (hshows hip')

/-- An address shown as an asset has one, which concludes from the standings of its roles. -/
theorem exists_asset (hapart : Apart platform tenantId sensorId observed portHints)
    (hip : ShowsAsset platform.tables observed portHints ip) :
    ∃ a ∈ (buildObservedTopology platform tenantId sensorId observed portHints).assets,
      a.assetId = assetIdOf platform tenantId sensorId ip ∧ a.ip = ip
        ∧ Concludes (standings ip (topologyCalls platform observed portHints)) a.standing := by
  have hbuilt := built_topology platform tenantId sensorId observed portHints
  have htouched := mem_touchedIps_topologyCalls.mpr hip
  have hown : OwnId platform tenantId sensorId (topologyCalls platform observed portHints) ip :=
    fun ip' hip' heq => hapart ip' ip (mem_touchedIps_topologyCalls.mp hip') hip heq
  have hconcludes := concludes_foldl hown fun s hs => (mem_standings_topologyCalls.mp hs).given
  rcases hconcludes with ⟨_, hnil⟩ | ⟨a, hget, ha⟩
  · obtain ⟨s, hs⟩ := mem_touchedIps_iff.mp htouched
    rw [hnil] at hs
    cases hs
  · have hmem := Dict.mem_of_get? hget
    refine ⟨a, List.mem_map.mpr ⟨_, hmem, rfl⟩, hbuilt.assets.key_of_get? hget, ?_, ha⟩
    exact hown a.ip (hbuilt.touched _ hmem) (hbuilt.own _ hmem).symm

/-- Every asset is that of an address, which has no other. -/
theorem exists_ip {a : TopologyAsset} (hapart : Apart platform tenantId sensorId observed portHints)
    (ha : a ∈ (buildObservedTopology platform tenantId sensorId observed portHints).assets) :
    ShowsAsset platform.tables observed portHints a.ip
      ∧ a.assetId = assetIdOf platform tenantId sensorId a.ip
      ∧ Concludes (standings a.ip (topologyCalls platform observed portHints)) a.standing := by
  have hbuilt := built_topology platform tenantId sensorId observed portHints
  obtain ⟨kv, hkv, rfl⟩ := List.mem_map.mp ha
  have hip := mem_touchedIps_topologyCalls.mp (hbuilt.touched kv hkv)
  have hid : kv.2.assetId = assetIdOf platform tenantId sensorId kv.2.ip :=
    (hbuilt.assets.own kv hkv).trans (hbuilt.own kv hkv)
  obtain ⟨a, ha', haid, _, hconcludes⟩ := exists_asset hapart hip
  obtain ⟨kv', hkv', rfl⟩ := List.mem_map.mp ha'
  -- both are the row under the id
  have hkeys : kv'.1 = kv.1 := by
    rw [← hbuilt.assets.own kv' hkv', ← hbuilt.assets.own kv hkv, haid, hid]
  have hget := Dict.get?_of_mem hbuilt.assets.nodup hkv
  rw [← hkeys, Dict.get?_of_mem hbuilt.assets.nodup hkv'] at hget
  rw [Option.some.inj hget] at hconcludes
  exact ⟨hip, hid, hconcludes⟩

/-- The evidence of a touch is a standing, and the other way round. -/
theorem fromOneTouch_iff {a : TopologyAsset} :
    FromOneTouch (topologyCalls platform observed portHints) a
      ↔ ∃ s, Strongest platform.tables observed portHints a.ip s ∧ s.assetType = a.assetType
        ∧ s.purdueLevel = a.purdueLevel := by
  have hmem : ∀ s, Plays platform.tables observed portHints a.ip s
      ↔ ∃ args, (.touch args ∈ topologyCalls platform observed portHints ∧ args.ip = a.ip)
        ∧ args.standing = s := by
    intro s
    rw [← mem_standings_topologyCalls]
    unfold standings
    simp only [List.mem_map, mem_touchesOf]
  constructor
  · rintro ⟨args, hcall, hip, htype, hlevel, hmax⟩
    refine ⟨args.standing, ⟨(hmem _).mpr ⟨args, ⟨hcall, hip⟩, rfl⟩, ?_⟩, htype, hlevel⟩
    intro s' hs'
    obtain ⟨other, ⟨hother, hotherIp⟩, rfl⟩ := (hmem s').mp hs'
    exact hmax other hother hotherIp
  · rintro ⟨s, ⟨hplays, hmax⟩, htype, hlevel⟩
    obtain ⟨args, ⟨hcall, hip⟩, rfl⟩ := (hmem s).mp hplays
    refine ⟨args, hcall, hip, htype, hlevel, fun other hother hotherIp => ?_⟩
    exact hmax _ ((hmem _).mpr ⟨other, ⟨hother, hotherIp⟩, rfl⟩)

/-- With one role, an asset is classified the same in every order of the rows. -/
theorem OneRole.standing_eq (hone : OneRole observed portHints ip)
    (h : Reordered observed portHints observed' portHints') (hkeys : (portHints.map (·.1)).Nodup)
    {row row' : Standing}
    (hrow : Concludes (standings ip (topologyCalls platform observed portHints)) row)
    (hrow' : Concludes (standings ip (topologyCalls platform observed' portHints')) row') :
    row' = row := by
  obtain ⟨s, hs, hlevel, hconfidence⟩ := exists_settles hrow
  obtain ⟨s', hs', hlevel', hconfidence'⟩ := exists_settles hrow'
  obtain ⟨hlevels, hconfidences⟩ := (h.settles hkeys hs).level_unique hs'
  -- the type is that of the standing that settles the level, here and there
  have htype : row.assetType = s.assetType := by
    rw [hrow.assetType]
    exact hone.lastNamed hkeys hs
  have htype' : row'.assetType = s.assetType := by
    rw [hrow'.assetType]
    exact (h.oneRole hone).lastNamed (h.nodup hkeys) (h.settles hkeys hs)
  have hmem : ∀ s, s ∈ standings ip (topologyCalls platform observed' portHints')
      ↔ s ∈ standings ip (topologyCalls platform observed portHints) := by
    intro s
    rw [mem_standings_topologyCalls, mem_standings_topologyCalls]
    exact ⟨h.symm.plays (h.nodup hkeys), h.plays hkeys⟩
  have hfamily : row'.osFamily = row.osFamily := by
    rw [hrow.osFamily, hrow'.osFamily]
    simp only [hmem]
  obtain ⟨type, level, family, confidence⟩ := row
  obtain ⟨type', level', family', confidence'⟩ := row'
  cases htype.trans htype'.symm
  cases hfamily
  cases hlevel'.trans (hlevels.symm.trans hlevel.symm)
  cases hconfidence'.trans (hconfidences.symm.trans hconfidence.symm)
  rfl

/-- The classification depends on no order of rows, and takes type and level from one touch of
the highest confidence, exactly when every address has one role. -/
theorem classification_iff (platform : Platform) (tenantId sensorId : String)
    (observed : Observed) (portHints : Dict String PortHint)
    (hkeys : (portHints.map (·.1)).Nodup)
    (hapart : Apart platform tenantId sensorId observed portHints) :
    ((∀ observed' portHints', Reordered observed portHints observed' portHints' →
        SameStandings (buildObservedTopology platform tenantId sensorId observed portHints)
          (buildObservedTopology platform tenantId sensorId observed' portHints'))
      ∧ ∀ a ∈ (buildObservedTopology platform tenantId sensorId observed portHints).assets,
        FromOneTouch (topologyCalls platform observed portHints) a)
      ↔ ∀ ip, ShowsAsset platform.tables observed portHints ip → OneRole observed portHints ip := by
  constructor
  · rintro ⟨hsame, htouch⟩ ip hip
    obtain ⟨a, ha, hid, rfl, hconcludes⟩ := exists_asset hapart hip
    obtain ⟨s, hs, hlevel, _⟩ := exists_settles hconcludes
    have hsettled : Settled platform observed portHints a.ip a.assetType a.purdueLevel := by
      refine ⟨?_, fromOneTouch_iff.mp (htouch a ha), s, hs, hlevel.symm⟩
      intro observed' portHints' hreordered
      obtain ⟨a', ha', hid', hstanding⟩ := hsame observed' portHints' hreordered a ha
      have hapart' := hreordered.apart hkeys hapart
      obtain ⟨hip', hown', hconcludes'⟩ := exists_ip hapart' ha'
      -- the row with the id is the row of the address
      have hsameIp : a'.ip = a.ip := by
        have hshows : ShowsAsset platform.tables observed' portHints' a.ip := by
          obtain ⟨s, hs⟩ := showsAsset_iff.mp hip
          exact showsAsset_iff.mpr ⟨s, hreordered.plays hkeys hs⟩
        exact hapart' _ _ hip' hshows (hown'.symm.trans (hid'.trans hid))
      rw [hsameIp, hstanding] at hconcludes'
      exact hconcludes'.assetType.symm
    exact hsettled.oneRole hkeys
  · intro hone
    refine ⟨fun observed' portHints' hreordered a ha => ?_, fun a ha => ?_⟩
    · obtain ⟨hip, hid, hconcludes⟩ := exists_ip hapart ha
      have hshows : ShowsAsset platform.tables observed' portHints' a.ip := by
        obtain ⟨s, hs⟩ := showsAsset_iff.mp hip
        exact showsAsset_iff.mpr ⟨s, hreordered.plays hkeys hs⟩
      obtain ⟨a', ha', hid', _, hconcludes'⟩ := exists_asset (hreordered.apart hkeys hapart) hshows
      exact ⟨a', ha', hid'.trans hid.symm,
        (hone _ hip).standing_eq hreordered hkeys hconcludes hconcludes'⟩
    · obtain ⟨hip, _, hconcludes⟩ := exists_ip hapart ha
      obtain ⟨s, hs, hlevel, _⟩ := exists_settles hconcludes
      refine fromOneTouch_iff.mpr ⟨s, hs.1, ?_, hlevel.symm⟩
      exact ((hone _ hip).lastNamed hkeys hs).symm.trans hconcludes.assetType.symm

end Snapshot

/-- A small site: the operator station polls the PLC, and neither has another role. -/
theorem classification_sample :
    (∀ observed' portHints', Reordered sampleObserved [] observed' portHints' →
        SameStandings (buildObservedTopology samplePlatform "tenant" "sensor" sampleObserved [])
          (buildObservedTopology samplePlatform "tenant" "sensor" observed' portHints'))
      ∧ ∀ a ∈ (buildObservedTopology samplePlatform "tenant" "sensor" sampleObserved []).assets,
        FromOneTouch (topologyCalls samplePlatform sampleObserved []) a := by
  refine (classification_iff samplePlatform "tenant" "sensor" sampleObserved [] List.nodup_nil
    fun ip ip' _ _ => samplePlatform_injective.assetIdOf).mpr fun ip _ => ⟨?_, ?_, ?_⟩
  · rintro ⟨_, row, hrow, rfl⟩
    cases List.mem_singleton.mp hrow
    refine ⟨?_, ?_, ?_⟩
    · rintro ⟨row, hrow, _, _, client, hclient, hip⟩
      cases List.mem_singleton.mp hrow
      cases List.mem_singleton.mp hclient
      exact absurd hip (by decide)
    · rintro ⟨row, hrow, _⟩
      cases hrow
    · rintro (⟨_, _, hmem, _⟩ | ⟨_, hmem, _⟩ | ⟨_, hmem, _⟩)
      · cases hmem
      · cases hmem
      · cases hmem
  · rintro ⟨row, hrow, _⟩
    cases hrow
  · rintro type ⟨info, hmem, _⟩
    cases hmem

/-- A PLC that polls another PLC. -/
def relayingPlc : Observed where
  modbusServers := [{ serverIp := "10.0.0.1", allowedClients := ["10.0.0.2"] },
    { serverIp := "10.0.0.2", allowedClients := ["10.0.0.3"] }]

/-- A PLC that polls another PLC is a PLC or an HMI, as the rows happen to stand, and as an HMI
it is still at the level of a PLC. -/
theorem classification_of_relayingPlc :
    ¬ ((∀ observed' portHints', Reordered relayingPlc [] observed' portHints' →
        SameStandings (buildObservedTopology samplePlatform "tenant" "sensor" relayingPlc [])
          (buildObservedTopology samplePlatform "tenant" "sensor" observed' portHints'))
      ∧ ∀ a ∈ (buildObservedTopology samplePlatform "tenant" "sensor" relayingPlc []).assets,
        FromOneTouch (topologyCalls samplePlatform relayingPlc []) a) := by
  rintro ⟨hsame, _⟩
  have hreversed := hsame { modbusServers := relayingPlc.modbusServers.reverse } []
    ⟨List.reverse_perm _, .refl _, .refl _, .refl _⟩
  revert hreversed
  unfold SameStandings
  decide +kernel

end EdgeSensor.Sensor
