import EdgeSensor.Sensor.RollingWindow

/-!
# What a collector hands to the classifier

The classifier makes a sound snapshot of a block that lists nothing twice and has no white
space around its addresses (`CollectorShape`). Here is where such blocks come from: a
collector hands one over after any history of calls and for any window (`shape_collect`), if
the parsers print their addresses plainly.
-/

namespace EdgeSensor.Sensor

open EdgeSensor.Lib EdgeSensor.Py

/-- The call has no white space around the addresses of a Modbus flow or of a pair. -/
def Feed.Plain (call : Feed) : Prop :=
  (∀ sides ∈ call.server, strip sides.1 = sides.1 ∧ strip sides.2 = sides.2)
    ∧ ∀ pair ∈ call.pair, strip pair.1 = pair.1 ∧ strip pair.2 = pair.2

instance (call : Feed) : Decidable call.Plain := inferInstanceAs (Decidable (_ ∧ _))

namespace SiteCollector

variable (tenantId sensorId : String) {h : History Rat Feed} {cutoff : Option Rat}

/-! ## Nothing twice -/

theorem nodup_freshKeys {κ : Type} {stamps : Dict κ Rat} (hnodup : (stamps.map (·.1)).Nodup) :
    (freshKeys stamps cutoff).Nodup :=
  hnodup.sublist (List.filter_sublist.map _)

/-- The servers of a block are those of its records, each once. -/
theorem nodup_modbusServers {c : BaselineCollector}
    (hkeyed : Dict.Keyed ModbusObs.serverIp c.modbus) :
    ((c.modbusServers cutoff).map (·.serverIp)).Nodup := by
  have hkeys : (c.modbus.map (·.2)).map ModbusObs.serverIp = c.modbus.map (·.1) := by
    rw [List.map_map]
    exact List.map_congr_left hkeyed.own
  have hrecords : ((c.modbus.map (·.2)).map ModbusObs.serverIp).Nodup := by
    rw [hkeys]
    exact hkeyed.nodup
  unfold BaselineCollector.modbusServers
  rw [List.map_map]
  show (List.map ModbusObs.serverIp (List.mergeSort _ _)).Nodup
  rw [((List.mergeSort_perm _ _).map _).nodup_iff]
  exact hrecords.sublist (List.filter_sublist.map _)

/-! ## Plain text -/

/-- A server that has a record was told of. -/
theorem server_known (ip : String) : ((collect tenantId sensorId h).modbus.get? ip).isSome
    ↔ h.Ever fun call => call.server.map (·.1) = some ip := by
  refine History.foldl_ever (fun c : SiteCollector => (c.modbus.get? ip).isSome = true) ?_
    (fun c call => ?_) h
  · exact Bool.false_ne_true
  · have hfeed := congrArg Option.isSome (server_feed ip c call)
    rw [Option.isSome_map] at hfeed
    rw [hfeed]
    by_cases hserver : call.2.server.map (·.1) = some ip
    · simp [hserver]
    · simp [hserver]

/-- A pair that has a stamp was told of. -/
theorem pair_known (pair : String × String) :
    ((collect tenantId sensorId h).commPairs.get? pair).isSome
      ↔ h.Ever fun call => call.pair = some pair := by
  refine History.foldl_ever (fun c : SiteCollector => (c.commPairs.get? pair).isSome = true) ?_
    (fun c call => ?_) h
  · exact Bool.false_ne_true
  · rw [pair_feed]
    by_cases hpair : call.2.pair = some pair
    · simp [hpair]
    · simp [hpair]

variable (hplain : ∀ e ∈ h, e.2.Plain)
include hplain

theorem strip_server {ip : String}
    (hknown : ((collect tenantId sensorId h).modbus.get? ip).isSome) : strip ip = ip := by
  obtain ⟨e, hmem, hserver⟩ := (server_known tenantId sensorId ip).mp hknown
  obtain ⟨sides, hsides, rfl⟩ := Option.map_eq_some_iff.mp hserver
  exact ((hplain e hmem).1 sides hsides).1

theorem strip_serverClient {ip client : String}
    (hclient : client ∈ serverClients (collect tenantId sensorId h).toBaselineCollector ip) :
    strip client = client := by
  obtain ⟨e, hmem, hserver⟩ := (mem_serverClients tenantId sensorId ip client).mp hclient
  exact ((hplain e hmem).1 _ (Feed.serverClient_eq_some.mp hserver).1).2

theorem strip_pair {pair : String × String}
    (hknown : ((collect tenantId sensorId h).commPairs.get? pair).isSome) :
    strip pair.1 = pair.1 ∧ strip pair.2 = pair.2 := by
  obtain ⟨e, hmem, hpair⟩ := (pair_known tenantId sensorId pair).mp hknown
  exact (hplain e hmem).2 pair hpair

/-- The row of a server is that of its record. -/
theorem text_modbusServers {row : ModbusServer}
    (hrow : row ∈ (collect tenantId sensorId h).modbusServers cutoff) :
    strip row.serverIp = row.serverIp ∧ ∀ client ∈ row.allowedClients, strip client = client := by
  have hkeyed := (distinct_collect tenantId sensorId h).records.modbus
  unfold BaselineCollector.modbusServers at hrow
  obtain ⟨rec, hrec, rfl⟩ := List.mem_map.mp hrow
  have hget := hkeyed.get?_key (List.mem_filter.mp (List.mem_mergeSort.mp hrec)).1
  constructor
  · exact strip_server tenantId sensorId hplain (Option.isSome_iff_exists.mpr ⟨rec, hget⟩)
  · intro client hclient
    apply strip_serverClient tenantId sensorId hplain
    show client ∈ (((collect tenantId sensorId h).modbus.get? rec.serverIp).map (·.clients)).getD ∅
    rw [hget]
    exact (Finset.mem_sort _).mp hclient

/-! ## The shape -/

/-- A collector hands over what the classifier needs, at every moment and for every window. -/
theorem shape_collect (cutoff : Option Rat) :
    CollectorShape ((collect tenantId sensorId h).observedBlock cutoff)
      ((collect tenantId sensorId h).portHintIndex cutoff) := by
  have hdistinct := distinct_collect tenantId sensorId h
  refine ⟨nodup_modbusServers hdistinct.records.modbus, ?_, ?_, ?_, ?_, ?_, ?_, ?_, ?_⟩
  · intro row hrow
    obtain ⟨rec, _, rfl⟩ := List.mem_map.mp hrow
    exact Finset.sort_nodup _ _
  · show (List.mergeSort _ _).Nodup
    rw [(List.mergeSort_perm _ _).nodup_iff]
    exact nodup_freshKeys hdistinct.pairs
  · unfold portHintIndex
    rw [List.map_map]
    exact hdistinct.hints
  · intro entry hentry
    obtain ⟨kv, _, rfl⟩ := List.mem_map.mp hentry
    simp only [portHint]
    exact Finset.sort_nodup _ _
  · intro entry hentry
    obtain ⟨kv, _, rfl⟩ := List.mem_map.mp hentry
    simp only [portHint]
    exact Finset.sort_nodup _ _
  · exact fun row hrow => (text_modbusServers tenantId sensorId hplain hrow).1
  · exact fun row hrow => (text_modbusServers tenantId sensorId hplain hrow).2
  · intro pair hpair
    -- a pair that is listed has a stamp
    obtain ⟨kv, hkv, rfl⟩ := List.mem_map.mp (List.mem_mergeSort.mp hpair)
    refine strip_pair tenantId sensorId hplain (Option.isSome_iff_exists.mpr ⟨kv.2, ?_⟩)
    exact Dict.get?_of_mem hdistinct.pairs (List.mem_filter.mp hkv).1

end SiteCollector

end EdgeSensor.Sensor
