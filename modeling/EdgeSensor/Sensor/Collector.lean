import EdgeSensor.Lib.Dict
import EdgeSensor.Parser.Goose
import EdgeSensor.Parser.Mms
import EdgeSensor.Parser.Modbus
import EdgeSensor.Sensor.PolicyStores
import Mathlib.Data.Finset.Sort
import Mathlib.Data.String.Basic

/-!
# The baseline collector

`src/baseline/collector.py`: one record for every GOOSE publisher, IED and Modbus server
the traffic shows, and the candidate baseline made of them. Learning never alerts, and the
records keep identities rather than traffic: who publishes, who talks to which IED.

Mirroring notes:
- What the feeds for endpoints and transport flows collect goes to the topology, and no rule
  reads it; they are in `SiteCollector`. The statistics of a candidate are left out.
- `sorted` is a stable merge sort. Strings compare by code points in both languages.
- `time.monotonic()` is an argument of every feed.
-/

namespace EdgeSensor.Sensor

open EdgeSensor.Lib EdgeSensor.Parser EdgeSensor.Py

/-- `GOOSE_DEFAULT_SILENCE_SEC`. -/
def GOOSE_DEFAULT_SILENCE_SEC : Nat := 30

/-- `_GooseObs`. -/
structure GooseObs where
  publisherMac : String
  appid : Nat
  gocbRef : String
  goId : String := ""
  confRev : Int := 0
  frames : Nat := 0
  testFrames : Nat := 0
  productionFrames : Nat := 0
  stnumMin : Option Int := none
  stnumMax : Option Int := none
  lastSeen : Rat := 0
  deriving DecidableEq

/-- `_MmsObs`. -/
structure MmsObs where
  iedIp : String
  clients : Dict String Rat := []
  reads : Nat := 0
  writes : Nat := 0
  lastSeen : Rat := 0
  deriving DecidableEq

/-- `_ModbusObs`. -/
structure ModbusObs where
  serverIp : String
  units : Finset Nat := ∅
  functionCodes : Finset Nat := ∅
  clients : Finset String := ∅
  lastSeen : Rat := 0
  deriving DecidableEq

/-- `BaselineCollector`. -/
structure BaselineCollector where
  goose : Dict String GooseObs := []
  mms : Dict String MmsObs := []
  modbus : Dict String ModbusObs := []

/-- The key of a publisher. -/
def publisherKey (mac : String) (appid : Nat) (gocbRef : String) : String :=
  s!"{mac}|{appid}|{gocbRef}"

/-- The key a record belongs under. -/
def GooseObs.key (obs : GooseObs) : String := publisherKey obs.publisherMac obs.appid obs.gocbRef

/-- A publisher heard of for the first time. -/
def GooseObs.ofFrame (frame : Goose.GooseFrame) : GooseObs where
  publisherMac := frame.publisherMac
  appid := frame.appid
  gocbRef := frame.gocbRef
  goId := frame.goId
  confRev := frame.confRev

/-- What one more frame changes. -/
def GooseObs.count (now : Rat) (frame : Goose.GooseFrame) (obs : GooseObs) : GooseObs :=
  { obs with
    frames := obs.frames + 1
    testFrames := if frame.test then obs.testFrames + 1 else obs.testFrames
    productionFrames := if frame.test then obs.productionFrames else obs.productionFrames + 1
    stnumMin := some ((obs.stnumMin.map fun n => min n frame.stNum).getD frame.stNum)
    stnumMax := some ((obs.stnumMax.map fun n => max n frame.stNum).getD frame.stNum)
    goId := if frame.goId ≠ "" ∧ obs.goId = "" then frame.goId else obs.goId
    lastSeen := now }

/-- What one more observation of an IED changes. -/
def MmsObs.count (now : Rat) (clientIp : String) (pduType : Mms.PduType) (rec : MmsObs) : MmsObs :=
  { rec with
    clients := if clientIp ≠ "" then rec.clients.set clientIp now else rec.clients
    reads := if pduType = .read then rec.reads + 1 else rec.reads
    writes := if pduType = .write then rec.writes + 1 else rec.writes
    lastSeen := now }

/-- What one more frame of a Modbus server changes. -/
def ModbusObs.count (now : Rat) (clientIp : String) (frame : Modbus.ModbusFrame)
    (rec : ModbusObs) : ModbusObs :=
  { rec with
    units := insert frame.unitId rec.units
    functionCodes := insert frame.functionCode rec.functionCodes
    clients := if clientIp ≠ "" then insert clientIp rec.clients else rec.clients
    lastSeen := now }

/-- `i` in `f"{i:02d}"`. -/
def pad2 (i : Nat) : String :=
  String.ofList (List.replicate (2 - (toString i).length) '0') ++ toString i

/-- `_fresh`. -/
def fresh (lastSeen : Rat) (cutoff : Option Rat) : Prop := ∀ limit ∈ cutoff, limit ≤ lastSeen

instance (lastSeen : Rat) (cutoff : Option Rat) : Decidable (fresh lastSeen cutoff) :=
  inferInstanceAs (Decidable (∀ limit ∈ cutoff, limit ≤ lastSeen))

theorem fresh_none (lastSeen : Rat) : fresh lastSeen none := fun _ h => by cases h

theorem fresh_some {lastSeen limit : Rat} : fresh lastSeen (some limit) ↔ limit ≤ lastSeen := by
  constructor
  · intro h
    exact h limit rfl
  · intro h limit' heq
    cases heq
    exact h

namespace BaselineCollector

/-- `feed_goose`. -/
def feedGoose (now : Rat) (frame : Goose.GooseFrame) (c : BaselineCollector) : BaselineCollector :=
  let key := publisherKey frame.publisherMac frame.appid frame.gocbRef
  { c with goose := c.goose.upsert key (.ofFrame frame) (.count now frame) }

/-- The rest of `feed_mms`, once it is clear which endpoint is the IED. -/
def recordMms (now : Rat) (iedIp clientIp : String) (pduType : Mms.PduType)
    (c : BaselineCollector) : BaselineCollector :=
  { c with mms := c.mms.upsert iedIp { iedIp := iedIp } (.count now clientIp pduType) }

/-- `feed_mms`: the IED is the endpoint on port 102, the peer its client. -/
def feedMms (now : Rat) (obs : Mms.MmsObservation) (c : BaselineCollector) : BaselineCollector :=
  if obs.dstPort = Mms.MMS_PORT then c.recordMms now obs.dstIp obs.srcIp obs.pduType
  else if obs.srcPort = Mms.MMS_PORT then c.recordMms now obs.srcIp obs.dstIp obs.pduType
  else c

/-- `feed_modbus`. -/
def feedModbus (now : Rat) (frame : Modbus.ModbusFrame) (c : BaselineCollector) :
    BaselineCollector :=
  let record (serverIp clientIp : String) : BaselineCollector :=
    let count := ModbusObs.count now clientIp frame
    { c with modbus := c.modbus.upsert serverIp { serverIp := serverIp } count }
  if frame.dstPort = Modbus.MODBUS_PORT then record frame.dstIp frame.srcIp
  else if frame.srcPort = Modbus.MODBUS_PORT then record frame.srcIp frame.dstIp
  else c

/-- The order of `goose_publishers`: `(o.appid, o.publisher_mac)`. -/
def gooseLe (a b : GooseObs) : Bool :=
  a.appid < b.appid || (a.appid = b.appid && a.publisherMac ≤ b.publisherMac)

/-- The entry of a publisher, the `i`-th. -/
def publisherEntry (i : Nat) (obs : GooseObs) : GoosePublisher where
  assetId := s!"learned-goose-{pad2 i}"
  publisherMac := obs.publisherMac
  appid := obs.appid
  gocbRef := obs.gocbRef
  goId := some obs.goId
  confRev := some obs.confRev
  production := 0 < obs.productionFrames || obs.testFrames = 0
  maxSilenceSec := some GOOSE_DEFAULT_SILENCE_SEC
  observedFrames := some obs.frames

/-- `goose_publishers`. -/
def goosePublishers (c : BaselineCollector) (cutoff : Option Rat) : List GoosePublisher :=
  let items := (c.goose.map (·.2)).filter fun obs => fresh obs.lastSeen cutoff
  (items.mergeSort gooseLe).mapIdx fun i obs => publisherEntry (i + 1) obs

/-- The entry of an IED, the `i`-th. -/
def iedEntry (cutoff : Option Rat) (i : Nat) (rec : MmsObs) : MmsIed where
  assetId := some s!"learned-ied-{pad2 i}"
  iedIp := some rec.iedIp
  allowedMmsClients :=
    ((rec.clients.filter fun client => fresh client.2 cutoff).map (·.1)).mergeSort (· ≤ ·)
  observedReads := some rec.reads
  observedWrites := some rec.writes

/-- `mms_ieds`. -/
def mmsIeds (c : BaselineCollector) (cutoff : Option Rat) : List MmsIed :=
  let items := (c.mms.map (·.2)).filter fun rec => fresh rec.lastSeen cutoff
  (items.mergeSort fun a b => a.iedIp ≤ b.iedIp).mapIdx fun i rec => iedEntry cutoff (i + 1) rec

-- the laws of the order that a set of strings is sorted by
instance : IsTrans String (· ≤ ·) := inferInstance
instance : Std.Antisymm fun a b : String => a ≤ b := inferInstance

/-- The entry of a Modbus server. -/
def serverEntry (rec : ModbusObs) : ModbusServer where
  serverIp := rec.serverIp
  unitIds := rec.units.sort (· ≤ ·)
  functionCodes := rec.functionCodes.sort (· ≤ ·)
  allowedClients := rec.clients.sort (· ≤ ·)

/-- `modbus_servers`. -/
def modbusServers (c : BaselineCollector) (cutoff : Option Rat) : List ModbusServer :=
  let items := (c.modbus.map (·.2)).filter fun rec => fresh rec.lastSeen cutoff
  (items.mergeSort fun a b => a.serverIp ≤ b.serverIp).map serverEntry

end BaselineCollector

/-- A candidate baseline, `sensel.baseline/1`. -/
structure Candidate where
  generatedAt : String
  source : String
  sourceRef : String
  windowSec : Option Rat
  observed : Observed
  deriving DecidableEq

/-- What the caller of `to_candidate` chooses. -/
structure CandidateArgs where
  source : String := "pcap_import"
  sourceRef : String := ""
  windowSec : Option Rat := none

/-- `to_candidate`. A window of zero is none. -/
def BaselineCollector.toCandidate (c : BaselineCollector) (now : Rat) (generatedAt : String)
    (args : CandidateArgs) : Candidate :=
  let cutoff := (args.windowSec.filter (· ≠ 0)).map fun windowSec => now - windowSec
  { generatedAt := generatedAt
    source := args.source
    sourceRef := args.sourceRef
    windowSec := args.windowSec
    observed := {
      goosePublishers := c.goosePublishers cutoff
      mmsIeds := c.mmsIeds cutoff
      modbusServers := c.modbusServers cutoff } }

/-! ## What is learned stays -/

namespace BaselineCollector

/-- Every record is stored under its own key. -/
structure Ok (c : BaselineCollector) : Prop where
  goose : Dict.Keyed GooseObs.key c.goose
  mms : Dict.Keyed MmsObs.iedIp c.mms
  modbus : Dict.Keyed ModbusObs.serverIp c.modbus

theorem ok_new : Ok {} := ⟨.nil, .nil, .nil⟩

variable {c : BaselineCollector}

theorem Ok.feedGoose (h : c.Ok) (now : Rat) (frame : Goose.GooseFrame) :
    (c.feedGoose now frame).Ok :=
  ⟨h.goose.upsert rfl fun _ hkey => hkey, h.mms, h.modbus⟩

theorem Ok.recordMms (h : c.Ok) (now : Rat) (iedIp clientIp : String) (pduType : Mms.PduType) :
    (c.recordMms now iedIp clientIp pduType).Ok :=
  ⟨h.goose, h.mms.upsert rfl fun _ hkey => hkey, h.modbus⟩

theorem Ok.feedMms (h : c.Ok) (now : Rat) (obs : Mms.MmsObservation) : (c.feedMms now obs).Ok := by
  unfold BaselineCollector.feedMms
  split
  · exact h.recordMms _ _ _ _
  · split
    · exact h.recordMms _ _ _ _
    · exact h

theorem Ok.feedModbus (h : c.Ok) (now : Rat) (frame : Modbus.ModbusFrame) :
    (c.feedModbus now frame).Ok := by
  unfold BaselineCollector.feedModbus
  simp only
  split
  · exact ⟨h.goose, h.mms, h.modbus.upsert rfl fun _ hkey => hkey⟩
  · split
    · exact ⟨h.goose, h.mms, h.modbus.upsert rfl fun _ hkey => hkey⟩
    · exact h

/-! A key tells the publisher, as long as the separator is not in the address. -/

theorem publisherKey_toList (mac : String) (appid : Nat) (gocbRef : String) :
    (publisherKey mac appid gocbRef).toList
      = mac.toList ++ '|' :: (Nat.toDigits 10 appid ++ '|' :: gocbRef.toList) := by
  unfold publisherKey
  simp only [String.toList_append, List.append_assoc]
  show mac.toList ++ ('|' :: ((Nat.repr appid).toList ++ ('|' :: gocbRef.toList))) = _
  rw [Nat.repr, String.toList_ofList]

theorem publisherKey_inj {mac mac' : String} {appid appid' : Nat} {gocbRef gocbRef' : String}
    (h : '|' ∉ mac.toList) (h' : '|' ∉ mac'.toList)
    (heq : publisherKey mac appid gocbRef = publisherKey mac' appid' gocbRef') :
    mac = mac' ∧ appid = appid' ∧ gocbRef = gocbRef' := by
  have hdigits : ∀ n : Nat, '|' ∉ Nat.toDigits 10 n := fun n => not_mem_toDigits n (by decide)
  have hlists := congrArg String.toList heq
  rw [publisherKey_toList, publisherKey_toList] at hlists
  obtain ⟨hmac, hrest⟩ := append_separator_inj h h' hlists
  obtain ⟨happid, hgocb⟩ := append_separator_inj (hdigits appid) (hdigits appid') hrest
  refine ⟨String.toList_inj.mp hmac, ?_, String.toList_inj.mp hgocb⟩
  rw [← @Nat.ofDigitChars_ten_toDigits appid, happid, Nat.ofDigitChars_ten_toDigits]

/-- The records of publishers all bear a plain MAC: the separator of the keys is not in it. -/
def PlainMacs (c : BaselineCollector) : Prop :=
  ∀ kv ∈ c.goose, '|' ∉ kv.2.publisherMac.toList

/-- The collector has a record under the key. -/
def HasPublisher (c : BaselineCollector) (key : String) : Prop := (c.goose.get? key).isSome

/-- The collector has the client among those of the IED. -/
def HasClient (c : BaselineCollector) (client ied : String) : Prop :=
  ∃ rec, c.mms.get? ied = some rec ∧ (rec.clients.get? client).isSome

/-- A frame adds its own publisher. -/
theorem hasPublisher_feedGoose (now : Rat) (frame : Goose.GooseFrame) (key : String) :
    (c.feedGoose now frame).HasPublisher key
      ↔ publisherKey frame.publisherMac frame.appid frame.gocbRef = key ∨ c.HasPublisher key := by
  unfold HasPublisher BaselineCollector.feedGoose
  simp only [Dict.get?_upsert]
  split
  next hkey => exact iff_of_true rfl (.inl hkey)
  next hkey => exact ⟨.inr, fun h => h.resolve_left hkey⟩

theorem PlainMacs.feedGoose (h : c.PlainMacs) (now : Rat) {frame : Goose.GooseFrame}
    (hplain : '|' ∉ frame.publisherMac.toList) : (c.feedGoose now frame).PlainMacs := by
  intro kv hkv
  rcases Dict.mem_set hkv with rfl | hkv
  · show '|' ∉ ((c.goose.get? _).getD (GooseObs.ofFrame frame)).publisherMac.toList
    cases hget : c.goose.get? (publisherKey frame.publisherMac frame.appid frame.gocbRef) with
    | none => exact hplain
    | some obs => exact h _ (Dict.mem_of_get? hget)
  · exact h kv hkv

/-- An observation adds its own pair. -/
theorem hasClient_recordMms (now : Rat) (iedIp clientIp : String) (pduType : Mms.PduType)
    (client ied : String) :
    (c.recordMms now iedIp clientIp pduType).HasClient client ied
      ↔ (iedIp = ied ∧ clientIp = client ∧ client ≠ "") ∨ c.HasClient client ied := by
  unfold HasClient BaselineCollector.recordMms
  simp only [Dict.get?_upsert]
  by_cases hied : iedIp = ied
  · subst hied
    simp only [if_true, Option.some.injEq, exists_eq_left', true_and]
    -- the clients of the record before, none if it is new
    have hbefore : (((c.mms.get? iedIp).getD { iedIp := iedIp }).clients.get? client).isSome
        ↔ ∃ rec, c.mms.get? iedIp = some rec ∧ (rec.clients.get? client).isSome := by
      cases c.mms.get? iedIp with
      | none => simp [Dict.get?_nil]
      | some rec => simp
    unfold MmsObs.count
    simp only
    split
    next hne =>
      rw [Dict.get?_set]
      split
      next hclient => exact iff_of_true rfl (.inl ⟨hclient, hclient ▸ hne⟩)
      next hclient => rw [hbefore]; exact ⟨.inr, fun h => h.resolve_left fun h => hclient h.1⟩
    next hempty =>
      rw [hbefore]
      exact ⟨.inr, fun h => h.resolve_left fun h => hempty (h.1 ▸ h.2)⟩
  · rw [if_neg hied]
    exact ⟨.inr, fun h => h.resolve_left fun h => hied h.1⟩

/-! ## What is learned is written -/

/-- Every record that is fresh has its entry. -/
theorem exists_publisherEntry {cutoff : Option Rat} {key : String} {obs : GooseObs}
    (hobs : c.goose.get? key = some obs) (hfresh : fresh obs.lastSeen cutoff) :
    ∃ i, publisherEntry i obs ∈ c.goosePublishers cutoff := by
  have hrecord : obs ∈ c.goose.map (·.2) := List.mem_map.mpr ⟨_, Dict.mem_of_get? hobs, rfl⟩
  have hmem : obs ∈ ((c.goose.map (·.2)).filter
      fun obs => fresh obs.lastSeen cutoff).mergeSort gooseLe :=
    List.mem_mergeSort.mpr (List.mem_filter.mpr ⟨hrecord, decide_eq_true hfresh⟩)
  obtain ⟨i, hi, rfl⟩ := List.getElem_of_mem hmem
  exact ⟨i + 1, List.mem_mapIdx.mpr ⟨i, hi, rfl⟩⟩

/-- Every entry of a publisher is that of a record. -/
theorem mem_goosePublishers {cutoff : Option Rat} {entry : GoosePublisher}
    (h : entry ∈ c.goosePublishers cutoff) :
    ∃ i, ∃ obs ∈ c.goose.map (·.2), fresh obs.lastSeen cutoff ∧ publisherEntry i obs = entry := by
  obtain ⟨i, hi, rfl⟩ := List.mem_mapIdx.mp h
  have hmem := List.mem_mergeSort.mp (List.getElem_mem hi)
  obtain ⟨hobs, hfresh⟩ := List.mem_filter.mp hmem
  exact ⟨i + 1, _, hobs, of_decide_eq_true hfresh, rfl⟩

/-- Every entry of an IED is that of a record. -/
theorem mem_mmsIeds {cutoff : Option Rat} {entry : MmsIed} (h : entry ∈ c.mmsIeds cutoff) :
    ∃ i, ∃ rec ∈ c.mms.map (·.2), fresh rec.lastSeen cutoff ∧ iedEntry cutoff i rec = entry := by
  obtain ⟨i, hi, rfl⟩ := List.mem_mapIdx.mp h
  have hmem := List.mem_mergeSort.mp (List.getElem_mem hi)
  obtain ⟨hrec, hfresh⟩ := List.mem_filter.mp hmem
  exact ⟨i + 1, _, hrec, of_decide_eq_true hfresh, rfl⟩

theorem exists_iedEntry {cutoff : Option Rat} {ip : String} {rec : MmsObs}
    (hrec : c.mms.get? ip = some rec) (hfresh : fresh rec.lastSeen cutoff) :
    ∃ i, iedEntry cutoff i rec ∈ c.mmsIeds cutoff := by
  have hrecord : rec ∈ c.mms.map (·.2) := List.mem_map.mpr ⟨_, Dict.mem_of_get? hrec, rfl⟩
  have hmem : rec ∈ ((c.mms.map (·.2)).filter fun rec => fresh rec.lastSeen cutoff).mergeSort
      fun a b => a.iedIp ≤ b.iedIp :=
    List.mem_mergeSort.mpr (List.mem_filter.mpr ⟨hrecord, decide_eq_true hfresh⟩)
  obtain ⟨i, hi, rfl⟩ := List.getElem_of_mem hmem
  exact ⟨i + 1, List.mem_mapIdx.mpr ⟨i, hi, rfl⟩⟩

/-- Without a window every client of an IED is in its entry. -/
theorem mem_allowedMmsClients {rec : MmsObs} {client : String} {i : Nat}
    (h : (rec.clients.get? client).isSome) : client ∈ (iedEntry none i rec).allowedMmsClients := by
  obtain ⟨seen, hseen⟩ := Option.isSome_iff_exists.mp h
  refine List.mem_mergeSort.mpr (List.mem_map.mpr ⟨(client, seen), ?_, rfl⟩)
  exact List.mem_filter.mpr ⟨Dict.mem_of_get? hseen, decide_eq_true (fresh_none seen)⟩

end BaselineCollector

end EdgeSensor.Sensor
