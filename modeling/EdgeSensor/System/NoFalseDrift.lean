import EdgeSensor.Console.Drift
import EdgeSensor.Sensor.LivePipeline
import EdgeSensor.Sensor.RollingWindow

/-!
# When live traffic drifts from its baseline

The sensor writes what its collector saw within the window, the console compares it with the
baseline in force. Traffic that is exactly the baseline should not drift. But the collector
is fed in learning mode only, and a baseline is enforced in detection mode: what the live
file has of such a window is what was learned in it. So the report counts zero exactly when
all the window showed was also learned in it, and the frames learned before do not say
otherwise (`no_false_drift_iff`); in a window that only detects, everything is reported as
removed.
-/

namespace EdgeSensor.System

open EdgeSensor.Lib EdgeSensor.Lib.KeyedDiff EdgeSensor.Parser EdgeSensor.Py EdgeSensor.Sensor
  EdgeSensor.Console

/-! ## What a collector keeps of a publisher -/

/-- The frame of a call, if it is one of this publisher. -/
def frameOf (key : String) : Feed → Option Goose.GooseFrame
  | .goose frame =>
    if publisherKey frame.publisherMac frame.appid frame.gocbRef = key then some frame else none
  | _ => none

/-- A frame of this publisher that is no test. -/
def ProducesAs (key : String) (call : Feed) : Prop := ∃ frame ∈ frameOf key call, frame.test = false

/-- A test frame of this publisher. -/
def TestsAs (key : String) (call : Feed) : Prop := ∃ frame ∈ frameOf key call, frame.test = true

/-- The revision in a frame of this publisher. -/
def revOf (key : String) (call : Feed) : Option Int := (frameOf key call).map (·.confRev)

instance (key : String) : DecidablePred (ProducesAs key) :=
  fun call => inferInstanceAs (Decidable (∃ frame ∈ frameOf key call, _))

theorem frameOf_isSome {key : String} {call : Feed} :
    (frameOf key call).isSome ↔ call.publisher = some key := by
  cases call with
  | goose frame =>
    unfold frameOf Feed.publisher
    simp only [Option.some.injEq]
    split
    next h => exact iff_of_true rfl h
    next h => exact iff_of_false Bool.false_ne_true h
  | endpoints | mms | modbus | transport =>
    exact iff_of_false Bool.false_ne_true fun h => by cases h

/-- The record of a publisher after one more call. -/
theorem get?_goose_feed (key : String) (c : SiteCollector) (call : Rat × Feed) :
    (c.feed call).goose.get? key = match frameOf key call.2 with
      | none => c.goose.get? key
      | some frame =>
        some (((c.goose.get? key).getD (GooseObs.ofFrame frame)).count call.1 frame) := by
  rw [SiteCollector.goose_feed]
  obtain ⟨now, call⟩ := call
  cases call with
  | goose frame =>
    unfold BaselineCollector.feedGoose frameOf
    simp only [Dict.get?_upsert]
    -- the frame of another publisher leaves this record alone
    by_cases hkey : publisherKey frame.publisherMac frame.appid frame.gocbRef = key
    · subst hkey
      rw [if_pos rfl, if_pos rfl]
    · rw [if_neg hkey, if_neg hkey]
  | endpoints | mms | modbus | transport => rfl

section Records

variable (tenantId sensorId : String) (key : String) (h : History Rat Feed)

theorem known_iff :
    ((SiteCollector.collect tenantId sensorId h).goose.get? key).isSome
      ↔ h.Ever fun call => call.publisher = some key := by
  refine History.foldl_ever (fun c : SiteCollector => (c.goose.get? key).isSome = true) ?_
    (fun c call => ?_) h
  · exact Bool.false_ne_true
  · rw [← frameOf_isSome, get?_goose_feed]
    cases frameOf key call.2 with
    | none => simp
    | some frame => simp

/-- A counter that the frames with one value of the test flag move is above zero once such a
frame was learned. -/
theorem frames_iff (flag : Bool) (frames : GooseObs → Nat)
    (hnew : ∀ frame, frames (.ofFrame frame) = 0)
    (hcount : ∀ now frame obs, frames (GooseObs.count now frame obs)
      = frames obs + if frame.test = flag then 1 else 0) :
    (∃ obs, (SiteCollector.collect tenantId sensorId h).goose.get? key = some obs
        ∧ 0 < frames obs)
      ↔ h.Ever fun call => ∃ frame ∈ frameOf key call, frame.test = flag := by
  refine History.foldl_ever (fun c : SiteCollector => ∃ obs, c.goose.get? key = some obs
    ∧ 0 < frames obs) ?_ (fun c call => ?_) h
  · rintro ⟨obs, hobs, _⟩
    cases hobs
  · simp only [get?_goose_feed]
    cases frameOf key call.2 with
    | none => simp
    | some frame =>
      simp only [Option.some.injEq, exists_eq_left', hcount, Option.mem_def]
      by_cases hflag : frame.test = flag
      · simp [hflag]
      · cases hget : c.goose.get? key with
        | none => simp [hflag, hnew]
        | some obs => simp [hflag]

theorem productionFrames_iff :
    (∃ obs, (SiteCollector.collect tenantId sensorId h).goose.get? key = some obs
        ∧ 0 < obs.productionFrames)
      ↔ h.Ever (ProducesAs key) := by
  refine frames_iff tenantId sensorId key h false (·.productionFrames) (fun frame => rfl) ?_
  intro now frame obs
  unfold GooseObs.count
  cases frame.test with
  | false => rfl
  | true => rfl

theorem testFrames_iff :
    (∃ obs, (SiteCollector.collect tenantId sensorId h).goose.get? key = some obs
        ∧ 0 < obs.testFrames)
      ↔ h.Ever (TestsAs key) := by
  refine frames_iff tenantId sensorId key h true (·.testFrames) (fun frame => rfl) ?_
  intro now frame obs
  unfold GooseObs.count
  cases frame.test with
  | false => rfl
  | true => rfl

/-- The revision a publisher was first heard with. -/
def firstRev (key : String) (h : History Rat Feed) : Option Int :=
  h.findSome? fun e => revOf key e.2

/-- A field that the first frame of a publisher sets for good. -/
theorem firstFrame_eq {β : Type} (field : GooseObs → β) (own : Goose.GooseFrame → β)
    (hnew : ∀ now frame, field (GooseObs.count now frame (.ofFrame frame)) = own frame)
    (hcount : ∀ now frame obs, field (GooseObs.count now frame obs) = field obs) :
    ((SiteCollector.collect tenantId sensorId h).goose.get? key).map field
      = h.findSome? fun e => (frameOf key e.2).map own := by
  refine History.foldl_first (fun c : SiteCollector => (c.goose.get? key).map field)
    (fun call => (frameOf key call).map own) ?_ (fun c call => ?_) h
  · rfl
  · simp only [get?_goose_feed]
    cases frameOf key call.2 with
    | none => simp
    | some frame =>
      cases c.goose.get? key with
      | none => exact congrArg some (hnew call.1 frame)
      | some obs => exact congrArg some (hcount call.1 frame obs)

theorem confRev_eq :
    ((SiteCollector.collect tenantId sensorId h).goose.get? key).map (·.confRev)
      = firstRev key h :=
  firstFrame_eq tenantId sensorId key h (·.confRev) (·.confRev) (fun _ _ => rfl) fun _ _ _ => rfl

theorem publisherMac_eq :
    ((SiteCollector.collect tenantId sensorId h).goose.get? key).map (·.publisherMac)
      = h.findSome? fun e => (frameOf key e.2).map (·.publisherMac) :=
  firstFrame_eq tenantId sensorId key h (·.publisherMac) (·.publisherMac) (fun _ _ => rfl)
    fun _ _ _ => rfl

variable {tenantId sensorId key h}

/-- The entry of a publisher says that it is in production if a frame that is no test was
ever learned of it. -/
theorem production_entry {obs : GooseObs} {i : Nat}
    (hobs : (SiteCollector.collect tenantId sensorId h).goose.get? key = some obs) :
    (BaselineCollector.publisherEntry i obs).production = true ↔ h.Ever (ProducesAs key) := by
  have hproduction := productionFrames_iff tenantId sensorId key h
  have htest := testFrames_iff tenantId sensorId key h
  simp only [hobs, Option.some.injEq, exists_eq_left'] at hproduction htest
  -- a publisher without production frames has a test frame
  have hframe : h.Ever (ProducesAs key) ∨ h.Ever (TestsAs key) := by
    obtain ⟨e, hmem, hpublisher⟩ := (known_iff tenantId sensorId key h).mp
      (Option.isSome_iff_exists.mpr ⟨obs, hobs⟩)
    obtain ⟨frame, hframe⟩ := Option.isSome_iff_exists.mp (frameOf_isSome.mpr hpublisher)
    cases hflag : frame.test with
    | false => exact .inl ⟨e, hmem, frame, hframe, hflag⟩
    | true => exact .inr ⟨e, hmem, frame, hframe, hflag⟩
  unfold BaselineCollector.publisherEntry
  simp only [Bool.or_eq_true, decide_eq_true_eq, hproduction]
  constructor
  · rintro (hever | hzero)
    · exact hever
    · refine hframe.resolve_right fun htests => ?_
      have hpos := htest.mpr htests
      omega
  · exact .inl

theorem confRev_entry {obs : GooseObs} {i : Nat}
    (hobs : (SiteCollector.collect tenantId sensorId h).goose.get? key = some obs) :
    (BaselineCollector.publisherEntry i obs).confRev = firstRev key h := by
  rw [← confRev_eq tenantId sensorId, hobs]
  rfl

end Records

/-! ## Agreement of the live block -/

/-- Every MAC is printed in lower case, as the capture library does. -/
def LowerMacs (h : History Rat Feed) : Prop :=
  ∀ e ∈ h, ∀ frame, e.2 = .goose frame → lower frame.publisherMac = frame.publisherMac

section Agree

variable {tenantId sensorId : String} {h : History Rat Feed} {limit : Rat}

/-- The console's key of an entry is that of its record. -/
theorem gooseKey_publisherEntry {obs : GooseObs} (i : Nat)
    (hlower : lower obs.publisherMac = obs.publisherMac) :
    gooseKey (BaselineCollector.publisherEntry i obs) = obs.key := by
  unfold gooseKey GooseObs.key publisherKey
  show s!"{lower obs.publisherMac}|{(obs.appid : Int)}|{obs.gocbRef}" = _
  rw [hlower]
  rfl

theorem frame_of_frameOf {key : String} {call : Feed} {frame : Goose.GooseFrame}
    (hframe : frameOf key call = some frame) : call = .goose frame := by
  cases call with
  | goose frame' =>
    simp only [frameOf] at hframe
    split at hframe
    next => rw [Option.some.inj hframe]
    next => cases hframe
  | endpoints | mms | modbus | transport => cases hframe

theorem lower_publisherMac {key : String} {obs : GooseObs} (hlower : LowerMacs h)
    (hobs : (SiteCollector.collect tenantId sensorId h).goose.get? key = some obs) :
    lower obs.publisherMac = obs.publisherMac := by
  have hmac := publisherMac_eq tenantId sensorId key h
  rw [hobs] at hmac
  obtain ⟨e, hmem, hfirst⟩ := List.exists_of_findSome?_eq_some hmac.symm
  obtain ⟨frame, hframe, heq⟩ := Option.map_eq_some_iff.mp hfirst
  have hsame : frame.publisherMac = obs.publisherMac := heq
  rw [← hsame]
  exact hlower e hmem frame (frame_of_frameOf hframe)

/-- The live publishers are those of the window. -/
theorem mem_livePublishers (tenantId sensorId : String) (hchron : h.Chronological)
    (hlower : LowerMacs h) {key : String} :
    (∃ entry ∈ (SiteCollector.collect tenantId sensorId h).goosePublishers (some limit),
        gooseKey entry = key)
      ↔ (h.since limit).Ever fun call => call.publisher = some key := by
  have hkeyed := (SiteCollector.distinct_collect tenantId sensorId h).records.goose
  rw [← SiteCollector.publisher_fresh tenantId sensorId hchron]
  constructor
  · rintro ⟨entry, hentry, rfl⟩
    obtain ⟨i, obs, hobs, hfresh, rfl⟩ := BaselineCollector.mem_goosePublishers hentry
    have hget := hkeyed.get?_key hobs
    rw [gooseKey_publisherEntry i (lower_publisherMac hlower hget)]
    exact ⟨obs, hget, fresh_some.mp hfresh⟩
  · rintro ⟨obs, hobs, hfresh⟩
    obtain ⟨i, hi⟩ := BaselineCollector.exists_publisherEntry hobs (fresh_some.mpr hfresh)
    refine ⟨_, hi, ?_⟩
    rw [gooseKey_publisherEntry i (lower_publisherMac hlower hobs)]
    exact hkeyed.key_of_get? hobs

/-- The live entry of a publisher, by what was learned of it. -/
theorem livePublisher_of_get? (hlower : LowerMacs h) {cutoff : Option Rat} {key : String}
    {entry : GoosePublisher}
    (hentry : (byKey gooseKey
      ((SiteCollector.collect tenantId sensorId h).goosePublishers cutoff)).get? key
        = some entry) :
    (entry.production = true ↔ h.Ever (ProducesAs key)) ∧ entry.confRev = firstRev key h
      ∧ entry.confRev ≠ none := by
  have hkeyed := (SiteCollector.distinct_collect tenantId sensorId h).records.goose
  obtain ⟨hmem, hkey⟩ := mem_of_get?_byKey hentry
  obtain ⟨i, obs, hobs, _, rfl⟩ := BaselineCollector.mem_goosePublishers hmem
  have hget := hkeyed.get?_key hobs
  rw [gooseKey_publisherEntry i (lower_publisherMac hlower hget)] at hkey
  rw [hkey] at hget
  exact ⟨production_entry hget, confRev_entry hget, fun hnone => by cases hnone⟩

theorem goose_agrees_iff (hchron : h.Chronological) (hlower : LowerMacs h)
    {entries : List GoosePublisher} :
    Agrees gooseKey gooseChange entries
        ((SiteCollector.collect tenantId sensorId h).goosePublishers (some limit))
      ↔ (∀ key, (∃ entry ∈ entries, gooseKey entry = key)
          ↔ (h.since limit).Ever fun call => call.publisher = some key)
        ∧ ∀ key entry, (byKey gooseKey entries).get? key = some entry →
          ((h.since limit).Ever fun call => call.publisher = some key) →
          (entry.production = true ↔ h.Ever (ProducesAs key)) ∧ entry.confRev = firstRev key h := by
  constructor
  · intro hagrees
    constructor
    · intro key
      exact (hagrees.keys key).trans (mem_livePublishers tenantId sensorId hchron hlower)
    · intro key entry hentry hknown
      obtain ⟨live, hlive⟩ := Option.isSome_iff_exists.mp (get?_byKey_isSome.mpr
        ((mem_livePublishers tenantId sensorId hchron hlower).mpr hknown))
      obtain ⟨hproduction, hrev, hne⟩ := livePublisher_of_get? hlower hlive
      obtain ⟨hsame, hrev'⟩ := gooseChange_eq_none.mp (hagrees.entries key entry live hentry hlive)
      -- the collector always writes a revision, so the two are equal
      rw [hsame, hproduction, hrev'.resolve_left hne, hrev]
      exact ⟨Iff.rfl, rfl⟩
  · rintro ⟨hkeys, hentries⟩
    constructor
    · intro key
      exact (hkeys key).trans (mem_livePublishers tenantId sensorId hchron hlower).symm
    · intro key entry live hentry hlive
      obtain ⟨hproduction, hrev, _⟩ := livePublisher_of_get? hlower hlive
      have hknown := (mem_livePublishers tenantId sensorId hchron hlower).mp
        (get?_byKey_isSome.mp (Option.isSome_iff_exists.mpr ⟨live, hlive⟩))
      obtain ⟨hproduction', hrev'⟩ := hentries key entry hentry hknown
      refine gooseChange_eq_none.mpr ⟨?_, .inr ?_⟩
      · exact Bool.eq_iff_iff.mpr (hproduction'.trans hproduction.symm)
      · rw [hrev', hrev]

/-- The live IEDs are those of the window. -/
theorem mem_liveIeds (tenantId sensorId : String) (hchron : h.Chronological)
    {ip : Option String} :
    (∃ entry ∈ (SiteCollector.collect tenantId sensorId h).mmsIeds (some limit), entry.iedIp = ip)
      ↔ ∃ own, ip = some own ∧ (h.since limit).Ever fun call => call.ied.map (·.1) = some own := by
  have hkeyed := (SiteCollector.distinct_collect tenantId sensorId h).records.mms
  simp only [← SiteCollector.ied_fresh tenantId sensorId hchron]
  constructor
  · rintro ⟨entry, hentry, rfl⟩
    obtain ⟨i, rec, hrec, hfresh, rfl⟩ := BaselineCollector.mem_mmsIeds hentry
    exact ⟨rec.iedIp, rfl, rec, hkeyed.get?_key hrec, fresh_some.mp hfresh⟩
  · rintro ⟨own, rfl, rec, hrec, hfresh⟩
    obtain ⟨i, hi⟩ := BaselineCollector.exists_iedEntry hrec (fresh_some.mpr hfresh)
    exact ⟨_, hi, congrArg some (hkeyed.key_of_get? hrec)⟩

/-- The clients of a live IED are those of the window. -/
theorem mem_liveClients (hchron : h.Chronological) {entry : MmsIed} {own client : String}
    (hentry : entry ∈ (SiteCollector.collect tenantId sensorId h).mmsIeds (some limit))
    (hown : entry.iedIp = some own) :
    client ∈ entry.allowedMmsClients
      ↔ (h.since limit).Ever fun call => call.iedClient = some (own, client) := by
  have hmem : (entry.iedIp, entry.allowedMmsClients.toFinset)
      ∈ ((SiteCollector.collect tenantId sensorId h).observedBlock (some limit)).identities.ieds :=
    List.mem_toFinset.mpr (List.mem_map.mpr ⟨entry, hentry, rfl⟩)
  obtain ⟨own', hown', _, hclients⟩ := (SiteCollector.mem_ieds tenantId sensorId hchron).mp hmem
  rw [hown, Option.some.injEq] at hown'
  subst hown'
  rw [← List.mem_toFinset, hclients, SiteCollector.mem_peers]

theorem mms_agrees_iff (hchron : h.Chronological) {entries : List MmsIed} :
    Agrees (·.iedIp) clientChange entries
        ((SiteCollector.collect tenantId sensorId h).mmsIeds (some limit))
      ↔ (∀ ip, (∃ entry ∈ entries, entry.iedIp = ip)
          ↔ ∃ own, ip = some own ∧ (h.since limit).Ever fun call => call.ied.map (·.1) = some own)
        ∧ ∀ own entry, (byKey (·.iedIp) entries).get? (some own) = some entry →
          ((h.since limit).Ever fun call => call.ied.map (·.1) = some own) →
          ∀ client, client ∈ entry.allowedMmsClients
            ↔ (h.since limit).Ever fun call => call.iedClient = some (own, client) := by
  constructor
  · intro hagrees
    refine ⟨fun ip => (hagrees.keys ip).trans (mem_liveIeds tenantId sensorId hchron), ?_⟩
    intro own entry hentry hknown client
    obtain ⟨live, hlive⟩ := Option.isSome_iff_exists.mp (get?_byKey_isSome.mpr
      ((mem_liveIeds tenantId sensorId hchron).mpr ⟨own, rfl, hknown⟩))
    obtain ⟨hmem, hown⟩ := mem_of_get?_byKey hlive
    rw [clientChange_eq_none.mp (hagrees.entries _ entry live hentry hlive) client]
    exact mem_liveClients hchron hmem hown
  · rintro ⟨hkeys, hentries⟩
    refine ⟨fun ip => (hkeys ip).trans (mem_liveIeds tenantId sensorId hchron).symm, ?_⟩
    intro ip entry live hentry hlive
    obtain ⟨hmem, hown⟩ := mem_of_get?_byKey hlive
    obtain ⟨own, rfl, hknown⟩ := (mem_liveIeds tenantId sensorId hchron).mp ⟨live, hmem, hown⟩
    refine clientChange_eq_none.mpr fun client => ?_
    rw [hentries own entry hentry hknown client, mem_liveClients hchron hmem hown]

end Agree

/-! ## Traffic that is the baseline -/

/-- The traffic of a window is exactly a baseline: its publishers, in production and at the
revisions it says, its IEDs, and their clients. -/
structure TrafficMatches (iec : Iec61850Policy) (window : History Rat Feed) : Prop where
  publishers : ∀ key, (∃ entry ∈ iec.goosePublishers, gooseKey entry = key)
    ↔ window.Ever fun call => call.publisher = some key
  production : ∀ entry ∈ iec.goosePublishers,
    entry.production = true ↔ window.Ever (ProducesAs (gooseKey entry))
  confRev : ∀ entry ∈ iec.goosePublishers, ∀ rev,
    (window.Ever fun call => revOf (gooseKey entry) call = some rev) → entry.confRev = some rev
  ieds : ∀ ip, (∃ entry ∈ iec.mmsIeds, entry.iedIp = ip)
    ↔ ∃ own, ip = some own ∧ window.Ever fun call => call.ied.map (·.1) = some own
  clients : ∀ entry ∈ iec.mmsIeds, ∀ own, entry.iedIp = some own → ∀ client,
    client ∈ entry.allowedMmsClients
      ↔ window.Ever fun call => call.iedClient = some (own, client)

/-- All that a window showed was learned in it, and what was learned before it says the same
of its publishers. -/
structure LearnedAsShown (window learned : History Rat Feed) (limit : Rat) : Prop where
  publishers : ∀ key, (window.Ever fun call => call.publisher = some key) →
    (learned.since limit).Ever fun call => call.publisher = some key
  production : ∀ key, (window.Ever fun call => call.publisher = some key) →
    (window.Ever (ProducesAs key) ↔ learned.Ever (ProducesAs key))
  confRev : ∀ key rev, (window.Ever fun call => revOf key call = some rev) →
    firstRev key learned = some rev
  ieds : ∀ own, (window.Ever fun call => call.ied.map (·.1) = some own) →
    (learned.since limit).Ever fun call => call.ied.map (·.1) = some own
  clients : ∀ own client, (window.Ever fun call => call.iedClient = some (own, client)) →
    (learned.since limit).Ever fun call => call.iedClient = some (own, client)

theorem revOf_isSome {key : String} {call : Feed} :
    (∃ rev, revOf key call = some rev) ↔ call.publisher = some key := by
  rw [← frameOf_isSome, ← Option.isSome_iff_exists, revOf, Option.isSome_map]

section Window

variable {iec : Iec61850Policy} {window learned : History Rat Feed} {limit : Rat}
  (hmatches : TrafficMatches iec window)
  (hsub : ∀ p : Feed → Prop, (learned.since limit).Ever p → window.Ever p)
include hmatches hsub

/-- For publishers, agreement of the live side is that of what was learned. -/
theorem goose_learned_iff :
    ((∀ key, (∃ entry ∈ iec.goosePublishers, gooseKey entry = key)
        ↔ (learned.since limit).Ever fun call => call.publisher = some key)
      ∧ ∀ key entry, (byKey gooseKey iec.goosePublishers).get? key = some entry →
        ((learned.since limit).Ever fun call => call.publisher = some key) →
        (entry.production = true ↔ learned.Ever (ProducesAs key))
          ∧ entry.confRev = firstRev key learned)
    ↔ (∀ key, (window.Ever fun call => call.publisher = some key) →
        (learned.since limit).Ever fun call => call.publisher = some key)
      ∧ (∀ key, (window.Ever fun call => call.publisher = some key) →
        (window.Ever (ProducesAs key) ↔ learned.Ever (ProducesAs key)))
      ∧ ∀ key rev, (window.Ever fun call => revOf key call = some rev) →
        firstRev key learned = some rev := by
  constructor
  · rintro ⟨hkeys, hentries⟩
    have hlearned : ∀ key, (window.Ever fun call => call.publisher = some key) →
        (learned.since limit).Ever fun call => call.publisher = some key :=
      fun key hshown => (hkeys key).mp ((hmatches.publishers key).mpr hshown)
    -- the entry of a publisher of the window
    have hentry : ∀ key, (window.Ever fun call => call.publisher = some key) →
        ∃ entry ∈ iec.goosePublishers, gooseKey entry = key
          ∧ (entry.production = true ↔ learned.Ever (ProducesAs key))
          ∧ entry.confRev = firstRev key learned := by
      intro key hshown
      obtain ⟨entry, hget⟩ := Option.isSome_iff_exists.mp
        (get?_byKey_isSome.mpr ((hmatches.publishers key).mpr hshown))
      obtain ⟨hmem, hkey⟩ := mem_of_get?_byKey hget
      exact ⟨entry, hmem, hkey, hentries key entry hget (hlearned key hshown)⟩
    refine ⟨hlearned, fun key hshown => ?_, fun key rev hrev => ?_⟩
    · obtain ⟨entry, hmem, rfl, hproduction, _⟩ := hentry key hshown
      exact (hmatches.production entry hmem).symm.trans hproduction
    · have hshown : window.Ever fun call => call.publisher = some key := by
        obtain ⟨e, he, hrev⟩ := hrev
        exact ⟨e, he, revOf_isSome.mp ⟨rev, hrev⟩⟩
      obtain ⟨entry, hmem, rfl, _, hfirst⟩ := hentry key hshown
      rw [← hfirst]
      exact hmatches.confRev entry hmem rev hrev
  · rintro ⟨hlearned, hproduction, hrevs⟩
    refine ⟨fun key => ⟨fun hentry => ?_, fun hknown => ?_⟩, fun key entry hget hknown => ?_⟩
    · exact hlearned key ((hmatches.publishers key).mp hentry)
    · exact (hmatches.publishers key).mpr (hsub _ hknown)
    · obtain ⟨hmem, rfl⟩ := mem_of_get?_byKey hget
      have hshown := hsub _ hknown
      refine ⟨(hmatches.production entry hmem).trans (hproduction _ hshown), ?_⟩
      obtain ⟨e, he, hpublisher⟩ := hshown
      obtain ⟨rev, hrev⟩ := revOf_isSome.mpr hpublisher
      rw [hrevs _ rev ⟨e, he, hrev⟩]
      exact hmatches.confRev entry hmem rev ⟨e, he, hrev⟩

/-- For IEDs likewise. -/
theorem mms_learned_iff :
    ((∀ ip, (∃ entry ∈ iec.mmsIeds, entry.iedIp = ip) ↔ ∃ own, ip = some own
          ∧ (learned.since limit).Ever fun call => call.ied.map (·.1) = some own)
      ∧ ∀ own entry, (byKey (·.iedIp) iec.mmsIeds).get? (some own) = some entry →
        ((learned.since limit).Ever fun call => call.ied.map (·.1) = some own) →
        ∀ client, client ∈ entry.allowedMmsClients
          ↔ (learned.since limit).Ever fun call => call.iedClient = some (own, client))
    ↔ (∀ own, (window.Ever fun call => call.ied.map (·.1) = some own) →
        (learned.since limit).Ever fun call => call.ied.map (·.1) = some own)
      ∧ ∀ own client, (window.Ever fun call => call.iedClient = some (own, client)) →
        (learned.since limit).Ever fun call => call.iedClient = some (own, client) := by
  constructor
  · rintro ⟨hkeys, hentries⟩
    have hlearned : ∀ own, (window.Ever fun call => call.ied.map (·.1) = some own) →
        (learned.since limit).Ever fun call => call.ied.map (·.1) = some own := by
      intro own hshown
      obtain ⟨own', heq, hknown⟩ := (hkeys _).mp ((hmatches.ieds _).mpr ⟨own, rfl, hshown⟩)
      rw [Option.some.inj heq]
      exact hknown
    refine ⟨hlearned, fun own client hshown => ?_⟩
    have hied : window.Ever fun call => call.ied.map (·.1) = some own := by
      obtain ⟨e, he, hclient⟩ := hshown
      refine ⟨e, he, ?_⟩
      show e.2.ied.map (·.1) = some own
      rw [(Feed.iedClient_eq_some.mp hclient).1]
      rfl
    obtain ⟨entry, hget⟩ := Option.isSome_iff_exists.mp
      (get?_byKey_isSome.mpr ((hmatches.ieds _).mpr ⟨own, rfl, hied⟩))
    obtain ⟨hmem, hown⟩ := mem_of_get?_byKey hget
    rw [← hentries own entry hget (hlearned own hied) client]
    exact (hmatches.clients entry hmem own hown client).mpr hshown
  · rintro ⟨hlearned, hclients⟩
    refine ⟨fun ip => (hmatches.ieds ip).trans ?_, fun own entry hget hknown client => ?_⟩
    · refine exists_congr fun own => and_congr_right fun _ => ?_
      exact ⟨hlearned own, hsub _⟩
    · obtain ⟨hmem, hown⟩ := mem_of_get?_byKey hget
      rw [hmatches.clients entry hmem own hown client]
      exact ⟨hclients own client, hsub _⟩

end Window

section Run

variable (platform : Platform) (tenantId sensorId : String) (env : PacketPipeline.InitEnv)
  (steps : List LiveStep) (now : Rat) (generatedAt : String) {windowSec : Rat}

/-- The live file at the end of a run. -/
def liveAfter (windowSec : Rat) : Candidate :=
  (steps.foldl LivePipeline.step (.init env)).liveBaselineSnapshot platform tenantId sensorId now
    generatedAt (some windowSec)

/-- The live lists are those of a collector that was fed what the run learned. -/
theorem liveIec_liveAfter (hwindow : 0 < windowSec) :
    let c := SiteCollector.collect "" env.sensorId (learnedFeeds (.init env) steps)
    let live := (liveIec (some (liveAfter platform tenantId sensorId env steps now generatedAt
      windowSec))).1
    live.goosePublishers = c.goosePublishers (some (now - windowSec))
      ∧ live.mmsIeds = c.mmsIeds (some (now - windowSec)) := by
  have hbaseline : (steps.foldl LivePipeline.step (.init env)).baseline
      = SiteCollector.collect "" env.sensorId (learnedFeeds (.init env) steps) :=
    baseline_run steps (.init env)
  have hcutoff : ((some windowSec).filter (· ≠ 0)).map (fun windowSec => now - windowSec)
      = some (now - windowSec) := by
    rw [Option.filter_some, if_pos (decide_eq_true hwindow.ne')]
    rfl
  unfold liveAfter LivePipeline.liveBaselineSnapshot SiteCollector.toCandidate liveIec observedIec
  simp only [hbaseline, hcutoff]
  exact ⟨rfl, rfl⟩

variable {steps}

/-- Without drift in a window that is exactly the baseline, all of it was learned. -/
theorem total_live_iff {policy : Console.PolicyFile} (hwindow : 0 < windowSec)
    (hchron : (trafficFeeds steps).Chronological) (hlower : LowerMacs (trafficFeeds steps))
    (hmatches : TrafficMatches (activeIec policy) ((trafficFeeds steps).since (now - windowSec))) :
    (computeDrift policy (some (liveAfter platform tenantId sensorId env steps now generatedAt
        windowSec))).summary.total = 0
      ↔ LearnedAsShown ((trafficFeeds steps).since (now - windowSec))
        (learnedFeeds (.init env) steps) (now - windowSec) := by
  have hlearned := learnedFeeds_sublist (.init env) steps
  have hsub : ∀ p : Feed → Prop, ((learnedFeeds (.init env) steps).since (now - windowSec)).Ever p →
      ((trafficFeeds steps).since (now - windowSec)).Ever p := by
    rintro p ⟨e, he, hp⟩
    exact ⟨e, (hlearned.filter _).subset he, hp⟩
  obtain ⟨hgoose, hmms⟩ := liveIec_liveAfter platform tenantId sensorId env steps now generatedAt
    hwindow
  have hchron' : (learnedFeeds (.init env) steps).Chronological := hchron.sublist hlearned
  have hlower' : LowerMacs (learnedFeeds (.init env) steps) :=
    fun e he => hlower e (hlearned.subset he)
  -- no drift is agreement, agreement is about what was learned in the window
  rw [total_eq_zero, hgoose, hmms, goose_agrees_iff hchron' hlower', mms_agrees_iff hchron',
    goose_learned_iff hmatches hsub, mms_learned_iff hmatches hsub]
  constructor
  · rintro ⟨⟨hpublishers, hproduction, hrevs⟩, hieds, hclients⟩
    exact ⟨hpublishers, hproduction, hrevs, hieds, hclients⟩
  · intro h
    exact ⟨⟨h.publishers, h.production, h.confRev⟩, h.ieds, h.clients⟩

/-- Nothing of a window that detects is as it was shown, if a baseline is in force. -/
theorem not_learnedAsShown {iec : Iec61850Policy} {limit : Rat} (hactive : ¬ Blank iec)
    (hmatches : TrafficMatches iec ((trafficFeeds steps).since limit))
    (hdetects : DetectsFrom limit (.init env) steps) :
    ¬ LearnedAsShown ((trafficFeeds steps).since limit) (learnedFeeds (.init env) steps) limit := by
  intro hshown
  have hnone : ∀ p : Feed → Prop, ¬ ((learnedFeeds (.init env) steps).since limit).Ever p := by
    rintro p ⟨e, he, _⟩
    rw [learnedFeeds_since hdetects] at he
    cases he
  -- a baseline in force has a publisher or an IED, and the window shows it
  cases hgoose : iec.goosePublishers with
  | cons entry rest =>
    have hentry : ∃ e ∈ iec.goosePublishers, gooseKey e = gooseKey entry :=
      ⟨entry, hgoose ▸ List.mem_cons_self, rfl⟩
    exact hnone _ (hshown.publishers _ ((hmatches.publishers _).mp hentry))
  | nil =>
    cases hmms : iec.mmsIeds with
    | nil => exact hactive ⟨hgoose, hmms⟩
    | cons entry rest =>
      have hentry : ∃ e ∈ iec.mmsIeds, e.iedIp = entry.iedIp :=
        ⟨entry, hmms ▸ List.mem_cons_self, rfl⟩
      obtain ⟨own, _, hied⟩ := (hmatches.ieds _).mp hentry
      exact hnone _ (hshown.ieds own hied)

/-- With a baseline in force that the traffic of the window is exactly, and no newer
candidate, there is no drift exactly if all the window showed was learned in it as it was
shown. In a window that only detects there is always drift. -/
theorem no_false_drift_iff {files : ConsoleFiles} {candidate : Option Candidate}
    (hwindow : 0 < windowSec) (hchron : (trafficFeeds steps).Chronological)
    (hlower : LowerMacs (trafficFeeds steps)) (hactive : ¬ Blank (activeIec files.policy))
    (hpending : candidatePending candidate (activeSummary files.policy) = false)
    (hmatches : TrafficMatches (activeIec files.policy)
      ((trafficFeeds steps).since (now - windowSec))) :
    let live := liveAfter platform tenantId sensorId env steps now generatedAt windowSec
    ((computeDrift files.policy (some live)).summary.total = 0
        ∧ (getState files candidate (some live)).state = .active
      ↔ LearnedAsShown ((trafficFeeds steps).since (now - windowSec))
        (learnedFeeds (.init env) steps) (now - windowSec))
    ∧ (DetectsFrom (now - windowSec) (.init env) steps →
      (computeDrift files.policy (some live)).summary.total ≠ 0
        ∧ (getState files candidate (some live)).state = .drift) := by
  have htotal := total_live_iff platform tenantId sensorId env now generatedAt hwindow hchron
    hlower hmatches
  simp only
  rw [getState_state hactive hpending]
  constructor
  · rw [← htotal]
    constructor
    · exact fun h => h.1
    · intro h
      exact ⟨h, if_pos h⟩
  · intro hdetects
    have hdrift := fun h => not_learnedAsShown env hactive hmatches hdetects (htotal.mp h)
    exact ⟨hdrift, if_neg hdrift⟩

end Run

/-! ## A bay with one IED and one client -/

/-- A poll of the IED by its client. -/
def pollPacket : Packet where
  raw := [0]
  ip := some ⟨"10.0.0.9", "10.0.0.5"⟩
  tcp := some ⟨49152, 102, [3, 0, 0, 7]⟩

/-- A mode file. -/
def modeOf (mode : String) : Reading ModeArtifact := ⟨0, "1", some (.ofMode mode)⟩

/-- The sensor starts in a mode, and sees one poll. -/
def pollSteps (mode : String) : List LiveStep :=
  [.packet ⟨.bare 0 (modeOf mode), ⟨0, 0, 0, 0, 0⟩, pollPacket⟩]

/-- The baseline that is in force has the IED and its client. -/
def pollFiles : ConsoleFiles where
  policy := { artifact := { baseline := some { body := { iec61850 := some {
    mmsIeds := [{ iedIp := some "10.0.0.5", allowedMmsClients := ["10.0.0.9"] }] } } } } }

theorem trafficFeeds_poll (mode : String) : trafficFeeds (pollSteps mode) =
    [(0, .endpoints none (some "10.0.0.9") (some "10.0.0.5")),
      (0, .transport ⟨"10.0.0.9", "10.0.0.5", 49152, 102, .tcp⟩),
      (0, .mms ⟨"10.0.0.9", "10.0.0.5", 49152, 102,
        Mms.classifyMmsPayload [3, 0, 0, 7], 4⟩)] := by
  rfl

theorem since_poll (mode : String) :
    (trafficFeeds (pollSteps mode)).since ((60 : Rat) - 900) = trafficFeeds (pollSteps mode) := by
  rw [trafficFeeds_poll]
  norm_num [History.since]

theorem trafficMatches_poll (mode : String) : TrafficMatches (activeIec pollFiles.policy)
    ((trafficFeeds (pollSteps mode)).since ((60 : Rat) - 900)) := by
  rw [since_poll]
  have hgoose : (activeIec pollFiles.policy).goosePublishers = [] := rfl
  have hmms : (activeIec pollFiles.policy).mmsIeds
      = [{ iedIp := some "10.0.0.5", allowedMmsClients := ["10.0.0.9"] }] := rfl
  have hsides : sidesOn Mms.MMS_PORT "10.0.0.9" "10.0.0.5" 49152 102
      = some ("10.0.0.5", "10.0.0.9") := rfl
  rw [trafficFeeds_poll]
  refine ⟨fun key => ?_, ?_, ?_, fun ip => ?_, ?_⟩
  · rw [hgoose]
    simp [History.Ever, Feed.publisher]
  · rw [hgoose]
    simp
  · rw [hgoose]
    simp
  · rw [hmms]
    simp only [History.Ever, List.mem_cons, List.not_mem_nil, or_false, exists_eq_or_imp,
      exists_eq_left, Feed.ied, hsides, Option.map_none, Option.map_some, reduceCtorEq, false_or,
      Option.some.injEq, exists_eq_right']
    exact eq_comm
  · rw [hmms]
    intro entry hentry own hown client
    rw [List.mem_singleton.mp hentry] at hown ⊢
    cases hown
    have hclient : (some ("10.0.0.5", "10.0.0.9")).filter
        (fun pair : String × String => pair.2 ≠ "") = some ("10.0.0.5", "10.0.0.9") := rfl
    simp only [History.Ever, List.mem_cons, List.not_mem_nil, or_false, exists_eq_or_imp,
      exists_eq_left, Feed.iedClient, Feed.ied, hsides, Option.filter_none, hclient, reduceCtorEq,
      false_or, Option.some.injEq, Prod.mk.injEq, true_and]
    exact eq_comm

theorem chronological_poll (mode : String) : (trafficFeeds (pollSteps mode)).Chronological := by
  rw [trafficFeeds_poll]
  decide

theorem lowerMacs_poll (mode : String) : LowerMacs (trafficFeeds (pollSteps mode)) := by
  rw [trafficFeeds_poll]
  intro e he frame hframe
  simp only [List.mem_cons, List.not_mem_nil, or_false] at he
  rcases he with rfl | rfl | rfl <;> cases hframe

/-- The poll is learned if the mode it finds is `learning`. -/
theorem learnedFeeds_poll (mode : String) (found : Mode)
    (hmode : (PacketPipeline.init (.bare 0 (modeOf mode))).accumulationMode
      (.bare 0 (modeOf mode)) = found) :
    learnedFeeds (.init (.bare 0 (modeOf mode))) (pollSteps mode)
      = if found = .learning then trafficFeeds (pollSteps mode) else [] := by
  subst hmode
  show (if _ then packetFeeds _ else []) ++ [] = if _ then packetFeeds _ ++ [] else []
  rw [List.append_nil, List.append_nil]

/-- In learning mode the poll is learned, and does not drift. -/
theorem no_false_drift_iff_learning :
    let live := liveAfter samplePlatform "tenant" "sensor" (.bare 0 (modeOf "learning"))
      (pollSteps "learning") 60 "" 900
    (computeDrift pollFiles.policy (some live)).summary.total = 0
      ∧ (getState pollFiles none (some live)).state = .active := by
  refine (no_false_drift_iff samplePlatform "tenant" "sensor" (.bare 0 (modeOf "learning")) 60 ""
    (by norm_num) (chronological_poll _) (lowerMacs_poll _) (by decide) rfl
    (trafficMatches_poll _)).1.mpr ?_
  have hlearned := learnedFeeds_poll "learning" .learning (by decide +kernel)
  rw [if_pos rfl] at hlearned
  rw [hlearned]
  refine ⟨fun _ h => h, fun _ _ => by rw [since_poll], fun key rev h => ?_, fun _ h => h,
    fun _ _ h => h⟩
  -- the poll has no GOOSE frame
  rw [since_poll, trafficFeeds_poll] at h
  simp [History.Ever, revOf, frameOf] at h

/-- In detection mode the same poll makes the baseline drift. -/
theorem detected_poll_drifts :
    let live := liveAfter samplePlatform "tenant" "sensor" (.bare 0 (modeOf "detect"))
      (pollSteps "detect") 60 "" 900
    TrafficMatches (activeIec pollFiles.policy)
        ((trafficFeeds (pollSteps "detect")).since ((60 : Rat) - 900))
      ∧ DetectsFrom (60 - 900) (.init (.bare 0 (modeOf "detect"))) (pollSteps "detect")
      ∧ candidatePending none (activeSummary pollFiles.policy) = false
      ∧ (computeDrift pollFiles.policy (some live)).summary.total ≠ 0
      ∧ (getState pollFiles none (some live)).state = .drift := by
  have hdetects : DetectsFrom (60 - 900) (.init (.bare 0 (modeOf "detect")))
      (pollSteps "detect") := by
    refine ⟨fun input hinput _ => ?_, trivial⟩
    cases hinput
    show (PacketPipeline.init (.bare 0 (modeOf "detect"))).accumulationMode
      (.bare 0 (modeOf "detect")) = .detect
    decide +kernel
  have hactive : ¬ Blank (activeIec pollFiles.policy) := by decide
  have hdrift : (computeDrift pollFiles.policy (some (liveAfter samplePlatform "tenant" "sensor"
      (.bare 0 (modeOf "detect")) (pollSteps "detect") 60 "" 900))).summary.total ≠ 0 := fun h =>
    not_learnedAsShown _ hactive (trafficMatches_poll _) hdetects
      ((total_live_iff _ _ _ _ _ _ (by norm_num) (chronological_poll _) (lowerMacs_poll _)
        (trafficMatches_poll _)).mp h)
  refine ⟨trafficMatches_poll _, hdetects, rfl, hdrift, ?_⟩
  rw [getState_state hactive rfl, if_neg hdrift]

end EdgeSensor.System
