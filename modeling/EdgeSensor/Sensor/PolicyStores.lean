import EdgeSensor.Lib.StampStore
import EdgeSensor.Py.Text
import EdgeSensor.Sensor.Policy
import EdgeSensor.Sensor.TopologySnapshot
import Mathlib.Data.Finset.Image
import Mathlib.Data.Finset.Basic

/-!
# The two policy stores: baseline profile inside detection policy

`src/policy/baseline_profile_store.py`, `src/policy/detection_policy_store.py` and
`load_policy` of `src/policy/loader.py`. Both stores are a stamp-gated poll
(`StampStore`) plus what they derive from the file they loaded. The detection
store owns the profile store and asks it only after its own poll has decided to
read its own file; the two have separate throttles and separate stamps.

`PolicyReading` is everything one `maybe_reload` of the detection store can read:
its own poll, the two polls of the profile store (`maybe_reload`, then the one
inside `baseline()`), and the fallback file. Each read has its own clock value and
sees the files as they are at that moment, so writers may run between them.

Mirroring notes:
- `_artifact = {}` is `none`: an absent, unreadable, malformed or empty file.
- The objects the stores hand out are shallow copies, so they share `thresholds`
  with the store's own object (`PolicyObj` copies the reference).
- The detection store also stores into the dict it decoded; only the truth value
  of that dict and its comparison with `{}` are ever looked at again, and neither
  changes by it.
-/

namespace EdgeSensor.Sensor

open EdgeSensor.Lib EdgeSensor.Py

/-! ## The baseline profile store -/

/-- The `observed` block of a profile or a candidate. The baseline mapping reads the first
five; the others are what a collector adds. -/
structure Observed where
  goosePublishers : List GoosePublisher := []
  mmsIeds : List MmsIed := []
  iecThresholds : Dict String Rat := []
  thresholds : Dict String Rat := []
  modbusServers : List ModbusServer := []
  commPairs : List (String × String) := []
  macIp : List (String × String) := []
  topology : Option TopologySnapshot := none
  deriving DecidableEq

/-- A baseline profile artifact; `observed = none` is an absent or empty block. -/
structure BaselineProfile where
  profileId : String := ""
  version : String := ""
  observed : Option Observed := none
  deriving DecidableEq

/-- `observed_to_detection_baseline`. -/
def observedToDetectionBaseline (observed : Observed) : PolicyDoc where
  body := {
    policyVersion := some "baseline-profile"
    iec61850 := some ⟨observed.goosePublishers, observed.mmsIeds, observed.iecThresholds⟩
    modbusServers := if observed.modbusServers = [] then none else some observed.modbusServers }
  thresholds := if observed.thresholds = [] then none else some observed.thresholds

/-- The baseline a profile file stands for, if any. -/
def profileBaseline (file : Option BaselineProfile) : Option PolicyDoc :=
  (file.bind (·.observed)).map observedToDetectionBaseline

/-- `BaselineProfileStore`. -/
structure BaselineProfileStore where
  poll : StampStore BaselineProfile
  baseline : Option PolicyObj := none
  profileId : String := ""
  version : String := ""

/-- What the store derives from a profile file it has just read. -/
def BaselineProfileStore.install (poll : StampStore BaselineProfile)
    (file : Option BaselineProfile) (heap : Heap) : BaselineProfileStore × Heap :=
  let ids : BaselineProfileStore :=
    { poll := poll
      profileId := (file.map (·.profileId)).getD ""
      version := (file.map (·.version)).getD "" }
  match profileBaseline file with
  | none => (ids, heap)
  | some doc => ({ ids with baseline := some (doc.alloc heap).1 }, (doc.alloc heap).2)

/-- `BaselineProfileStore.maybe_reload`. -/
def BaselineProfileStore.maybeReload (s : BaselineProfileStore) (force : Bool)
    (r : Reading BaselineProfile) (heap : Heap) : BaselineProfileStore × Heap :=
  match s.poll.maybeReload force r with
  | (poll, .loaded _) => install poll r.file heap
  | (poll, _) => ({ s with poll := poll }, heap)

/-! ## The detection policy store -/

/-- A detection policy artifact: `rulesEnabled = none` when the key holds no list,
`baseline = none` when it holds no non-empty object. -/
structure DetectionArtifact where
  version : String := ""
  rulesEnabled : Option (List String) := none
  baseline : Option PolicyDoc := none
  thresholds : Dict String Rat := []
  deriving DecidableEq

/-- Everything one `maybe_reload` of the detection store can read. -/
structure PolicyReading where
  det : Reading DetectionArtifact
  profile : Reading BaselineProfile
  profileAgain : Reading BaselineProfile
  fallback : Option PolicyDoc

/-- `load_policy`: the fallback file, or the empty IEC 61850 baseline. -/
def loadPolicy (file : Option PolicyDoc) : PolicyDoc :=
  file.getD { body := { iec61850 := some {} } }

/-- `{str(r).strip().upper() for r in rules if str(r).strip()}`. -/
def cleanRules (rules : List String) : Finset String :=
  ((rules.map strip).filter (· ≠ "")).map upper |>.toFinset

/-- `DetectionPolicyStore`. -/
structure DetectionPolicyStore where
  poll : StampStore DetectionArtifact
  rulesEnabled : Finset String := ∅
  baseline : PolicyObj := {}
  version : String := ""
  profile : Option BaselineProfileStore := none

/-- `self._profile_store.maybe_reload(force=force)`, then `.baseline()`. -/
def pollProfile (profile : Option BaselineProfileStore) (force : Bool) (r : PolicyReading)
    (heap : Heap) : Option BaselineProfileStore × Heap :=
  match profile with
  | none => (none, heap)
  | some p =>
    let polled := p.maybeReload force r.profile heap
    let again := polled.1.maybeReload false r.profileAgain polled.2
    (some again.1, again.2)

/-- The baseline the store adopts: the profile's object, else the artifact's, else
the fallback policy (the last two freshly decoded). -/
def chooseBaseline (profile : Option BaselineProfileStore) (artifact : Option DetectionArtifact)
    (fallback : Option PolicyDoc) (heap : Heap) : PolicyObj × Heap :=
  match profile.bind (·.baseline) with
  | some obj => (obj, heap)
  | none =>
    match artifact.bind (·.baseline) with
    | some doc => doc.alloc heap
    | none => (loadPolicy fallback).alloc heap

/-- The thresholds an artifact lays over the baseline. -/
def artifactThresholds (artifact : Option DetectionArtifact) : Dict String Rat :=
  (artifact.map (·.thresholds)).getD []

/-- The rule set after loading an artifact: an artifact without a list keeps the old one. -/
def artifactRules (artifact : Option DetectionArtifact) (old : Finset String) : Finset String :=
  match artifact.bind (·.rulesEnabled) with
  | some rules => cleanRules rules
  | none => old

/-- What the store derives from an artifact it has just read. -/
def DetectionPolicyStore.install (s : DetectionPolicyStore) (poll : StampStore DetectionArtifact)
    (force : Bool) (r : PolicyReading) (heap : Heap) : DetectionPolicyStore × Heap :=
  let profile := pollProfile s.profile force r heap
  let chosen := chooseBaseline profile.1 r.det.file r.fallback profile.2
  let laid := chosen.1.overlay (artifactThresholds r.det.file) chosen.2
  ({ poll := poll
     rulesEnabled := artifactRules r.det.file s.rulesEnabled
     baseline := laid.1
     version := (r.det.file.map (·.version)).getD ""
     profile := profile.1 }, laid.2)

/-- `DetectionPolicyStore.maybe_reload`: the new state, and its return value. -/
def DetectionPolicyStore.maybeReload (s : DetectionPolicyStore) (force : Bool)
    (r : PolicyReading) (heap : Heap) : (DetectionPolicyStore × Heap) × Bool :=
  match s.poll.maybeReload force r.det with
  | (poll, .loaded changed) => (s.install poll force r heap, changed)
  | (poll, _) => (({ s with poll := poll }, heap), false)

/-- The constructor: build the profile store, which polls at once, then poll. -/
def DetectionPolicyStore.init (reloadCheckSec : Rat) (profileFirst : Option (Reading BaselineProfile))
    (r : PolicyReading) (heap : Heap) : DetectionPolicyStore × Heap :=
  let profile := match profileFirst with
    | none => (none, heap)
    | some first =>
      let p := BaselineProfileStore.maybeReload { poll := { reloadCheckSec := reloadCheckSec } }
        true first heap
      (some p.1, p.2)
  ((DetectionPolicyStore.maybeReload
    { poll := { reloadCheckSec := reloadCheckSec }, profile := profile.1 } true r profile.2).1)

/-! ## What a poll of the profile store can do -/

namespace BaselineProfileStore

/-- The baseline object is the one the loaded profile stands for, and there is none
exactly when that profile has no baseline. -/
def Ok (p : BaselineProfileStore) (heap : Heap) : Prop :=
  match p.baseline, profileBaseline p.poll.artifact with
  | none, none => True
  | some obj, some doc => obj.DerivedFrom doc heap
  | _, _ => False

theorem Ok.mono {p : BaselineProfileStore} {heap heap' : Heap} (h : p.Ok heap)
    (hle : heap.Overlaid heap') : p.Ok heap' := by
  unfold Ok at *
  split at h
  · trivial
  · exact h.mono hle
  · exact h.elim

/-- A loaded profile with a baseline is held as an object derived from it. -/
theorem Ok.baseline {p : BaselineProfileStore} {heap : Heap} (h : p.Ok heap) {doc : PolicyDoc}
    (hdoc : profileBaseline p.poll.artifact = some doc) :
    ∃ obj, p.baseline = some obj ∧ obj.DerivedFrom doc heap := by
  unfold Ok at h
  rw [hdoc] at h
  cases hb : p.baseline with
  | none =>
    rw [hb] at h
    exact h.elim
  | some obj =>
    rw [hb] at h
    exact ⟨obj, rfl, h⟩

/-- The object is derived from the policy the loaded profile stands for. -/
theorem Ok.doc {p : BaselineProfileStore} {heap : Heap} (h : p.Ok heap) {obj : PolicyObj}
    (hobj : p.baseline = some obj) :
    ∃ doc, profileBaseline p.poll.artifact = some doc ∧ obj.DerivedFrom doc heap := by
  unfold Ok at h
  rw [hobj] at h
  cases hdoc : profileBaseline p.poll.artifact with
  | none =>
    rw [hdoc] at h
    exact h.elim
  | some doc =>
    rw [hdoc] at h
    exact ⟨doc, rfl, h⟩

/-- Without an object, the loaded profile has no baseline. -/
theorem Ok.noDoc {p : BaselineProfileStore} {heap : Heap} (h : p.Ok heap)
    (hobj : p.baseline = none) : profileBaseline p.poll.artifact = none := by
  cases hdoc : profileBaseline p.poll.artifact with
  | none => rfl
  | some doc =>
    obtain ⟨obj, hobj', -⟩ := h.baseline hdoc
    rw [hobj] at hobj'
    cases hobj'

theorem Ok.valid {p : BaselineProfileStore} {heap : Heap} (h : p.Ok heap) {obj : PolicyObj}
    (hobj : p.baseline = some obj) : obj.Valid heap := by
  obtain ⟨doc, -, hder⟩ := h.doc hobj
  exact hder.1

theorem install_spec (poll : StampStore BaselineProfile) (file : Option BaselineProfile)
    (heap : Heap) (hpoll : poll.artifact = file) :
    (install poll file heap).1.poll = poll ∧ (install poll file heap).1.Ok (install poll file heap).2
      ∧ heap.Grown (install poll file heap).2 := by
  unfold install
  cases hdoc : profileBaseline file with
  | none =>
    refine ⟨rfl, ?_, .refl heap⟩
    unfold Ok
    simp only [hpoll, hdoc]
  | some doc =>
    refine ⟨rfl, ?_, doc.alloc_grown heap⟩
    unfold Ok
    simp only [hpoll, hdoc]
    exact doc.alloc_derivedFrom heap

/-- One poll: the store's poller moves as pollers do, and the baseline stays in step. -/
theorem maybeReload_spec {p : BaselineProfileStore} {heap : Heap} (h : p.Ok heap) (force : Bool)
    (r : Reading BaselineProfile) :
    (p.maybeReload force r heap).1.poll = (p.poll.maybeReload force r).1
      ∧ (p.maybeReload force r heap).1.Ok (p.maybeReload force r heap).2
      ∧ heap.Grown (p.maybeReload force r heap).2 := by
  unfold maybeReload
  rcases p.poll.maybeReload_cases force r with hpoll | ⟨hpoll, -⟩ | hpoll
  · rw [hpoll]
    exact ⟨rfl, h, .refl heap⟩
  · rw [hpoll]
    exact ⟨rfl, h, .refl heap⟩
  · rw [hpoll]
    exact install_spec _ _ _ rfl

end BaselineProfileStore

/-! ## What a poll of the detection store can do -/

/-- The profile store after its two polls. -/
theorem pollProfile_some (p : BaselineProfileStore) (force : Bool) (r : PolicyReading) (heap : Heap) :
    pollProfile (some p) force r heap
      = (some ((p.maybeReload force r.profile heap).1.maybeReload false r.profileAgain
          (p.maybeReload force r.profile heap).2).1,
        ((p.maybeReload force r.profile heap).1.maybeReload false r.profileAgain
          (p.maybeReload force r.profile heap).2).2) := rfl

namespace DetectionPolicyStore

/-- Every object the store holds is backed by the heap, and the profile store is in step. -/
structure Ok (s : DetectionPolicyStore) (heap : Heap) : Prop where
  baseline : s.baseline.Valid heap
  profile : ∀ p, s.profile = some p → p.Ok heap

theorem Ok.mono {s : DetectionPolicyStore} {heap heap' : Heap} (h : s.Ok heap)
    (hle : heap.Overlaid heap') : s.Ok heap' :=
  ⟨h.baseline.mono hle.1, fun p hp => (h.profile p hp).mono hle⟩

theorem pollProfile_spec {profile : Option BaselineProfileStore} {heap : Heap}
    (h : ∀ p, profile = some p → p.Ok heap) (force : Bool) (r : PolicyReading) :
    (∀ p, (pollProfile profile force r heap).1 = some p → p.Ok (pollProfile profile force r heap).2)
      ∧ heap.Grown (pollProfile profile force r heap).2 := by
  cases profile with
  | none =>
    refine ⟨fun p hp => ?_, .refl heap⟩
    cases hp
  | some p =>
    obtain ⟨-, hok, hle⟩ := BaselineProfileStore.maybeReload_spec (h p rfl) force r.profile
    obtain ⟨-, hok', hle'⟩ := BaselineProfileStore.maybeReload_spec hok false r.profileAgain
    refine ⟨fun q hq => ?_, hle.trans hle'⟩
    rw [pollProfile_some] at hq
    cases hq
    exact hok'

theorem chooseBaseline_spec {profile : Option BaselineProfileStore} {heap : Heap}
    (h : ∀ p, profile = some p → p.Ok heap) (artifact : Option DetectionArtifact)
    (fallback : Option PolicyDoc) :
    (chooseBaseline profile artifact fallback heap).1.Valid
        (chooseBaseline profile artifact fallback heap).2
      ∧ heap.Grown (chooseBaseline profile artifact fallback heap).2 := by
  unfold chooseBaseline
  split
  next obj hobj =>
    obtain ⟨p, hp, hbase⟩ := Option.bind_eq_some_iff.mp hobj
    exact ⟨(h p hp).valid hbase, .refl heap⟩
  next =>
    split
    next doc _ => exact ⟨doc.alloc_valid heap, doc.alloc_grown heap⟩
    next => exact ⟨(loadPolicy fallback).alloc_valid heap, (loadPolicy fallback).alloc_grown heap⟩

theorem install_spec {s : DetectionPolicyStore} {heap : Heap} (h : s.Ok heap)
    (poll : StampStore DetectionArtifact) (force : Bool) (r : PolicyReading) :
    (s.install poll force r heap).1.Ok (s.install poll force r heap).2
      ∧ heap.Overlaid (s.install poll force r heap).2 := by
  obtain ⟨hprofile, hle⟩ := pollProfile_spec h.profile force r
  obtain ⟨hvalid, hle'⟩ := chooseBaseline_spec hprofile r.det.file r.fallback
  have hlaid := PolicyObj.overlay_overlaid (chooseBaseline (pollProfile s.profile force r heap).1
    r.det.file r.fallback (pollProfile s.profile force r heap).2).1 (artifactThresholds r.det.file)
    (chooseBaseline (pollProfile s.profile force r heap).1 r.det.file r.fallback
      (pollProfile s.profile force r heap).2).2
  refine ⟨⟨PolicyObj.overlay_valid _ hvalid, fun p hp => ?_⟩, (hle.trans hle').overlaid.trans hlaid⟩
  exact ((hprofile p hp).mono hle'.overlaid).mono hlaid

/-- An artifact without thresholds lays nothing over anybody's dict. -/
theorem install_grown {s : DetectionPolicyStore} {heap : Heap} (h : s.Ok heap)
    (poll : StampStore DetectionArtifact) (force : Bool) {r : PolicyReading}
    (hnone : artifactThresholds r.det.file = []) : heap.Grown (s.install poll force r heap).2 := by
  obtain ⟨hprofile, hle⟩ := pollProfile_spec h.profile force r
  obtain ⟨-, hle'⟩ := chooseBaseline_spec hprofile r.det.file r.fallback
  unfold install
  simp only
  rw [hnone]
  exact hle.trans hle'

/-- One poll keeps every object backed, and only overlays dicts that were there. -/
theorem maybeReload_spec {s : DetectionPolicyStore} {heap : Heap} (h : s.Ok heap) (force : Bool)
    (r : PolicyReading) :
    (s.maybeReload force r heap).1.1.Ok (s.maybeReload force r heap).1.2
      ∧ heap.Overlaid (s.maybeReload force r heap).1.2 := by
  unfold maybeReload
  rcases s.poll.maybeReload_cases force r.det with hpoll | ⟨hpoll, -⟩ | hpoll
  · rw [hpoll]
    exact ⟨⟨h.baseline, h.profile⟩, .refl heap⟩
  · rw [hpoll]
    exact ⟨⟨h.baseline, h.profile⟩, .refl heap⟩
  · rw [hpoll]
    exact install_spec h _ force r

/-- A poll leaves the profile store alone, or polls it too. -/
theorem maybeReload_profile (store : DetectionPolicyStore) (force : Bool)
    (r : PolicyReading) (heap : Heap) :
    (store.maybeReload force r heap).1.1.profile = store.profile
      ∨ (store.maybeReload force r heap).1.1.profile = (pollProfile store.profile force r heap).1 := by
  unfold DetectionPolicyStore.maybeReload
  rcases store.poll.maybeReload_cases force r.det with hpoll | ⟨hpoll, -⟩ | hpoll
  · rw [hpoll]
    exact .inl rfl
  · rw [hpoll]
    exact .inl rfl
  · rw [hpoll]
    exact .inr rfl

/-- The constructor builds a store whose objects are backed. -/
theorem init_ok (reloadCheckSec : Rat) (profileFirst : Option (Reading BaselineProfile))
    (r : PolicyReading) (heap : Heap) :
    (init reloadCheckSec profileFirst r heap).1.Ok (init reloadCheckSec profileFirst r heap).2 := by
  unfold init
  cases profileFirst with
  | none =>
    refine (maybeReload_spec ⟨fun ref href => ?_, fun p hp => ?_⟩ true r).1
    · cases href
    · cases hp
  | some first =>
    have hempty : BaselineProfileStore.Ok { poll := { reloadCheckSec := reloadCheckSec } } heap := by
      unfold BaselineProfileStore.Ok
      trivial
    have hprofile := (BaselineProfileStore.maybeReload_spec hempty true first).2.1
    refine (maybeReload_spec ⟨fun ref href => ?_, fun p hp => ?_⟩ true r).1
    · cases href
    · cases hp
      exact hprofile

end DetectionPolicyStore

end EdgeSensor.Sensor
