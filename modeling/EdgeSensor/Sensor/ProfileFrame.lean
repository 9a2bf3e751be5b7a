import EdgeSensor.Sensor.MvpWindow
import EdgeSensor.Sensor.ProfilePush
import EdgeSensor.Sensor.TornReads

/-!
# What a baseline profile leaves in force

The assets and the allowlists of the detection policy are what OT-001, OT-002, OT-004,
OT-005 and OT-007 to OT-010 go by. A baseline profile has neither, and the store puts the
object it makes of the profile in the place of the policy, not into it. So from the moment
a profile is loaded these rules run without assets and without allowlists, whatever the
artifact or the fallback policy says.

`profile_protects_iff` is the one case in which that is no loss. The rules read nothing
else of the policy but two thresholds, which a profile may well set (`SameDecisions`).
-/

namespace EdgeSensor.Sensor

open EdgeSensor.Lib EdgeSensor.Py EdgeSensor.Parser
open PacketPipeline (ProfilePush Loaded install_derivedFrom samplePush)

/-- The parts of a policy a profile does not have: assets and allowlists. -/
def PolicyDoc.protection (doc : PolicyDoc) : List Asset × GlobalAllowlists :=
  (doc.assetList, doc.body.globalAllowlists.getD {})

/-- Every rule that reads assets or allowlists decides alike under both policies, on every
packet or window and from every state; the two that read a threshold, if that is the same. -/
structure SameDecisions (doc doc' : PolicyDoc) : Prop where
  newMac : ∀ whitelisted clock obs,
    MvpDetector.newMac ⟨doc, whitelisted, clock⟩ obs
      = MvpDetector.newMac ⟨doc', whitelisted, clock⟩ obs
  newIp : ∀ whitelisted clock obs,
    MvpDetector.newIp ⟨doc, whitelisted, clock⟩ obs
      = MvpDetector.newIp ⟨doc', whitelisted, clock⟩ obs
  newPair : ∀ whitelisted clock obs,
    MvpDetector.newPair ⟨doc, whitelisted, clock⟩ obs
      = MvpDetector.newPair ⟨doc', whitelisted, clock⟩ obs
  newDstPort : (∀ port, doc.isEphemeralDstPort port ↔ doc'.isEphemeralDstPort port) →
    ∀ whitelisted clock obs,
      MvpDetector.newDstPort ⟨doc, whitelisted, clock⟩ obs
        = MvpDetector.newDstPort ⟨doc', whitelisted, clock⟩ obs
  modbus : ∀ whitelisted clock frame,
    MvpDetector.evaluateModbus ⟨doc, whitelisted, clock⟩ frame
      = MvpDetector.evaluateModbus ⟨doc', whitelisted, clock⟩ frame
  trafficRate : trafficRateMultiplier doc = trafficRateMultiplier doc' →
    ∀ clock windowSec, MvpDetector.checkTrafficRate doc clock windowSec
      = MvpDetector.checkTrafficRate doc' clock windowSec
  relayOffline : ∀ clock now,
    MvpDetector.checkRelayOffline doc clock now = MvpDetector.checkRelayOffline doc' clock now
  unauthorizedAccess : ∀ whitelisted clock obs,
    MvpDetector.unauthorizedAccess ⟨doc, whitelisted, clock⟩ obs
      = MvpDetector.unauthorizedAccess ⟨doc', whitelisted, clock⟩ obs

/-- Nothing that protects is switched off. -/
def KeepsProtection (doc doc' : PolicyDoc) : Prop :=
  doc'.protection = doc.protection ∧ SameDecisions doc doc'

/-! ## The rules go by these parts -/

theorem MvpDetector.firstSighting_congr {clock : Clock} {rule : RuleId} {key : String}
    {known : AssetInventory → Finset String} {record : AssetInventory → AssetInventory}
    {allowed allowed' : Prop} [Decidable allowed] [Decidable allowed'] {fields : EventFields}
    (h : allowed ↔ allowed') :
    firstSighting clock rule key known record allowed fields
      = firstSighting clock rule key known record allowed' fields := by
  funext d
  unfold firstSighting
  simp only [h]

section Congruence

variable {doc doc' : PolicyDoc} (h : doc.protection = doc'.protection)
include h

theorem PolicyDoc.assetList_congr : doc.assetList = doc'.assetList := congrArg (·.1) h

theorem PolicyDoc.allowlist_congr (key : GlobalAllowlists → List String) :
    doc.allowlist key = doc'.allowlist key := by
  unfold PolicyDoc.allowlist
  rw [show doc.body.globalAllowlists.getD {} = doc'.body.globalAllowlists.getD {} from
    congrArg (·.2) h]

theorem PolicyDoc.assetForIp_congr (ip : String) : doc.assetForIp ip = doc'.assetForIp ip := by
  unfold PolicyDoc.assetForIp
  rw [show doc.body.assets.getD [] = doc'.body.assets.getD [] from congrArg (·.1) h]

theorem sameDecisions_of_protection : SameDecisions doc doc' where
  newMac whitelisted clock obs := by
    unfold MvpDetector.newMac
    split
    next => rfl
    next => exact MvpDetector.firstSighting_congr (by rw [PolicyDoc.allowlist_congr h])
  newIp whitelisted clock obs := by
    unfold MvpDetector.newIp
    split
    next => rfl
    next =>
      refine MvpDetector.firstSighting_congr ?_
      unfold MvpView.ipWhitelisted
      simp only [PolicyDoc.allowlist_congr h]
  newPair whitelisted clock obs := by
    unfold MvpDetector.newPair
    split
    next => exact MvpDetector.firstSighting_congr (by rw [PolicyDoc.allowlist_congr h])
    next => rfl
  newDstPort hephemeral whitelisted clock obs := by
    unfold MvpDetector.newDstPort
    split
    next dstIp dstPort _ _ =>
      simp only [hephemeral dstPort]
      split
      · rfl
      · exact MvpDetector.firstSighting_congr (by simp only [PolicyDoc.allowlist_congr h])
    next => rfl
  modbus whitelisted clock frame := by
    funext d
    unfold MvpDetector.evaluateModbus
    simp only [PolicyDoc.assetForIp_congr h]
  trafficRate hmultiplier clock windowSec := by
    unfold MvpDetector.checkTrafficRate
    rw [PolicyDoc.assetList_congr h]
    congr 1
    funext asset d
    unfold MvpDetector.assetRate
    simp only [hmultiplier]
  relayOffline clock now := by
    funext d
    unfold MvpDetector.checkRelayOffline PolicyDoc.relayAddresses
    rw [PolicyDoc.assetList_congr h]
  unauthorizedAccess whitelisted clock obs := by
    funext d
    unfold MvpDetector.unauthorizedAccess
    simp only [PolicyDoc.assetForIp_congr h]

end Congruence

/-- The rules decide alike as soon as the parts agree, so the parts are all there is to keep. -/
theorem keepsProtection_iff {doc doc' : PolicyDoc} :
    KeepsProtection doc doc' ↔ doc'.protection = doc.protection :=
  ⟨fun h => h.1, fun h => ⟨h, sameDecisions_of_protection h.symm⟩⟩

/-! ## What a poll puts in force -/

/-- The policy a store works with. -/
def DetectionPolicyStore.inForce (w : DetectionPolicyStore × Heap) : PolicyDoc :=
  w.1.baseline.resolve w.2

/-- Polls of the detection store, one after the other. -/
def DetectionPolicyStore.pollAll (w : DetectionPolicyStore × Heap)
    (polls : List (Bool × PolicyReading)) : DetectionPolicyStore × Heap :=
  polls.foldl (fun w poll => (w.1.maybeReload poll.1 poll.2 w.2).1) w

/-- A store as some polls have left it. -/
def DetectionPolicyStore.Reached (w : DetectionPolicyStore × Heap) : Prop :=
  ∃ reloadCheckSec profileFirst first heap polls,
    w = pollAll (init reloadCheckSec profileFirst first heap) polls

namespace DetectionPolicyStore

theorem pollAll_ok {w : DetectionPolicyStore × Heap} (h : w.1.Ok w.2)
    (polls : List (Bool × PolicyReading)) : (pollAll w polls).1.Ok (pollAll w polls).2 := by
  induction polls generalizing w with
  | nil => exact h
  | cons poll polls ih => exact ih (maybeReload_spec h poll.1 poll.2).1

theorem Reached.ok {w : DetectionPolicyStore × Heap} (h : Reached w) : w.1.Ok w.2 := by
  obtain ⟨reloadCheckSec, profileFirst, first, heap, polls, rfl⟩ := h
  exact pollAll_ok (init_ok reloadCheckSec profileFirst first heap) polls

/-- A poll that reads installs what it reads. -/
theorem maybeReload_of_reads {store : DetectionPolicyStore} {heap : Heap} {force : Bool}
    {r : PolicyReading} (h : store.poll.Reads force r.det.now r.det.stamp) :
    (store.maybeReload force r heap).1 = store.install (store.poll.load r.det) force r heap := by
  unfold maybeReload
  rw [StampStore.maybeReload_of_reads h]

/-- Without a profile, that is the artifact's policy, or else the fallback. -/
theorem inForce_without_profile {store : DetectionPolicyStore} {heap : Heap} {force : Bool}
    {r : PolicyReading} (h : store.poll.Reads force r.det.now r.det.stamp)
    (hnone : (pollProfile store.profile force r heap).1.bind (·.baseline) = none) :
    inForce (store.maybeReload force r heap).1 = policyOf none r.fallback r.det.file := by
  rw [maybeReload_of_reads h]
  unfold install inForce chooseBaseline
  simp only
  rw [hnone]
  unfold policyOf profileBaseline
  cases r.det.file.bind (·.baseline) with
  | none =>
    simp only
    rw [PolicyObj.resolve_overlay _ (PolicyDoc.alloc_valid _ _), PolicyDoc.resolve_alloc]
    rfl
  | some doc =>
    simp only
    rw [PolicyObj.resolve_overlay _ (doc.alloc_valid _), doc.resolve_alloc]
    rfl

/-- With one loaded, it is the profile's, which has no such parts. -/
theorem inForce_with_profile {push : ProfilePush} {store : DetectionPolicyStore} {heap : Heap}
    (hok : store.Ok heap) {force : Bool} {r : PolicyReading}
    (h : store.poll.Reads force r.det.now r.det.stamp)
    (hload : Loaded push (pollProfile store.profile force r heap).1) :
    (inForce (store.maybeReload force r heap).1).protection = ([], {}) := by
  have hder := install_derivedFrom hok (store.poll.load r.det) force r hload
  rw [maybeReload_of_reads h]
  obtain ⟨observed, -, hdoc⟩ := Option.map_eq_some_iff.mp push.valid
  have hbody : (inForce (store.install (store.poll.load r.det) force r heap)).body
      = (observedToDetectionBaseline observed).body := by
    rw [hdoc]
    exact hder.body
  unfold PolicyDoc.protection PolicyDoc.assetList
  rw [hbody]
  rfl

end DetectionPolicyStore

/-- Without assets the rules about assets are silent for good. -/
theorem silent_without_assets {doc : PolicyDoc} (h : doc.assetList = []) (whitelisted : String → Bool)
    (clock : Clock) (d : MvpDetector) :
    (∀ frame, MvpDetector.evaluateModbus ⟨doc, whitelisted, clock⟩ frame d = (d, []))
      ∧ (∀ windowSec, MvpDetector.checkTrafficRate doc clock windowSec d = (d, []))
      ∧ (∀ now, MvpDetector.checkRelayOffline doc clock now d = (d, []))
      ∧ ∀ obs, MvpDetector.unauthorizedAccess ⟨doc, whitelisted, clock⟩ obs d = (d, []) := by
  have hnone : ∀ ip, doc.assetForIp ip = none := by
    intro ip
    show doc.assetList.find? _ = none
    rw [h]
    rfl
  refine ⟨fun frame => ?_, fun windowSec => ?_, fun now => ?_, fun obs => ?_⟩
  · unfold MvpDetector.evaluateModbus
    simp only [hnone]
    split <;> rfl
  · unfold MvpDetector.checkTrafficRate
    rw [h]
    rfl
  · unfold MvpDetector.checkRelayOffline PolicyDoc.relayAddresses
    rw [h]
    split <;> rfl
  · unfold MvpDetector.unauthorizedAccess
    simp only [hnone]
    split
    · split <;> rfl
    · rfl

/-- **When a profile switches nothing off.** Whatever polls came before: a poll that loads a
profile leaves the assets, the allowlists and the decisions of the artifact's policy, or
else of the fallback, as they are exactly if that policy has neither assets nor allowlists. -/
theorem profile_protects_iff (push : ProfilePush) {store : DetectionPolicyStore × Heap}
    (hstore : DetectionPolicyStore.Reached store) (force : Bool) (r : PolicyReading)
    (hreads : store.1.poll.Reads force r.det.now r.det.stamp)
    (hload : Loaded push (pollProfile store.1.profile force r store.2).1) :
    KeepsProtection (policyOf none r.fallback r.det.file)
        (DetectionPolicyStore.inForce (store.1.maybeReload force r store.2).1)
      ↔ (policyOf none r.fallback r.det.file).assetList = []
        ∧ (policyOf none r.fallback r.det.file).body.globalAllowlists.getD {} = {} := by
  rw [keepsProtection_iff, DetectionPolicyStore.inForce_with_profile hstore.ok hreads hload,
    eq_comm]
  exact Prod.ext_iff

/-! A site with one relay; a profile of its traffic is pushed while the policy stays. -/

/-- The relay and who may talk to it. -/
def relayBay : DetectionArtifact where
  version := "1"
  baseline := some { body := { assets := some [
    { assetId := some "relay-1", addresses := ["10.0.0.5"], allowedPeers := ["10.0.0.9"] }] } }

/-- A poll of the detection policy, with a profile on disk or without one. -/
def bayPoll (now : Rat) (stamp : String) (artifact : Option DetectionArtifact)
    (profile : Option BaselineProfile) : PolicyReading where
  det := ⟨now, stamp, artifact⟩
  profile := ⟨now, "p1", profile⟩
  profileAgain := ⟨now, "p1", profile⟩
  fallback := none

/-- The store that has read an artifact, no profile being there yet. -/
def bayStore (artifact : Option DetectionArtifact) : DetectionPolicyStore × Heap :=
  DetectionPolicyStore.init 5 (some ⟨0, "", none⟩) (bayPoll 0 "1" artifact none) []

/-- The same, after the next poll has read the artifact again, under a new stamp, and the
profile. -/
def bayPushed (artifact : Option DetectionArtifact) : DetectionPolicyStore × Heap :=
  ((bayStore artifact).1.maybeReload false (bayPoll 10 "2" artifact (some samplePush.profile))
    (bayStore artifact).2).1

/-- Somebody else opens a connection to the relay. -/
def strangerOpens (doc : PolicyDoc) : List SecurityEvent :=
  (MvpDetector.unauthorizedAccess
    ⟨doc, fun _ => false, (PacketEnv.bare 20 ⟨20, "", none⟩).clock⟩
    ⟨none, some "10.0.0.7", some "10.0.0.5", some 102, none⟩
    { siteId := "site", sensorId := "sensor", policy := {} }).2

theorem profile_protects_iff_bare :
    KeepsProtection (policyOf none none none)
      (DetectionPolicyStore.inForce (bayPushed none)) := by
  have hreached : DetectionPolicyStore.Reached (bayStore none) := ⟨_, _, _, _, [], rfl⟩
  refine (profile_protects_iff samplePush hreached false
    (bayPoll 10 "2" none (some samplePush.profile)) (by decide +kernel) ?_).mpr ⟨rfl, rfl⟩
  exact ⟨_, rfl, by decide +kernel⟩

/-- **The relay is forgotten**: before the profile a stranger's access is reported, after it
no more. -/
theorem profile_drops_assets :
    DetectionPolicyStore.inForce (bayStore (some relayBay)) = policyOf none none (some relayBay)
      ∧ (strangerOpens (DetectionPolicyStore.inForce (bayStore (some relayBay)))).length = 1
      ∧ strangerOpens (DetectionPolicyStore.inForce (bayPushed (some relayBay))) = []
      ∧ ¬ KeepsProtection (policyOf none none (some relayBay))
        (DetectionPolicyStore.inForce (bayPushed (some relayBay))) := by
  refine ⟨by decide +kernel, by decide +kernel, by decide +kernel, fun hkeeps => ?_⟩
  exact absurd hkeeps.1 (by decide +kernel)

end EdgeSensor.Sensor
