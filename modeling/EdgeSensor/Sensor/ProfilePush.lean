import EdgeSensor.Sensor.PolicyReload

/-!
# A pushed baseline profile

A profile with a new stamp is on disk and stays there (`ProfilePush`). The sensor is
to work with the policy it stands for: the store and every detector (`Installed`).

Two gates stand in the way. The detection store asks the profile store only when it
reads its own file, which it does when the *detection policy's* stamp is new or it
holds no artifact; and its return value, which decides whether the detectors are
told, compares its own artifact only. `Adopts` is what opens both, and
`reload_installed_iff` says that nothing else does: any other reload leaves the
detectors with what they had.
-/

namespace EdgeSensor.Sensor.PacketPipeline

open EdgeSensor.Lib EdgeSensor.Py EdgeSensor.Parser

/-- A profile on disk, its stamp, and the policy it stands for. -/
structure ProfilePush where
  stamp : String
  profile : BaselineProfile
  doc : PolicyDoc
  valid : profileBaseline (some profile) = some doc

/-- Both polls of the profile store see the push. -/
def Seen (push : ProfilePush) (r : PolicyReading) : Prop :=
  (r.profile.stamp = push.stamp ∧ r.profile.file = some push.profile)
    ∧ r.profileAgain.stamp = push.stamp ∧ r.profileAgain.file = some push.profile

/-- Every poll a reload makes sees the push. -/
def SeenBy (push : ProfilePush) (r : ReloadReading) : Prop :=
  Seen push r.poll ∧ Seen push r.policy ∧ Seen push r.rules

/-- The store's policy is the profile's, perhaps with thresholds laid over it. -/
def StoreHolds (doc : PolicyDoc) (s : PacketPipeline) : Prop :=
  s.policyStore.baseline.DerivedFrom doc s.heap

/-- So is the policy of every detector. -/
def DetectorsHold (doc : PolicyDoc) (s : PacketPipeline) : Prop :=
  ∀ held ∈ s.holdings, held.1.DerivedFrom doc s.heap

/-- The sensor works with the profile's policy. -/
def Installed (doc : PolicyDoc) (s : PacketPipeline) : Prop := StoreHolds doc s ∧ DetectorsHold doc s

/-- Both throttles have run out. -/
def TimersDue (s : PacketPipeline) (r : ReloadReading) : Prop :=
  s.policyStore.poll.Due r.poll.det.now
    ∧ ∀ p ∈ s.policyStore.profile, p.poll.Due r.poll.profile.now

/-- The detection policy changed too: its stamp is new, or the store held no artifact
and now finds one. -/
def Adopts (s : PacketPipeline) (r : ReloadReading) : Prop :=
  r.poll.det.stamp ≠ s.policyStore.poll.lastStamp
    ∨ (s.policyStore.poll.artifact = none ∧ r.poll.det.file ≠ none)

/-! ## The profile store under a push -/

/-- The profile store has read the pushed file. -/
def Loaded (push : ProfilePush) (profile : Option BaselineProfileStore) : Prop :=
  ∃ p, profile = some p ∧ p.poll.artifact = some push.profile

/-- The profile store does not take the pushed stamp for that of another file. -/
def Known (push : ProfilePush) (profile : Option BaselineProfileStore) : Prop :=
  ∃ p, profile = some p ∧ (p.poll.lastStamp = push.stamp → p.poll.artifact = some push.profile)

section ProfileStore

variable {push : ProfilePush} {profile : Option BaselineProfileStore} {heap : Heap}
  {r : PolicyReading}

theorem Loaded.known (h : Loaded push profile) : Known push profile := by
  obtain ⟨p, hp, hart⟩ := h
  exact ⟨p, hp, fun _ => hart⟩

/-- What the profile store polls: the file before the store chooses, and the file again. -/
theorem exists_pollProfile {p : BaselineProfileStore} (hok : p.Ok heap) (force : Bool)
    (r : PolicyReading) :
    ∃ p', (pollProfile (some p) force r heap).1 = some p'
      ∧ p'.poll = ((p.poll.maybeReload force r.profile).1.maybeReload false r.profileAgain).1 := by
  obtain ⟨hpoll, hok', -⟩ := BaselineProfileStore.maybeReload_spec hok force r.profile
  obtain ⟨hpoll', -, -⟩ := BaselineProfileStore.maybeReload_spec hok' false r.profileAgain
  rw [pollProfile_some]
  exact ⟨_, rfl, hpoll'.trans (by rw [hpoll])⟩

/-- Both polls keep a profile that is loaded. -/
theorem Loaded.afterPolls (h : Loaded push profile) (hok : ∀ p, profile = some p → p.Ok heap)
    (hseen : Seen push r) (force : Bool) : Loaded push (pollProfile profile force r heap).1 := by
  obtain ⟨p, rfl, hart⟩ := h
  obtain ⟨p', hp', hpolls⟩ := exists_pollProfile (hok p rfl) force r
  refine ⟨p', hp', ?_⟩
  rw [hpolls]
  exact StampStore.maybeReload_holds hseen.2.2 (StampStore.maybeReload_holds hseen.1.2 hart force)
    false

/-- Both polls keep the stamps apart. -/
theorem Known.afterPolls (h : Known push profile) (hok : ∀ p, profile = some p → p.Ok heap)
    (hseen : Seen push r) (force : Bool) : Known push (pollProfile profile force r heap).1 := by
  obtain ⟨p, rfl, hart⟩ := h
  obtain ⟨p', hp', hpolls⟩ := exists_pollProfile (hok p rfl) force r
  refine ⟨p', hp', ?_⟩
  rw [hpolls]
  have hfirst := StampStore.maybeReload_known hseen.1.2 (by rw [hseen.1.1]; exact hart) force
  rw [hseen.1.1] at hfirst
  have hsecond := StampStore.maybeReload_known hseen.2.2 (by rw [hseen.2.1]; exact hfirst) false
  rw [hseen.2.1] at hsecond
  exact hsecond

/-- A poll that is due loads the push. -/
theorem Known.afterPolls_due (h : Known push profile) (hok : ∀ p, profile = some p → p.Ok heap)
    (hseen : Seen push r) (hdue : ∀ p, profile = some p → p.poll.Due r.profile.now) :
    Loaded push (pollProfile profile false r heap).1 := by
  obtain ⟨p, rfl, hart⟩ := h
  obtain ⟨p', hp', hpolls⟩ := exists_pollProfile (hok p rfl) false r
  refine ⟨p', hp', ?_⟩
  rw [hpolls]
  exact StampStore.maybeReload_holds hseen.2.2 (StampStore.maybeReload_due_holds hseen.1.2
    (hdue p rfl) (by rw [hseen.1.1]; exact hart)) false

end ProfileStore

/-! ## The detection store under a push -/

/-- A store that reads its file with the push loaded adopts the push's policy. -/
theorem install_derivedFrom {push : ProfilePush} {store : DetectionPolicyStore} {heap : Heap}
    (hok : store.Ok heap) (poll : StampStore DetectionArtifact) (force : Bool) (r : PolicyReading)
    (hload : Loaded push (pollProfile store.profile force r heap).1) :
    (store.install poll force r heap).1.baseline.DerivedFrom push.doc
      (store.install poll force r heap).2 := by
  obtain ⟨p, hp, hart⟩ := hload
  obtain ⟨hprofile, -⟩ := DetectionPolicyStore.pollProfile_spec hok.profile force r
  obtain ⟨obj, hobj, hder⟩ := (hprofile p hp).baseline (by rw [hart]; exact push.valid)
  have hchosen : chooseBaseline (pollProfile store.profile force r heap).1 r.det.file r.fallback
      (pollProfile store.profile force r heap).2
      = (obj, (pollProfile store.profile force r heap).2) := by
    unfold chooseBaseline
    rw [hp, Option.bind_some, hobj]
  unfold DetectionPolicyStore.install
  simp only
  rw [hchosen]
  exact hder.overlay _

/-- A poll keeps the push loaded. -/
theorem loaded_maybeReload {push : ProfilePush} {store : DetectionPolicyStore} {heap : Heap}
    (hok : store.Ok heap) {r : PolicyReading} (hseen : Seen push r) (force : Bool)
    (h : Loaded push store.profile) : Loaded push (store.maybeReload force r heap).1.1.profile := by
  rcases store.maybeReload_profile force r heap with hprofile | hprofile
  · rw [hprofile]
    exact h
  · rw [hprofile]
    exact h.afterPolls hok.profile hseen force

theorem known_maybeReload {push : ProfilePush} {store : DetectionPolicyStore} {heap : Heap}
    (hok : store.Ok heap) {r : PolicyReading} (hseen : Seen push r) (force : Bool)
    (h : Known push store.profile) : Known push (store.maybeReload force r heap).1.1.profile := by
  rcases store.maybeReload_profile force r heap with hprofile | hprofile
  · rw [hprofile]
    exact h
  · rw [hprofile]
    exact h.afterPolls hok.profile hseen force

/-- With the push loaded, a poll leaves the store's policy derived from it. -/
theorem derivedFrom_maybeReload {push : ProfilePush} {store : DetectionPolicyStore} {heap : Heap}
    (hok : store.Ok heap) {r : PolicyReading} (hseen : Seen push r) (force : Bool)
    (h : Loaded push store.profile) (hder : store.baseline.DerivedFrom push.doc heap) :
    (store.maybeReload force r heap).1.1.baseline.DerivedFrom push.doc
      (store.maybeReload force r heap).1.2 := by
  unfold DetectionPolicyStore.maybeReload
  rcases store.poll.maybeReload_cases force r.det with hpoll | ⟨hpoll, -⟩ | hpoll
  · rw [hpoll]
    exact hder
  · rw [hpoll]
    exact hder
  · rw [hpoll]
    exact install_derivedFrom hok _ force r (h.afterPolls hok.profile hseen force)

/-! ## One reload -/

/-- A changed detection policy gets the store past its own early return. -/
theorem not_current_of_adopts {s : PacketPipeline} {r : ReloadReading} (hadopts : Adopts s r) :
    ¬ s.policyStore.poll.Current r.poll.det.stamp := by
  intro hcur
  rcases hadopts with hstamp | ⟨hnone, -⟩
  · exact hstamp hcur.1
  · have hsome := hcur.2
    rw [hnone] at hsome
    cases hsome

/-- A reload whose poll reports a change hands the store's policy to everybody, as
it stands after the poll inside `policy()`. -/
theorem installed_of_changed {push : ProfilePush} {s : PacketPipeline} (r : ReloadReading)
    (hseen : SeenBy push r)
    (hok : (s.policyStore.maybeReload false r.poll s.heap).1.1.Ok
      (s.policyStore.maybeReload false r.poll s.heap).1.2)
    (hchanged : (s.policyStore.maybeReload false r.poll s.heap).2 = true)
    (hload : Loaded push (s.policyStore.maybeReload false r.poll s.heap).1.1.profile)
    (hder : (s.policyStore.maybeReload false r.poll s.heap).1.1.baseline.DerivedFrom push.doc
      (s.policyStore.maybeReload false r.poll s.heap).1.2) :
    Installed push.doc (reloadDetectionPolicy r s) := by
  unfold reloadDetectionPolicy
  simp only [hchanged, if_true]
  obtain ⟨hok', hle'⟩ := DetectionPolicyStore.maybeReload_spec hok false r.policy
  obtain ⟨-, hle''⟩ := DetectionPolicyStore.maybeReload_spec hok' false r.rules
  have hload' := loaded_maybeReload hok hseen.2.1 false hload
  have hder' := derivedFrom_maybeReload hok hseen.2.1 false hload hder
  refine ⟨derivedFrom_maybeReload hok' hseen.2.2 false hload' hder', fun held hheld => ?_⟩
  rw [holdings_installPolicy] at hheld
  obtain ⟨_, -, rfl⟩ := List.mem_map.mp hheld
  exact hder'.mono hle''

/-- A due poll at the stamp the store has loaded returns before it asks the profile store. -/
theorem maybeReload_of_current {store : DetectionPolicyStore} {r : PolicyReading} {heap : Heap}
    (hdue : store.poll.Due r.det.now) (hcur : store.poll.Current r.det.stamp) :
    store.maybeReload false r heap
      = (({ store with poll := { store.poll with lastCheck := r.det.now } }, heap), false) := by
  unfold DetectionPolicyStore.maybeReload
  rw [StampStore.maybeReload_current hdue hcur]

/-- A due poll at any other stamp installs what it reads. -/
theorem maybeReload_of_not_current {store : DetectionPolicyStore} {r : PolicyReading} {heap : Heap}
    (hdue : store.poll.Due r.det.now) (hcur : ¬ store.poll.Current r.det.stamp) :
    store.maybeReload false r heap
      = (store.install (store.poll.load r.det) false r heap,
        decide (r.det.stamp ≠ store.poll.lastStamp ∨ r.det.file ≠ store.poll.artifact)) := by
  unfold DetectionPolicyStore.maybeReload
  rw [StampStore.maybeReload_loaded hdue hcur]

section Reload

variable {push : ProfilePush} {s : PacketPipeline} (h : s.PolicyOk) {r : ReloadReading}
  (hdue : TimersDue s r)
include hdue

/-- At the stamp the store has loaded, nobody's policy changes. -/
theorem reload_installed_of_current (hcur : s.policyStore.poll.Current r.poll.det.stamp) :
    Installed push.doc (reloadDetectionPolicy r s)
      ↔ StoreHolds push.doc s ∧ DetectorsHold push.doc s := by
  unfold reloadDetectionPolicy
  simp only [@maybeReload_of_current s.policyStore r.poll s.heap hdue.1 hcur, Bool.false_eq_true,
    if_false]
  exact Iff.rfl

include h

/-- Past the early return, the profile store has read the push and the store's policy is
derived from it. -/
theorem reload_derivedFrom (hknown : Known push s.policyStore.profile) (hseen : SeenBy push r)
    (hcur : ¬ s.policyStore.poll.Current r.poll.det.stamp) :
    Loaded push (s.policyStore.maybeReload false r.poll s.heap).1.1.profile
      ∧ (s.policyStore.maybeReload false r.poll s.heap).1.1.baseline.DerivedFrom push.doc
        (s.policyStore.maybeReload false r.poll s.heap).1.2 := by
  have hload : Loaded push (pollProfile s.policyStore.profile false r.poll s.heap).1 :=
    hknown.afterPolls_due h.store.profile hseen.1 hdue.2
  rw [maybeReload_of_not_current hdue.1 hcur]
  exact ⟨hload, install_derivedFrom h.store _ false r.poll hload⟩

/-- A changed detection policy brings the push to everybody. -/
theorem reload_installed_of_adopts (hknown : Known push s.policyStore.profile)
    (hseen : SeenBy push r) (hadopts : Adopts s r) :
    Installed push.doc (reloadDetectionPolicy r s) := by
  have hcur := not_current_of_adopts hadopts
  obtain ⟨hload, hder⟩ := reload_derivedFrom h hdue hknown hseen hcur
  have hchanged : (s.policyStore.maybeReload false r.poll s.heap).2 = true := by
    rw [maybeReload_of_not_current hdue.1 hcur, decide_eq_true_iff]
    rcases hadopts with hstamp | ⟨hnone, hfile⟩
    · exact .inl hstamp
    · exact .inr (by rw [hnone]; exact hfile)
  exact installed_of_changed r hseen (DetectionPolicyStore.maybeReload_spec h.store false r.poll).1
    hchanged hload hder

/-- Without an artifact before and after, the poll reports no change, and lays nothing
over: the detectors keep what they hold. -/
theorem reload_installed_of_unchanged (hknown : Known push s.policyStore.profile)
    (hseen : SeenBy push r) (hcur : ¬ s.policyStore.poll.Current r.poll.det.stamp)
    (hadopts : ¬ Adopts s r) :
    Installed push.doc (reloadDetectionPolicy r s) ↔ DetectorsHold push.doc s := by
  obtain ⟨-, hder⟩ := reload_derivedFrom h hdue hknown hseen hcur
  have hpoll := @maybeReload_of_not_current s.policyStore r.poll s.heap hdue.1 hcur
  have hstamp : r.poll.det.stamp = s.policyStore.poll.lastStamp := by
    by_contra hne
    exact hadopts (.inl hne)
  have hnone : s.policyStore.poll.artifact = none := by
    by_contra hsome
    exact hcur ⟨hstamp, Option.isSome_iff_ne_none.mpr hsome⟩
  have hfile : r.poll.det.file = none := by
    by_contra hsome
    exact hadopts (.inr ⟨hnone, hsome⟩)
  have hgrown := DetectionPolicyStore.install_grown h.store (s.policyStore.poll.load r.poll.det)
    false (r := r.poll) (by rw [hfile]; rfl)
  have hunchanged : (s.policyStore.maybeReload false r.poll s.heap).2 = false := by
    rw [hpoll, decide_eq_false_iff_not, hstamp, hfile, hnone]
    simp
  have hafter : reloadDetectionPolicy r s
      = { s with
          policyStore := (s.policyStore.install (s.policyStore.poll.load r.poll.det) false r.poll
            s.heap).1
          heap := (s.policyStore.install (s.policyStore.poll.load r.poll.det) false r.poll
            s.heap).2 } := by
    unfold reloadDetectionPolicy
    simp only [hunchanged, Bool.false_eq_true, if_false]
    rw [hpoll]
  rw [hpoll] at hder
  rw [hafter]
  constructor
  · intro hinst held hheld
    exact (hgrown.derivedFrom_iff (h.held held hheld) push.doc).mp (hinst.2 held hheld)
  · intro hheld
    exact ⟨hder, fun held hin =>
      (hgrown.derivedFrom_iff (h.held held hin) push.doc).mpr (hheld held hin)⟩

end Reload

/-- **One reload under a push.** With both timers due, the sensor works with the
profile's policy afterwards exactly if the detection policy changed too, or if it
worked with it before. -/
theorem reload_installed_iff {push : ProfilePush} {s : PacketPipeline} (h : s.PolicyOk)
    (hknown : Known push s.policyStore.profile) {r : ReloadReading} (hseen : SeenBy push r)
    (hdue : TimersDue s r) :
    Installed push.doc (reloadDetectionPolicy r s)
      ↔ Adopts s r ∨ (DetectorsHold push.doc s
        ∧ (s.policyStore.poll.Current r.poll.det.stamp → StoreHolds push.doc s)) := by
  by_cases hcur : s.policyStore.poll.Current r.poll.det.stamp
  · have hadopts : ¬ Adopts s r := fun hadopts => not_current_of_adopts hadopts hcur
    rw [reload_installed_of_current hdue hcur, or_iff_right hadopts, and_comm]
    refine and_congr_right fun _ => ?_
    constructor
    · intro hstore _
      exact hstore
    · intro hstore
      exact hstore hcur
  · by_cases hadopts : Adopts s r
    · exact iff_of_true (reload_installed_of_adopts h hdue hknown hseen hadopts) (.inl hadopts)
    · rw [reload_installed_of_unchanged h hdue hknown hseen hcur hadopts, or_iff_right hadopts]
      exact (and_iff_left fun hcur' => absurd hcur' hcur).symm

/-- A reload keeps a push that is known, loaded or installed. -/
theorem reload_known {push : ProfilePush} {s : PacketPipeline} (h : s.PolicyOk) {r : ReloadReading}
    (hseen : SeenBy push r) (hknown : Known push s.policyStore.profile) :
    Known push (reloadDetectionPolicy r s).policyStore.profile := by
  obtain ⟨hok, -⟩ := DetectionPolicyStore.maybeReload_spec h.store false r.poll
  obtain ⟨hok', -⟩ := DetectionPolicyStore.maybeReload_spec hok false r.policy
  have hfirst := known_maybeReload h.store hseen.1 false hknown
  unfold reloadDetectionPolicy
  simp only
  split
  · exact known_maybeReload hok' hseen.2.2 false (known_maybeReload hok hseen.2.1 false hfirst)
  · exact hfirst

theorem reload_loaded {push : ProfilePush} {s : PacketPipeline} (h : s.PolicyOk) {r : ReloadReading}
    (hseen : SeenBy push r) (hload : Loaded push s.policyStore.profile) :
    Loaded push (reloadDetectionPolicy r s).policyStore.profile := by
  obtain ⟨hok, -⟩ := DetectionPolicyStore.maybeReload_spec h.store false r.poll
  obtain ⟨hok', -⟩ := DetectionPolicyStore.maybeReload_spec hok false r.policy
  have hfirst := loaded_maybeReload h.store hseen.1 false hload
  unfold reloadDetectionPolicy
  simp only
  split
  · exact loaded_maybeReload hok' hseen.2.2 false (loaded_maybeReload hok hseen.2.1 false hfirst)
  · exact hfirst

theorem reload_installed {push : ProfilePush} {s : PacketPipeline} (h : s.PolicyOk)
    {r : ReloadReading} (hseen : SeenBy push r) (hload : Loaded push s.policyStore.profile)
    (hinst : Installed push.doc s) : Installed push.doc (reloadDetectionPolicy r s) := by
  obtain ⟨hok, hle⟩ := DetectionPolicyStore.maybeReload_spec h.store false r.poll
  have hload' := loaded_maybeReload h.store hseen.1 false hload
  have hder := derivedFrom_maybeReload h.store hseen.1 false hload hinst.1
  cases hchanged : (s.policyStore.maybeReload false r.poll s.heap).2 with
  | true => exact installed_of_changed r hseen hok hchanged hload' hder
  | false =>
    unfold reloadDetectionPolicy
    simp only [hchanged, Bool.false_eq_true, if_false]
    exact ⟨hder, fun held hheld => (hinst.2 held hheld).mono hle⟩

/-! ## A run -/

/-- What the policy side decides: two pipelines that agree on it agree on what is installed. -/
theorem installed_congr {s s' : PacketPipeline} (heq : s'.policySide = s.policySide)
    (doc : PolicyDoc) : Installed doc s' ↔ Installed doc s := by
  have hstore : s'.policyStore = s.policyStore := congrArg (·.1) heq
  have hheap : s'.heap = s.heap := congrArg (·.2.1) heq
  have hheld : s'.holdings = s.holdings := congrArg (·.2.2) heq
  unfold Installed StoreHolds DetectorsHold
  rw [hstore, hheap, hheld]

/-- The profile store after a call is the one its reload leaves. -/
theorem feed_profile (s : PacketPipeline) (input : PacketEnv × Packet) :
    (feed s input).policyStore.profile
      = (reloadDetectionPolicy input.1.reload s).policyStore.profile :=
  congrArg (·.1.profile) (feed_policySide s input)

/-- Under a push, calls keep it known. -/
theorem feedAll_known {push : ProfilePush} {s : PacketPipeline} (h : s.PolicyOk)
    (hknown : Known push s.policyStore.profile) (inputs : List (PacketEnv × Packet))
    (hseen : ∀ input ∈ inputs, SeenBy push input.1.reload) :
    (feedAll s inputs).PolicyOk ∧ Known push (feedAll s inputs).policyStore.profile := by
  induction inputs generalizing s with
  | nil => exact ⟨h, hknown⟩
  | cons input rest ih =>
    have hinput := hseen input List.mem_cons_self
    refine ih (h.feed input) ?_ fun other hother => hseen other (List.mem_cons_of_mem _ hother)
    rw [feed_profile]
    exact reload_known h hinput hknown

/-- Under a push, calls keep what a reload has installed. -/
theorem feedAll_installed {push : ProfilePush} {s : PacketPipeline} (h : s.PolicyOk)
    (hload : Loaded push s.policyStore.profile) (hinst : Installed push.doc s)
    (inputs : List (PacketEnv × Packet)) (hseen : ∀ input ∈ inputs, SeenBy push input.1.reload) :
    Installed push.doc (feedAll s inputs) := by
  induction inputs generalizing s with
  | nil => exact hinst
  | cons input rest ih =>
    have hinput := hseen input List.mem_cons_self
    refine ih (h.feed input) ?_ ?_ fun other hother => hseen other (List.mem_cons_of_mem _ hother)
    · rw [feed_profile]
      exact reload_loaded h hinput hload
    · exact (installed_congr (feed_policySide s input) push.doc).mpr
        (reload_installed h hinput hload hinst)

/-- A reload that adopts the push has it loaded afterwards. -/
theorem loaded_of_adopts {push : ProfilePush} {s : PacketPipeline} (h : s.PolicyOk)
    (hknown : Known push s.policyStore.profile) {r : ReloadReading} (hseen : SeenBy push r)
    (hdue : TimersDue s r) (hadopts : Adopts s r) :
    Loaded push (reloadDetectionPolicy r s).policyStore.profile := by
  obtain ⟨hfirst, -⟩ := reload_derivedFrom h hdue hknown hseen (not_current_of_adopts hadopts)
  obtain ⟨hok, -⟩ := DetectionPolicyStore.maybeReload_spec h.store false r.poll
  obtain ⟨hok', -⟩ := DetectionPolicyStore.maybeReload_spec hok false r.policy
  unfold reloadDetectionPolicy
  simp only
  split
  · exact loaded_maybeReload hok' hseen.2.2 false (loaded_maybeReload hok hseen.2.1 false hfirst)
  · exact hfirst

/-- A profile that lists one MMS server. -/
def samplePush : ProfilePush where
  stamp := "p1"
  profile := { profileId := "line-1", version := "1"
               observed := some { mmsIeds := [{ iedIp := some "10.0.0.1" }] } }
  doc := observedToDetectionBaseline { mmsIeds := [{ iedIp := some "10.0.0.1" }] }
  valid := rfl

/-- What a poll finds at time `now`: a detection policy under `stamp`, and a profile. -/
def samplePoll (now : Rat) (stamp : String) (profile : Reading BaselineProfile) : PolicyReading where
  det := ⟨now, stamp, some { version := stamp }⟩
  profile := profile
  profileAgain := profile
  fallback := none

/-- A sensor started with detection policy "1" and no profile. -/
def sampleSensor : InitEnv :=
  { InitEnv.bare 0 ⟨0, "", none⟩ with
    profile := some ⟨0, "", none⟩
    store := samplePoll 0 "1" ⟨0, "", none⟩
    policy := samplePoll 0 "1" ⟨0, "", none⟩
    rules := samplePoll 0 "1" ⟨0, "", none⟩ }

/-- A reload at time 10 that finds the push, and a detection policy under `stamp`. -/
def sampleReload (stamp : String) : ReloadReading :=
  let poll := samplePoll 10 stamp ⟨10, "p1", some samplePush.profile⟩
  ⟨poll, poll, poll⟩

theorem sampleReload_seen (stamp : String) : SeenBy samplePush (sampleReload stamp) :=
  ⟨⟨⟨rfl, rfl⟩, rfl, rfl⟩, ⟨⟨rfl, rfl⟩, rfl, rfl⟩, ⟨⟨rfl, rfl⟩, rfl, rfl⟩⟩

end EdgeSensor.Sensor.PacketPipeline
