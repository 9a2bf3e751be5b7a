import EdgeSensor.Sensor.PolicyReload

/-!
# Hot reload against a restart

The profile file and the fallback policy stay as they are (`Site`), detection-policy
artifacts are pushed one after another, each under a stamp of its own and loaded
before the next (`HotRun`). Compared with a pipeline constructed on the final files:
the policies agree, and the rule sets agree when the last artifact lists rules. An
artifact without rules keeps the ones in force (`rulesInForce`), which a restart
cannot know.

`Synced` ties a store to the files: what it derived is what the files say. A poll of
files it has loaded changes nothing (`Synced.poll`), a poll of a new artifact brings
it in step with that one (`Synced.push`).

The policies are compared without their thresholds in general: thresholds of a
profile live in a dict that the profile store hands out, and the store lays the
artifact's thresholds over that same dict. Where the profile has none (`Plain`) the
thresholds agree too.
-/

namespace EdgeSensor.Sensor

open EdgeSensor.Lib EdgeSensor.Py EdgeSensor.Parser

/-- The files that stay: the baseline profile and the fallback policy. -/
structure Site where
  profileStamp : String
  profile : Option BaselineProfile
  fallback : Option PolicyDoc

/-- A pushed detection-policy artifact and its version stamp. -/
structure PolicyFile where
  stamp : String
  artifact : DetectionArtifact

/-- The stamp on disk after a series of pushes. -/
def stampOf (files : List PolicyFile) : String := (files.getLast?.map (·.stamp)).getD ""

/-- The artifact on disk. -/
def artifactOf (files : List PolicyFile) : Option DetectionArtifact :=
  files.getLast?.map (·.artifact)

/-- A poll that finds the files after a series of pushes. -/
structure Finds (site : Site) (files : List PolicyFile) (r : PolicyReading) : Prop where
  detStamp : r.det.stamp = stampOf files
  detFile : r.det.file = artifactOf files
  profileStamp : r.profile.stamp = site.profileStamp
  profile : r.profile.file = site.profile
  profileStampAgain : r.profileAgain.stamp = site.profileStamp
  profileAgain : r.profileAgain.file = site.profile
  fallback : r.fallback = site.fallback

/-- The first poll of the profile store, if there is one, finds the profile. -/
def FindsProfile (site : Site) (profile : Option (Reading BaselineProfile)) : Prop :=
  match profile with
  | none => site.profile = none
  | some r => r.file = site.profile

/-- The baseline the files stand for, before the artifact's thresholds. -/
def baselineDoc (site : Site) (files : List PolicyFile) : PolicyDoc :=
  (profileBaseline site.profile).getD
    (((artifactOf files).bind (·.baseline)).getD (loadPolicy site.fallback))

/-- The policy the files stand for. -/
def policyDoc (site : Site) (files : List PolicyFile) : PolicyDoc :=
  (baselineDoc site files).overlay (artifactThresholds (artifactOf files))

/-- The rules one artifact lists, cleaned; none when it has no list. -/
def rulesOf (file : PolicyFile) : Finset String :=
  (file.artifact.rulesEnabled.map cleanRules).getD ∅

/-- The rules in force after a series of pushes: the last non-empty list, or what the
sensor was started with. -/
def rulesInForce (given : Finset String) (files : List PolicyFile) : Finset String :=
  files.foldl (fun held file => if rulesOf file = ∅ then held else rulesOf file) given

/-- The profile stands for a policy without thresholds, or for none. -/
def Plain (site : Site) : Prop :=
  ∀ doc, profileBaseline site.profile = some doc → doc.thresholds = none

/-! ## The stores in step with the files -/

/-- The profile store has loaded the site's profile. -/
structure ProfileSynced (site : Site) (p : BaselineProfileStore) : Prop where
  artifact : p.poll.artifact = site.profile
  plain : Plain site → ∀ obj ∈ p.baseline, obj.thresholds = none

/-- The detection store is in step with the files. -/
structure Synced (site : Site) (files : List PolicyFile) (store : DetectionPolicyStore)
    (heap : Heap) : Prop where
  ok : store.Ok heap
  stamp : store.poll.lastStamp = stampOf files
  artifact : store.poll.artifact = artifactOf files
  profile : ∀ p, store.profile = some p → ProfileSynced site p
  noProfile : store.profile = none → site.profile = none
  body : store.baseline.body = (baselineDoc site files).body
  doc : Plain site → store.baseline.resolve heap = policyDoc site files

section Stores

variable {site : Site} {files : List PolicyFile}

/-- Installing the site's profile brings the profile store in step with it. -/
theorem profileSynced_install {poll : StampStore BaselineProfile}
    (hpoll : poll.artifact = site.profile) {file : Option BaselineProfile}
    (hfile : file = site.profile) (heap : Heap) :
    ProfileSynced site (BaselineProfileStore.install poll file heap).1 := by
  subst hfile
  unfold BaselineProfileStore.install
  cases hdoc : profileBaseline site.profile with
  | none => exact ⟨hpoll, fun _ obj hobj => absurd hobj (by simp)⟩
  | some doc =>
    refine ⟨hpoll, fun hplain obj hobj => ?_⟩
    have hnone := hplain doc hdoc
    simp only [Option.mem_def, Option.some.injEq] at hobj
    rw [← hobj, PolicyDoc.alloc, hnone]

/-- A poll of the site's profile leaves the profile store in step with it. -/
theorem ProfileSynced.maybeReload {p : BaselineProfileStore} (h : ProfileSynced site p)
    {r : Reading BaselineProfile} (hfile : r.file = site.profile) (force : Bool) (heap : Heap) :
    ProfileSynced site (p.maybeReload force r heap).1 := by
  unfold BaselineProfileStore.maybeReload
  rcases p.poll.maybeReload_cases force r with hpoll | ⟨hpoll, -⟩ | hpoll
  · rw [hpoll]
    exact ⟨h.artifact, h.plain⟩
  · rw [hpoll]
    exact ⟨h.artifact, h.plain⟩
  · rw [hpoll]
    exact profileSynced_install hfile hfile heap

/-- The profile side of a detection store: in step, or not configured and no file. -/
def ProfilesSynced (site : Site) (profile : Option BaselineProfileStore) : Prop :=
  (∀ p, profile = some p → ProfileSynced site p) ∧ (profile = none → site.profile = none)

theorem ProfilesSynced.pollProfile {profile : Option BaselineProfileStore}
    (h : ProfilesSynced site profile) {r : PolicyReading} (hr : Finds site files r) (force : Bool)
    (heap : Heap) : ProfilesSynced site (pollProfile profile force r heap).1 := by
  cases profile with
  | none => exact h
  | some p =>
    rw [pollProfile_some]
    refine ⟨fun q hq => ?_, fun hnone => absurd hnone (by simp)⟩
    cases hq
    exact ((h.1 p rfl).maybeReload hr.profile force heap).maybeReload hr.profileAgain false _

/-- With the profile side in step, the baseline a store chooses is the one the files
stand for; of a plain site it is an object whose dict, if any, nobody else has. -/
theorem chooseBaseline_synced {profile : Option BaselineProfileStore} {heap : Heap}
    (h : ProfilesSynced site profile) (hok : ∀ p, profile = some p → p.Ok heap) :
    (chooseBaseline profile (artifactOf files) site.fallback heap).1.body
        = (baselineDoc site files).body
      ∧ (Plain site → (chooseBaseline profile (artifactOf files) site.fallback heap).1.resolve
          (chooseBaseline profile (artifactOf files) site.fallback heap).2 = baselineDoc site files)
      ∧ (Plain site → ∀ ref, (chooseBaseline profile (artifactOf files) site.fallback heap).1.thresholds
          = some ref → heap.length ≤ ref) := by
  unfold chooseBaseline
  cases hbase : profile.bind (·.baseline) with
  | some obj =>
    obtain ⟨p, rfl, hobj⟩ := Option.bind_eq_some_iff.mp hbase
    have hsync := h.1 p rfl
    obtain ⟨doc, hdoc, hder⟩ := (hok p rfl).doc hobj
    rw [hsync.artifact] at hdoc
    have hbaseline : baselineDoc site files = doc := by
      unfold baselineDoc
      rw [hdoc]
      rfl
    have hbody : obj.body = doc.body := hder.body
    simp only
    refine ⟨by rw [hbaseline, hbody], fun hplain => ?_, fun hplain ref href => ?_⟩
    · have hthr := hsync.plain hplain obj hobj
      have hdocThr := hplain doc hdoc
      rw [hbaseline, PolicyObj.resolve, hthr, hbody]
      exact congrArg (PolicyDoc.mk doc.body) hdocThr.symm
    · rw [hsync.plain hplain obj hobj] at href
      cases href
  | none =>
    have hprofile : profileBaseline site.profile = none := by
      cases profile with
      | none =>
        rw [h.2 rfl]
        rfl
      | some p =>
        rw [← (h.1 p rfl).artifact]
        exact (hok p rfl).noDoc hbase
    have hbaseline : baselineDoc site files
        = ((artifactOf files).bind (·.baseline)).getD (loadPolicy site.fallback) := by
      unfold baselineDoc
      rw [hprofile]
      rfl
    rw [hbaseline]
    cases (artifactOf files).bind (·.baseline) with
    | some doc =>
      exact ⟨doc.alloc_body heap, fun _ => doc.resolve_alloc heap, fun _ _ => doc.alloc_ref heap⟩
    | none =>
      exact ⟨(loadPolicy site.fallback).alloc_body heap,
        fun _ => (loadPolicy site.fallback).resolve_alloc heap,
        fun _ _ => (loadPolicy site.fallback).alloc_ref heap⟩

/-- A store that reads the files is in step with them. Of a plain site, nobody else
sees a difference. -/
theorem install_synced {store : DetectionPolicyStore} (poll : StampStore DetectionArtifact)
    {heap : Heap} (hok : store.Ok heap) (hprofiles : ProfilesSynced site store.profile)
    (hstamp : poll.lastStamp = stampOf files) (hart : poll.artifact = artifactOf files)
    {r : PolicyReading} (hr : Finds site files r) (force : Bool) :
    Synced site files (store.install poll force r heap).1 (store.install poll force r heap).2
      ∧ (Plain site → heap.Grown (store.install poll force r heap).2) := by
  obtain ⟨hprofOk, hgrown⟩ := DetectionPolicyStore.pollProfile_spec hok.profile force r
  have hprof := hprofiles.pollProfile hr force heap
  obtain ⟨hbody, hdoc, hnew⟩ := @chooseBaseline_synced site files _ _ hprof hprofOk
  obtain ⟨hvalid, hgrown'⟩ := DetectionPolicyStore.chooseBaseline_spec hprofOk (artifactOf files)
    site.fallback
  have hinstOk := (DetectionPolicyStore.install_spec hok poll force r).1
  unfold DetectionPolicyStore.install at hinstOk ⊢
  simp only [hr.detFile, hr.fallback] at hinstOk ⊢
  refine ⟨⟨hinstOk, hstamp, hart, hprof.1, hprof.2, ?_, fun hplain => ?_⟩, fun hplain => ?_⟩
  · rw [PolicyObj.overlay_body, hbody]
  · rw [PolicyObj.resolve_overlay _ hvalid, hdoc hplain]
    rfl
  · exact (hgrown.trans hgrown').overlay
      (fun ref href => Nat.le_trans hgrown.1 (hnew hplain ref href)) _

theorem Synced.profiles {store : DetectionPolicyStore} {heap : Heap}
    (h : Synced site files store heap) : ProfilesSynced site store.profile :=
  ⟨h.profile, h.noProfile⟩

/-- **A poll of loaded files** keeps the store in step, reports no change and leaves
the rules alone. -/
theorem Synced.poll {store : DetectionPolicyStore} {heap : Heap}
    (h : Synced site files store heap) {r : PolicyReading} (hr : Finds site files r) :
    Synced site files (store.maybeReload false r heap).1.1 (store.maybeReload false r heap).1.2
      ∧ (Plain site → heap.Grown (store.maybeReload false r heap).1.2)
      ∧ (store.maybeReload false r heap).1.1.rulesEnabled = store.rulesEnabled
      ∧ (store.maybeReload false r heap).2 = false := by
  have hkept : ∀ poll : StampStore DetectionArtifact, poll.lastStamp = stampOf files →
      poll.artifact = artifactOf files → Synced site files { store with poll := poll } heap :=
    fun poll hstamp hart =>
      ⟨⟨h.ok.1, h.ok.2⟩, hstamp, hart, h.profile, h.noProfile, h.body, h.doc⟩
  unfold DetectionPolicyStore.maybeReload
  by_cases hdue : store.poll.Due r.det.now
  · by_cases hcur : store.poll.Current r.det.stamp
    · rw [StampStore.maybeReload_current hdue hcur]
      exact ⟨hkept _ h.stamp h.artifact, fun _ => .refl heap, rfl, rfl⟩
    · -- the stamp is the loaded one, so there is no artifact, before or after
      have hnone : artifactOf files = none := by
        by_contra hsome
        refine hcur ⟨by rw [hr.detStamp, h.stamp], ?_⟩
        rw [h.artifact]
        exact Option.isSome_iff_ne_none.mpr hsome
      rw [StampStore.maybeReload_loaded hdue hcur]
      obtain ⟨hsync, hgrown⟩ := install_synced (store.poll.load r.det) h.ok
        h.profiles hr.detStamp hr.detFile hr false
      refine ⟨hsync, hgrown, ?_, ?_⟩
      · simp only [DetectionPolicyStore.install, hr.detFile, hnone]
        rfl
      · simp only [hr.detStamp, h.stamp, hr.detFile, h.artifact]
        simp
  · rw [StampStore.maybeReload_throttled hdue]
    exact ⟨hkept _ h.stamp h.artifact, fun _ => .refl heap, rfl, rfl⟩

/-- **A poll of a new artifact** brings the store in step with it and reports a change. -/
theorem Synced.push {store : DetectionPolicyStore} {heap : Heap}
    (h : Synced site files store heap) {file : PolicyFile} (hstamp : file.stamp ≠ stampOf files)
    {r : PolicyReading} (hr : Finds site (files ++ [file]) r) (hdue : store.poll.Due r.det.now) :
    Synced site (files ++ [file]) (store.maybeReload false r heap).1.1
        (store.maybeReload false r heap).1.2
      ∧ (Plain site → heap.Grown (store.maybeReload false r heap).1.2)
      ∧ (store.maybeReload false r heap).1.1.rulesEnabled
        = artifactRules (some file.artifact) store.rulesEnabled
      ∧ (store.maybeReload false r heap).2 = true := by
  have hlast : r.det.stamp = file.stamp := by
    rw [hr.detStamp]
    simp [stampOf]
  have hfile : r.det.file = some file.artifact := by
    rw [hr.detFile]
    simp [artifactOf]
  have hcur : ¬ store.poll.Current r.det.stamp := by
    intro hcur
    rw [hlast] at hcur
    exact hstamp (hcur.1.trans h.stamp)
  unfold DetectionPolicyStore.maybeReload
  rw [StampStore.maybeReload_loaded hdue hcur]
  obtain ⟨hsync, hgrown⟩ := install_synced (store.poll.load r.det) h.ok h.profiles
    hr.detStamp hr.detFile hr false
  refine ⟨hsync, hgrown, ?_, ?_⟩
  · simp only [DetectionPolicyStore.install, hfile]
  · simp only [hlast, h.stamp]
    simp [hstamp]

/-- A constructed store is in step with the files it finds, its rules those of the artifact. -/
theorem init_synced {reloadCheckSec : Rat} {first : Option (Reading BaselineProfile)}
    (hfirst : FindsProfile site first) {r : PolicyReading} (hr : Finds site files r) (heap : Heap) :
    Synced site files (DetectionPolicyStore.init reloadCheckSec first r heap).1
        (DetectionPolicyStore.init reloadCheckSec first r heap).2
      ∧ (DetectionPolicyStore.init reloadCheckSec first r heap).1.rulesEnabled
        = artifactRules (artifactOf files) ∅ := by
  have hforced : ∀ (store : DetectionPolicyStore) (heap : Heap), store.Ok heap →
      ProfilesSynced site store.profile →
      Synced site files (store.maybeReload true r heap).1.1 (store.maybeReload true r heap).1.2
        ∧ (store.maybeReload true r heap).1.1.rulesEnabled
          = artifactRules (artifactOf files) store.rulesEnabled := by
    intro store heap hok hprofiles
    unfold DetectionPolicyStore.maybeReload
    rw [StampStore.maybeReload_force]
    refine ⟨(install_synced (store.poll.load r.det) hok hprofiles hr.detStamp hr.detFile hr true).1, ?_⟩
    simp only [DetectionPolicyStore.install, hr.detFile]
  unfold DetectionPolicyStore.init
  cases first with
  | none =>
    refine hforced _ heap ⟨fun ref href => ?_, fun p hp => ?_⟩ ⟨fun p hp => ?_, fun _ => hfirst⟩
    · cases href
    · cases hp
    · cases hp
  | some first =>
    have hempty : BaselineProfileStore.Ok { poll := { reloadCheckSec := reloadCheckSec } } heap := by
      unfold BaselineProfileStore.Ok
      trivial
    have hprofile := (BaselineProfileStore.maybeReload_spec hempty true first).2.1
    refine hforced _ _ ⟨fun ref href => ?_, fun p hp => ?_⟩ ⟨fun p hp => ?_, fun hnone => ?_⟩
    · cases href
    · cases hp
      exact hprofile
    · cases hp
      unfold BaselineProfileStore.maybeReload
      rw [StampStore.maybeReload_force]
      have hfile : first.file = site.profile := hfirst
      exact profileSynced_install hfile hfile heap
    · cases hnone

end Stores

/-! ## The pipeline in step with the files -/

/-- The pipeline's policy side is in step: the store, and what each detector holds. -/
structure PipelineSynced (site : Site) (given : Finset String) (files : List PolicyFile)
    (s : PacketPipeline) : Prop where
  store : Synced site files s.policyStore s.heap
  valid : ∀ held ∈ s.holdings, held.1.Valid s.heap
  body : ∀ held ∈ s.holdings, held.1.body = (baselineDoc site files).body
  doc : Plain site → ∀ held ∈ s.holdings, held.1.resolve s.heap = policyDoc site files
  rules : ∀ held ∈ s.holdings, held.2 = rulesInForce given files
  storeRules : s.policyStore.rulesEnabled = ∅
    ∨ s.policyStore.rulesEnabled = rulesInForce given files

section Pipelines

variable {site : Site} {given : Finset String} {files : List PolicyFile} {s : PacketPipeline}

theorem rulesInForce_append (given : Finset String) (files : List PolicyFile) (file : PolicyFile) :
    rulesInForce given (files ++ [file])
      = if rulesOf file = ∅ then rulesInForce given files else rulesOf file := by
  rw [rulesInForce, List.foldl_append]
  rfl

/-- What a push does to the rules: the store keeps its own unless the artifact lists
some, and what a detector is given is what is in force. -/
theorem rules_push {rules : Finset String} (h : rules = ∅ ∨ rules = rulesInForce given files)
    (file : PolicyFile) :
    (artifactRules (some file.artifact) rules = ∅
        ∨ artifactRules (some file.artifact) rules = rulesInForce given (files ++ [file]))
      ∧ (if artifactRules (some file.artifact) rules = ∅ then rulesInForce given files
        else artifactRules (some file.artifact) rules) = rulesInForce given (files ++ [file]) := by
  rw [rulesInForce_append]
  unfold artifactRules rulesOf
  cases hlist : file.artifact.rulesEnabled with
  | some listed =>
    simp only [Option.bind_some, hlist, Option.map_some, Option.getD_some, and_true]
    by_cases hempty : cleanRules listed = ∅
    · exact .inl hempty
    · exact .inr (if_neg hempty).symm
  | none =>
    simp only [Option.bind_some, hlist, Option.map_none, Option.getD_none, if_true]
    refine ⟨h, ?_⟩
    split
    next => rfl
    next hne => exact h.resolve_left hne

/-- The same at the start, on at most one artifact. -/
theorem rules_start (given : Finset String) (hfew : files.length ≤ 1) :
    (artifactRules (artifactOf files) ∅ = ∅
        ∨ artifactRules (artifactOf files) ∅ = rulesInForce given files)
      ∧ (if artifactRules (artifactOf files) ∅ = ∅ then given
        else artifactRules (artifactOf files) ∅) = rulesInForce given files := by
  match files with
  | [] => exact ⟨.inl rfl, if_pos rfl⟩
  | [file] =>
    have hart : artifactOf [file] = some file.artifact := rfl
    have hpush : (∅ : Finset String) = ∅ ∨ ∅ = rulesInForce given [] := .inl rfl
    rw [hart]
    exact rules_push hpush file
  | _ :: _ :: _ => simp at hfew

/-- The invariant reads the policy side only. -/
theorem PipelineSynced.congr {s' : PacketPipeline} (h : PipelineSynced site given files s)
    (heq : s'.policySide = s.policySide) : PipelineSynced site given files s' := by
  have hstore : s'.policyStore = s.policyStore := congrArg (·.1) heq
  have hheap : s'.heap = s.heap := congrArg (·.2.1) heq
  have hheld : s'.holdings = s.holdings := congrArg (·.2.2) heq
  refine ⟨?_, ?_, ?_, ?_, ?_, ?_⟩
  · rw [hstore, hheap]
    exact h.store
  · rw [hheld, hheap]
    exact h.valid
  · rw [hheld]
    exact h.body
  · rw [hheld, hheap]
    exact h.doc
  · rw [hheld]
    exact h.rules
  · rw [hstore]
    exact h.storeRules

/-- An idle reload finds nothing new: every detector keeps what it holds. -/
theorem PipelineSynced.idle (h : PipelineSynced site given files s) {r : ReloadReading}
    (hr : Finds site files r.poll) :
    PipelineSynced site given files (PacketPipeline.reloadDetectionPolicy r s) := by
  obtain ⟨hsync, hgrown, hrules, hchanged⟩ := h.store.poll hr
  obtain ⟨-, hle⟩ := DetectionPolicyStore.maybeReload_spec h.store.ok false r.poll
  unfold PacketPipeline.reloadDetectionPolicy
  simp only [hchanged, Bool.false_eq_true, if_false]
  refine ⟨hsync, fun held hheld => (h.valid held hheld).mono hle.1, h.body, ?_, h.rules, ?_⟩
  · intro hplain held hheld
    exact ((hgrown hplain).2 held.1 (h.valid held hheld)).trans (h.doc hplain held hheld)
  · rw [hrules]
    exact h.storeRules

/-- A push reaches every detector. -/
theorem PipelineSynced.push (h : PipelineSynced site given files s) {file : PolicyFile}
    (hstamp : file.stamp ≠ stampOf files) {r : ReloadReading}
    (hpoll : Finds site (files ++ [file]) r.poll) (hpolicy : Finds site (files ++ [file]) r.policy)
    (hrules : Finds site (files ++ [file]) r.rules) (hdue : s.policyStore.poll.Due r.poll.det.now) :
    PipelineSynced site given (files ++ [file]) (PacketPipeline.reloadDetectionPolicy r s) := by
  obtain ⟨hsync, -, hnew, hchanged⟩ := h.store.push hstamp hpoll hdue
  obtain ⟨hsync', -, hsame, -⟩ := hsync.poll hpolicy
  obtain ⟨hsync'', hgrown, hsame', -⟩ := hsync'.poll hrules
  obtain ⟨-, hle⟩ := DetectionPolicyStore.maybeReload_spec hsync'.ok false r.rules
  obtain ⟨hstoreRules, hinstalled⟩ := rules_push h.storeRules file
  rw [← hnew, ← hsame, ← hsame'] at hstoreRules hinstalled
  unfold PacketPipeline.reloadDetectionPolicy
  simp only [hchanged, if_true]
  refine ⟨hsync'', ?_, ?_, ?_, ?_, hstoreRules⟩
  · intro held hheld
    rw [PacketPipeline.holdings_installPolicy] at hheld
    obtain ⟨old, -, rfl⟩ := List.mem_map.mp hheld
    exact hsync'.ok.baseline.mono hle.1
  · intro held hheld
    rw [PacketPipeline.holdings_installPolicy] at hheld
    obtain ⟨old, -, rfl⟩ := List.mem_map.mp hheld
    exact hsync'.body
  · intro hplain held hheld
    rw [PacketPipeline.holdings_installPolicy] at hheld
    obtain ⟨old, -, rfl⟩ := List.mem_map.mp hheld
    exact ((hgrown hplain).2 _ hsync'.ok.baseline).trans (hsync'.doc hplain)
  · intro held hheld
    rw [PacketPipeline.holdings_installPolicy] at hheld
    obtain ⟨old, hold, rfl⟩ := List.mem_map.mp hheld
    simp only
    rw [h.rules old hold]
    exact hinstalled

/-- A constructed pipeline is in step with the files it finds. -/
theorem pipelineSynced_init {env : PacketPipeline.InitEnv} (hprofile : FindsProfile site env.profile)
    (hstore : Finds site files env.store) (hpolicy : Finds site files env.policy)
    (hrules : Finds site files env.rules) (hfew : files.length ≤ 1) :
    PipelineSynced site env.rulesEnabled.toFinset files (PacketPipeline.init env) := by
  obtain ⟨hbuilt, hbuiltRules⟩ :
      Synced site files env.built.1 env.built.2
        ∧ env.built.1.rulesEnabled = artifactRules (artifactOf files) ∅ :=
    init_synced hprofile hstore []
  have hforPolicy : (env.built.1.maybeReload false env.policy env.built.2).1 = env.forPolicy := rfl
  have hforRules : (env.forPolicy.1.maybeReload false env.rules env.forPolicy.2).1
      = env.forRules := rfl
  obtain ⟨hsync, -, hsame, -⟩ := hbuilt.poll hpolicy
  rw [hforPolicy] at hsync hsame
  obtain ⟨hsync', hgrown, hsame', -⟩ := hsync.poll hrules
  obtain ⟨-, hle⟩ := DetectionPolicyStore.maybeReload_spec hsync.ok false env.rules
  rw [hforRules] at hsync' hgrown hsame' hle
  have hstoreRules : env.forRules.1.rulesEnabled = artifactRules (artifactOf files) ∅ :=
    (hsame'.trans hsame).trans hbuiltRules
  obtain ⟨hstoreForce, henabled⟩ := rules_start env.rulesEnabled.toFinset hfew
  rw [← hstoreRules] at hstoreForce henabled
  have hstore' : (PacketPipeline.init env).policyStore = env.forRules.1 := rfl
  have hheap : (PacketPipeline.init env).heap = env.forRules.2 := rfl
  refine ⟨?_, ?_, ?_, ?_, ?_, ?_⟩
  · rw [hstore', hheap]
    exact hsync'
  · intro held hheld
    rw [PacketPipeline.mem_holdings_init hheld, hheap]
    exact hsync.ok.baseline.mono hle.1
  · intro held hheld
    rw [PacketPipeline.mem_holdings_init hheld]
    exact hsync.body
  · intro hplain held hheld
    rw [PacketPipeline.mem_holdings_init hheld, hheap]
    exact ((hgrown hplain).2 _ hsync.ok.baseline).trans (hsync.doc hplain)
  · intro held hheld
    rw [PacketPipeline.mem_holdings_init hheld]
    exact henabled
  · rw [hstore']
    exact hstoreForce

end Pipelines

/-! ## Runs of pushes -/

/-- A hot run: constructed on at most one artifact, then artifacts pushed one after
another, each under a stamp of its own and read by a reload before the next, with any
number of calls in between that find nothing new. -/
inductive HotRun (site : Site) (env : PacketPipeline.InitEnv) :
    List PolicyFile → PacketPipeline → Prop where
  | start {files : List PolicyFile} (hprofile : FindsProfile site env.profile)
      (hstore : Finds site files env.store) (hpolicy : Finds site files env.policy)
      (hrules : Finds site files env.rules) (hfew : files.length ≤ 1) :
      HotRun site env files (PacketPipeline.init env)
  | idle {files : List PolicyFile} {s : PacketPipeline} (input : PacketEnv × Packet)
      (h : HotRun site env files s) (hpoll : Finds site files input.1.reload.poll) :
      HotRun site env files (s.feed input)
  | push {files : List PolicyFile} {s : PacketPipeline} (file : PolicyFile)
      (input : PacketEnv × Packet) (h : HotRun site env files s)
      (hstamp : file.stamp ≠ stampOf files)
      (hpoll : Finds site (files ++ [file]) input.1.reload.poll)
      (hpolicy : Finds site (files ++ [file]) input.1.reload.policy)
      (hrules : Finds site (files ++ [file]) input.1.reload.rules)
      (hdue : s.policyStore.poll.Due input.1.reload.poll.det.now) :
      HotRun site env (files ++ [file]) (s.feed input)

/-- The run lemma: a hot run stays in step with the files. -/
theorem HotRun.synced {site : Site} {env : PacketPipeline.InitEnv} {files : List PolicyFile}
    {s : PacketPipeline} (h : HotRun site env files s) :
    PipelineSynced site env.rulesEnabled.toFinset files s := by
  induction h with
  | start hprofile hstore hpolicy hrules hfew =>
    exact pipelineSynced_init hprofile hstore hpolicy hrules hfew
  | idle input _ hpoll ih => exact (ih.idle hpoll).congr (PacketPipeline.feed_policySide _ input)
  | push file input _ hstamp hpoll hpolicy hrules hdue ih =>
    exact (ih.push hstamp hpoll hpolicy hrules hdue).congr (PacketPipeline.feed_policySide _ input)

/-- What is on disk after a series of pushes: the last artifact. -/
def onDisk (files : List PolicyFile) : List PolicyFile := files.getLast?.toList

theorem getLast_onDisk (files : List PolicyFile) : (onDisk files).getLast? = files.getLast? := by
  unfold onDisk
  cases files.getLast? with
  | none => rfl
  | some file => rfl

theorem onDisk_length (files : List PolicyFile) : (onDisk files).length ≤ 1 := by
  unfold onDisk
  cases files.getLast? with
  | none => exact Nat.zero_le 1
  | some file => exact Nat.le_refl 1

/-- The last artifact decides what a poll finds and what the files stand for. -/
theorem Finds.onDisk {site : Site} {files : List PolicyFile} {r : PolicyReading}
    (h : Finds site files r) : Finds site (onDisk files) r := by
  have hstamp : stampOf (Sensor.onDisk files) = stampOf files := by
    rw [stampOf, getLast_onDisk, stampOf]
  have hart : artifactOf (Sensor.onDisk files) = artifactOf files := by
    rw [artifactOf, getLast_onDisk, artifactOf]
  exact ⟨h.detStamp.trans hstamp.symm, h.detFile.trans hart.symm, h.profileStamp, h.profile,
    h.profileStampAgain, h.profileAgain, h.fallback⟩

theorem policyDoc_onDisk (site : Site) (files : List PolicyFile) :
    baselineDoc site (onDisk files) = baselineDoc site files
      ∧ policyDoc site (onDisk files) = policyDoc site files := by
  unfold policyDoc baselineDoc artifactOf
  rw [getLast_onDisk]
  exact ⟨rfl, rfl⟩

theorem rulesInForce_onDisk (given : Finset String) {files : List PolicyFile}
    (hlisted : ∀ file ∈ files.getLast?, rulesOf file ≠ ∅) :
    rulesInForce given (onDisk files) = rulesInForce given files := by
  induction files using List.reverseRecOn with
  | nil => rfl
  | append_singleton files file ih =>
    have hlast : (files ++ [file]).getLast? = some file := List.getLast?_concat
    have hne : rulesOf file ≠ ∅ := hlisted file hlast
    rw [rulesInForce_append, if_neg hne, onDisk, hlast]
    exact if_neg hne

/-- A poll of the site's files at time `now`. -/
def Site.poll (site : Site) (files : List PolicyFile) (now : Rat) : PolicyReading where
  det := ⟨now, stampOf files, artifactOf files⟩
  profile := ⟨now, site.profileStamp, site.profile⟩
  profileAgain := ⟨now, site.profileStamp, site.profile⟩
  fallback := site.fallback

theorem Site.poll_finds (site : Site) (files : List PolicyFile) (now : Rat) :
    Finds site files (site.poll files now) :=
  ⟨rfl, rfl, rfl, rfl, rfl, rfl, rfl⟩

/-- A sensor constructed on the site's files. -/
def Site.env (site : Site) (files : List PolicyFile) : PacketPipeline.InitEnv :=
  { PacketPipeline.InitEnv.bare 0 ⟨0, "", none⟩ with
    profile := some ⟨0, site.profileStamp, site.profile⟩
    store := site.poll files 0
    policy := site.poll files 0
    rules := site.poll files 0 }

/-- A call at time `now` that finds the site's files, with an empty packet. -/
def Site.input (site : Site) (files : List PolicyFile) (now : Rat) : PacketEnv × Packet :=
  let poll := site.poll files now
  ({ PacketEnv.bare now ⟨now, "", none⟩ with reload := ⟨poll, poll, poll⟩ }, { raw := [] })

/-- A sensor constructed on no artifact, then two artifacts pushed to it. -/
def Site.pushTwice (site : Site) (first second : PolicyFile) : PacketPipeline :=
  ((PacketPipeline.init (site.env [])).feed (site.input [first] 10)).feed
    (site.input [first, second] 20)

theorem Site.pushTwice_hotRun (site : Site) (first second : PolicyFile)
    (hfirst : first.stamp ≠ "") (hsecond : second.stamp ≠ first.stamp)
    (hdue : (PacketPipeline.init (site.env [])).policyStore.poll.Due 10)
    (hdue' : ((PacketPipeline.init (site.env [])).feed
      (site.input [first] 10)).policyStore.poll.Due 20) :
    HotRun site (site.env []) [first, second] (site.pushTwice first second) := by
  have hstart : HotRun site (site.env []) [] (PacketPipeline.init (site.env [])) :=
    .start rfl (site.poll_finds [] 0) (site.poll_finds [] 0) (site.poll_finds [] 0) (Nat.zero_le 1)
  have hone := HotRun.push first (site.input [first] 10) hstart hfirst
    (site.poll_finds [first] 10) (site.poll_finds [first] 10) (site.poll_finds [first] 10) hdue
  exact HotRun.push second (site.input [first, second] 20) hone hsecond
    (site.poll_finds [first, second] 20) (site.poll_finds [first, second] 20)
    (site.poll_finds [first, second] 20) hdue'

/-- No profile and no fallback policy, and two artifacts, the second without a rule list. -/
def bareSite : Site := { profileStamp := "", profile := none, fallback := none }
def listing : PolicyFile := ⟨"1", { version := "1", rulesEnabled := some ["OT-001"] }⟩
def silent : PolicyFile := ⟨"2", { version := "2" }⟩

theorem bareSite_hotRun :
    HotRun bareSite (bareSite.env []) [listing, silent] (bareSite.pushTwice listing silent) :=
  bareSite.pushTwice_hotRun listing silent (by decide) (by decide)
    (by unfold StampStore.Due; decide +kernel) (by unfold StampStore.Due; decide +kernel)

/-- A profile with a threshold of its own, and an artifact that overrides it for a while. -/
def tunedSite : Site where
  profileStamp := "p1"
  profile := some { profileId := "line-1", version := "1"
                    observed := some { thresholds := [("scan_ports", 10)] } }
  fallback := none
def overriding : PolicyFile := ⟨"1", { version := "1", thresholds := [("scan_ports", 20)] }⟩

theorem tunedSite_hotRun :
    HotRun tunedSite (tunedSite.env []) [overriding, silent]
      (tunedSite.pushTwice overriding silent) :=
  tunedSite.pushTwice_hotRun overriding silent (by decide) (by decide)
    (by unfold StampStore.Due; decide +kernel) (by unfold StampStore.Due; decide +kernel)

end EdgeSensor.Sensor
