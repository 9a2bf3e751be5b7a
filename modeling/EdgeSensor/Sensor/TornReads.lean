import EdgeSensor.Lib.Run
import EdgeSensor.Lib.TornFile
import EdgeSensor.Py.Bytes
import EdgeSensor.Sensor.ModeStore
import EdgeSensor.Sensor.PolicyStores

/-!
# Reading the policy files while they are written

The agent's `apply_artifact` writes the operational mode, and likewise the detection
policy, with a plain `write_text`, and the stamp after it. The sensor polls on its own
timer. A poll that gets as far as the file while it is being written finds nothing it
can use, and the store replaces what it holds by that: the mode becomes `listen`, the
policy the fallback (`torn_reads_fall_back`).

`Host` is the two files and the two stores, `HostStep` a step of either side. Nothing
is assumed about the order of the steps or about the stamps, so every interleaving is
a list of steps. `Meets` is the condition on a step under which nothing is lost, and
`stores_keep_written` says that in a run of such steps the stores always report an
artifact that was completely written.

Mirroring notes:
- What `json.loads` makes of a file's bytes is a parameter (`PolicyTexts`): nothing
  usable (a `JSONDecodeError`, no object, an empty one), an artifact, or an exception
  nobody catches, such as the `UnicodeDecodeError` of a read that cuts a character.
- The stamp is whatever text the poll reads in it. It is written in place too.
- A `mode` or `policy()` access is a poll and then a look at the store. The constructor's
  polls are the forced ones.
- `modeLoaded`, `policyLoaded` and `fallback` are not in the source. They remember that a
  completely written artifact has been loaded, and what the fallback file held when the
  policy was last derived.
-/

namespace EdgeSensor.Sensor

open EdgeSensor.Lib EdgeSensor.Py

/-- `json.loads(path.read_text(encoding="utf-8"))` on the two files. -/
structure PolicyTexts where
  mode : Bytes → Except PyErr (Option ModeArtifact)
  policy : Bytes → Except PyErr (Option DetectionArtifact)

section File

variable {α : Type} (decode : Bytes → Except PyErr (Option α)) (file : TornFile UInt8)

/-- What a store makes of the file. -/
def readArtifact : Except PyErr (Option α) :=
  match file.seen with
  | none => .ok none
  | some content => decode content

/-- A read finds a completely written artifact. -/
def findsWritten : Bool :=
  match file.seen with
  | none => false
  | some content =>
    decide (content ∈ file.done)
      && match decode content with
        | .ok (some _) => true
        | _ => false

/-- `a` was completely written to the file. -/
def Written (a : α) : Prop := ∃ content ∈ file.done, decode content = .ok (some a)

variable {decode file}

theorem Written.step {a : α} (h : Written decode file a) (w : WriteStep UInt8) :
    Written decode (file.step w) a := by
  obtain ⟨content, hmem, hdecode⟩ := h
  exact ⟨content, TornFile.mem_done_step hmem w, hdecode⟩

theorem written_of_finds (h : findsWritten decode file = true) :
    ∃ a, readArtifact decode file = .ok (some a) ∧ Written decode file a := by
  unfold findsWritten at h
  unfold readArtifact
  cases hseen : file.seen with
  | none =>
    rw [hseen] at h
    cases h
  | some content =>
    rw [hseen] at h
    simp only [Bool.and_eq_true, decide_eq_true_eq] at h
    obtain ⟨hmem, hdecode⟩ := h
    split at hdecode
    next a ha => exact ⟨a, ha, content, hmem, ha⟩
    next => cases hdecode

/-- A read that falls between two writes finds what was written last. -/
theorem findsWritten_of_closed (hclosed : file.Closed) (htarget : file.target = none)
    (hwritten : file.done ≠ []) (hdecode : ∀ content ∈ file.done, ∃ a, decode content = .ok (some a)) :
    findsWritten decode file = true := by
  cases hdone : file.done with
  | nil => exact absurd hdone hwritten
  | cons content rest =>
    have hseen : file.seen = some content := by
      rw [hclosed htarget, hdone]
      rfl
    have hmem := (hclosed.complete htarget hseen).2
    obtain ⟨a, ha⟩ := hdecode content hmem
    unfold findsWritten
    rw [hseen]
    simp only [ha, Bool.and_true, decide_eq_true_eq]
    exact hmem

end File

/-! ## The two sides -/

/-- The mode an artifact stands for. -/
def ModeArtifact.effective (a : ModeArtifact) : Mode :=
  match a.mode.filter (· ≠ "") with
  | none => defaultMode
  | some raw => (Mode.ofString (lower (strip raw))).getD defaultMode

/-- The artifact of a profile store, if there is a store. -/
def artifactHeld (profile : Option BaselineProfileStore) : Option BaselineProfile :=
  profile.bind (·.poll.artifact)

/-- The policy an artifact stands for, next to the profile and the fallback file. -/
def policyOf (profile : Option BaselineProfile) (fallback : Option PolicyDoc)
    (a : Option DetectionArtifact) : PolicyDoc :=
  ((profileBaseline profile).getD ((a.bind (·.baseline)).getD (loadPolicy fallback))).overlay
    (artifactThresholds a)

/-- What a poll of the detection store reads besides its own file. -/
structure PolicyPoll where
  now : Rat
  stamp : String
  profile : Reading BaselineProfile
  profileAgain : Reading BaselineProfile
  fallback : Option PolicyDoc

def PolicyPoll.reading (poll : PolicyPoll) (file : Option DetectionArtifact) : PolicyReading where
  det := ⟨poll.now, poll.stamp, file⟩
  profile := poll.profile
  profileAgain := poll.profileAgain
  fallback := poll.fallback

/-- `DetectionPolicyStore.maybe_reload`, of a file whose reading may raise. -/
def DetectionPolicyStore.pollText (s : DetectionPolicyStore) (force : Bool) (poll : PolicyPoll)
    (file : Except PyErr (Option DetectionArtifact)) (heap : Heap) : DetectionPolicyStore × Heap :=
  match file with
  | .ok content => (s.maybeReload force (poll.reading content) heap).1
  | .error _ =>
    if s.poll.Reads force poll.now poll.stamp then
      ({ s with poll := { s.poll with lastCheck := poll.now } }, heap)
    else (s.maybeReload force (poll.reading none) heap).1

structure Host where
  modeFile : TornFile UInt8 := {}
  modes : StampStore ModeArtifact
  modeLoaded : Bool := false
  policyFile : TornFile UInt8 := {}
  policies : DetectionPolicyStore
  policyLoaded : Bool := false
  fallback : Option PolicyDoc := none
  heap : Heap := []

inductive HostStep where
  | writeMode (w : WriteStep UInt8)
  | writePolicy (w : WriteStep UInt8)
  | pollMode (force : Bool) (now : Rat) (stamp : String)
  | pollPolicy (force : Bool) (poll : PolicyPoll)

namespace Host

/-- Before the stores' own first polls; the profile store, if configured, has made its own. -/
def new (reloadCheckSec : Rat) (profileFirst : Option (Reading BaselineProfile)) : Host :=
  let profile := profileFirst.map fun first =>
    BaselineProfileStore.maybeReload { poll := { reloadCheckSec := reloadCheckSec } } true first []
  { modes := { reloadCheckSec := reloadCheckSec }
    policies := { poll := { reloadCheckSec := reloadCheckSec }, profile := profile.map (·.1) }
    heap := (profile.map (·.2)).getD [] }

def step (text : PolicyTexts) (host : Host) : HostStep → Host
  | .writeMode w => { host with modeFile := host.modeFile.step w }
  | .writePolicy w => { host with policyFile := host.policyFile.step w }
  | .pollMode force now stamp =>
    { host with
      modes := (host.modes.pollText force now stamp (readArtifact text.mode host.modeFile)).1
      modeLoaded := host.modeLoaded
        || (decide (host.modes.Reads force now stamp) && findsWritten text.mode host.modeFile) }
  | .pollPolicy force poll =>
    let polled := host.policies.pollText force poll (readArtifact text.policy host.policyFile)
      host.heap
    { host with
      policies := polled.1
      heap := polled.2
      policyLoaded := host.policyLoaded
        || (decide (host.policies.poll.Reads force poll.now poll.stamp)
          && findsWritten text.policy host.policyFile)
      fallback := if host.policies.poll.Reads force poll.now poll.stamp then poll.fallback
        else host.fallback }

/-- `OperationalModeStore.mode`, after its poll. -/
def mode (host : Host) : Mode := currentMode host.modes

/-- `DetectionPolicyStore.policy`, after its poll. -/
def policy (host : Host) : PolicyDoc := host.policies.baseline.resolve host.heap

/-- Once a completely written mode artifact was loaded, the mode is that of one. -/
def ModeKept (text : PolicyTexts) (host : Host) : Prop :=
  host.modeLoaded = true → ∃ a, Written text.mode host.modeFile a ∧ host.mode = a.effective

/-- Once a completely written policy artifact was loaded, the policy is that of one. -/
def PolicyKept (text : PolicyTexts) (host : Host) : Prop :=
  host.policyLoaded = true →
    ∃ a, Written text.policy host.policyFile a
      ∧ host.policy = policyOf (artifactHeld host.policies.profile) host.fallback (some a)

end Host

/-! ## The profile store's own policy

A store that lays an artifact's thresholds over a profile's own ones writes into the
profile store's dict. As long as that does not happen, the profile store hands out
exactly what its profile stands for.
-/

/-- The profile store hands out what its profile stands for, with nothing laid over it. -/
structure BaselineProfileStore.Exact (p : BaselineProfileStore) (heap : Heap) : Prop where
  ok : p.Ok heap
  doc : ∀ obj, p.baseline = some obj → profileBaseline p.poll.artifact = some (obj.resolve heap)

/-- The profile stands for a policy without thresholds, or for none. -/
def NoThresholds (profile : Option BaselineProfile) : Prop :=
  ∀ doc, profileBaseline profile = some doc → doc.thresholds = none

namespace BaselineProfileStore

theorem Exact.grown {p : BaselineProfileStore} {heap heap' : Heap} (h : p.Exact heap)
    (hle : heap.Grown heap') : p.Exact heap' := by
  refine ⟨h.ok.mono hle.overlaid, fun obj hobj => ?_⟩
  rw [hle.2 obj (h.ok.valid hobj)]
  exact h.doc obj hobj

theorem install_exact (poll : StampStore BaselineProfile) (file : Option BaselineProfile)
    (heap : Heap) (hpoll : poll.artifact = file) :
    (install poll file heap).1.Exact (install poll file heap).2 := by
  obtain ⟨-, hok, -⟩ := install_spec poll file heap hpoll
  refine ⟨hok, fun obj hobj => ?_⟩
  unfold install at hobj ⊢
  cases hdoc : profileBaseline file with
  | none =>
    rw [hdoc] at hobj
    cases hobj
  | some doc =>
    rw [hdoc] at hobj
    cases hobj
    show profileBaseline poll.artifact = _
    rw [hpoll, hdoc]
    exact congrArg some (doc.resolve_alloc heap).symm

/-- A poll keeps the store exact; what it holds afterwards it held before, or has read. -/
theorem Exact.maybeReload {p : BaselineProfileStore} {heap : Heap} (h : p.Exact heap) (force : Bool)
    (r : Reading BaselineProfile) :
    (p.maybeReload force r heap).1.Exact (p.maybeReload force r heap).2
      ∧ ((p.maybeReload force r heap).1.poll.artifact = p.poll.artifact
        ∨ (p.maybeReload force r heap).1.poll.artifact = r.file) := by
  obtain ⟨hpoll', -, -⟩ := maybeReload_spec h.ok force r
  rw [hpoll']
  unfold BaselineProfileStore.maybeReload
  rcases p.poll.maybeReload_cases force r with hpoll | ⟨hpoll, -⟩ | hpoll
  · rw [hpoll]
    exact ⟨⟨h.ok, h.doc⟩, .inl rfl⟩
  · rw [hpoll]
    exact ⟨⟨h.ok, h.doc⟩, .inl rfl⟩
  · rw [hpoll]
    exact ⟨install_exact _ _ _ rfl, .inr rfl⟩

end BaselineProfileStore

section Install

variable {profile : Option BaselineProfileStore} {heap : Heap}
  (h : ∀ p, profile = some p → p.Exact heap)
include h

theorem pollProfile_exact (force : Bool) (r : PolicyReading) :
    (∀ p, (pollProfile profile force r heap).1 = some p →
        p.Exact (pollProfile profile force r heap).2)
      ∧ (NoThresholds (artifactHeld profile) → NoThresholds r.profile.file →
        NoThresholds r.profileAgain.file →
        NoThresholds (artifactHeld (pollProfile profile force r heap).1)) := by
  cases profile with
  | none => exact ⟨fun p hp => absurd hp (by simp [pollProfile]), fun hheld _ _ => hheld⟩
  | some p =>
    obtain ⟨hexact, hart⟩ := (h p rfl).maybeReload force r.profile
    obtain ⟨hexact', hart'⟩ := hexact.maybeReload false r.profileAgain
    rw [pollProfile_some]
    refine ⟨fun q hq => ?_, fun hheld hfirst hagain => ?_⟩
    · cases hq
      exact hexact'
    · show NoThresholds (BaselineProfileStore.poll _).artifact
      rcases hart' with hart' | hart'
      · rw [hart']
        rcases hart with hart | hart
        · rw [hart]
          exact hheld
        · rw [hart]
          exact hfirst
      · rw [hart']
        exact hagain

/-- The chosen baseline is the one the files stand for; unless a profile's thresholds
come with it, its dict, if any, is a new one. -/
theorem chooseBaseline_exact (artifact : Option DetectionArtifact) (fallback : Option PolicyDoc) :
    (chooseBaseline profile artifact fallback heap).1.resolve
        (chooseBaseline profile artifact fallback heap).2
      = (profileBaseline (artifactHeld profile)).getD
        ((artifact.bind (·.baseline)).getD (loadPolicy fallback))
    ∧ (NoThresholds (artifactHeld profile) →
      ∀ ref, (chooseBaseline profile artifact fallback heap).1.thresholds = some ref →
        heap.length ≤ ref) := by
  unfold chooseBaseline
  cases hbase : profile.bind (·.baseline) with
  | some obj =>
    obtain ⟨p, rfl, hobj⟩ := Option.bind_eq_some_iff.mp hbase
    have hdoc := (h p rfl).doc obj hobj
    have hheld : artifactHeld (some p) = p.poll.artifact := rfl
    simp only
    rw [hheld, hdoc]
    refine ⟨rfl, fun hplain ref href => ?_⟩
    have hnone := hplain _ hdoc
    unfold PolicyObj.resolve at hnone
    rw [href] at hnone
    cases hnone
  | none =>
    have hprofile : profileBaseline (artifactHeld profile) = none := by
      cases profile with
      | none => rfl
      | some p => exact (h p rfl).ok.noDoc hbase
    rw [hprofile]
    cases artifact.bind (·.baseline) with
    | some doc => exact ⟨doc.resolve_alloc heap, fun _ _ => doc.alloc_ref heap⟩
    | none =>
      exact ⟨(loadPolicy fallback).resolve_alloc heap,
        fun _ _ => (loadPolicy fallback).alloc_ref heap⟩

end Install

/-- **What installing an artifact derives.** The policy is that of the artifact, next
to the profile then held, and the profile store stays exact. -/
theorem DetectionPolicyStore.install_exact {s : DetectionPolicyStore} {heap : Heap}
    (h : ∀ p, s.profile = some p → p.Exact heap) (poll : StampStore DetectionArtifact)
    (force : Bool) (r : PolicyReading)
    (hplain : artifactThresholds r.det.file ≠ [] → NoThresholds (artifactHeld s.profile)
      ∧ NoThresholds r.profile.file ∧ NoThresholds r.profileAgain.file) :
    (s.install poll force r heap).1.baseline.resolve (s.install poll force r heap).2
        = policyOf (artifactHeld (s.install poll force r heap).1.profile) r.fallback r.det.file
      ∧ ∀ p, (s.install poll force r heap).1.profile = some p →
        p.Exact (s.install poll force r heap).2 := by
  obtain ⟨hexact, hheld⟩ := pollProfile_exact h force r
  obtain ⟨hdoc, hnew⟩ := chooseBaseline_exact hexact r.det.file r.fallback
  obtain ⟨hvalid, hgrown⟩ := DetectionPolicyStore.chooseBaseline_spec
    (fun p hp => (hexact p hp).ok) r.det.file r.fallback
  unfold install
  simp only
  constructor
  · rw [PolicyObj.resolve_overlay _ hvalid, hdoc]
    rfl
  · intro p hp
    refine (hexact p hp).grown ?_
    by_cases hthr : artifactThresholds r.det.file = []
    · rw [hthr]
      exact hgrown
    · obtain ⟨hold, hfirst, hagain⟩ := hplain hthr
      exact hgrown.overlay (hnew (hheld hold hfirst hagain)) _

/-! ## One poll of the detection store -/

namespace DetectionPolicyStore

variable {s : DetectionPolicyStore} {force : Bool} {poll : PolicyPoll} {heap : Heap}

/-- A poll that reads an artifact installs it. -/
theorem pollText_of_reads (hreads : s.poll.Reads force poll.now poll.stamp)
    (file : Option DetectionArtifact) :
    s.pollText force poll (.ok file) heap
      = s.install (s.poll.load ⟨poll.now, poll.stamp, file⟩) force (poll.reading file) heap := by
  show (s.maybeReload force (poll.reading file) heap).1 = _
  unfold maybeReload
  have hpoll := @StampStore.maybeReload_of_reads _ _ s.poll force ⟨poll.now, poll.stamp, file⟩ hreads
  rw [show (poll.reading file).det = ⟨poll.now, poll.stamp, file⟩ from rfl, hpoll]

/-- A poll that does not get as far as the file, or cannot read it, leaves the policy. -/
theorem pollText_of_not_installs (file : Except PyErr (Option DetectionArtifact))
    (h : s.poll.Reads force poll.now poll.stamp → ∃ e, file = .error e) :
    (s.pollText force poll file heap).1.baseline = s.baseline
      ∧ (s.pollText force poll file heap).1.profile = s.profile
      ∧ (s.pollText force poll file heap).2 = heap := by
  have hskips : ∀ content, ¬ s.poll.Reads force poll.now poll.stamp →
      (s.maybeReload force (poll.reading content) heap).1.1.baseline = s.baseline
        ∧ (s.maybeReload force (poll.reading content) heap).1.1.profile = s.profile
        ∧ (s.maybeReload force (poll.reading content) heap).1.2 = heap := by
    intro content hreads
    unfold maybeReload
    rcases @StampStore.maybeReload_of_not_reads _ _ s.poll force ⟨poll.now, poll.stamp, content⟩
      hreads with hpoll | hpoll
    · rw [show (poll.reading content).det = ⟨poll.now, poll.stamp, content⟩ from rfl, hpoll]
      exact ⟨rfl, rfl, rfl⟩
    · rw [show (poll.reading content).det = ⟨poll.now, poll.stamp, content⟩ from rfl, hpoll]
      exact ⟨rfl, rfl, rfl⟩
  unfold pollText
  cases file with
  | ok content =>
    refine hskips content fun hreads => ?_
    obtain ⟨e, he⟩ := h hreads
    cases he
  | error e =>
    by_cases hreads : s.poll.Reads force poll.now poll.stamp
    · rw [if_pos hreads]
      exact ⟨rfl, rfl, rfl⟩
    · simp only [if_neg hreads]
      exact hskips none hreads

end DetectionPolicyStore

/-! ## Runs -/

namespace Host

/-- The condition on a step: once an artifact is loaded, a poll that reads the file finds
a completely written one; and an artifact's thresholds are not laid over a profile's. -/
def Meets (text : PolicyTexts) (host : Host) : HostStep → Prop
  | .writeMode _ => True
  | .writePolicy _ => True
  | .pollMode force now stamp =>
    host.modeLoaded = true → host.modes.Reads force now stamp →
      findsWritten text.mode host.modeFile = true
  | .pollPolicy force poll =>
    host.policies.poll.Reads force poll.now poll.stamp →
      (host.policyLoaded = true → findsWritten text.policy host.policyFile = true)
      ∧ ∀ file, readArtifact text.policy host.policyFile = .ok file → artifactThresholds file ≠ [] →
        NoThresholds (artifactHeld host.policies.profile) ∧ NoThresholds poll.profile.file
          ∧ NoThresholds poll.profileAgain.file

/-- What every step of such a run preserves. -/
structure Sound (text : PolicyTexts) (host : Host) : Prop where
  mode : host.modeLoaded = true →
    ∃ a, Written text.mode host.modeFile a ∧ host.modes.artifact = some a
  exact : ∀ p, host.policies.profile = some p → p.Exact host.heap
  policy : host.PolicyKept text

variable {text : PolicyTexts} {host : Host}

theorem Sound.new (reloadCheckSec : Rat) (profileFirst : Option (Reading BaselineProfile)) :
    (Host.new reloadCheckSec profileFirst).Sound text := by
  refine ⟨fun h => (by cases h), fun p hp => ?_, fun h => (by cases h)⟩
  cases profileFirst with
  | none => cases hp
  | some first =>
    cases hp
    have hfresh : BaselineProfileStore.Exact { poll := { reloadCheckSec := reloadCheckSec } } [] := by
      refine ⟨?_, fun obj hobj => ?_⟩
      · unfold BaselineProfileStore.Ok
        trivial
      · cases hobj
    exact (hfresh.maybeReload true first).1

/-- A store that counts as loaded after a poll has found an artifact in that poll, if
every poll after its first load does. -/
theorem found_of_loaded {before found : Bool} {reads : Prop} [Decidable reads]
    (hloaded : (before || (decide reads && found)) = true) (hmeets : before = true → found = true) :
    found = true := by
  rcases Bool.or_eq_true_iff.mp hloaded with hbefore | hpoll
  · exact hmeets hbefore
  · exact (Bool.and_eq_true_iff.mp hpoll).2

theorem Sound.pollMode (h : host.Sound text) {force : Bool} {now : Rat} {stamp : String}
    (hmeets : host.Meets text (.pollMode force now stamp)) :
    (host.step text (.pollMode force now stamp)).Sound text := by
  refine ⟨fun hloaded => ?_, h.exact, h.policy⟩
  show ∃ a, Written text.mode host.modeFile a
    ∧ (host.modes.pollText force now stamp (readArtifact text.mode host.modeFile)).1.artifact = some a
  rw [StampStore.pollText_artifact]
  by_cases hreads : host.modes.Reads force now stamp
  · obtain ⟨a, hread, hwritten⟩ := written_of_finds
      (found_of_loaded hloaded fun hbefore => hmeets hbefore hreads)
    refine ⟨a, hwritten, ?_⟩
    rw [if_pos hreads, hread]
    rfl
  · rw [if_neg hreads]
    refine h.mode ?_
    simp only [Host.step, decide_eq_false hreads, Bool.false_and, Bool.or_false] at hloaded
    exact hloaded

/-- A poll that installs what it read. -/
theorem Sound.pollPolicy_installs (h : host.Sound text) {force : Bool} {poll : PolicyPoll}
    (hmeets : host.Meets text (.pollPolicy force poll))
    (hreads : host.policies.poll.Reads force poll.now poll.stamp)
    {file : Option DetectionArtifact} (hread : readArtifact text.policy host.policyFile = .ok file) :
    (host.step text (.pollPolicy force poll)).Sound text := by
  obtain ⟨hfinds, hplain⟩ := hmeets hreads
  have hstep := @DetectionPolicyStore.pollText_of_reads host.policies force poll host.heap hreads file
  rw [← hread] at hstep
  obtain ⟨hdoc, hexact⟩ := DetectionPolicyStore.install_exact h.exact
    (host.policies.poll.load ⟨poll.now, poll.stamp, file⟩) force (poll.reading file)
    (hplain file hread)
  rw [← hstep] at hdoc hexact
  refine ⟨h.mode, hexact, fun hloaded => ?_⟩
  obtain ⟨a, hread', hwritten⟩ := written_of_finds (found_of_loaded hloaded hfinds)
  have hfile : file = some a := by
    rw [hread] at hread'
    cases hread'
    rfl
  refine ⟨a, hwritten, ?_⟩
  show (DetectionPolicyStore.pollText _ _ _ _ _).1.baseline.resolve _
    = policyOf _ (if _ then poll.fallback else host.fallback) _
  rw [if_pos hreads, ← hfile]
  exact hdoc

/-- A poll that leaves the store as it was: it does not get as far as the file, or cannot
read it. The second it may do only before the first load. -/
theorem Sound.pollPolicy_keeps (h : host.Sound text) {force : Bool} {poll : PolicyPoll}
    (hskips : host.policies.poll.Reads force poll.now poll.stamp →
      ∃ e, readArtifact text.policy host.policyFile = .error e)
    (hloaded : (host.step text (.pollPolicy force poll)).policyLoaded = true →
      host.policyLoaded = true ∧ ¬ host.policies.poll.Reads force poll.now poll.stamp) :
    (host.step text (.pollPolicy force poll)).Sound text := by
  obtain ⟨hbaseline, hprofile, hheap⟩ := @DetectionPolicyStore.pollText_of_not_installs host.policies
    force poll host.heap (readArtifact text.policy host.policyFile) hskips
  refine ⟨h.mode, fun p hp => ?_, fun hafter => ?_⟩
  · show p.Exact (DetectionPolicyStore.pollText _ _ _ _ _).2
    rw [hheap]
    exact h.exact p (hprofile.symm.trans hp)
  · obtain ⟨hbefore, hreads⟩ := hloaded hafter
    obtain ⟨a, hwritten, hpolicy⟩ := h.policy hbefore
    refine ⟨a, hwritten, ?_⟩
    show (DetectionPolicyStore.pollText _ _ _ _ _).1.baseline.resolve
        (DetectionPolicyStore.pollText _ _ _ _ _).2
      = policyOf (artifactHeld (DetectionPolicyStore.pollText _ _ _ _ _).1.profile)
        (if _ then poll.fallback else host.fallback) _
    rw [if_neg hreads, hbaseline, hprofile, hheap]
    exact hpolicy

theorem Sound.pollPolicy (h : host.Sound text) {force : Bool} {poll : PolicyPoll}
    (hmeets : host.Meets text (.pollPolicy force poll)) :
    (host.step text (.pollPolicy force poll)).Sound text := by
  by_cases hreads : host.policies.poll.Reads force poll.now poll.stamp
  · cases hread : readArtifact text.policy host.policyFile with
    | ok file => exact h.pollPolicy_installs hmeets hreads hread
    | error e =>
      refine h.pollPolicy_keeps (fun _ => ⟨e, hread⟩) fun hloaded => ?_
      -- a loaded store would have found an artifact, and read it
      obtain ⟨a, hread', -⟩ := written_of_finds (found_of_loaded hloaded (hmeets hreads).1)
      rw [hread] at hread'
      cases hread'
  · refine h.pollPolicy_keeps (fun hreads' => absurd hreads' hreads) fun hloaded => ⟨?_, hreads⟩
    simp only [Host.step, decide_eq_false hreads, Bool.false_and, Bool.or_false] at hloaded
    exact hloaded

/-- One step. -/
theorem Sound.step (h : host.Sound text) {x : HostStep} (hmeets : host.Meets text x) :
    (host.step text x).Sound text := by
  cases x with
  | writeMode w =>
    refine ⟨fun hloaded => ?_, h.exact, h.policy⟩
    obtain ⟨a, hwritten, hart⟩ := h.mode hloaded
    exact ⟨a, hwritten.step w, hart⟩
  | writePolicy w =>
    refine ⟨h.mode, h.exact, fun hloaded => ?_⟩
    obtain ⟨a, hwritten, hpolicy⟩ := h.policy hloaded
    exact ⟨a, hwritten.step w, hpolicy⟩
  | pollMode force now stamp => exact h.pollMode hmeets
  | pollPolicy force poll => exact h.pollPolicy hmeets

/-- The mode of a store that holds an artifact. -/
theorem mode_of_artifact {a : ModeArtifact} (h : host.modes.artifact = some a) :
    host.mode = a.effective := by
  unfold Host.mode currentMode
  rw [h]
  rfl

/-- **When the stores keep the last good state.** In every run of writes and polls, in
any order, whose steps all meet the condition, and in every state it reaches: once a
completely written artifact was loaded, the mode is that of one, and likewise the policy. -/
theorem stores_keep_written (text : PolicyTexts) (reloadCheckSec : Rat)
    (profileFirst : Option (Reading BaselineProfile)) (steps : List HostStep)
    (hmeets : ∀ i x, steps[i]? = some x →
      (stateAt (step text) (new reloadCheckSec profileFirst) steps i).Meets text x) (i : Nat) :
    (stateAt (step text) (new reloadCheckSec profileFirst) steps i).ModeKept text
      ∧ (stateAt (step text) (new reloadCheckSec profileFirst) steps i).PolicyKept text := by
  have hsound := stateAt_inv (Sound.new reloadCheckSec profileFirst)
    (fun i x hx h => Sound.step h (hmeets i x hx)) i
  refine ⟨fun hloaded => ?_, hsound.policy⟩
  obtain ⟨a, hwritten, hart⟩ := hsound.mode hloaded
  exact ⟨a, hwritten, mode_of_artifact hart⟩

/-! A site whose agent writes three versions of both files. -/

def ascii (s : String) : Bytes := s.toList.map fun c => UInt8.ofNat c.toNat

def modeText (version : String) : Bytes :=
  ascii ("\x7b\x22mode\x22: \x22detect\x22, \x22version\x22: \x22" ++ version ++ "\x22\x7d\n")

def policyText (version : String) : Bytes :=
  ascii ("\x7b\x22version\x22: \x22" ++ version
    ++ "\x22, \x22baseline\x22: \x7b\x22policy_version\x22: \x22site\x22\x7d\x7d\n")

/-- The version whose text this is. -/
def versionOf (text : String → Bytes) (content : Bytes) : Option String :=
  ["1", "2", "3"].find? fun version => content = text version

/-- `json.loads` on these texts; anything else does not parse. -/
def siteTexts : PolicyTexts where
  mode content := .ok ((versionOf modeText content).map fun version =>
    { mode := some "detect", other := [("version", version)] })
  policy content := .ok ((versionOf policyText content).map fun version =>
    { version := version, baseline := some { body := { policyVersion := some "site" } } })

def pollAt (now : Rat) (stamp : String) : PolicyPoll :=
  ⟨now, stamp, ⟨now, "", none⟩, ⟨now, "", none⟩, none⟩

/-- Version 1 is written and loaded, version 2 written, and version 3 begun when the next
poll is due. -/
def tornRun : List HostStep := [
  .writeMode (.start (modeText "1")), .writeMode .finish, .pollMode true 0 "1",
  .writePolicy (.start (policyText "1")), .writePolicy .finish, .pollPolicy true (pollAt 0 "1"),
  .writeMode (.start (modeText "2")), .writeMode .finish, .writeMode (.start (modeText "3")),
  .pollMode false 10 "2",
  .writePolicy (.start (policyText "2")), .writePolicy .finish,
  .writePolicy (.start (policyText "3")), .pollPolicy false (pollAt 10 "2")]

/-- Both stores had loaded version 1. The mode is now `listen`, the policy the empty one. -/
theorem torn_reads_fall_back :
    (tornRun.foldl (step siteTexts) (new 5 none)).mode = .listen
      ∧ (tornRun.foldl (step siteTexts) (new 5 none)).policy = loadPolicy none
      ∧ ¬ (tornRun.foldl (step siteTexts) (new 5 none)).ModeKept siteTexts
      ∧ ¬ (tornRun.foldl (step siteTexts) (new 5 none)).PolicyKept siteTexts := by
  have hmode : (tornRun.foldl (step siteTexts) (new 5 none)).mode = .listen := by decide +kernel
  have hpolicy : (tornRun.foldl (step siteTexts) (new 5 none)).policy = loadPolicy none := by
    decide +kernel
  refine ⟨hmode, hpolicy, fun hkept => ?_, fun hkept => ?_⟩
  · obtain ⟨a, ⟨content, -, hdecode⟩, heq⟩ := hkept (by decide +kernel)
    obtain ⟨version, -, rfl⟩ := Option.map_eq_some_iff.mp (Except.ok.inj hdecode)
    rw [hmode] at heq
    exact absurd heq (by simp [ModeArtifact.effective]; decide)
  · obtain ⟨a, ⟨content, -, hdecode⟩, heq⟩ := hkept (by decide +kernel)
    obtain ⟨version, -, rfl⟩ := Option.map_eq_some_iff.mp (Except.ok.inj hdecode)
    rw [hpolicy] at heq
    have hversion := congrArg (·.body.policyVersion) heq
    have hprofile : (tornRun.foldl (step siteTexts) (new 5 none)).policies.profile = none := by
      decide +kernel
    rw [hprofile] at hversion
    cases hversion

/-- Version 1 is written and loaded; a poll falls into the writing of version 2. -/
def calmRun : List HostStep := [
  .writeMode (.start (modeText "1")), .writeMode .finish, .pollMode true 0 "1",
  .writeMode (.start (modeText "2")), .pollMode false 10 "1"]

/-- That poll is harmless: the stamp is the one it has loaded. -/
theorem stores_keep_written_calmRun :
    (stateAt (step siteTexts) (new 5 none) calmRun 5).ModeKept siteTexts
      ∧ (stateAt (step siteTexts) (new 5 none) calmRun 5).PolicyKept siteTexts := by
  refine stores_keep_written siteTexts 5 none calmRun (Along.at ?_) 5
  refine ⟨trivial, trivial, fun h => ?_, trivial, fun _ hreads => ?_, trivial⟩
  · cases h
  · exact absurd hreads (by decide +kernel)

end Host

end EdgeSensor.Sensor
