import EdgeSensor.Sensor.Collector

/-!
# Approving a learned baseline

`approve_candidate` of `src/baseline_service.py` in the edge console. The learner leaves a
candidate; approving it puts its `iec61850` lists into the baseline of the detection policy
(whatever else the policy holds stays), gives the policy a new version and stamp, and keeps
a snapshot in the history for a later rollback.

Mirroring notes:
- The files are what `_read_json` makes of them: an absent or unusable one is the empty
  document. What one component writes another reads back; JSON loses nothing on the way.
- `ServiceClock` holds the texts of the clock readings of one call.
-/

namespace EdgeSensor.Console

open EdgeSensor.Sensor

/-- The texts of the clock readings of one call. -/
structure ServiceClock where
  /-- `%Y%m%d-%H%M%S`. -/
  versionTime : String
  updatedAt : String
  epoch : Nat
  appliedAt : String

/-- `detection-policy.json`: the artifact the sensor reads, and what only the console does. -/
structure PolicyFile where
  artifact : DetectionArtifact := {}
  source : String := ""
  baselineSource : String := ""
  updatedAt : String := ""

/-- One entry of the history. -/
structure HistoryEntry where
  version : String
  appliedAt : String
  sourceRef : String
  active : Bool
  goose : Nat
  mms : Nat
  snapshot : Iec61850Policy

/-- `baseline-state.json`. -/
structure BaselineState where
  versions : List HistoryEntry := []
  activeVersion : String := ""

/-- The files of the console. -/
structure ConsoleFiles where
  policy : PolicyFile := {}
  stamp : String := ""
  state : BaselineState := {}

/-- What an approval reports. -/
structure Applied where
  version : String
  goose : Nat
  mms : Nat
  deriving DecidableEq

/-- Why an approval or a rollback is turned down. -/
inductive Rejection where
  | noCandidate
  | nothingObserved
  | noLive
  | unknownVersion (version : String)
  deriving DecidableEq, Repr

/-- The answer's text and status. -/
def Rejection.answer : Rejection → String × Nat
  | .noCandidate => ("沒有可核准的候選 baseline", 404)
  | .nothingObserved => ("候選 baseline 不含可套用的 IEC 61850 觀測", 422)
  | .noLive => ("尚無 live 觀測可套用為新基線", 404)
  | .unknownVersion version => (s!"找不到版本 {version}", 404)

/-- The `iec61850` object of an observed block. -/
def observedIec (observed : Observed) : Iec61850Policy :=
  ⟨observed.goosePublishers, observed.mmsIeds, observed.iecThresholds⟩

/-- The merge in `_apply_iec61850`: the two lists go into the baseline, the rest stays. -/
def mergeIec (observed : Iec61850Policy) (baseline : PolicyDoc) : PolicyDoc :=
  { baseline with
    body := { baseline.body with
      iec61850 := some { baseline.body.iec61850.getD {} with
        goosePublishers := observed.goosePublishers
        mmsIeds := observed.mmsIeds } } }

/-- `_apply_iec61850`. -/
def applyIec61850 (clock : ServiceClock) (observed : Iec61850Policy) (source : String)
    (files : ConsoleFiles) : ConsoleFiles × Applied :=
  -- resolution of one second: two calls of one second make one version
  let version := s!"baseline-{clock.versionTime}"
  let artifact := files.policy.artifact
  let policy : PolicyFile :=
    { files.policy with
      artifact := { artifact with
        version := version
        baseline := some (mergeIec observed (artifact.baseline.getD {})) }
      baselineSource := source
      updatedAt := clock.updatedAt }
  ({ files with policy := policy, stamp := s!"{clock.epoch}\n{version}\n" },
    { version := version
      goose := observed.goosePublishers.length
      mms := observed.mmsIeds.length })

/-- `_record_history`: the new entry first, the only active one, at most twenty. -/
def recordHistory (clock : ServiceClock) (version sourceRef : String) (observed : Iec61850Policy)
    (files : ConsoleFiles) : ConsoleFiles :=
  let entry : HistoryEntry :=
    { version := version
      appliedAt := clock.appliedAt
      sourceRef := sourceRef
      active := true
      goose := observed.goosePublishers.length
      mms := observed.mmsIeds.length
      snapshot := observed }
  -- every older entry is switched off, whichever was active
  let older := files.state.versions.map fun v => { v with active := false }
  { files with state := { versions := (entry :: older).take 20, activeVersion := version } }

/-- `approve_candidate`. -/
def approveCandidate (clock : ServiceClock) (candidate : Option Candidate) (files : ConsoleFiles) :
    Except Rejection Applied × ConsoleFiles :=
  match candidate with
  | none => (.error .noCandidate, files)
  | some candidate =>
    -- a capture without GOOSE and MMS: refused before anything is written
    let iec := observedIec candidate.observed
    if iec.goosePublishers = [] ∧ iec.mmsIeds = [] then (.error .nothingObserved, files)
    else
      let sourceRef := if candidate.sourceRef = "" then "pcap" else candidate.sourceRef
      let applied := applyIec61850 clock iec "edge-console-learning" files
      (.ok applied.2, recordHistory clock applied.2.version sourceRef iec applied.1)

/-- A candidate that observed something is approved: the baseline in the policy file then
holds its lists, in place of what it had, and the rest of the baseline is as it was. -/
theorem approveCandidate_approved (clock : ServiceClock) (candidate : Candidate)
    (files : ConsoleFiles)
    (h : candidate.observed.goosePublishers ≠ [] ∨ candidate.observed.mmsIeds ≠ []) :
    ∃ applied files', approveCandidate clock (some candidate) files = (.ok applied, files')
      ∧ files'.policy.artifact.baseline
        = some (mergeIec (observedIec candidate.observed)
            (files.policy.artifact.baseline.getD {})) := by
  have hsome : ¬ ((observedIec candidate.observed).goosePublishers = []
      ∧ (observedIec candidate.observed).mmsIeds = []) := by
    intro hnone
    rcases h with h | h
    · exact h hnone.1
    · exact h hnone.2
  unfold approveCandidate
  simp only [if_neg hsome]
  exact ⟨_, _, rfl, rfl⟩

end EdgeSensor.Console
