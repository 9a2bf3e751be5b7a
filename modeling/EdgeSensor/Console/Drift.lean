import EdgeSensor.Console.BaselineService
import EdgeSensor.Lib.KeyedDiff
import EdgeSensor.Py.Text

/-!
# Drift from the active baseline

`compute_drift` and `get_state` of `src/baseline_service.py`: what the sensor writes of the
live traffic (`live-observed.json`, a candidate like any other) is compared, publisher by
publisher and IED by IED, with the baseline of the policy in force.

The report counts zero exactly when the two sides agree: the same keys, and at no key two
entries that differ in what is compared.

Mirroring notes:
- An entry is at the types of the policy schema. `production` and `appid` are there, as
  they are in whatever the collector writes.
- The statistics of the candidate, which the state of the console repeats, are left out.
-/

namespace EdgeSensor.Console

open EdgeSensor.Lib EdgeSensor.Lib.KeyedDiff EdgeSensor.Py EdgeSensor.Sensor

/-- `_active_iec`. -/
def activeIec (policy : PolicyFile) : Iec61850Policy :=
  (policy.artifact.baseline.bind (·.body.iec61850)).getD {}

/-- `_live_iec`, with the time the live file was written. -/
def liveIec : Option Candidate → Iec61850Policy × String
  | none => ({}, "")
  | some live => (observedIec live.observed, live.generatedAt)

/-- The condition of the code for a baseline that says something. -/
def Blank (iec : Iec61850Policy) : Prop := iec.goosePublishers = [] ∧ iec.mmsIeds = []

instance (iec : Iec61850Policy) : Decidable (Blank iec) :=
  inferInstanceAs (Decidable (_ ∧ _))

/-- `_goose_key`. -/
def gooseKey (entry : GoosePublisher) : String :=
  s!"{lower entry.publisherMac}|{entry.appid}|{entry.gocbRef}"

/-- One entry of `goose.changed`: each differing field with its two values, the one of the
baseline first. -/
structure GooseChange where
  publisherMac : String
  appid : Int
  gocbRef : String
  production : Option (Bool × Bool)
  confRev : Option (Option Int × Option Int)
  deriving DecidableEq

/-- What differs between the entry of the baseline and the live one. -/
def gooseChange (a b : GoosePublisher) : Option GooseChange :=
  let production := if a.production ≠ b.production then some (a.production, b.production) else none
  -- a live entry without a revision says nothing of it
  let confRev :=
    if b.confRev ≠ none ∧ a.confRev ≠ b.confRev then some (a.confRev, b.confRev) else none
  if production = none ∧ confRev = none then none
  else some ⟨b.publisherMac, b.appid, b.gocbRef, production, confRev⟩

/-- One entry of `mms.client_changes`. -/
structure ClientChange where
  iedIp : Option String
  addedClients : List String
  removedClients : List String
  deriving DecidableEq

/-- How the clients of an IED differ, as sets. -/
def clientChange (a b : MmsIed) : Option ClientChange :=
  let aClients := a.allowedMmsClients.toFinset
  let lClients := b.allowedMmsClients.toFinset
  -- compared as sets, sorted for the answer only
  let addedC := (lClients \ aClients).sort (· ≤ ·)
  let removedC := (aClients \ lClients).sort (· ≤ ·)
  if addedC = [] ∧ removedC = [] then none else some ⟨a.iedIp, addedC, removedC⟩

/-- `summary`. -/
structure Summary where
  added : Nat
  removed : Nat
  changed : Nat
  deriving DecidableEq

/-- `summary["total"]`. -/
def Summary.total (s : Summary) : Nat := s.added + s.removed + s.changed

/-- What `compute_drift` answers. -/
structure DriftReport where
  hasLive : Bool
  hasActive : Bool
  liveGeneratedAt : String
  goose : Diff GoosePublisher GooseChange
  mms : Diff MmsIed ClientChange

/-- The counts of a report. -/
def DriftReport.summary (r : DriftReport) : Summary where
  added := r.goose.added.length + r.mms.added.length
  removed := r.goose.removed.length + r.mms.removed.length
  changed := r.goose.changed.length + r.mms.changed.length

/-- `compute_drift`. -/
def computeDrift (policy : PolicyFile) (liveFile : Option Candidate) : DriftReport :=
  let active := activeIec policy
  let live := liveIec liveFile
  { hasLive := live.2 ≠ "" || !decide (Blank live.1)
    hasActive := !decide (Blank active)
    liveGeneratedAt := live.2
    goose := diff gooseKey gooseChange active.goosePublishers live.1.goosePublishers
    mms := diff (·.iedIp) clientChange active.mmsIeds live.1.mmsIeds }

/-! ## The state of the console -/

/-- `_active_summary`. -/
structure ActiveSummary where
  version : String
  appliedAt : String
  source : String
  goose : Nat
  mms : Nat

def activeSummary (policy : PolicyFile) : Option ActiveSummary :=
  let iec := activeIec policy
  if Blank iec then none
  else some {
    version := policy.artifact.version
    appliedAt := policy.updatedAt
    source := if policy.baselineSource ≠ "" then policy.baselineSource
      else if policy.source ≠ "" then policy.source else "unknown"
    goose := iec.goosePublishers.length
    mms := iec.mmsIeds.length }

/-- The four states a console shows. -/
inductive ConsoleState where
  | learning
  | drift
  | active
  | notLoaded
  deriving DecidableEq, Repr

/-- The state as text. -/
def ConsoleState.text : ConsoleState → String
  | .learning => "learning"
  | .drift => "drift"
  | .active => "active"
  | .notLoaded => "not_loaded"

/-- A candidate waits if it is newer than what is applied. -/
def candidatePending (candidate : Option Candidate) (active : Option ActiveSummary) : Bool :=
  match candidate with
  | none => false
  | some candidate =>
    let applied := (active.map (·.appliedAt)).getD ""
    candidate.generatedAt ≠ "" && (applied = "" || applied < candidate.generatedAt)

/-- What `get_state` answers. -/
structure StateReport where
  state : ConsoleState
  active : Option ActiveSummary
  /-- `generated_at`, `source`, `source_ref` and `pending` of the candidate. -/
  candidate : Option (String × String × String × Bool)
  history : List HistoryEntry
  summary : Summary
  hasLive : Bool
  liveGeneratedAt : String
  assets : Nat

/-- `get_state`. -/
def getState (files : ConsoleFiles) (candidate live : Option Candidate) : StateReport :=
  let active := activeSummary files.policy
  let pending := candidatePending candidate active
  let drift := computeDrift files.policy live
  let driftTotal := if drift.hasActive then drift.summary.total else 0
  { state :=
      -- a waiting candidate hides a drift
      if pending then .learning
      else if active.isSome ∧ 0 < driftTotal then .drift
      else if active.isSome then .active
      else .notLoaded
    active := active
    candidate := candidate.map fun c => (c.generatedAt, c.source, c.sourceRef, pending)
    history := files.state.versions
    summary := drift.summary
    hasLive := drift.hasLive
    liveGeneratedAt := drift.liveGeneratedAt
    assets := (active.map fun a => a.goose + a.mms).getD 0 }

/-! ## When there is no drift -/

theorem gooseChange_eq_none {a b : GoosePublisher} :
    gooseChange a b = none
      ↔ a.production = b.production ∧ (b.confRev = none ∨ a.confRev = b.confRev) := by
  unfold gooseChange
  -- either field alone makes a change
  by_cases hproduction : a.production = b.production
  · by_cases hrev : b.confRev ≠ none ∧ a.confRev ≠ b.confRev
    · simp [hproduction, hrev]
    · have hrev' : b.confRev = none ∨ a.confRev = b.confRev := by tauto
      simp [hproduction, hrev, hrev']
  · simp [hproduction]

theorem clientChange_eq_none {a b : MmsIed} :
    clientChange a b = none ↔ ∀ ip, ip ∈ a.allowedMmsClients ↔ ip ∈ b.allowedMmsClients := by
  have hsort : ∀ s : Finset String, s.sort (· ≤ ·) = [] ↔ s = ∅ := by
    intro s
    rw [← List.length_eq_zero_iff, Finset.length_sort, Finset.card_eq_zero]
  unfold clientChange
  simp only [hsort, Finset.sdiff_eq_empty_iff_subset, ite_eq_left_iff, reduceCtorEq, imp_false,
    not_not]
  constructor
  · rintro ⟨hlive, hactive⟩ ip
    constructor
    · intro h
      exact List.mem_toFinset.mp (hactive (List.mem_toFinset.mpr h))
    · intro h
      exact List.mem_toFinset.mp (hlive (List.mem_toFinset.mpr h))
  · intro h
    exact ⟨fun ip hip => List.mem_toFinset.mpr ((h ip).mpr (List.mem_toFinset.mp hip)),
      fun ip hip => List.mem_toFinset.mpr ((h ip).mp (List.mem_toFinset.mp hip))⟩

/-- The report counts zero exactly where publishers and IEDs agree. -/
theorem total_eq_zero {policy : PolicyFile} {live : Option Candidate} :
    (computeDrift policy live).summary.total = 0
      ↔ Agrees gooseKey gooseChange (activeIec policy).goosePublishers
          (liveIec live).1.goosePublishers
        ∧ Agrees (·.iedIp) clientChange (activeIec policy).mmsIeds (liveIec live).1.mmsIeds := by
  rw [← diff_eq_nil, ← diff_eq_nil]
  unfold Summary.total DriftReport.summary computeDrift
  simp only [Nat.add_eq_zero_iff, List.length_eq_zero_iff]
  tauto

/-- Nothing drifts from itself. -/
theorem total_self {policy : PolicyFile} {live : Option Candidate}
    (hgoose : (activeIec policy).goosePublishers = (liveIec live).1.goosePublishers)
    (hmms : (activeIec policy).mmsIeds = (liveIec live).1.mmsIeds) :
    (computeDrift policy live).summary.total = 0 := by
  rw [total_eq_zero, hgoose, hmms]
  exact ⟨.refl (fun a => gooseChange_eq_none.mpr ⟨rfl, .inr rfl⟩) _,
    .refl (fun a => clientChange_eq_none.mpr fun ip => Iff.rfl) _⟩

/-- With a baseline in force and no candidate waiting, the state tells whether it drifts. -/
theorem getState_state {files : ConsoleFiles} {candidate live : Option Candidate}
    (hactive : ¬ Blank (activeIec files.policy))
    (hpending : candidatePending candidate (activeSummary files.policy) = false) :
    (getState files candidate live).state
      = if (computeDrift files.policy live).summary.total = 0 then .active else .drift := by
  have hsome : (activeSummary files.policy).isSome := by
    unfold activeSummary
    rw [if_neg hactive]
    rfl
  have hhas : (computeDrift files.policy live).hasActive = true := by
    show (!decide (Blank (activeIec files.policy))) = true
    rw [decide_eq_false hactive]
    rfl
  unfold getState
  simp only [hpending, hsome, hhas, Bool.false_eq_true, if_false, if_true, true_and]
  by_cases htotal : (computeDrift files.policy live).summary.total = 0
  · rw [if_neg (by omega), if_pos htotal]
  · rw [if_pos (by omega), if_neg htotal]

end EdgeSensor.Console
