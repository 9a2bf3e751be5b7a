import EdgeSensor.Console.Drift
import EdgeSensor.Lib.Run

/-!
# The life of a baseline

`approve_candidate`, `approve_drift` and `rollback` of `src/baseline_service.py`, in any
order. Each is either turned down, and then no file changes, or puts two lists into the
policy and writes a history entry for them (`adopt`); they differ in where the lists come
from. So the policy and the first entry of the history always speak of the same baseline.

A rollback finds its entry by the version, and a version is the second in which it was
made. The entry it finds is the right one as long as no two listed versions are equal.

Mirroring notes:
- Every entry of the history has a snapshot, so there is no answer for one without.
- A candidate and a live file are what the collector writes, or are not there.
-/

namespace EdgeSensor.Console

open EdgeSensor.Lib EdgeSensor.Lib.KeyedDiff EdgeSensor.Sensor

/-- `_apply_iec61850` and `_record_history`, as every call that succeeds ends. -/
def adopt (clock : ServiceClock) (iec : Iec61850Policy) (source sourceRef : String)
    (files : ConsoleFiles) : Except Rejection Applied × ConsoleFiles :=
  let applied := applyIec61850 clock iec source files
  (.ok applied.2, recordHistory clock applied.2.version sourceRef iec applied.1)

/-- `approve_drift`. -/
def approveDrift (clock : ServiceClock) (liveFile : Option Candidate) (files : ConsoleFiles) :
    Except Rejection Applied × ConsoleFiles :=
  let live := liveIec liveFile
  if Blank live.1 then (.error .noLive, files)
  else
    let gen := if live.2 = "" then "live" else live.2
    adopt clock live.1 "edge-console-drift" s!"drift:{gen}" files

/-- `rollback`. -/
def rollback (clock : ServiceClock) (version : String) (files : ConsoleFiles) :
    Except Rejection Applied × ConsoleFiles :=
  -- the first entry with the version: entries of one second share theirs
  match files.state.versions.find? fun v => v.version = version with
  | none => (.error (.unknownVersion version), files)
  | some target => adopt clock target.snapshot "edge-console-rollback" s!"rollback:{version}" files

/-- A call of the operator. -/
inductive Call where
  | approveCandidate
  | approveDrift
  | rollback (version : String)
  deriving DecidableEq

/-- A call, the clock it reads, and what the two files of the sensor hold at that moment. -/
structure Request where
  call : Call
  clock : ServiceClock
  candidate : Option Candidate
  live : Option Candidate

/-- The answer to a call, and the files after it. -/
def Request.perform (r : Request) (files : ConsoleFiles) :
    Except Rejection Applied × ConsoleFiles :=
  match r.call with
  | .approveCandidate => Console.approveCandidate r.clock r.candidate files
  | .approveDrift => Console.approveDrift r.clock r.live files
  | .rollback version => Console.rollback r.clock version files

/-- The call succeeds. -/
def Request.Succeeds (r : Request) (files : ConsoleFiles) : Prop := (r.perform files).1.isOk

instance (r : Request) (files : ConsoleFiles) : Decidable (r.Succeeds files) :=
  inferInstanceAs (Decidable (_ = true))

/-- The files after a call. -/
def serve (files : ConsoleFiles) (r : Request) : ConsoleFiles := (r.perform files).2

/-- A console that has not approved anything yet: any policy, no history. -/
def unused (policy : PolicyFile) (stamp : String) : ConsoleFiles := ⟨policy, stamp, {}⟩

/-! ## What a call can do -/

theorem approveCandidate_some (clock : ServiceClock) (candidate : Candidate)
    (files : ConsoleFiles) :
    Console.approveCandidate clock (some candidate) files
      = if Blank (observedIec candidate.observed) then (.error .nothingObserved, files)
        else adopt clock (observedIec candidate.observed) "edge-console-learning"
          (if candidate.sourceRef = "" then "pcap" else candidate.sourceRef) files := rfl

/-- The lists a successful call adopts: those of the file it approves, or those of the
first entry with the version. -/
inductive Offers (files : ConsoleFiles) : Request → Iec61850Policy → Prop where
  | candidate {clock : ServiceClock} {candidate : Candidate} {live : Option Candidate} :
      Offers files ⟨.approveCandidate, clock, some candidate, live⟩ (observedIec candidate.observed)
  | drift {clock : ServiceClock} {candidate live : Option Candidate} :
      Offers files ⟨.approveDrift, clock, candidate, live⟩ (liveIec live).1
  | rollback {version : String} {clock : ServiceClock} {candidate live : Option Candidate}
      {target : HistoryEntry}
      (h : (files.state.versions.find? fun v => v.version = version) = some target) :
      Offers files ⟨.rollback version, clock, candidate, live⟩ target.snapshot

/-- A call is turned down and writes nothing, or adopts what it was offered. -/
theorem perform_cases (r : Request) (files : ConsoleFiles) :
    (¬ r.Succeeds files ∧ serve files r = files)
      ∨ (r.Succeeds files ∧ ∃ iec source sourceRef, Offers files r iec
        ∧ serve files r = (adopt r.clock iec source sourceRef files).2) := by
  obtain ⟨call, clock, candidate, live⟩ := r
  unfold Request.Succeeds serve Request.perform
  cases call with
  | approveCandidate =>
    cases candidate with
    | none => exact .inl ⟨Bool.false_ne_true, rfl⟩
    | some candidate =>
      simp only [approveCandidate_some]
      by_cases hblank : Blank (observedIec candidate.observed)
      · rw [if_pos hblank]
        exact .inl ⟨Bool.false_ne_true, rfl⟩
      · rw [if_neg hblank]
        exact .inr ⟨rfl, _, _, _, .candidate, rfl⟩
  | approveDrift =>
    unfold Console.approveDrift
    simp only
    by_cases hblank : Blank (liveIec live).1
    · rw [if_pos hblank]
      exact .inl ⟨Bool.false_ne_true, rfl⟩
    · rw [if_neg hblank]
      exact .inr ⟨rfl, _, _, _, .drift, rfl⟩
  | rollback version =>
    simp only [Console.rollback]
    cases h : files.state.versions.find? fun v => v.version = version with
    | none => exact .inl ⟨Bool.false_ne_true, rfl⟩
    | some target => exact .inr ⟨rfl, _, _, _, .rollback h, rfl⟩

theorem serve_rejected {r : Request} {files : ConsoleFiles} (h : ¬ r.Succeeds files) :
    serve files r = files := by
  rcases perform_cases r files with ⟨_, hsame⟩ | ⟨hsucceeds, _⟩
  · exact hsame
  · exact absurd hsucceeds h

theorem serve_succeeds {r : Request} {files : ConsoleFiles} (h : r.Succeeds files) :
    ∃ iec source sourceRef, Offers files r iec
      ∧ serve files r = (adopt r.clock iec source sourceRef files).2 := by
  rcases perform_cases r files with ⟨hrejected, _⟩ | ⟨_, hadopted⟩
  · exact absurd h hrejected
  · exact hadopted

/-! ## Policy and history -/

/-- The history starts with `entry`, the only active one, and the policy holds what `entry`
is a snapshot of. -/
structure Heads (files : ConsoleFiles) (entry : HistoryEntry) (older : List HistoryEntry) :
    Prop where
  versions : files.state.versions = entry :: older
  bounded : files.state.versions.length ≤ 20
  active : entry.active = true
  inactive : ∀ v ∈ older, v.active = false
  activeVersion : files.state.activeVersion = entry.version
  policyVersion : files.policy.artifact.version = entry.version
  goosePublishers : (activeIec files.policy).goosePublishers = entry.snapshot.goosePublishers
  mmsIeds : (activeIec files.policy).mmsIeds = entry.snapshot.mmsIeds

/-- The two files speak of the same baseline. -/
def Consistent (files : ConsoleFiles) : Prop := ∃ entry older, Heads files entry older

/-- Whatever was there before, an adoption leaves the two files in agreement. -/
theorem heads_adopt (clock : ServiceClock) (iec : Iec61850Policy) (source sourceRef : String)
    (files : ConsoleFiles) :
    ∃ entry older, Heads (adopt clock iec source sourceRef files).2 entry older
      ∧ entry.snapshot = iec := by
  refine ⟨_, (files.state.versions.map fun v => { v with active := false }).take 19,
    ⟨rfl, ?_, rfl, ?_, rfl, rfl, rfl, rfl⟩, rfl⟩
  · show (List.take 20 _).length ≤ 20
    exact List.length_take_le _ _
  · intro v hv
    obtain ⟨old, _, rfl⟩ := List.mem_map.mp (List.mem_of_mem_take hv)
    rfl

/-- A call that succeeds leaves the files in agreement. -/
theorem consistent_serve {r : Request} {files : ConsoleFiles} (h : r.Succeeds files) :
    Consistent (serve files r) := by
  obtain ⟨iec, source, sourceRef, _, hserve⟩ := serve_succeeds h
  rw [hserve]
  obtain ⟨entry, older, hheads, _⟩ := heads_adopt r.clock iec source sourceRef files
  exact ⟨entry, older, hheads⟩

/-! ## Drift after its approval -/

/-- The policy holds the lists of the live file. -/
structure Follows (live : Option Candidate) (files : ConsoleFiles) : Prop where
  goosePublishers : (activeIec files.policy).goosePublishers = (liveIec live).1.goosePublishers
  mmsIeds : (activeIec files.policy).mmsIeds = (liveIec live).1.mmsIeds

theorem Follows.summary {live : Option Candidate} {files : ConsoleFiles} (h : Follows live files) :
    (computeDrift files.policy live).summary = ⟨0, 0, 0⟩ := by
  have htotal : (computeDrift files.policy live).summary.total = 0 :=
    total_self h.goosePublishers h.mmsIeds
  generalize (computeDrift files.policy live).summary = summary at htotal
  obtain ⟨added, removed, changed⟩ := summary
  unfold Summary.total at htotal
  simp only at htotal
  simp only [Summary.mk.injEq]
  omega

theorem follows_serve {r : Request} {files : ConsoleFiles} (h : r.Succeeds files)
    (hcall : r.call = .approveDrift) : Follows r.live (serve files r) := by
  obtain ⟨iec, source, sourceRef, hoffers, hserve⟩ := serve_succeeds h
  rw [hserve]
  cases hoffers with
  | candidate => cases hcall
  | drift => exact ⟨rfl, rfl⟩
  | rollback => cases hcall

/-- Policy and history agree from the first success on: between one and twenty entries,
the first one active and no other, its version the active one and the policy's, its snapshot
what the policy holds. A rejected call writes nothing. Live observations that were approved
do not drift while they stay as they are and nothing else is approved. -/
theorem lifecycle (policy : PolicyFile) (stamp : String) (requests : List Request) :
    (∀ i j, At serve (unused policy stamp) requests (fun files r => r.Succeeds files) j → j < i →
      Consistent (stateAt serve (unused policy stamp) requests i))
    ∧ (∀ files r, ¬ r.Succeeds files → serve files r = files)
    ∧ (∀ i j live,
      At serve (unused policy stamp) requests
        (fun files r => r.call = .approveDrift ∧ r.live = live ∧ r.Succeeds files) j → j < i →
      (∀ k r, j < k → k < i → requests[k]? = some r → r.live = live
        ∧ (r.Succeeds (stateAt serve (unused policy stamp) requests k) → r.call = .approveDrift)) →
      (computeDrift (stateAt serve (unused policy stamp) requests i).policy live).summary
        = ⟨0, 0, 0⟩) := by
  refine ⟨fun i j hj hji => ?_, fun files r => serve_rejected, fun i j live hj hji hsince => ?_⟩
  · -- from a success on every later call keeps the agreement or makes it again
    refine stateAt_since hj (fun files r _ => consistent_serve) ?_ hji
    intro k r _ _ _ hconsistent
    by_cases hsucceeds : r.Succeeds (stateAt serve (unused policy stamp) requests k)
    · exact consistent_serve hsucceeds
    · rw [serve_rejected hsucceeds]
      exact hconsistent
  · -- from an approval on only another approval of the same live file can write
    refine Follows.summary (stateAt_since hj ?_ ?_ hji)
    · rintro files r _ ⟨hcall, rfl, hsucceeds⟩
      exact follows_serve hsucceeds hcall
    · intro k r hjk hki hr hfollows
      obtain ⟨hlive, honly⟩ := hsince k r hjk hki hr
      by_cases hsucceeds : r.Succeeds (stateAt serve (unused policy stamp) requests k)
      · rw [← hlive]
        exact follows_serve hsucceeds (honly hsucceeds)
      · rw [serve_rejected hsucceeds]
        exact hfollows

/-- A live file, or a candidate, with one publisher. -/
def observing (gocbRef : String) : Candidate :=
  ⟨"", "", "", none, { goosePublishers := [{ gocbRef := gocbRef, appid := 1 }] }⟩

/-- The clock at a second. -/
def atSecond (text : String) : ServiceClock := ⟨text, text, 0, text⟩

/-- Live observations that were approved drift again, unchanged, once a candidate with
another publisher has been approved. -/
theorem drift_after_candidate :
    ¬ ∀ (policy : PolicyFile) (stamp : String) (requests : List Request) (i j : Nat)
      (live : Option Candidate),
      At serve (unused policy stamp) requests
        (fun files r => r.call = .approveDrift ∧ r.live = live ∧ r.Succeeds files) j → j < i →
      (∀ k r, j < k → k < i → requests[k]? = some r → r.live = live) →
      (computeDrift (stateAt serve (unused policy stamp) requests i).policy live).summary
        = ⟨0, 0, 0⟩ := by
  intro h
  let live := some (observing "live")
  let candidate := some (observing "candidate")
  let first : Request := ⟨.approveDrift, atSecond "1", candidate, live⟩
  let second : Request := ⟨.approveCandidate, atSecond "2", candidate, live⟩
  have hzero := h {} "" [first, second] 2 0 live ⟨first, rfl, rfl, rfl, by decide⟩ (by decide) (by
    intro k r hk hk' hr
    obtain rfl : k = 1 := by omega
    cases hr
    rfl)
  exact absurd hzero (by decide)

/-! ## The way back -/

/-- The version a call at this moment makes. -/
def versionOf (clock : ServiceClock) : String := s!"baseline-{clock.versionTime}"

/-- No version is listed twice. -/
def Distinct (files : ConsoleFiles) : Prop := (files.state.versions.map (·.version)).Nodup

instance (files : ConsoleFiles) : Decidable (Distinct files) :=
  inferInstanceAs (Decidable (List.Nodup _))

theorem distinct_unused (policy : PolicyFile) (stamp : String) : Distinct (unused policy stamp) :=
  List.nodup_nil

/-- Every listed version is listed once, and the rollback to it puts the lists of its
snapshot into the policy. -/
structure Exact (files : ConsoleFiles) : Prop where
  distinct : Distinct files
  restores : ∀ entry ∈ files.state.versions, ∀ clock,
    let policy := (Console.rollback clock entry.version files).2.policy
    (activeIec policy).goosePublishers = entry.snapshot.goosePublishers
      ∧ (activeIec policy).mmsIeds = entry.snapshot.mmsIeds

/-- The version a call would make is that of an entry that stays in the history. -/
def VersionTaken (files : ConsoleFiles) (r : Request) : Prop :=
  versionOf r.clock ∈ (files.state.versions.take 19).map (·.version)

/-- With distinct versions a rollback finds the entry it was asked for. -/
theorem exact_of_distinct {files : ConsoleFiles} (h : Distinct files) : Exact files := by
  refine ⟨h, fun entry hentry clock => ?_⟩
  -- a listed version is found, and at no other entry
  have hfind : (files.state.versions.find? fun v => v.version = entry.version) = some entry := by
    cases hfound : files.state.versions.find? fun v => v.version = entry.version with
    | none =>
      have hnot := List.find?_eq_none.mp hfound entry hentry
      exact absurd (decide_eq_true rfl) hnot
    | some target =>
      have hversion : target.version = entry.version := by simpa using List.find?_some hfound
      rw [List.inj_on_of_nodup_map h (List.mem_of_find?_eq_some hfound) hentry hversion]
  simp only [Console.rollback, hfind]
  exact ⟨rfl, rfl⟩

/-- The versions after an adoption: the new one, and the first nineteen of those before. -/
theorem versions_adopt (clock : ServiceClock) (iec : Iec61850Policy) (source sourceRef : String)
    (files : ConsoleFiles) :
    (adopt clock iec source sourceRef files).2.state.versions.map (·.version)
      = versionOf clock :: (files.state.versions.take 19).map (·.version) := by
  show versionOf clock :: (List.take 19 (files.state.versions.map fun v =>
    { v with active := false })).map HistoryEntry.version = _
  rw [← List.map_take, List.map_map]
  rfl

/-- A call that succeeds keeps the versions distinct unless it makes one that is listed. -/
theorem distinct_serve {files : ConsoleFiles} {r : Request} (h : r.Succeeds files)
    (hdistinct : Distinct files) : Distinct (serve files r) ↔ ¬ VersionTaken files r := by
  obtain ⟨iec, source, sourceRef, _, hserve⟩ := serve_succeeds h
  unfold Distinct
  rw [hserve, versions_adopt, List.nodup_cons]
  have hkept : ((files.state.versions.take 19).map (·.version)).Nodup :=
    List.Nodup.sublist ((List.take_sublist _ _).map _) hdistinct
  exact ⟨fun hnodup => hnodup.1, fun hfree => ⟨hfree, hkept⟩⟩

/-- Every rollback is exact, at every moment of a run, exactly when no call of the run
succeeds within the second of an entry that stays listed. -/
theorem rollback_exact (policy : PolicyFile) (stamp : String) (requests : List Request) :
    (∀ i, Exact (stateAt serve (unused policy stamp) requests i))
      ↔ ∀ i, ¬ At serve (unused policy stamp) requests
        (fun files r => r.Succeeds files ∧ VersionTaken files r) i := by
  constructor
  · -- the entry of the clash repeats a version that stays listed
    rintro hexact i ⟨r, hr, hsucceeds, htaken⟩
    have hafter := (hexact (i + 1)).distinct
    rw [stateAt_succ hr] at hafter
    exact (distinct_serve hsucceeds (hexact i).distinct).mp hafter htaken
  · intro hfree i
    apply exact_of_distinct
    refine stateAt_inv (distinct_unused policy stamp) (fun k r hr hdistinct => ?_) i
    by_cases hsucceeds : r.Succeeds (stateAt serve (unused policy stamp) requests k)
    · refine (distinct_serve hsucceeds hdistinct).mpr fun htaken => ?_
      exact hfree k ⟨r, hr, hsucceeds, htaken⟩
    · rw [serve_rejected hsucceeds]
      exact hdistinct

/-- The approval of a candidate with one publisher. -/
def approval (gocbRef second : String) : Request :=
  ⟨.approveCandidate, atSecond second, some (observing gocbRef), none⟩

/-- Two candidates approved within one second: both entries bear one version, and the
rollback to the older one brings back the newer. -/
theorem rollback_same_second :
    ¬ Exact (stateAt serve (unused {} "") [approval "a" "1", approval "b" "1"] 2)
    ∧ ∃ entry ∈ (stateAt serve (unused {} "") [approval "a" "1", approval "b" "1"] 2).state.versions,
      (activeIec (Console.rollback (atSecond "9") entry.version
        (stateAt serve (unused {} "") [approval "a" "1", approval "b" "1"] 2)).2.policy).goosePublishers
        ≠ entry.snapshot.goosePublishers := by
  refine ⟨fun h => absurd h.distinct (by decide), _, List.mem_cons_of_mem _ List.mem_cons_self, ?_⟩
  decide

end EdgeSensor.Console
