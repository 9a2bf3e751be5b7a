import EdgeSensor.System.NoFalseDrift

/-!
# Whether a new revision shows as drift

`compute_drift` compares the `conf_rev` of the baseline with the one in the live snapshot,
and `feed_goose` sets `conf_rev` when it hears a publisher for the first time and never
again. So what is compared is the first revision of a publisher, not the one in force:
`revision_drift_iff` says that the report has the pair it should have for the latest
frame exactly when that frame repeats the first one's revision.

Mirroring notes:
- A publisher is the text the collector keys its records by.
-/

namespace EdgeSensor.System

open EdgeSensor.Lib EdgeSensor.Lib.KeyedDiff EdgeSensor.Parser EdgeSensor.Py EdgeSensor.Sensor
  EdgeSensor.Console

/-- The revision in the latest frame of a publisher. -/
def lastRev (key : String) (h : History Rat Feed) : Option Int :=
  h.reverse.findSome? fun e => revOf key e.2

/-- The publisher an entry of `goose.changed` is about. -/
def changeKey (change : GooseChange) : String :=
  s!"{lower change.publisherMac}|{change.appid}|{change.gocbRef}"

/-- The report has the publisher under `changed`, with this pair of revisions. -/
def RevisionReported (report : DriftReport) (key : String) (revs : Option Int × Option Int) : Prop :=
  ∃ change ∈ report.goose.changed, changeKey change = key ∧ change.confRev = some revs

/-! ## One publisher in the report -/

/-- The revision part of a change. -/
def revChange (a b : GoosePublisher) : Option (Option Int × Option Int) :=
  if b.confRev ≠ none ∧ a.confRev ≠ b.confRev then some (a.confRev, b.confRev) else none

/-- A change is about the publisher of the live entry. -/
theorem gooseChange_some {a b : GoosePublisher} {change : GooseChange}
    (h : gooseChange a b = some change) :
    changeKey change = gooseKey b ∧ change.confRev = revChange a b := by
  have hdef : gooseChange a b
      = if (if a.production ≠ b.production then some (a.production, b.production) else none) = none
          ∧ revChange a b = none then none
        else some ⟨b.publisherMac, b.appid, b.gocbRef,
          if a.production ≠ b.production then some (a.production, b.production) else none,
          revChange a b⟩ := rfl
  rw [hdef] at h
  generalize (if a.production ≠ b.production then some (a.production, b.production) else none)
    = production at h
  by_cases hnone : production = none ∧ revChange a b = none
  · rw [if_pos hnone] at h
    cases h
  · rw [if_neg hnone] at h
    cases h
    exact ⟨rfl, rfl⟩

theorem confRev_gooseChange (a b : GoosePublisher) (revs : Option Int × Option Int) :
    (∃ change, gooseChange a b = some change ∧ change.confRev = some revs)
      ↔ b.confRev ≠ none ∧ a.confRev ≠ b.confRev ∧ revs = (a.confRev, b.confRev) := by
  constructor
  · rintro ⟨change, hchange, hrevs⟩
    rw [(gooseChange_some hchange).2, revChange] at hrevs
    split at hrevs
    next hdiffers => exact ⟨hdiffers.1, hdiffers.2, (Option.some.inj hrevs).symm⟩
    next => cases hrevs
  · rintro ⟨hsome, hdiffers, rfl⟩
    have hrev : revChange a b = some (a.confRev, b.confRev) := if_pos ⟨hsome, hdiffers⟩
    cases hchange : gooseChange a b with
    | none =>
      -- equal revisions would be needed for that
      exact absurd ((gooseChange_eq_none.mp hchange).2.resolve_left hsome) hdiffers
    | some change => exact ⟨change, rfl, (gooseChange_some hchange).2.trans hrev⟩

section Report

variable {policy : Console.PolicyFile} {live : Option Candidate} {key : String}
  {a b : GoosePublisher}

/-- A publisher that both sides have is reported with the pair of their revisions, if these
differ. -/
theorem revisionReported_iff
    (ha : (byKey gooseKey (activeIec policy).goosePublishers).get? key = some a)
    (hb : (byKey gooseKey (liveIec live).1.goosePublishers).get? key = some b)
    (revs : Option Int × Option Int) :
    RevisionReported (computeDrift policy live) key revs
      ↔ b.confRev ≠ none ∧ a.confRev ≠ b.confRev ∧ revs = (a.confRev, b.confRev) := by
  rw [← confRev_gooseChange a b revs]
  unfold RevisionReported computeDrift
  simp only [mem_changed]
  constructor
  · rintro ⟨change, ⟨key', a', b', ha', hb', hchange⟩, hkey, hrev⟩
    have hkey' : key' = key := by
      rw [← (mem_of_get?_byKey hb').2, ← (gooseChange_some hchange).1, hkey]
    subst hkey'
    rw [ha] at ha'
    rw [hb] at hb'
    cases ha'
    cases hb'
    exact ⟨change, hchange, hrev⟩
  · rintro ⟨change, hchange, hrev⟩
    refine ⟨change, ⟨key, a, b, ha, hb, hchange⟩, ?_, hrev⟩
    rw [(gooseChange_some hchange).1, (mem_of_get?_byKey hb).2]

end Report

/-! ## The report over a run -/

theorem lastRev_isSome {key : String} {h : History Rat Feed} :
    (lastRev key h).isSome ↔ h.Ever fun call => call.publisher = some key := by
  unfold lastRev
  rw [List.findSome?_isSome_iff]
  simp only [List.mem_reverse, ← frameOf_isSome, revOf, Option.isSome_map]
  rfl

/-- The live snapshot after a history of calls. -/
def snapshot (platform : Platform) (tenantId sensorId : String) (h : History Rat Feed) (now : Rat)
    (generatedAt : String) (args : CandidateArgs) : Candidate :=
  (SiteCollector.collect tenantId sensorId h).toCandidate platform now generatedAt args

section Run

variable (platform : Platform) (tenantId sensorId : String) (h : History Rat Feed) (now : Rat)
  (generatedAt : String) (args : CandidateArgs)

/-- The live entry of a publisher has the revision of its first frame. -/
theorem confRev_snapshot (hlower : LowerMacs h) {key : String} {entry : GoosePublisher}
    (hentry : (byKey gooseKey (liveIec (some (snapshot platform tenantId sensorId h now generatedAt
      args))).1.goosePublishers).get? key = some entry) :
    entry.confRev = firstRev key h ∧ entry.confRev ≠ none :=
  (livePublisher_of_get? hlower hentry).2

/-- For a publisher that baseline and live snapshot both have, the report has the pair of the
baseline's and the latest revision whenever these differ, exactly when the first frame of
the publisher had the latest revision, or the latest is the baseline's. -/
theorem revision_drift_iff (hlower : LowerMacs h) (policy : Console.PolicyFile) {key : String}
    {entry : GoosePublisher}
    (hactive : (byKey gooseKey (activeIec policy).goosePublishers).get? key = some entry)
    (hlive : ∃ live ∈ (liveIec (some (snapshot platform tenantId sensorId h now generatedAt
      args))).1.goosePublishers, gooseKey live = key) :
    (∀ rev, lastRev key h = some rev → entry.confRev ≠ some rev →
        RevisionReported (computeDrift policy (some (snapshot platform tenantId sensorId h now
          generatedAt args))) key (entry.confRev, some rev))
      ↔ lastRev key h = entry.confRev ∨ firstRev key h = lastRev key h := by
  obtain ⟨live, hget⟩ := Option.isSome_iff_exists.mp (get?_byKey_isSome.mpr hlive)
  obtain ⟨hfirst, hsome⟩ := confRev_snapshot platform tenantId sensorId h now generatedAt args
    hlower hget
  obtain ⟨first, hf⟩ := Option.ne_none_iff_exists'.mp hsome
  rw [hf] at hfirst
  -- a publisher that has a first revision has a latest one
  obtain ⟨last, hl⟩ : ∃ last, lastRev key h = some last := by
    obtain ⟨e, he, hrev⟩ := List.exists_of_findSome?_eq_some hfirst.symm
    exact Option.isSome_iff_exists.mp (lastRev_isSome.mpr ⟨e, he, revOf_isSome.mp ⟨first, hrev⟩⟩)
  simp only [hl, ← hfirst, Option.some.injEq, forall_eq']
  rw [revisionReported_iff hactive hget, hf]
  constructor
  · intro hreported
    by_cases hsame : entry.confRev = some last
    · exact .inl hsame.symm
    · have hpair := (hreported hsame).2.2
      rw [Prod.mk.injEq, Option.some.injEq] at hpair
      exact .inr hpair.2.symm
  · rintro (hsame | rfl) hdiffers
    · exact absurd hsame.symm hdiffers
    · exact ⟨Option.some_ne_none _, hdiffers, rfl⟩

end Run

/-- A frame of the one publisher, with a revision. -/
def revisionFrame (rev : Int) : Goose.GooseFrame where
  publisherMac := "00:30:a7:00:00:01"
  appid := 1
  gocbRef := "LD0/LLN0$GO$gcb1"
  goId := ""
  stNum := 1
  sqNum := 0
  test := false
  confRev := rev
  rawLength := 64

/-- The key of the publisher. -/
def revisionKey : String := "00:30:a7:00:00:01|1|LD0/LLN0$GO$gcb1"

/-- The baseline has the publisher at revision 1. -/
def revisionEntry : GoosePublisher where
  publisherMac := "00:30:a7:00:00:01"
  appid := 1
  gocbRef := "LD0/LLN0$GO$gcb1"
  confRev := some 1

def revisionPolicy : Console.PolicyFile where
  artifact := { baseline := some { body := { iec61850 := some { goosePublishers := [revisionEntry] } } } }

/-- The publisher is heard twice, at two revisions. -/
def revisionRun (first last : Int) : History Rat Feed :=
  [(0, .goose (revisionFrame first)), (1, .goose (revisionFrame last))]

theorem lowerMacs_revisionRun (first last : Int) : LowerMacs (revisionRun first last) := by
  have hmac : lower "00:30:a7:00:00:01" = "00:30:a7:00:00:01" := by decide +kernel
  intro e he frame hframe
  simp only [revisionRun, List.mem_cons, List.not_mem_nil, or_false] at he
  rcases he with rfl | rfl
  · cases hframe
    exact hmac
  · cases hframe
    exact hmac

/-- The live snapshot two seconds after the first frame. -/
def revisionSnapshot (first last : Int) : Candidate :=
  snapshot samplePlatform "" "" (revisionRun first last) 2 "" { windowSec := some 900 }

/-- A publisher that is at revision 2 from its first frame on. -/
theorem revision_drift_reported :
    (∀ rev, lastRev revisionKey (revisionRun 2 2) = some rev → revisionEntry.confRev ≠ some rev →
        RevisionReported (computeDrift revisionPolicy (some (revisionSnapshot 2 2))) revisionKey
          (revisionEntry.confRev, some rev))
      ↔ lastRev revisionKey (revisionRun 2 2) = revisionEntry.confRev
        ∨ firstRev revisionKey (revisionRun 2 2) = lastRev revisionKey (revisionRun 2 2) :=
  revision_drift_iff samplePlatform "" "" (revisionRun 2 2) 2 "" { windowSec := some 900 }
    (lowerMacs_revisionRun 2 2) revisionPolicy (by decide +kernel) (by decide +kernel)

/-- A publisher that goes from revision 1 to revision 2 is not reported. -/
theorem revision_drift_missed :
    lastRev revisionKey (revisionRun 1 2) = some 2 ∧ revisionEntry.confRev ≠ some 2
      ∧ (byKey gooseKey (activeIec revisionPolicy).goosePublishers).get? revisionKey
        = some revisionEntry
      ∧ (∃ live ∈ (liveIec (some (revisionSnapshot 1 2))).1.goosePublishers,
        gooseKey live = revisionKey)
      ∧ ¬ RevisionReported (computeDrift revisionPolicy (some (revisionSnapshot 1 2))) revisionKey
        (revisionEntry.confRev, some 2) := by
  have hactive : (byKey gooseKey (activeIec revisionPolicy).goosePublishers).get? revisionKey
      = some revisionEntry := by decide +kernel
  have hlive : ∃ live ∈ (liveIec (some (revisionSnapshot 1 2))).1.goosePublishers,
      gooseKey live = revisionKey := by decide +kernel
  refine ⟨by decide +kernel, by decide, hactive, hlive, ?_⟩
  obtain ⟨live, hget⟩ := Option.isSome_iff_exists.mp (get?_byKey_isSome.mpr hlive)
  have hfirst := (confRev_snapshot samplePlatform "" "" (revisionRun 1 2) 2 ""
    { windowSec := some 900 } (lowerMacs_revisionRun 1 2) hget).1
  rw [revisionReported_iff hactive hget, hfirst]
  decide +kernel

end EdgeSensor.System
