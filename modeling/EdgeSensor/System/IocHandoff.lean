import EdgeSensor.Lib.Run
import EdgeSensor.Sensor.IocCache

/-!
# Handing indicators over

Agent and sensor share two files and no lock. `PolicySync.apply_artifact` replaces the
cache, atomically, and then writes the stamp; the sensor's `maybe_reload` looks at the
stamp and then reads the cache. The order on the one side is the reverse of that on the
other, and this is the whole protocol: whoever sees the stamp of an artifact will find
that artifact, or a later one, in the cache.

`Inv` is that argument as an invariant. Its last field is the law; `known` is what keeps
it true when the agent writes a stamp whose time the sensor has not seen yet.

Mirroring notes:
- Every read and every write that the other side can see is a step of its own, so a list
  of steps is an interleaving. A step whose turn it is not does nothing.
- The agent may stop between its two writes, and two calls of it may overlap: a stamp is
  written for some artifact that is in place or was.
- A modification time is later than the epoch, which is what `0.0` stands for in the
  store. The cache is replaced and never removed.
- A stamp's text is never read.
-/

namespace EdgeSensor.System

open EdgeSensor.Lib EdgeSensor.Sensor

/-- A stamp on disk: its modification time, and the number of the artifact it is for. -/
structure IocStamp where
  artifact : Nat
  mtime : Rat

/-- Where the sensor is in `maybe_reload`. -/
inductive ReloadPhase where
  | idle
  /-- Before the stamp is looked at. -/
  | stat (force : Bool)
  /-- There was no stamp: before the cache is looked at. -/
  | statCache (force : Bool)
  /-- Before the cache is read. -/
  | read (stampMtime : Rat)

structure Handoff where
  /-- The artifacts the cache was replaced with, in order, and its modification times. -/
  published : List (IocCacheDoc × Rat) := []
  /-- The stamps, latest first. -/
  stamps : List IocStamp := []
  store : IocCacheStore
  phase : ReloadPhase := .idle
  loadedAt : Rat := 0

inductive HandoffStep where
  | replaceCache (doc : IocCacheDoc) (mtime : Rat)
  | writeStamp (artifact : Nat) (mtime : Rat)
  /-- `maybe_reload` begins. -/
  | check (force : Bool) (now : Rat)
  | stat
  /-- The `stat` raises an `OSError`. -/
  | statFails
  | statCache
  | readCache (nowUtc : Rat)
  /-- The reading raises an `OSError`. -/
  | readFails
  /-- The sensor's process is started again. -/
  | restart

namespace Handoff

def new (reloadCheckSec : Rat) : Handoff := { store := { reloadCheckSec := reloadCheckSec } }

/-- The cache as a read finds it now. -/
def cacheFile (w : Handoff) : CacheFile :=
  match w.published.getLast? with
  | none => .missing
  | some (doc, _) => .content doc

/-- The modification time of the cache, or `0.0`. -/
def cacheMtime (w : Handoff) : Rat := (w.published.getLast?.map (·.2)).getD 0

/-- The second early return, or on to the cache. -/
def decideRead (w : Handoff) (force : Bool) (stampMtime : Rat) : Handoff :=
  { w with phase := if w.store.goesOn force stampMtime then .read stampMtime else .idle }

def step (w : Handoff) : HandoffStep → Handoff
  | .replaceCache doc mtime => { w with published := w.published ++ [(doc, mtime)] }
  | .writeStamp artifact mtime =>
    if artifact < w.published.length then { w with stamps := ⟨artifact, mtime⟩ :: w.stamps } else w
  | .check force now =>
    match w.phase with
    | .idle =>
      if w.store.Throttled force now then w
      else { w with store := { w.store with lastCheckMonotonic := now }, phase := .stat force }
    | _ => w
  | .stat =>
    match w.phase with
    | .stat force =>
      match w.stamps.head? with
      | some stamp => w.decideRead force stamp.mtime
      | none => { w with phase := .statCache force }
    | _ => w
  | .statFails =>
    match w.phase with
    | .stat force => w.decideRead force 0
    | .statCache force => w.decideRead force 0
    | _ => w
  | .statCache =>
    match w.phase with
    | .statCache force => w.decideRead force w.cacheMtime
    | _ => w
  | .readCache nowUtc =>
    match w.phase with
    | .read stampMtime =>
      { w with
        store := (w.store.finish stampMtime w.cacheFile nowUtc).1
        phase := .idle
        loadedAt := nowUtc }
    | _ => w
  | .readFails =>
    match w.phase with
    | .read stampMtime =>
      { w with store := (w.store.finish stampMtime .unreadable 0).1, phase := .idle }
    | _ => w
  | .restart => { w with store := { reloadCheckSec := w.store.reloadCheckSec }, phase := .idle }

/-- What is asked of the clock: a stamp's modification time is later than the epoch, and
no other stamp's or cache's so far. -/
def WellTimed (w : Handoff) : HandoffStep → Prop
  | .writeStamp _ mtime =>
    0 < mtime ∧ (∀ stamp ∈ w.stamps, stamp.mtime ≠ mtime) ∧ ∀ cache ∈ w.published, cache.2 ≠ mtime
  | _ => True

/-- The store serves what was unexpired of a document when it was loaded. -/
structure Serves (store : IocCacheStore) (doc : IocCacheDoc) (loadedAt : Rat) : Prop where
  ipv4 : store.ipv4 = doc.unexpired loadedAt
  artifactVersion : store.artifactVersion = doc.artifactVersion
  tenantId : store.tenantId = doc.tenantId

/-- The store serves artifact `n` or a later one. -/
def ServesFrom (w : Handoff) (n : Nat) : Prop :=
  ∃ k, n ≤ k ∧ ∃ cache, w.published[k]? = some cache ∧ Serves w.store cache.1 w.loadedAt

/-- A time the sensor can have seen: none, a stamp's or a cache's. -/
def KnownTime (w : Handoff) (t : Rat) : Prop :=
  t = 0 ∨ (∃ stamp ∈ w.stamps, stamp.mtime = t) ∨ ∃ cache ∈ w.published, cache.2 = t

/-- What every step preserves. -/
structure Inv (w : Handoff) : Prop where
  positive : ∀ stamp ∈ w.stamps, 0 < stamp.mtime
  /-- A stamp comes after its artifact. -/
  after : ∀ stamp ∈ w.stamps, stamp.artifact < w.published.length
  /-- What the sensor remembers, or is about to, it has seen. -/
  known : w.KnownTime w.store.lastStampMtime
  knownRead : ∀ stampMtime, w.phase = .read stampMtime → w.KnownTime stampMtime
  serves : ∀ stamp ∈ w.stamps, w.store.lastStampMtime = stamp.mtime → w.ServesFrom stamp.artifact

variable {w : Handoff}

theorem Inv.new (reloadCheckSec : Rat) : (Handoff.new reloadCheckSec).Inv :=
  ⟨fun _ h => absurd h List.not_mem_nil, fun _ h => absurd h List.not_mem_nil, .inl rfl,
    fun _ h => (by cases h), fun _ h => absurd h List.not_mem_nil⟩

/-! ## Steps of the agent -/

theorem KnownTime.replaceCache {t : Rat} (h : w.KnownTime t) (doc : IocCacheDoc) (mtime : Rat) :
    (w.step (.replaceCache doc mtime)).KnownTime t := by
  rcases h with h | h | ⟨cache, hcache, ht⟩
  · exact .inl h
  · exact .inr (.inl h)
  · exact .inr (.inr ⟨cache, List.mem_append_left _ hcache, ht⟩)

/-- A new artifact is later than any: whatever is served is served still. -/
theorem Inv.replaceCache (h : w.Inv) (doc : IocCacheDoc) (mtime : Rat) :
    (w.step (.replaceCache doc mtime)).Inv := by
  refine ⟨h.positive, fun stamp hstamp => ?_, h.known.replaceCache doc mtime,
    fun t ht => (h.knownRead t ht).replaceCache doc mtime, fun stamp hstamp heq => ?_⟩
  · have hlt := h.after stamp hstamp
    show stamp.artifact < (w.published ++ [(doc, mtime)]).length
    rw [List.length_append]
    omega
  · obtain ⟨k, hk, cache, hcache, hserves⟩ := h.serves stamp hstamp heq
    refine ⟨k, hk, cache, ?_, hserves⟩
    show (w.published ++ [(doc, mtime)])[k]? = some cache
    rw [List.getElem?_append_left (List.getElem?_eq_some_iff.mp hcache).1]
    exact hcache

/-- A new stamp has a time the sensor cannot remember yet. -/
theorem Inv.writeStamp (h : w.Inv) {artifact : Nat} {mtime : Rat}
    (htime : w.WellTimed (.writeStamp artifact mtime)) : (w.step (.writeStamp artifact mtime)).Inv := by
  obtain ⟨hpos, hstamps, hcaches⟩ := htime
  have hunknown : ∀ t, w.KnownTime t → t ≠ mtime := by
    intro t ht heq
    rcases ht with rfl | ⟨stamp, hstamp, rfl⟩ | ⟨cache, hcache, rfl⟩
    · exact absurd hpos (by rw [heq]; exact lt_irrefl mtime)
    · exact hstamps stamp hstamp heq
    · exact hcaches cache hcache heq
  have hknown : ∀ t, w.KnownTime t →
      KnownTime { w with stamps := ⟨artifact, mtime⟩ :: w.stamps } t := by
    intro t ht
    rcases ht with ht | ⟨stamp, hstamp, ht⟩ | ht
    · exact .inl ht
    · exact .inr (.inl ⟨stamp, List.mem_cons_of_mem _ hstamp, ht⟩)
    · exact .inr (.inr ht)
  unfold Handoff.step
  simp only
  split
  next hartifact =>
    refine ⟨fun stamp hstamp => ?_, fun stamp hstamp => ?_, hknown _ h.known,
      fun t ht => hknown t (h.knownRead t ht), fun stamp hstamp heq => ?_⟩
    · rcases List.mem_cons.mp hstamp with rfl | hstamp
      · exact hpos
      · exact h.positive stamp hstamp
    · rcases List.mem_cons.mp hstamp with rfl | hstamp
      · exact hartifact
      · exact h.after stamp hstamp
    · rcases List.mem_cons.mp hstamp with rfl | hstamp
      · exact absurd heq (hunknown _ h.known)
      · exact h.serves stamp hstamp heq
  next => exact h

/-! ## Steps of the sensor -/

/-- Only the phase changes. -/
theorem Inv.withPhase (h : w.Inv) {phase : ReloadPhase}
    (hread : ∀ stampMtime, phase = .read stampMtime → w.KnownTime stampMtime) :
    Inv { w with phase := phase } :=
  ⟨h.positive, h.after, h.known, hread, h.serves⟩

theorem Inv.decideRead (h : w.Inv) (force : Bool) {stampMtime : Rat}
    (hknown : w.KnownTime stampMtime) : (w.decideRead force stampMtime).Inv := by
  refine h.withPhase fun t ht => ?_
  split at ht
  next =>
    cases ht
    exact hknown
  next => cases ht

theorem Inv.check (h : w.Inv) (force : Bool) (now : Rat) : (w.step (.check force now)).Inv := by
  unfold Handoff.step
  simp only
  split
  next =>
    split
    next => exact h
    next =>
      refine ⟨h.positive, h.after, h.known, fun t ht => (by cases ht), fun stamp hstamp heq => ?_⟩
      obtain ⟨k, hk, cache, hcache, hserves⟩ := h.serves stamp hstamp heq
      exact ⟨k, hk, cache, hcache, hserves.ipv4, hserves.artifactVersion, hserves.tenantId⟩
  next => exact h

theorem Inv.stat (h : w.Inv) : (w.step .stat).Inv := by
  unfold Handoff.step
  simp only
  split
  next force _ =>
    split
    next stamp hstamp =>
      exact h.decideRead force (.inr (.inl ⟨stamp, List.mem_of_mem_head? hstamp, rfl⟩))
    next => exact h.withPhase fun t ht => (by cases ht)
  next => exact h

theorem Inv.statFails (h : w.Inv) : (w.step .statFails).Inv := by
  unfold Handoff.step
  simp only
  split
  next force _ => exact h.decideRead force (.inl rfl)
  next force _ => exact h.decideRead force (.inl rfl)
  next => exact h

theorem Inv.statCache (h : w.Inv) : (w.step .statCache).Inv := by
  unfold Handoff.step
  simp only
  split
  next force _ =>
    refine h.decideRead force ?_
    unfold cacheMtime
    cases hlast : w.published.getLast? with
    | none => exact .inl rfl
    | some cache => exact .inr (.inr ⟨cache, List.mem_of_getLast? hlast, rfl⟩)
  next => exact h

/-- The step the order of the writes is for: any stamp the sensor may have seen is for an
artifact that is in the cache by now, or was. -/
theorem Inv.readCache (h : w.Inv) (nowUtc : Rat) : (w.step (.readCache nowUtc)).Inv := by
  unfold Handoff.step
  simp only
  split
  next stampMtime hphase =>
    have hknown := h.knownRead stampMtime hphase
    unfold cacheFile
    cases hlast : w.published.getLast? with
    | none =>
      -- nothing published, so no stamp either
      have hnil : w.published = [] := List.getLast?_eq_none_iff.mp hlast
      refine ⟨h.positive, h.after, hknown, fun t ht => (by cases ht), fun stamp hstamp _ => ?_⟩
      have hlt := h.after stamp hstamp
      rw [hnil] at hlt
      exact absurd hlt (Nat.not_lt_zero _)
    | some cache =>
      refine ⟨h.positive, h.after, hknown, fun t ht => (by cases ht), fun stamp hstamp _ => ?_⟩
      have hlt := h.after stamp hstamp
      refine ⟨w.published.length - 1, by omega, cache, ?_, rfl, rfl, rfl⟩
      show w.published[w.published.length - 1]? = some cache
      rw [← List.getLast?_eq_getElem?]
      exact hlast
  next => exact h

/-- A read that fails remembers nothing. -/
theorem Inv.readFails (h : w.Inv) : (w.step .readFails).Inv := by
  unfold Handoff.step
  simp only
  split
  next stampMtime _ => exact h.withPhase fun t ht => (by cases ht)
  next => exact h

/-- A new process remembers nothing. -/
theorem Inv.restart (h : w.Inv) : (w.step .restart).Inv := by
  refine ⟨h.positive, h.after, .inl rfl, fun t ht => (by cases ht), fun stamp hstamp heq => ?_⟩
  have hlt := h.positive stamp hstamp
  rw [← heq] at hlt
  exact absurd hlt (lt_irrefl 0)

/-! ## Runs -/

theorem Inv.step (h : w.Inv) {x : HandoffStep} (htime : w.WellTimed x) : (w.step x).Inv := by
  cases x with
  | replaceCache doc mtime => exact h.replaceCache doc mtime
  | writeStamp artifact mtime => exact h.writeStamp htime
  | check force now => exact h.check force now
  | stat => exact h.stat
  | statFails => exact h.statFails
  | statCache => exact h.statCache
  | readCache nowUtc => exact h.readCache nowUtc
  | readFails => exact h.readFails
  | restart => exact h.restart

/-- **No update is lost.** In every interleaving, at every moment: if the time the sensor
remembers is that of the stamp written last, the sensor serves what was unexpired at its
load of the artifact the stamp is for, or of a later one. -/
theorem handoff_loses_no_update (reloadCheckSec : Rat) (steps : List HandoffStep)
    (htime : ∀ i x, steps[i]? = some x →
      (stateAt step (new reloadCheckSec) steps i).WellTimed x) (i : Nat) (stamp : IocStamp)
    (hlast : (stateAt step (new reloadCheckSec) steps i).stamps.head? = some stamp)
    (hremembers :
      (stateAt step (new reloadCheckSec) steps i).store.lastStampMtime = stamp.mtime) :
    (stateAt step (new reloadCheckSec) steps i).ServesFrom stamp.artifact := by
  have hinv := stateAt_inv (Inv.new reloadCheckSec) (fun i x hx h => Inv.step h (htime i x hx)) i
  exact hinv.serves stamp (List.mem_of_mem_head? hlast) hremembers

/-- Where a poll goes on after the stat, the read of the cache ends it. -/
theorem decideRead_readCache (w : Handoff) (force : Bool) (stampMtime nowUtc : Rat) :
    ((w.decideRead force stampMtime).step (.readCache nowUtc)).store
      = (if w.store.goesOn force stampMtime then w.store.finish stampMtime w.cacheFile nowUtc
          else (w.store, false)).1 := by
  unfold decideRead step
  simp only
  cases w.store.goesOn force stampMtime with
  | true => rfl
  | false => rfl

/-- A poll that has its time does not ask for that of the cache. -/
theorem decideRead_statCache (w : Handoff) (force : Bool) (stampMtime : Rat) :
    (w.decideRead force stampMtime).step .statCache = w.decideRead force stampMtime := by
  unfold decideRead step
  simp only
  cases w.store.goesOn force stampMtime with
  | true => rfl
  | false => rfl

/-- Uninterrupted, the steps are `maybe_reload`, on what the two files then are. -/
theorem steps_maybeReload (w : Handoff) (hidle : w.phase = .idle) (force : Bool)
    (now nowUtc : Rat) :
    ([HandoffStep.check force now, .stat, .statCache, .readCache nowUtc].foldl step w).store
      = (w.store.maybeReload force
          ⟨now, (w.stamps.head?.map (·.mtime)).getD w.cacheMtime, w.cacheFile, nowUtc⟩).1 := by
  show ((((w.step (.check force now)).step .stat).step .statCache).step (.readCache nowUtc)).store = _
  unfold IocCacheStore.maybeReload
  by_cases hthrottled : w.store.Throttled force now
  · have hcheck : w.step (.check force now) = w := by
      unfold step
      simp only [hidle, if_pos hthrottled]
    rw [hcheck, if_pos hthrottled]
    unfold step
    simp only [hidle]
  · have hcheck : w.step (.check force now)
        = { w with store := { w.store with lastCheckMonotonic := now }, phase := .stat force } := by
      unfold step
      simp only [hidle, if_neg hthrottled]
    rw [hcheck, if_neg hthrottled]
    cases hstamp : w.stamps.head? with
    | some stamp =>
      have hstat : ({ w with
            store := { w.store with lastCheckMonotonic := now }
            phase := .stat force } : Handoff).step .stat
          = ({ w with
            store := { w.store with lastCheckMonotonic := now }
            phase := .stat force } : Handoff).decideRead force stamp.mtime := by
        unfold step
        simp only [hstamp]
      rw [hstat, decideRead_statCache, decideRead_readCache]
      rfl
    | none =>
      have hstat : (({ w with
            store := { w.store with lastCheckMonotonic := now }
            phase := .stat force } : Handoff).step .stat).step .statCache
          = ({ w with
            store := { w.store with lastCheckMonotonic := now }
            phase := .statCache force } : Handoff).decideRead force w.cacheMtime := by
        unfold step
        simp only [hstamp]
        rfl
      rw [hstat, decideRead_readCache]
      rfl

/-! Two artifacts, and a reader that is overtaken by the second. -/

def feed (version : String) : IocCacheDoc :=
  { ipv4 := [("203.0.113.9", { itemId := version, expiresAt := some 100 })],
    artifactVersion := version }

/-- The sensor sees the stamp of the first artifact and reads the second. -/
def overtaken : List HandoffStep := [
  .replaceCache (feed "1") 10, .writeStamp 0 11, .check false 20, .stat, .replaceCache (feed "2") 20,
  .readCache 21]

/-- It remembers the stamp written last, and serves the artifact after that one. -/
theorem handoff_overtaken :
    (stateAt step (new 5) overtaken 6).ServesFrom 0 :=
  handoff_loses_no_update 5 overtaken
    (Along.at ⟨trivial, by unfold WellTimed; decide +kernel, trivial, trivial, trivial, trivial,
      trivial⟩)
    6 ⟨0, 11⟩ rfl rfl

end Handoff

end EdgeSensor.System
