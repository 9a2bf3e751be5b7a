import EdgeSensor.Sensor.Ioc

/-!
# The IoC cache on the sensor

`src/policy/ioc_cache.py`: the index of indicators, reloaded from the file the agent
writes when the modification time of the stamp has changed.

A reload is two reads at two moments, the `stat` of the stamp and the reading of the
cache. `maybeReload` is both at once; `goesOn` and `finish` are its halves, for a
reader whose writer does not wait.

Mirroring notes:
- An entry is what the code keeps of a decoded one; `expires_at` is a time of the wall
  clock, as the agent always writes it with its offset. One that does not parse is none.
- `0.0` is the modification time of a stamp (or cache, where there is no stamp) that is
  not there or cannot be looked at.
-/

namespace EdgeSensor.Sensor

open EdgeSensor.Lib EdgeSensor.Py

/-- `IocEntry`. -/
structure CacheEntry where
  itemId : String := ""
  confidence : Option Int := none
  expiresAt : Option Rat := none
  deriving DecidableEq

/-- `expires_at and expires_at <= now_utc`. -/
def CacheEntry.Expired (e : CacheEntry) (t : Rat) : Prop := ∃ x ∈ e.expiresAt, x ≤ t

instance (e : CacheEntry) (t : Rat) : Decidable (e.Expired t) :=
  inferInstanceAs (Decidable (∃ x ∈ e.expiresAt, x ≤ t))

/-- `ioc-cache.json`. -/
structure IocCacheDoc where
  ipv4 : Dict String CacheEntry := []
  artifactVersion : String := ""
  tenantId : String := ""
  etag : String := ""
  deriving DecidableEq

/-- The cache as a read finds it. `unreadable` is an `OSError`, or no JSON object. -/
inductive CacheFile where
  | missing
  | unreadable
  | content (doc : IocCacheDoc)

/-- The entries a load at time `t` keeps. -/
def IocCacheDoc.unexpired (doc : IocCacheDoc) (t : Rat) : Dict String CacheEntry :=
  doc.ipv4.filter fun kv => ¬ kv.2.Expired t

/-- `IocCacheStore`. -/
structure IocCacheStore where
  reloadCheckSec : Rat := 5
  ipv4 : Dict String CacheEntry := []
  artifactVersion : String := ""
  tenantId : String := ""
  etag : String := ""
  lastStampMtime : Rat := 0
  lastCheckMonotonic : Rat := 0
  loaded : Bool := false
  deriving DecidableEq

namespace IocCacheStore

/-- The first early return: the last check is too recent. -/
def Throttled (s : IocCacheStore) (force : Bool) (now : Rat) : Prop :=
  force = false ∧ s.loaded = true ∧ now - s.lastCheckMonotonic < s.reloadCheckSec

instance (s : IocCacheStore) (force : Bool) (now : Rat) : Decidable (s.Throttled force now) :=
  inferInstanceAs (Decidable (_ ∧ _))

/-- The second: the modification time is the remembered one. Otherwise the reload goes on. -/
def goesOn (s : IocCacheStore) (force : Bool) (stampMtime : Rat) : Bool :=
  !(s.loaded && !force && decide (stampMtime = s.lastStampMtime))

/-- The rest of a reload, from the reading of the cache on, with its return value. -/
def finish (s : IocCacheStore) (stampMtime : Rat) (file : CacheFile) (nowUtc : Rat) :
    IocCacheStore × Bool :=
  match file with
  | .missing =>
    ({ s with
        ipv4 := []
        artifactVersion := ""
        tenantId := ""
        etag := ""
        lastStampMtime := stampMtime
        loaded := true }, true)
  | .unreadable => (s, false)
  | .content doc =>
    ({ s with
        ipv4 := doc.unexpired nowUtc
        artifactVersion := doc.artifactVersion
        tenantId := doc.tenantId
        etag := doc.etag
        lastStampMtime := stampMtime
        loaded := true }, true)

/-- Everything one `maybe_reload` can read. -/
structure CacheReading where
  now : Rat
  stampMtime : Rat
  file : CacheFile
  nowUtc : Rat

/-- `maybe_reload`. -/
def maybeReload (s : IocCacheStore) (force : Bool) (r : CacheReading) : IocCacheStore × Bool :=
  if s.Throttled force r.now then (s, false)
  else
    let checked := { s with lastCheckMonotonic := r.now }
    if s.goesOn force r.stampMtime then checked.finish r.stampMtime r.file r.nowUtc
    else (checked, false)

/-- `lookup_ipv4`, after its reload, and what else goes into an event. -/
def view (s : IocCacheStore) : IocView where
  lookup ip := (s.ipv4.get? ip).map fun e => ⟨e.itemId, e.confidence⟩
  artifactVersion := s.artifactVersion
  tenantId := s.tenantId

/-! ## What a reload does to the index -/

/-- A finished reload leaves the index, or puts there what the file holds and is unexpired. -/
theorem finish_ipv4 (s : IocCacheStore) (stampMtime : Rat) (file : CacheFile) (nowUtc : Rat) :
    (s.finish stampMtime file nowUtc = (s, false))
      ∨ ((s.finish stampMtime file nowUtc).2 = true
        ∧ ∃ doc : IocCacheDoc, (s.finish stampMtime file nowUtc).1.ipv4 = doc.unexpired nowUtc) := by
  cases file with
  | missing => exact .inr ⟨rfl, {}, rfl⟩
  | unreadable => exact .inl rfl
  | content doc => exact .inr ⟨rfl, doc, rfl⟩

theorem maybeReload_ipv4 (s : IocCacheStore) (force : Bool) (r : CacheReading) :
    ((s.maybeReload force r).2 = false ∧ (s.maybeReload force r).1.ipv4 = s.ipv4)
      ∨ ((s.maybeReload force r).2 = true
        ∧ ∃ doc : IocCacheDoc, (s.maybeReload force r).1.ipv4 = doc.unexpired r.nowUtc) := by
  unfold maybeReload
  split
  next => exact .inl ⟨rfl, rfl⟩
  next =>
    simp only
    split
    next =>
      rcases finish_ipv4 { s with lastCheckMonotonic := r.now } r.stampMtime r.file r.nowUtc with
        hkept | hloaded
      · rw [hkept]
        exact .inl ⟨rfl, rfl⟩
      · exact .inr hloaded
    next => exact .inl ⟨rfl, rfl⟩

/-- A load keeps nothing that has expired by then. -/
theorem not_expired_of_mem_unexpired {doc : IocCacheDoc} {t : Rat} {kv : String × CacheEntry}
    (h : kv ∈ doc.unexpired t) : ¬ kv.2.Expired t := by
  have hkeep := (List.mem_filter.mp h).2
  exact of_decide_eq_true hkeep

end IocCacheStore

end EdgeSensor.Sensor
