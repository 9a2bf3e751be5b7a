import EdgeSensor.Console.EventsIndex
import EdgeSensor.Lib.Run
import Mathlib.Data.Rat.Defs

/-!
# The cache of the events index (`src/events_index.py`)

One entry serves every caller. It is taken for valid by its age and by the time and the size of the
file that is asked for; neither which file it was filled from nor how many events were asked for is
part of it. `cache_transparent` is what a run is worth in which each hit is its own: the entry was
filled for the same path and the same limit.

Mirroring notes:
- `filledFor` is not in the code: it tells what the entry was filled for.
- The clocks are read once in a request.
- Between the requests files grow. What else may happen to a file is not looked at.
-/

namespace EdgeSensor.Console

open EdgeSensor.Lib EdgeSensor.Py

/-- `_CACHE_TTL_SEC`. -/
def cacheTtlSec : Rat := 30

structure EventsFile where
  data : Bytes
  mtimeNs : Int

/-- `(stat.st_mtime_ns, stat.st_size)`. -/
def EventsFile.key (file : EventsFile) : Int × Nat := (file.mtimeNs, file.data.length)

/-- `_cache`. -/
structure CacheEntry where
  key : Int × Nat
  stats : EventsStats
  cachedAt : Rat

/-- The files, the cache, and what that was filled for. -/
structure EventsView (π : Type) where
  files : π → Option EventsFile
  cache : Option CacheEntry := none
  filledFor : Option (π × Int) := none

/-- `time.monotonic()` and the time of day. -/
structure ScanClock where
  mono : Rat
  now : Int

section Cache

variable (text : EventsText) {π : Type}

/-- `_stats_cache_valid`: the entry, if it is. -/
def EventsView.cached (v : EventsView π) (file : EventsFile) (clock : ScanClock) :
    Option CacheEntry :=
  v.cache.filter fun entry => ¬ cacheTtlSec < clock.mono - entry.cachedAt ∧ entry.key = file.key

/-- `scan_events_stats`. -/
def EventsView.scanEventsStats (v : EventsView π) (path : π) (recentLimit : Int)
    (clock : ScanClock) : EventsView π × Except PyErr EventsStats :=
  match v.files path with
  | none => (v, .ok ⟨0, [], []⟩)
  | some file =>
    match v.cached file clock with
    | some entry => (v, .ok entry.stats)
    | none =>
      match scanEvents text file.data clock.now recentLimit with
      | .error e => (v, .error e)
      | .ok stats =>
        ({ v with
            cache := some ⟨file.key, stats, clock.mono⟩
            filledFor := some (path, recentLimit) }, .ok stats)

/-- The recent events of the files, one file after the other. -/
def EventsView.collect (v : EventsView π) (perFile : Int) (clock : ScanClock) :
    List π → EventsView π × Except PyErr (List Value)
  | [] => (v, .ok [])
  | path :: paths =>
    match v.scanEventsStats text path perFile clock with
    | (v, .error e) => (v, .error e)
    | (v, .ok stats) =>
      let (v, rest) := v.collect perFile clock paths
      (v, rest.map (stats.recentEvents ++ ·))

/-- `_parse_event_ts(ev) or 0.0`. -/
def tsOrZero (ev : Value) : Int := (parseEventTs text ev).getD 0

/-- `str(ev.get("event_id") or "").strip()`. -/
def eventIdOf (ev : Value) : PyStr :=
  PyStr.strip (if (ev.get "event_id").truthy then text.text.str (ev.get "event_id") else [])

/-- The loop that leaves out what was there before. -/
def distinctLoop (limit : Int) : List PyStr → List Value → List Value → List Value
  | _, out, [] => out
  | seen, out, ev :: evs =>
    let eid := eventIdOf text ev
    if eid ≠ [] ∧ eid ∈ seen then distinctLoop limit seen out evs
    else
      let seen := if eid ≠ [] then eid :: seen else seen
      let out := out ++ [ev]
      if limit ≤ out.length then out else distinctLoop limit seen out evs

/-- The newest of the events: `combined.sort(key=…, reverse=True)`, which is stable, and the
loop. -/
def newestOf (limit : Int) (combined : List Value) : List Value :=
  distinctLoop text limit [] []
    (combined.mergeSort fun a b => tsOrZero text b ≤ tsOrZero text a)

/-- `min(max(limit * 3, limit), 200)`. -/
def perFileLimit (limit : Int) : Int := min (max (limit * 3) limit) 200

/-- `read_merged_jsonl_tail`. -/
def EventsView.readMergedJsonlTail (v : EventsView π) (paths : List π) (limit : Int)
    (clock : ScanClock) : EventsView π × Except PyErr (List Value) :=
  if limit ≤ 0 then (v, .ok [])
  else
    let (v, combined) := v.collect text (perFileLimit limit) clock paths
    (v, combined.map (newestOf text limit))

/-! ## Without the cache -/

/-- The recent events of a scan without the cache. -/
def EventsView.freshTail (v : EventsView π) (path : π) (recentLimit : Int) (clock : ScanClock) :
    Except PyErr (List Value) :=
  match v.files path with
  | none => .ok []
  | some file => (scanEvents text file.data clock.now recentLimit).map (·.recentEvents)

/-- Two events with one id. -/
def SameId (a b : Value) : Prop := eventIdOf text a ≠ [] ∧ eventIdOf text a = eventIdOf text b

/-- The newest so many of the events that are distinct by their ids, newest first: what is left out
has its id among them on an event that is no older, or is no newer than any of them. -/
structure NewestDistinct (limit : Nat) (events out : List Value) : Prop where
  sorted : out.Pairwise fun a b => tsOrZero text b ≤ tsOrZero text a
  distinct : out.Pairwise fun a b => ¬ SameId text a b
  bounded : out.length ≤ limit
  newest : ∃ rest, (out ++ rest).Perm events ∧ ∀ ev ∈ rest,
    (∃ o ∈ out, SameId text o ev ∧ tsOrZero text ev ≤ tsOrZero text o)
      ∨ out.length = limit ∧ ∀ o ∈ out, tsOrZero text ev ≤ tsOrZero text o

/-! ## Runs -/

/-- A request, or a file that grows. -/
inductive ViewStep (π : Type) where
  | scan (path : π) (recentLimit : Int) (clock : ScanClock)
  | merged (paths : List π) (limit : Int) (clock : ScanClock)
  | append (path : π) (data : Bytes) (mtimeNs : Int)

/-- Another program writes at the end of a file, which it may have created. -/
def EventsView.append [DecidableEq π] (v : EventsView π) (path : π) (data : Bytes) (mtimeNs : Int) :
    EventsView π :=
  let before := (v.files path).elim [] fun file => file.data
  { v with files := Function.update v.files path (some ⟨before ++ data, mtimeNs⟩) }

def ViewStep.next [DecidableEq π] (v : EventsView π) : ViewStep π → EventsView π
  | .scan path recentLimit clock => (v.scanEventsStats text path recentLimit clock).1
  | .merged paths limit clock => (v.readMergedJsonlTail text paths limit clock).1
  | .append path data mtimeNs => v.append path data mtimeNs

/-- What a request returns is what it would without the cache, whenever that returns. -/
def Transparent (v : EventsView π) : ViewStep π → Prop
  | .scan path recentLimit clock => ∀ events, v.freshTail text path recentLimit clock = .ok events →
    (v.scanEventsStats text path recentLimit clock).2.map (·.recentEvents) = .ok events
  | .merged paths limit clock => ∀ tails,
    paths.mapM (v.freshTail text · (perFileLimit limit) clock) = .ok tails →
    ∃ out, (v.readMergedJsonlTail text paths limit clock).2 = .ok out
      ∧ NewestDistinct text limit.toNat tails.flatten out
  | .append .. => True

/-- A hit, if it is one, is of an entry that was filled for the same path and limit. -/
def OwnHit (v : EventsView π) (path : π) (recentLimit : Int) (clock : ScanClock) : Prop :=
  ∀ file, v.files path = some file → v.cached file clock ≠ none →
    v.filledFor = some (path, recentLimit)

/-- So it is for one file after the other. -/
def OwnHits (perFile : Int) (clock : ScanClock) : EventsView π → List π → Prop
  | _, [] => True
  | v, path :: paths => OwnHit v path perFile clock
    ∧ OwnHits perFile clock (v.scanEventsStats text path perFile clock).1 paths

/-- The condition on a step. -/
def HitsOwn (v : EventsView π) : ViewStep π → Prop
  | .scan path recentLimit clock => OwnHit v path recentLimit clock
  | .merged paths limit clock => 0 < limit → OwnHits text (perFileLimit limit) clock v paths
  | .append .. => True

/-- The entry holds the recent events of what the file was, that it was filled for; since then the
file can only have grown. -/
def Filled (v : EventsView π) : Prop :=
  ∀ entry, v.cache = some entry → ∃ path recentLimit before file,
    v.filledFor = some (path, recentLimit) ∧ v.files path = some file ∧ before <+: file.data
      ∧ entry.key.2 = before.length
      ∧ recentEvents text before recentLimit = .ok entry.stats.recentEvents

variable {text} {v : EventsView π} {path : π} {limit : Int} {clock : ScanClock}

/-! ## One scan -/

theorem scanEvents_recent {data : Bytes} {now : Int} {stats : EventsStats}
    (h : scanEvents text data now limit = .ok stats) :
    recentEvents text data limit = .ok stats.recentEvents := by
  obtain ⟨counted, -, h⟩ := bind_eq_ok.mp h
  obtain ⟨recent, hrecent, h⟩ := bind_eq_ok.mp h
  cases h
  exact hrecent

/-- A scan keeps the invariant, and the files. -/
theorem Filled.scan (h : Filled text v) (path : π) (limit : Int) (clock : ScanClock) :
    Filled text (v.scanEventsStats text path limit clock).1
      ∧ (v.scanEventsStats text path limit clock).1.files = v.files := by
  unfold EventsView.scanEventsStats
  cases hfile : v.files path with
  | none => exact ⟨h, rfl⟩
  | some file =>
    simp only
    cases v.cached file clock with
    | some entry => exact ⟨h, rfl⟩
    | none =>
      simp only
      cases hscan : scanEvents text file.data clock.now limit with
      | error e => exact ⟨h, rfl⟩
      | ok stats =>
        refine ⟨?_, rfl⟩
        rintro _ ⟨⟩
        exact ⟨path, limit, file.data, file, rfl, hfile, List.prefix_refl _, rfl,
          scanEvents_recent hscan⟩

/-- A scan whose hit is its own returns what a fresh one does. -/
theorem Filled.scan_transparent (h : Filled text v) (hown : OwnHit v path limit clock)
    {events : List Value} (hfresh : v.freshTail text path limit clock = .ok events) :
    ∃ stats, (v.scanEventsStats text path limit clock).2 = .ok stats
      ∧ stats.recentEvents = events := by
  unfold EventsView.freshTail at hfresh
  unfold EventsView.scanEventsStats
  cases hfile : v.files path with
  | none =>
    rw [hfile] at hfresh
    cases hfresh
    exact ⟨_, rfl, rfl⟩
  | some file =>
    rw [hfile] at hfresh
    simp only at hfresh ⊢
    obtain ⟨stats, hscan, rfl⟩ := map_eq_ok.mp hfresh
    rw [hscan]
    cases hcached : v.cached file clock with
    | none => exact ⟨stats, rfl, rfl⟩
    | some entry =>
      refine ⟨entry.stats, rfl, ?_⟩
      have hfilled := hown file hfile (by rw [hcached]; nofun)
      obtain ⟨hentry, hvalid⟩ := Option.filter_eq_some_iff.mp hcached
      obtain ⟨path', limit', before, file', hfilled', hfile', hpre, hsize, hrecent⟩ := h entry hentry
      cases hfilled.symm.trans hfilled'
      cases hfile.symm.trans hfile'
      -- the file has the size it had: it is as it was
      have hkey : entry.key = file.key := (of_decide_eq_true hvalid).2
      have hsame : before = file.data := hpre.eq_of_length (by rw [← hsize, hkey]; rfl)
      rw [hsame, scanEvents_recent hscan] at hrecent
      exact (Except.ok.inj hrecent).symm

/-- And so for one file after the other. -/
theorem Filled.collect (h : Filled text v) (paths : List π) (limit : Int) (clock : ScanClock) :
    Filled text (v.collect text limit clock paths).1
      ∧ (v.collect text limit clock paths).1.files = v.files
      ∧ ∀ tails, OwnHits text limit clock v paths →
        paths.mapM (v.freshTail text · limit clock) = .ok tails →
        (v.collect text limit clock paths).2 = .ok tails.flatten := by
  induction paths generalizing v with
  | nil =>
    refine ⟨h, rfl, fun tails _ htails => ?_⟩
    cases htails
    rfl
  | cons path paths ih =>
    obtain ⟨hkept, hfiles⟩ := h.scan path limit clock
    -- what a fresh scan returns of the first file, the scan returns
    have hfirst (tails) (hown : OwnHits text limit clock v (path :: paths))
        (htails : (path :: paths).mapM (v.freshTail text · limit clock) = .ok tails) :
        ∃ stats rest, (v.scanEventsStats text path limit clock).2 = .ok stats
          ∧ paths.mapM (v.freshTail text · limit clock) = .ok rest
          ∧ tails = stats.recentEvents :: rest := by
      rw [List.mapM_cons] at htails
      obtain ⟨events, hevents, htails⟩ := bind_eq_ok.mp htails
      obtain ⟨rest, hrest, htails⟩ := bind_eq_ok.mp htails
      cases htails
      obtain ⟨stats, hscan, hrecent⟩ := h.scan_transparent hown.1 hevents
      exact ⟨stats, rest, hscan, hrest, by rw [hrecent]⟩
    rw [EventsView.collect]
    cases hscan : v.scanEventsStats text path limit clock with
    | mk v' result =>
      rw [hscan] at hkept hfiles
      obtain ⟨hrest, hfiles', htails'⟩ := ih hkept
      have hfresh : v'.freshTail text = v.freshTail text := by
        unfold EventsView.freshTail
        rw [hfiles]
      rw [hfresh] at htails'
      cases result with
      | error e =>
        refine ⟨hkept, hfiles, fun tails hown htails => ?_⟩
        obtain ⟨stats, -, hok, -⟩ := hfirst tails hown htails
        rw [hscan] at hok
        cases hok
      | ok stats =>
        refine ⟨hrest, hfiles'.trans hfiles, fun tails hown htails => ?_⟩
        obtain ⟨stats', rest, hok, hmap, rfl⟩ := hfirst tails hown htails
        rw [hscan] at hok
        cases hok
        have hown' := hown.2
        rw [hscan] at hown'
        simp only [htails' rest hown' hmap, List.flatten_cons]
        rfl

/-! ## The newest of the events -/

theorem distinctLoop_spec {limit : Nat} {seen : List PyStr} {out evs : List Value}
    (hsorted : evs.Pairwise fun a b => tsOrZero text b ≤ tsOrZero text a)
    (hroom : out.length < limit) :
    ∃ new rest, distinctLoop text limit seen out evs = out ++ new ∧ (new ++ rest).Perm evs
      ∧ new.Pairwise (fun a b => tsOrZero text b ≤ tsOrZero text a)
      ∧ new.Pairwise (fun a b => ¬ SameId text a b)
      ∧ (∀ ev ∈ new, eventIdOf text ev ≠ [] → eventIdOf text ev ∉ seen)
      ∧ (out ++ new).length ≤ limit
      ∧ ∀ ev ∈ rest, (eventIdOf text ev ≠ [] ∧ eventIdOf text ev ∈ seen)
        ∨ (∃ o ∈ new, SameId text o ev ∧ tsOrZero text ev ≤ tsOrZero text o)
        ∨ (out ++ new).length = limit ∧ ∀ o ∈ new, tsOrZero text ev ≤ tsOrZero text o := by
  induction evs generalizing seen out with
  | nil =>
    refine ⟨[], [], (List.append_nil out).symm, .refl _, .nil, .nil, ?_, ?_, ?_⟩
    · exact fun ev hmem => absurd hmem List.not_mem_nil
    · rw [List.append_nil]
      exact hroom.le
    · exact fun ev hmem => absurd hmem List.not_mem_nil
  | cons ev evs ih =>
    obtain ⟨hfirst, hsorted⟩ := List.pairwise_cons.mp hsorted
    rw [distinctLoop]
    simp only
    by_cases hseen : eventIdOf text ev ≠ [] ∧ eventIdOf text ev ∈ seen
    · -- its id was there before
      obtain ⟨new, rest, hloop, hperm, hnew, hdistinct, hunseen, hbound, hrest⟩ := ih hsorted hroom
      rw [if_pos hseen]
      refine ⟨new, ev :: rest, hloop, List.perm_middle.trans (hperm.cons ev), hnew, hdistinct,
        hunseen, hbound, fun e hmem => ?_⟩
      rcases List.mem_cons.mp hmem with rfl | hmem
      · exact .inl hseen
      · exact hrest e hmem
    · rw [if_neg hseen]
      have hunseen : eventIdOf text ev ≠ [] → eventIdOf text ev ∉ seen :=
        fun hid hmem => hseen ⟨hid, hmem⟩
      have hlength : (out ++ [ev]).length = out.length + 1 := List.length_append
      by_cases hfull : (limit : Int) ≤ (out ++ [ev]).length
      · -- the last one there is room for
        rw [if_pos hfull]
        refine ⟨[ev], evs, rfl, .refl _, List.pairwise_singleton _ _, List.pairwise_singleton _ _,
          ?_, by omega, fun e hmem => .inr (.inr ⟨by omega, ?_⟩)⟩
        · intro e hmem
          rw [List.mem_singleton.mp hmem]
          exact hunseen
        · intro o ho
          rw [List.mem_singleton.mp ho]
          exact hfirst e hmem
      · rw [if_neg hfull]
        generalize hseen' : (if eventIdOf text ev ≠ [] then eventIdOf text ev :: seen else seen)
          = seen'
        obtain ⟨new, rest, hloop, hperm, hnew, hdistinct, hnotin, hbound, hrest⟩ :=
          @ih seen' (out ++ [ev]) hsorted (by omega)
        have hmono {id : PyStr} (hid : id ≠ []) :
            id ∈ seen' ↔ (eventIdOf text ev ≠ [] ∧ id = eventIdOf text ev) ∨ id ∈ seen := by
          rw [← hseen']
          by_cases hev : eventIdOf text ev = []
          · simp [hev]
          · simp [hev]
        have hmem (e) (he : e ∈ new ++ rest) : tsOrZero text e ≤ tsOrZero text ev :=
          hfirst e (hperm.subset he)
        refine ⟨ev :: new, rest, by rw [hloop, List.append_assoc]; rfl, hperm.cons ev,
          List.pairwise_cons.mpr ⟨fun e he => hmem e (List.mem_append_left _ he), hnew⟩,
          List.pairwise_cons.mpr ⟨?_, hdistinct⟩, ?_, ?_, ?_⟩
        · rintro e he ⟨hid, hsame⟩
          have hid' : eventIdOf text e ≠ [] := hsame ▸ hid
          exact hnotin e he hid' ((hmono hid').mpr (.inl ⟨hid, hsame.symm⟩))
        · intro e he hid
          rcases List.mem_cons.mp he with rfl | he
          · exact hunseen hid
          · exact fun hmem => hnotin e he hid ((hmono hid).mpr (.inr hmem))
        · rw [List.append_assoc] at hbound
          exact hbound
        · intro e he
          have hle := hmem e (List.mem_append_right _ he)
          rcases hrest e he with ⟨hid, hin⟩ | ⟨o, ho, hsame⟩ | ⟨hlen, hall⟩
          · rcases (hmono hid).mp hin with ⟨hid', hsame⟩ | hin
            · exact .inr (.inl ⟨ev, List.mem_cons_self, ⟨hid', hsame.symm⟩, hle⟩)
            · exact .inl ⟨hid, hin⟩
          · exact .inr (.inl ⟨o, List.mem_cons_of_mem _ ho, hsame⟩)
          · rw [List.append_assoc] at hlen
            refine .inr (.inr ⟨hlen, fun o ho => ?_⟩)
            rcases List.mem_cons.mp ho with rfl | ho
            · exact hle
            · exact hall o ho

/-- **What the merged view shows** of the events it has gathered. -/
theorem newestOf_spec {limit : Int} (hlimit : 0 < limit) (combined : List Value) :
    NewestDistinct text limit.toNat combined (newestOf text limit combined) := by
  let newer : Value → Value → Bool := fun a b => tsOrZero text b ≤ tsOrZero text a
  have htrans (a b c : Value) (hab : newer a b = true) (hbc : newer b c = true) :
      newer a c = true :=
    decide_eq_true (le_trans (of_decide_eq_true hbc) (of_decide_eq_true hab))
  have htotal (a b : Value) : (newer a b || newer b a) = true := by
    rw [Bool.or_eq_true, decide_eq_true_iff, decide_eq_true_iff]
    exact le_total _ _
  have hsorted : (combined.mergeSort newer).Pairwise
      fun a b => tsOrZero text b ≤ tsOrZero text a :=
    (List.pairwise_mergeSort htrans htotal combined).imp of_decide_eq_true
  obtain ⟨new, rest, hloop, hperm, hnew, hdistinct, -, hbound, hrest⟩ :=
    @distinctLoop_spec text limit.toNat [] [] _ hsorted (by simp; omega)
  have hout : newestOf text limit combined = new := by
    unfold newestOf
    rw [show limit = (limit.toNat : Int) by omega]
    exact hloop
  rw [hout]
  refine ⟨hnew, hdistinct, hbound, rest, hperm.trans (List.mergeSort_perm _ _), fun ev hmem => ?_⟩
  rcases hrest ev hmem with ⟨-, hseen⟩ | hsame | hfull
  · exact absurd hseen List.not_mem_nil
  · exact .inl hsame
  · exact .inr hfull

/-! ## Runs -/

theorem Filled.transparent (h : Filled text v) (step : ViewStep π) (hown : HitsOwn text v step) :
    Transparent text v step := by
  cases step with
  | scan path limit clock =>
    intro events hfresh
    obtain ⟨stats, hscan, hrecent⟩ := h.scan_transparent hown hfresh
    rw [hscan, ← hrecent]
    rfl
  | merged paths limit clock =>
    intro tails htails
    unfold EventsView.readMergedJsonlTail
    by_cases hlimit : limit ≤ 0
    · rw [if_pos hlimit, Int.toNat_of_nonpos hlimit]
      refine ⟨[], rfl, .nil, .nil, Nat.le_refl 0, tails.flatten, .refl _, ?_⟩
      exact fun ev _ => .inr ⟨rfl, fun o ho => absurd ho List.not_mem_nil⟩
    · have hlimit := not_le.mp hlimit
      have hcollect := (h.collect paths (perFileLimit limit) clock).2.2 tails (hown hlimit) htails
      rw [if_neg (not_le.mpr hlimit)]
      exact ⟨_, congrArg (Except.map (newestOf text limit)) hcollect, newestOf_spec hlimit _⟩
  | append path data mtimeNs => trivial

variable [DecidableEq π]

theorem Filled.next (h : Filled text v) (step : ViewStep π) : Filled text (step.next text v) := by
  cases step with
  | scan path limit clock => exact (h.scan path limit clock).1
  | merged paths limit clock =>
    unfold ViewStep.next EventsView.readMergedJsonlTail
    simp only
    split
    next => exact h
    next => exact (h.collect paths _ clock).1
  | append path data mtimeNs =>
    intro entry hentry
    obtain ⟨path', limit, before, file, hfilled, hfile, hpre, hsize, hrecent⟩ := h entry hentry
    by_cases hsame : path' = path
    · subst hsame
      refine ⟨path', limit, before, _, hfilled, Function.update_self .., ?_, hsize, hrecent⟩
      rw [hfile]
      exact hpre.trans (List.prefix_append _ _)
    · refine ⟨path', limit, before, file, hfilled, ?_, hpre, hsize, hrecent⟩
      exact (Function.update_of_ne hsame ..).trans hfile

/-- **The cache is transparent** in a run in which each hit is of an entry that was filled for the
same path and the same limit: each request returns what it would without the cache, and a merged
one the newest of what the files' own tails hold. -/
theorem cache_transparent (text : EventsText) (files : π → Option EventsFile)
    (steps : List (ViewStep π))
    (hown : Along (ViewStep.next text) (HitsOwn text) ⟨files, none, none⟩ steps) :
    Along (ViewStep.next text) (Transparent text) ⟨files, none, none⟩ steps :=
  hown.imp (q := Filled text) (fun _ hentry => nomatch hentry) (fun _ step h _ => h.next step)
    fun _ step h hstep => h.transparent step hstep

end Cache

/-- A file of two events, asked for one of them and then for eight. -/
def sampleView : EventsView Unit where
  files := fun _ => some ⟨fileOf [recentLine, recentLine], 1⟩

theorem cache_transparent_sample :
    Along (ViewStep.next sampleEventsText) (Transparent sampleEventsText) sampleView
      [.scan () 8 ⟨0, sampleNow⟩, .scan () 8 ⟨1, sampleNow⟩,
        .append () (fileOf [recentLine]) 2] := by
  have hfilled : (ViewStep.next sampleEventsText sampleView (.scan () 8 ⟨0, sampleNow⟩)).filledFor
      = some ((), 8) := by decide +kernel
  exact cache_transparent sampleEventsText sampleView.files _
    ⟨fun _ _ hhit => absurd rfl hhit, fun _ _ _ => hfilled, trivial, trivial⟩

/-- Of the two events the second request is shown one. -/
theorem cached_for_one :
    ¬ Along (ViewStep.next sampleEventsText) (Transparent sampleEventsText) sampleView
      [.scan () 1 ⟨0, sampleNow⟩, .scan () 8 ⟨1, sampleNow⟩] := by
  intro h
  let v := ViewStep.next sampleEventsText sampleView (.scan () 1 ⟨0, sampleNow⟩)
  have hfresh : (v.freshTail sampleEventsText () 8 ⟨1, sampleNow⟩).toOption.map List.length
      = some 2 := by decide +kernel
  have hcached : (v.scanEventsStats sampleEventsText () 8 ⟨1, sampleNow⟩).2.toOption.map
      (·.recentEvents.length) = some 1 := by decide +kernel
  cases hevents : v.freshTail sampleEventsText () 8 ⟨1, sampleNow⟩ with
  | error e =>
    rw [hevents] at hfresh
    cases hfresh
  | ok events =>
    have hsame : (v.scanEventsStats sampleEventsText () 8 ⟨1, sampleNow⟩).2.map (·.recentEvents)
        = .ok events := h.2.1 events hevents
    have hlengths := congrArg (fun r => r.toOption.map List.length) (hsame.trans hevents.symm)
    rw [hfresh] at hlengths
    cases hscan : (v.scanEventsStats sampleEventsText () 8 ⟨1, sampleNow⟩).2 with
    | error e =>
      rw [hscan] at hcached
      cases hcached
    | ok stats =>
      rw [hscan] at hcached hlengths
      cases hcached.symm.trans hlengths

end EdgeSensor.Console
