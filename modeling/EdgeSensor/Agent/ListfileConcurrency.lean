import EdgeSensor.Agent.ListfileSync
import EdgeSensor.Lib.SharedTemp

/-!
# Two pulls of the managed lists at once

The MQTT subscriber's thread and the main loop can both be in `apply_artifact`, on the same
cache and the same `.tmp`. Nothing keeps them apart, and `listfile_calls_race` is what may
come of it: the second `replace` finds no `.tmp` any more and raises, after the first has put
the other one's lists in place.

`listfile_calls_iff` says when it goes well: when each call that has to write can write, and
does so only while the other is not between its own write and its rename (`Safe`).

Mirroring notes:
- A step is one of those of the code: load the cache, write the `.tmp`, `chmod`, `replace`,
  write the stamp. A text that cannot be encoded leaves the `.tmp` cut off.
- The disk does what it is told. An exception of `chmod` is caught, and that of the ACK
  callback too; neither changes a file.
- A `.tmp` may be left from before.
-/

namespace EdgeSensor.Agent

open EdgeSensor.Lib EdgeSensor.Py

/-- The arguments of a call, the hash of the artifact's text, and the clock. -/
structure ListfileCall where
  artifact : Value
  tenantId : PyStr := []
  etag : PyStr := []
  digest : Except PyErr PyStr := .ok []
  now : PyStr := []
  statusCode : Nat := 200

/-- Where a call is. -/
inductive ListfilePhase where
  | load
  | write (cache : ManagedCache)
  | chmod (cache : ManagedCache)
  | replace (cache : ManagedCache)
  | stamp (cache : ManagedCache)
  | ended (result : Except PyErr ListfileSyncResult)

/-- Two calls, `true` and `false`, and the files they share. -/
structure ListfileShared where
  phase : Bool → ListfilePhase := fun _ => .load
  cacheFile : Option ManagedCache
  /-- The `.tmp`, and the cache it holds if it is not cut off. -/
  tempFile : Option (Option ManagedCache)
  stampFile : Option PyStr

/-- The two calls, on one `ListfileSync`. -/
structure ListfileCalls where
  enabled : Bool := true
  call : Bool → ListfileCall

/-- The call of `b` goes on to `phase`. -/
def ListfileShared.goto (s : ListfileShared) (b : Bool) (phase : ListfilePhase) : ListfileShared :=
  { s with phase := Function.update s.phase b phase }

namespace ListfileCall

variable (text : Value.Text) (call : ListfileCall)

/-- `resolved_etag`. -/
def resolved : Except PyErr PyStr := if call.etag = [] then call.digest else .ok call.etag

/-- `str(artifact.get("version") or "")`. -/
def version : PyStr := strOrEmpty text (call.artifact.get "version")

/-- The existing cache has the ETag and the version already. -/
def inPlace (resolved : PyStr) (existing : ManagedCache) : Bool :=
  existing.etag = resolved ∧ existing.artifactVersion = call.version text

/-- From the first line of `apply_artifact` to the write. -/
def afterLoad (enabled : Bool) (cacheFile : Option ManagedCache) : ListfilePhase :=
  if enabled then
    match call.resolved with
    | .error e => .ended (.error e)
    | .ok resolved =>
      match cacheFile.filter (call.inPlace text resolved) with
      | some existing =>
        .ended (.ok { ok := true, changed := false, statusCode := call.statusCode,
                      tenantId := call.tenantId, artifactVersion := existing.artifactVersion,
                      itemCount := existing.itemCount })
      | none =>
        match buildCacheFromArtifact text call.artifact call.tenantId resolved call.now with
        | .error e => .ended (.error e)
        | .ok cache => .write cache
  else
    .ended (.ok { ok := true, changed := false, statusCode := call.statusCode,
                  error := some "listfile_disabled" })

/-- What is returned for a cache that was written. -/
def changed (cache : ManagedCache) : ListfileSyncResult :=
  { ok := true, changed := true, statusCode := call.statusCode, itemCount := cache.itemCount,
    artifactVersion := cache.artifactVersion, tenantId := call.tenantId }

end ListfileCall

namespace ListfileCalls

variable (text : Value.Text) (calls : ListfileCalls)

/-- The next step of `b`; a call that is over makes none. -/
def step (s : ListfileShared) (b : Bool) : ListfileShared :=
  match s.phase b with
  | .load => s.goto b ((calls.call b).afterLoad text calls.enabled s.cacheFile)
  | .write cache =>
    if cache.toValue.encodable then { s.goto b (.chmod cache) with tempFile := some (some cache) }
    else
      { s.goto b (.ended (.error (.unicodeEncodeError "surrogates not allowed"))) with
        tempFile := some none }
  | .chmod cache => s.goto b (.replace cache)
  | .replace cache =>
    match s.tempFile with
    | none => s.goto b (.ended (.error (.fileNotFoundError "managed-listfiles.json.tmp")))
    | some content => { s.goto b (.stamp cache) with cacheFile := content, tempFile := none }
  | .stamp cache =>
    { s.goto b (.ended (.ok ((calls.call b).changed cache))) with stampFile := some cache.updatedAt }
  | .ended _ => s

/-- The cache is one of this call's artifact. -/
def BuiltFrom (b : Bool) (cache : ManagedCache) : Prop :=
  ∃ resolved now, (calls.call b).resolved = .ok resolved
    ∧ buildCacheFromArtifact text (calls.call b).artifact (calls.call b).tenantId resolved now
      = .ok cache

/-- What is claimed of two calls that are over. -/
structure Agreed (s : ListfileShared) : Prop where
  noRaise : ∀ b e, s.phase b ≠ .ended (.error e)
  file : ∃ b cache, s.cacheFile = some cache ∧ calls.BuiltFrom text b cache
    ∧ (calls.call b).resolved = .ok cache.etag ∧ cache.artifactVersion = (calls.call b).version text

/-! ## When it goes well -/

/-- The call has nothing to write. -/
def Stays (b : Bool) (cacheFile : Option ManagedCache) : Prop :=
  calls.enabled = false ∨ ∃ resolved existing, (calls.call b).resolved = .ok resolved
    ∧ cacheFile = some existing ∧ (calls.call b).inPlace text resolved existing

/-- The artifact makes a cache that can be written. -/
def Writable (b : Bool) : Prop :=
  ∃ resolved cache, (calls.call b).resolved = .ok resolved
    ∧ buildCacheFromArtifact text (calls.call b).artifact (calls.call b).tenantId resolved
      (calls.call b).now = .ok cache
    ∧ cache.toValue.encodable = true

/-- If neither call has anything to write, the cache in place is of one of their artifacts. -/
def Known (cacheFile : Option ManagedCache) : Prop :=
  (∀ b, calls.Stays text b cacheFile) →
    ∃ b cache, cacheFile = some cache ∧ calls.BuiltFrom text b cache

end ListfileCalls

/-- What a call has written and not yet renamed. -/
def ListfilePhase.pending : ListfilePhase → Option (Option ManagedCache)
  | .load => none
  | .write _ => none
  | .chmod cache => some (some cache)
  | .replace cache => some (some cache)
  | .stamp _ => none
  | .ended _ => none

/-- The `.tmp`, and who is to rename it. -/
def ListfileShared.shared (s : ListfileShared) : SharedTemp Bool (Option ManagedCache) :=
  { pending := ListfilePhase.pending ∘ s.phase, temp := s.tempFile }

/-- A step that does no harm: a call that finds that it has to write, can; and it writes the
`.tmp` only while nobody is to rename it. -/
structure ListfileCalls.Safe (text : Value.Text) (calls : ListfileCalls) (s : ListfileShared)
    (b : Bool) : Prop where
  load : s.phase b = .load → calls.Stays text b s.cacheFile ∨ calls.Writable text b
  write : ∀ cache, s.phase b = .write cache → s.shared.Free

section Steps

variable {text : Value.Text} {calls : ListfileCalls} {s : ListfileShared} {b : Bool}

theorem goto_phase_self {phase : ListfilePhase} : (s.goto b phase).phase b = phase :=
  Function.update_self ..

theorem goto_phase_other {phase : ListfilePhase} {b' : Bool} (h : b' ≠ b) :
    (s.goto b phase).phase b' = s.phase b' :=
  Function.update_of_ne h _ _

/-- Who goes on to a phase with nothing to rename, and had nothing to rename, changes nothing
for the `.tmp`. -/
theorem shared_goto {phase : ListfilePhase} (h : phase.pending = (s.phase b).pending) :
    (s.goto b phase).shared = s.shared := by
  unfold ListfileShared.shared ListfileShared.goto
  rw [Function.comp_update, h]
  exact congrArg (SharedTemp.mk · s.tempFile) (Function.update_eq_self b _)

theorem shared_write {cache : ManagedCache} :
    ({ s.goto b (.chmod cache) with tempFile := some (some cache) } : ListfileShared).shared
      = s.shared.write b (some cache) := by
  unfold ListfileShared.shared SharedTemp.write ListfileShared.goto
  rw [Function.comp_update]
  rfl

theorem shared_rename {cache : ManagedCache} {content : Option ManagedCache} :
    ({ s.goto b (.stamp cache) with cacheFile := content, tempFile := none } : ListfileShared).shared
      = s.shared.rename b := by
  unfold ListfileShared.shared SharedTemp.rename ListfileShared.goto
  rw [Function.comp_update]
  rfl

/-- What loading comes to: nothing to do, an exception, or a cache to write. -/
theorem afterLoad_cases (s : ListfileShared) (b : Bool) :
    (∃ r, (calls.call b).afterLoad text calls.enabled s.cacheFile = .ended (.ok r)
        ∧ calls.Stays text b s.cacheFile)
      ∨ (∃ e, (calls.call b).afterLoad text calls.enabled s.cacheFile = .ended (.error e)
        ∧ ¬ calls.Stays text b s.cacheFile ∧ ¬ calls.Writable text b)
      ∨ ∃ cache, (calls.call b).afterLoad text calls.enabled s.cacheFile = .write cache
        ∧ ¬ calls.Stays text b s.cacheFile ∧ calls.BuiltFrom text b cache
        ∧ (calls.Writable text b ↔ cache.toValue.encodable = true) := by
  unfold ListfileCall.afterLoad ListfileCalls.Stays ListfileCalls.Writable ListfileCalls.BuiltFrom
  cases henabled : calls.enabled with
  | false => exact .inl ⟨_, rfl, .inl rfl⟩
  | true =>
    rw [if_pos rfl]
    cases hresolved : (calls.call b).resolved with
    | error e =>
      refine .inr (.inl ⟨e, rfl, ?_, ?_⟩)
      · rintro (hoff | ⟨_, _, hok, -⟩)
        · cases hoff
        · cases hok
      · rintro ⟨_, _, hok, -⟩
        cases hok
    | ok resolved =>
      simp only
      cases hfound : s.cacheFile.filter ((calls.call b).inPlace text resolved) with
      | some existing =>
        obtain ⟨hfile, hplace⟩ := Option.filter_eq_some_iff.mp hfound
        exact .inl ⟨_, rfl, .inr ⟨resolved, existing, rfl, hfile, hplace⟩⟩
      | none =>
        have hstays : ¬ (true = false ∨ ∃ resolved' existing, Except.ok (ε := PyErr) resolved = .ok resolved'
            ∧ s.cacheFile = some existing
            ∧ (calls.call b).inPlace text resolved' existing = true) := by
          rintro (hoff | ⟨_, existing, hok, hfile, hplace⟩)
          · cases hoff
          · cases hok
            exact Option.filter_eq_none_iff.mp hfound existing hfile hplace
        cases hbuild : buildCacheFromArtifact text (calls.call b).artifact (calls.call b).tenantId
            resolved (calls.call b).now with
        | error e =>
          refine .inr (.inl ⟨e, rfl, hstays, ?_⟩)
          rintro ⟨_, _, hok, hbuilt, -⟩
          cases hok
          rw [hbuild] at hbuilt
          cases hbuilt
        | ok cache =>
          refine .inr (.inr ⟨cache, rfl, hstays, ⟨resolved, _, rfl, hbuild⟩, ?_, ?_⟩)
          · rintro ⟨_, _, hok, hbuilt, henc⟩
            cases hok
            rw [hbuild] at hbuilt
            cases hbuilt
            exact henc
          · exact fun henc => ⟨resolved, cache, rfl, hbuild, henc⟩

/-- A step of one call leaves the other where it is. -/
theorem step_phase_other {b' : Bool} (h : b' ≠ b) :
    (calls.step text s b).phase b' = s.phase b' := by
  unfold ListfileCalls.step
  cases s.phase b with
  | load => exact goto_phase_other h
  | write cache =>
    simp only
    split
    next => exact goto_phase_other h
    next => exact goto_phase_other h
  | chmod cache => exact goto_phase_other h
  | replace cache =>
    simp only
    split
    next => exact goto_phase_other h
    next => exact goto_phase_other h
  | stamp cache => exact goto_phase_other h
  | ended result => rfl

/-! ### What goes wrong stays wrong -/

/-- The call has raised, or will when it writes. -/
def ListfilePhase.Doomed : ListfilePhase → Prop
  | .write cache => cache.toValue.encodable = false
  | .ended (.error _) => True
  | _ => False

/-- A call raises, or there are more calls to rename than files. -/
def ListfileShared.Bad (s : ListfileShared) : Prop := (∃ b, (s.phase b).Doomed) ∨ s.shared.Short

theorem pending_of_phase {phase : ListfilePhase} (hphase : s.phase b = phase) :
    s.shared.pending b = phase.pending :=
  congrArg ListfilePhase.pending hphase

theorem afterLoad_pending (call : ListfileCall) (enabled : Bool) (cacheFile : Option ManagedCache) :
    (call.afterLoad text enabled cacheFile).pending = none := by
  unfold ListfileCall.afterLoad
  repeat' split
  all_goals rfl

/-- What a step is to the `.tmp`: nothing, a write, or a rename that finds it; or the call raises. -/
theorem step_shared (text : Value.Text) (calls : ListfileCalls) (s : ListfileShared) (b : Bool) :
    ((calls.step text s b).phase b).Doomed
      ∨ ((calls.step text s b).shared = s.shared ∧ ∀ cache, s.phase b ≠ .write cache)
      ∨ (∃ cache, s.phase b = .write cache
        ∧ (calls.step text s b).shared = s.shared.write b (some cache))
      ∨ (∃ cache, s.phase b = .replace cache ∧ s.shared.temp ≠ none
        ∧ (calls.step text s b).shared = s.shared.rename b) := by
  unfold ListfileCalls.step
  cases hphase : s.phase b with
  | load =>
    refine .inr (.inl ⟨shared_goto ?_, fun _ hwrite => by cases hwrite⟩)
    rw [hphase, afterLoad_pending]
    rfl
  | write cache =>
    simp only
    split
    next => exact .inr (.inr (.inl ⟨cache, rfl, shared_write⟩))
    next =>
      refine .inl ?_
      show ListfilePhase.Doomed ((s.goto b _).phase b)
      rw [goto_phase_self]
      trivial
  | chmod cache =>
    exact .inr (.inl ⟨shared_goto (by rw [hphase]; rfl), fun _ hwrite => by cases hwrite⟩)
  | replace cache =>
    simp only
    split
    next =>
      refine .inl ?_
      rw [goto_phase_self]
      trivial
    next content htemp =>
      refine .inr (.inr (.inr ⟨cache, rfl, ?_, shared_rename⟩))
      rw [show s.shared.temp = some content from htemp]
      exact Option.some_ne_none content
  | stamp cache =>
    refine .inr (.inl ⟨?_, fun _ hwrite => by cases hwrite⟩)
    show (s.goto b _).shared = s.shared
    exact shared_goto (by rw [hphase]; rfl)
  | ended result => exact .inr (.inl ⟨rfl, fun _ hwrite => by cases hwrite⟩)

/-- A call that is doomed stays so. -/
theorem doomed_step (h : (s.phase b).Doomed) : ((calls.step text s b).phase b).Doomed := by
  unfold ListfileCalls.step
  cases hphase : s.phase b with
  | write cache =>
    rw [hphase] at h
    simp only [show cache.toValue.encodable = false from h, Bool.false_eq_true, if_false]
    show ListfilePhase.Doomed ((s.goto b _).phase b)
    rw [goto_phase_self]
    trivial
  | ended result =>
    simp only
    exact h
  | load => exact absurd h (by rw [hphase]; exact id)
  | chmod cache => exact absurd h (by rw [hphase]; exact id)
  | replace cache => exact absurd h (by rw [hphase]; exact id)
  | stamp cache => exact absurd h (by rw [hphase]; exact id)

theorem ListfileShared.Bad.step (h : s.Bad) (b : Bool) : (calls.step text s b).Bad := by
  rcases h with ⟨b', hdoomed⟩ | hshort
  · refine .inl ⟨b', ?_⟩
    by_cases hb : b' = b
    · subst hb
      exact doomed_step hdoomed
    · rw [step_phase_other hb]
      exact hdoomed
  · rcases step_shared text calls s b with
      hdoomed | ⟨hsame, -⟩ | ⟨cache, hphase, hwrite⟩ | ⟨cache, -, htemp, hrename⟩
    · exact .inl ⟨b, hdoomed⟩
    · exact .inr (hsame ▸ hshort)
    · exact .inr (hwrite ▸ hshort.write (pending_of_phase hphase))
    · exact .inr (hrename ▸ hshort.rename htemp)

/-- A step that does harm. -/
theorem bad_of_not_safe (h : ¬ calls.Safe text s b) : (calls.step text s b).Bad := by
  by_cases hload : s.phase b = .load → calls.Stays text b s.cacheFile ∨ calls.Writable text b
  · -- it writes while somebody is to rename
    obtain ⟨cache, hphase, hbusy⟩ : ∃ cache, s.phase b = .write cache ∧ ¬ s.shared.Free := by
      by_contra hnone
      exact h ⟨hload, fun cache hphase => not_not.mp fun hbusy => hnone ⟨cache, hphase, hbusy⟩⟩
    rcases step_shared text calls s b with
      hdoomed | ⟨-, hno⟩ | ⟨cache', -, hwrite⟩ | ⟨cache', hreplace, -⟩
    · exact .inl ⟨b, hdoomed⟩
    · exact absurd hphase (hno cache)
    · exact .inr (hwrite ▸ SharedTemp.short_write (pending_of_phase hphase) hbusy)
    · rw [hphase] at hreplace
      cases hreplace
  · obtain ⟨hphase, hcannot⟩ := Classical.not_imp.mp hload
    refine .inl ⟨b, ?_⟩
    unfold ListfileCalls.step
    rw [hphase]
    simp only
    rw [goto_phase_self]
    rcases @afterLoad_cases text calls s b with
      ⟨r, -, hstays⟩ | ⟨e, hafter, -⟩ | ⟨cache, hafter, -, -, hwritable⟩
    · exact absurd (.inl hstays) hcannot
    · rw [hafter]
      trivial
    · rw [hafter]
      exact Bool.eq_false_iff.mpr fun henc => hcannot (.inr (hwritable.mpr henc))

/-! ### What goes well -/

/-- The call has got this far with a cache of its artifact, and has not raised. -/
def ListfileCalls.Fits (text : Value.Text) (calls : ListfileCalls) (b : Bool) : ListfilePhase → Prop
  | .load => True
  | .write cache => calls.BuiltFrom text b cache ∧ cache.toValue.encodable = true
  | .chmod cache => calls.BuiltFrom text b cache
  | .replace cache => calls.BuiltFrom text b cache
  | .stamp _ => True
  | .ended result => ∃ r, result = .ok r

/-- The call is past its rename, or never gets there. -/
def ListfilePhase.Past : ListfilePhase → Prop
  | .stamp _ => True
  | .ended _ => True
  | _ => False

/-- A call that fits is at no exception, and the cache file is as it was, and then who is past
the rename had nothing to write, or it is of one of the artifacts. -/
structure ListfileCalls.Sound (text : Value.Text) (calls : ListfileCalls)
    (first : Option ManagedCache) (s : ListfileShared) : Prop where
  fits : ∀ b, calls.Fits text b (s.phase b)
  owned : s.shared.Owned
  file : (s.cacheFile = first ∧ ∀ b, (s.phase b).Past → calls.Stays text b first)
    ∨ ∃ b cache, s.cacheFile = some cache ∧ calls.BuiltFrom text b cache

variable {first : Option ManagedCache}

/-- A step: where the call gets, and the file. -/
theorem ListfileCalls.Sound.next (h : calls.Sound text first s)
    (hfits : calls.Fits text b ((calls.step text s b).phase b))
    (howned : (calls.step text s b).shared.Owned)
    (hfile : ((calls.step text s b).cacheFile = s.cacheFile
        ∧ (((calls.step text s b).phase b).Past → (s.phase b).Past ∨ calls.Stays text b s.cacheFile))
      ∨ ∃ b' cache, (calls.step text s b).cacheFile = some cache ∧ calls.BuiltFrom text b' cache) :
    calls.Sound text first (calls.step text s b) := by
  refine ⟨fun b' => ?_, howned, ?_⟩
  · by_cases hb : b' = b
    · rw [hb]
      exact hfits
    · rw [step_phase_other hb]
      exact h.fits b'
  · rcases hfile with ⟨hsame, hpast⟩ | hbuilt
    · rcases h.file with ⟨hfirst, hstays⟩ | hbuilt
      · refine .inl ⟨hsame.trans hfirst, fun b' hb' => ?_⟩
        by_cases hb : b' = b
        · subst hb
          exact (hpast hb').elim (hstays b') fun hstay => hfirst ▸ hstay
        · rw [step_phase_other hb] at hb'
          exact hstays b' hb'
      · exact .inr (hsame ▸ hbuilt)
    · exact .inr hbuilt

/-- **The step lemma.** -/
theorem ListfileCalls.Sound.step (h : calls.Sound text first s) (hsafe : calls.Safe text s b) :
    calls.Sound text first (calls.step text s b) := by
  have hfits := h.fits b
  cases hphase : s.phase b with
  | load =>
    have hstep : calls.step text s b
        = s.goto b ((calls.call b).afterLoad text calls.enabled s.cacheFile) := by
      unfold ListfileCalls.step
      rw [hphase]
    have hshared : (calls.step text s b).shared = s.shared := by
      rw [hstep]
      refine shared_goto ?_
      rw [hphase, afterLoad_pending]
      rfl
    refine h.next ?_ (hshared ▸ h.owned) (.inl ⟨by rw [hstep]; rfl, ?_⟩)
    all_goals
      rw [hstep, goto_phase_self]
      rcases @afterLoad_cases text calls s b with
        ⟨r, hafter, hstays⟩ | ⟨e, -, hnot, hcannot⟩ | ⟨cache, hafter, hnot, hbuilt, hwritable⟩
    · rw [hafter]
      exact ⟨r, rfl⟩
    · exact absurd (hsafe.load hphase) (not_or.mpr ⟨hnot, hcannot⟩)
    · rw [hafter]
      exact ⟨hbuilt, hwritable.mp ((hsafe.load hphase).resolve_left hnot)⟩
    · exact fun _ => .inr hstays
    · exact absurd (hsafe.load hphase) (not_or.mpr ⟨hnot, hcannot⟩)
    · rw [hafter]
      exact fun hpast => hpast.elim
  | write cache =>
    rw [hphase] at hfits
    have hstep : calls.step text s b
        = { s.goto b (.chmod cache) with tempFile := some (some cache) } := by
      unfold ListfileCalls.step
      rw [hphase]
      exact if_pos hfits.2
    have hself : (calls.step text s b).phase b = .chmod cache := by
      rw [hstep]
      exact goto_phase_self
    refine h.next ?_ ?_ (.inl ⟨by rw [hstep]; rfl, ?_⟩)
    · rw [hself]
      exact hfits.1
    · rw [hstep, shared_write]
      exact (hsafe.write cache hphase).owned_write
    · rw [hself]
      exact fun hpast => hpast.elim
  | chmod cache =>
    rw [hphase] at hfits
    have hstep : calls.step text s b = s.goto b (.replace cache) := by
      unfold ListfileCalls.step
      rw [hphase]
    have hself : (calls.step text s b).phase b = .replace cache := by
      rw [hstep]
      exact goto_phase_self
    refine h.next ?_ ?_ (.inl ⟨by rw [hstep]; rfl, ?_⟩)
    · rw [hself]
      exact hfits
    · rw [hstep, shared_goto (by rw [hphase]; rfl)]
      exact h.owned
    · rw [hself]
      exact fun hpast => hpast.elim
  | replace cache =>
    rw [hphase] at hfits
    -- the `.tmp` holds what this call wrote
    obtain ⟨htemp, -⟩ := h.owned b (some cache) (pending_of_phase hphase)
    have hstep : calls.step text s b
        = { s.goto b (.stamp cache) with cacheFile := some cache, tempFile := none } := by
      unfold ListfileCalls.step
      rw [hphase]
      simp only [show s.tempFile = some (some cache) from htemp]
    have hself : (calls.step text s b).phase b = .stamp cache := by
      rw [hstep]
      exact goto_phase_self
    refine h.next ?_ ?_ (.inr ⟨b, cache, by rw [hstep], hfits⟩)
    · rw [hself]
      trivial
    · rw [hstep, shared_rename]
      exact (h.owned.free_rename (pending_of_phase hphase)).owned
  | stamp cache =>
    have hstep : calls.step text s b
        = { s.goto b (.ended (.ok ((calls.call b).changed cache))) with
            stampFile := some cache.updatedAt } := by
      unfold ListfileCalls.step
      rw [hphase]
    have hself : (calls.step text s b).phase b = .ended (.ok ((calls.call b).changed cache)) := by
      rw [hstep]
      exact goto_phase_self
    refine h.next ?_ ?_ (.inl ⟨by rw [hstep]; rfl, fun _ => .inl ?_⟩)
    · rw [hself]
      exact ⟨_, rfl⟩
    · rw [hstep]
      show (s.goto b _).shared.Owned
      rw [shared_goto (by rw [hphase]; rfl)]
      exact h.owned
    · rw [hphase]
      trivial
  | ended result =>
    have hstep : calls.step text s b = s := by
      unfold ListfileCalls.step
      rw [hphase]
    rw [hstep]
    exact h

/-! ### Calls that have nothing to write -/

/-- Neither call has got anywhere but to its end, and the cache file is as it was. -/
structure ListfileShared.Still (first : Option ManagedCache) (s : ListfileShared) : Prop where
  file : s.cacheFile = first
  phases : ∀ b, s.phase b = .load ∨ ∃ r, s.phase b = .ended r

theorem ListfileShared.Still.step (hstays : ∀ b, calls.Stays text b first) (h : s.Still first)
    (b : Bool) : (calls.step text s b).Still first := by
  rcases h.phases b with hphase | ⟨r, hphase⟩
  · have hstep : calls.step text s b
        = s.goto b ((calls.call b).afterLoad text calls.enabled s.cacheFile) := by
      unfold ListfileCalls.step
      rw [hphase]
    refine ⟨by rw [hstep]; exact h.file, fun b' => ?_⟩
    by_cases hb : b' = b
    · rw [hb, hstep, goto_phase_self]
      have hnothing := hstays b
      rw [← h.file] at hnothing
      rcases @afterLoad_cases text calls s b with
        ⟨r, hafter, -⟩ | ⟨e, -, hnot, -⟩ | ⟨cache, -, hnot, -⟩
      · exact .inr ⟨_, hafter⟩
      · exact absurd hnothing hnot
      · exact absurd hnothing hnot
    · rw [step_phase_other hb]
      exact h.phases b'
  · have hstep : calls.step text s b = s := by
      unfold ListfileCalls.step
      rw [hphase]
    rw [hstep]
    exact h

/-! ### A call takes five steps at most -/

/-- How many steps a call has left, at most. -/
def ListfilePhase.left : ListfilePhase → Nat
  | .load => 5
  | .write _ => 4
  | .chmod _ => 3
  | .replace _ => 2
  | .stamp _ => 1
  | .ended _ => 0

theorem left_step : ((calls.step text s b).phase b).left ≤ (s.phase b).left - 1 := by
  unfold ListfileCalls.step
  cases hphase : s.phase b with
  | load =>
    simp only
    rw [goto_phase_self]
    unfold ListfileCall.afterLoad
    repeat' split
    all_goals simp [ListfilePhase.left]
  | write cache =>
    simp only
    split
    all_goals
      show ListfilePhase.left ((s.goto b _).phase b) ≤ _
      rw [goto_phase_self]
      simp [ListfilePhase.left]
  | chmod cache =>
    simp only
    rw [goto_phase_self]
    simp [ListfilePhase.left]
  | replace cache =>
    simp only
    split
    next =>
      rw [goto_phase_self]
      simp [ListfilePhase.left]
    next =>
      show ListfilePhase.left ((s.goto b _).phase b) ≤ _
      rw [goto_phase_self]
      simp [ListfilePhase.left]
  | stamp cache =>
    show ListfilePhase.left ((s.goto b _).phase b) ≤ _
    rw [goto_phase_self]
    simp [ListfilePhase.left]
  | ended result =>
    simp only [hphase]
    simp [ListfilePhase.left]

theorem left_run (steps : List Bool) :
    ((steps.foldl (calls.step text) s).phase b).left ≤ (s.phase b).left - steps.count b := by
  induction steps generalizing s with
  | nil => exact Nat.le_refl _
  | cons b' steps ih =>
    have hrest := ih (s := calls.step text s b')
    rw [List.foldl_cons]
    by_cases hb : b' = b
    · subst hb
      rw [List.count_cons_self]
      have hone := @left_step text calls s b'
      omega
    · rw [List.count_cons_of_ne hb]
      rw [step_phase_other fun h => hb h.symm] at hrest
      exact hrest

/-- After five turns a call is over. -/
theorem over_of_turns {steps : List Bool} (hturns : 5 ≤ steps.count b) :
    ∃ r, (steps.foldl (calls.step text) s).phase b = .ended r := by
  have hleft := @left_run text calls s b steps
  have hfive : (s.phase b).left ≤ 5 := by
    cases s.phase b <;> simp [ListfilePhase.left]
  have hnone : ((steps.foldl (calls.step text) s).phase b).left = 0 := by omega
  cases hphase : (steps.foldl (calls.step text) s).phase b with
  | ended r => exact ⟨r, rfl⟩
  | load =>
    rw [hphase] at hnone
    cases hnone
  | write cache =>
    rw [hphase] at hnone
    cases hnone
  | chmod cache =>
    rw [hphase] at hnone
    cases hnone
  | replace cache =>
    rw [hphase] at hnone
    cases hnone
  | stamp cache =>
    rw [hphase] at hnone
    cases hnone

/-! ### One call alone -/

/-- The call, in one go. -/
def ListfileCall.apply (text : Value.Text) (call : ListfileCall) (sync : ListfileSync) :
    Except PyErr (ListfileSync × ListfileSyncResult) :=
  sync.applyArtifact text call.artifact call.tenantId call.etag call.digest call.now call.statusCode

/-- `apply_artifact` up to the write is `afterLoad`. -/
theorem apply_cases (call : ListfileCall) (enabled : Bool) (cacheFile : Option ManagedCache) :
    (∃ r, call.afterLoad text enabled cacheFile = .ended (.ok r)
        ∧ call.apply text { enabled, cacheFile } = .ok ({ enabled, cacheFile }, r))
      ∨ (∃ e, call.afterLoad text enabled cacheFile = .ended (.error e)
        ∧ call.apply text { enabled, cacheFile } = .error e)
      ∨ ∃ cache, call.afterLoad text enabled cacheFile = .write cache
        ∧ call.apply text { enabled, cacheFile }
          = (({ enabled, cacheFile } : ListfileSync).writeCache cache).map fun stored =>
              (stored, call.changed cache) := by
  unfold ListfileCall.apply ListfileSync.applyArtifact ListfileCall.afterLoad
  cases enabled with
  | false => exact .inl ⟨_, rfl, rfl⟩
  | true =>
    rw [if_pos rfl, if_pos rfl]
    show _ ∨ _ ∨ _
    rw [show (if call.etag = [] then call.digest else .ok call.etag) = call.resolved from rfl]
    cases call.resolved with
    | error e => exact .inr (.inl ⟨e, rfl, rfl⟩)
    | ok resolved =>
      have hfilter : (cacheFile.filter fun existing => existing.etag = resolved
          ∧ existing.artifactVersion = strOrEmpty text (call.artifact.get "version"))
            = cacheFile.filter (call.inPlace text resolved) := rfl
      simp only [Except.bind, ListfileSync.applyResolved, hfilter]
      cases cacheFile.filter (call.inPlace text resolved) with
      | some existing => exact .inl ⟨_, rfl, rfl⟩
      | none =>
        simp only
        cases hbuild : buildCacheFromArtifact text call.artifact call.tenantId resolved call.now with
        | error e => exact .inr (.inl ⟨e, rfl, rfl⟩)
        | ok cache =>
          refine .inr (.inr ⟨cache, rfl, ?_⟩)
          simp only [bind, Except.bind]
          cases ({ enabled := true, cacheFile } : ListfileSync).writeCache cache with
          | error e => rfl
          | ok stored => rfl

theorem step_ended {r : Except PyErr ListfileSyncResult} (h : s.phase b = .ended r) :
    calls.step text s b = s := by
  unfold ListfileCalls.step
  rw [h]

/-- A call that is over makes no step any more. -/
theorem over_run {r : Except PyErr ListfileSyncResult} (h : s.phase b = .ended r) (n : Nat) :
    (List.replicate n b).foldl (calls.step text) s = s := by
  induction n with
  | zero => rfl
  | succ n ih =>
    rw [List.replicate_succ, List.foldl_cons, step_ended h]
    exact ih

/-- **Five steps of one call, and none of the other, are `apply_artifact`.** -/
theorem alone_apply (hphase : s.phase b = .load) :
    match (calls.call b).apply text { enabled := calls.enabled, cacheFile := s.cacheFile } with
    | .ok (stored, r) =>
      ((List.replicate 5 b).foldl (calls.step text) s).phase b = .ended (.ok r)
        ∧ ((List.replicate 5 b).foldl (calls.step text) s).cacheFile = stored.cacheFile
    | .error e =>
      ((List.replicate 5 b).foldl (calls.step text) s).phase b = .ended (.error e)
        ∧ ((List.replicate 5 b).foldl (calls.step text) s).cacheFile = s.cacheFile := by
  have hload : ∀ {phase}, (calls.call b).afterLoad text calls.enabled s.cacheFile = phase →
      calls.step text s b = s.goto b phase := by
    rintro _ rfl
    unfold ListfileCalls.step
    rw [hphase]
  have hend : ∀ {r}, (calls.call b).afterLoad text calls.enabled s.cacheFile = .ended r →
      (List.replicate 5 b).foldl (calls.step text) s = s.goto b (.ended r) := by
    intro r hafter
    rw [List.replicate_succ, List.foldl_cons, hload hafter]
    exact over_run goto_phase_self 4
  rcases @apply_cases text (calls.call b) calls.enabled s.cacheFile with
    ⟨r, hafter, happly⟩ | ⟨e, hafter, happly⟩ | ⟨cache, hafter, happly⟩
  · rw [happly, hend hafter]
    exact ⟨goto_phase_self, rfl⟩
  · rw [happly, hend hafter]
    exact ⟨goto_phase_self, rfl⟩
  · rw [happly, List.replicate_succ, List.foldl_cons, hload hafter]
    unfold ListfileSync.writeCache
    cases henc : cache.toValue.encodable with
    | false =>
      have hwrite : calls.step text (s.goto b (.write cache)) b
          = { (s.goto b (.write cache)).goto b
                (.ended (.error (.unicodeEncodeError "surrogates not allowed"))) with
              tempFile := some none } := by
        unfold ListfileCalls.step
        rw [goto_phase_self]
        exact if_neg (by rw [henc]; exact Bool.false_ne_true)
      rw [List.replicate_succ, List.foldl_cons, hwrite]
      simp [ListfileCalls.step, ListfileShared.goto, List.replicate_succ, Except.map]
    | true =>
      have hwrite : calls.step text (s.goto b (.write cache)) b
          = { (s.goto b (.write cache)).goto b (.chmod cache) with
              tempFile := some (some cache) } := by
        unfold ListfileCalls.step
        rw [goto_phase_self]
        exact if_pos henc
      rw [List.replicate_succ, List.foldl_cons, hwrite]
      simp [ListfileCalls.step, ListfileShared.goto, List.replicate_succ, Except.map]

/-- A cache carries the ETag and the version of what it was built from. -/
theorem ListfileCalls.BuiltFrom.ids {cache : ManagedCache} (h : calls.BuiltFrom text b cache) :
    (calls.call b).resolved = .ok cache.etag ∧ cache.artifactVersion = (calls.call b).version text := by
  obtain ⟨resolved, now, hresolved, hbuilt⟩ := h
  unfold buildCacheFromArtifact at hbuilt
  obtain ⟨split, -, hcache⟩ := map_eq_ok.mp hbuilt
  rw [← hcache]
  exact ⟨hresolved, rfl⟩

end Steps

/-- **When two calls agree.** For every schedule that lets both come to their end: neither
raises and the cache file is of one of the two artifacts, exactly if each call that has to write
can, and writes only while the other is not between its write and its rename (and if neither
has to write, the cache in place is of one of them). -/
theorem listfile_calls_iff (text : Value.Text) (calls : ListfileCalls) (s : ListfileShared)
    (hs : ∀ b, s.phase b = .load) (steps : List Bool) (hturns : ∀ b, 5 ≤ steps.count b) :
    calls.Agreed text (steps.foldl (calls.step text) s)
      ↔ calls.Known text s.cacheFile ∧ Along (calls.step text) (calls.Safe text) s steps := by
  have hover := fun b => @over_of_turns text calls s b steps (hturns b)
  constructor
  · intro hagreed
    refine ⟨fun hstays => ?_, along_of_not_bad (fun _ b h => h.step b) (fun _ _ => bad_of_not_safe) ?_⟩
    · have hstill : (steps.foldl (calls.step text) s).Still s.cacheFile :=
        Along.inv (p := fun _ _ => True) (along_true steps) ⟨rfl, fun b => .inl (hs b)⟩
          fun _ b h _ => h.step hstays b
      obtain ⟨b, cache, hfile, hbuilt, -⟩ := hagreed.file
      exact ⟨b, cache, hstill.file ▸ hfile, hbuilt⟩
    · rintro (⟨b, hdoomed⟩ | hshort)
      · obtain ⟨r, hr⟩ := hover b
        rw [hr] at hdoomed
        cases r with
        | ok r => exact hdoomed
        | error e => exact hagreed.noRaise b e hr
      · refine hshort.not_free fun b => ?_
        obtain ⟨r, hr⟩ := hover b
        exact pending_of_phase hr
  · rintro ⟨hknown, hsafe⟩
    have hsound : calls.Sound text s.cacheFile (steps.foldl (calls.step text) s) := by
      refine hsafe.inv ⟨fun b => ?_, SharedTemp.Free.owned fun b => pending_of_phase (hs b), ?_⟩
        fun _ b h hb => h.step hb
      · rw [hs b]
        trivial
      · refine .inl ⟨rfl, fun b hpast => ?_⟩
        rw [hs b] at hpast
        exact hpast.elim
    refine ⟨fun b e hraise => ?_, ?_⟩
    · have hfits := hsound.fits b
      rw [hraise] at hfits
      obtain ⟨r, hr⟩ := hfits
      cases hr
    · have hfile : ∃ b cache, (steps.foldl (calls.step text) s).cacheFile = some cache
          ∧ calls.BuiltFrom text b cache := by
        rcases hsound.file with ⟨hfirst, hstays⟩ | hbuilt
        · rw [hfirst]
          refine hknown fun b => hstays b ?_
          obtain ⟨r, hr⟩ := hover b
          rw [hr]
          trivial
        · exact hbuilt
      obtain ⟨b, cache, hcache, hbuilt⟩ := hfile
      exact ⟨b, cache, hcache, hbuilt, hbuilt.ids⟩

/-- Two artifacts without lists, two versions. -/
def twoVersions : ListfileCalls where
  call := fun b =>
    if b then { artifact := .obj [(lit "version", .str (lit "v1"))], etag := lit "e1" }
    else { artifact := .obj [(lit "version", .str (lit "v2"))], etag := lit "e2" }

/-- Nothing is there yet. -/
def noListfile : ListfileShared := { cacheFile := none, tempFile := none, stampFile := none }

/-- Texts that need no conversion. -/
def listfileText : Value.Text := { repr := fun _ => [], lower := id }

/-- Both have written the `.tmp` before the first renames it. -/
def listfileRace : List Bool :=
  [true, true, false, false, true, true, true, false, false, false]

/-- **They may collide.** One call raises, and yet the cache file is that of its artifact. -/
theorem listfile_calls_race :
    (listfileRace.foldl (twoVersions.step listfileText) noListfile).phase false
        = .ended (.error (.fileNotFoundError "managed-listfiles.json.tmp"))
      ∧ (listfileRace.foldl (twoVersions.step listfileText) noListfile).cacheFile.map (·.etag)
        = some (lit "e2")
      ∧ ¬ twoVersions.Agreed listfileText (listfileRace.foldl (twoVersions.step listfileText) noListfile) :=
  ⟨rfl, rfl, fun h => h.noRaise false _ rfl⟩

/-- The two one after the other: the cache is the second one's. -/
theorem listfile_calls_apart :
    (twoVersions.Agreed listfileText
        ((List.replicate 5 true ++ List.replicate 5 false).foldl (twoVersions.step listfileText) noListfile)
      ↔ twoVersions.Known listfileText none
        ∧ Along (twoVersions.step listfileText) (twoVersions.Safe listfileText) noListfile
          (List.replicate 5 true ++ List.replicate 5 false))
      ∧ ((List.replicate 5 true ++ List.replicate 5 false).foldl
          (twoVersions.step listfileText) noListfile).cacheFile.map (·.etag) = some (lit "e2") :=
  ⟨listfile_calls_iff listfileText twoVersions noListfile (fun _ => rfl) _
    (fun b => by cases b <;> decide), rfl⟩

end EdgeSensor.Agent
