import EdgeSensor.Vpn.Supervisor

/-!
# When the supervisor starts OpenVPN (`Supervisor.reconcile_once`)

A call that finds a profile either leaves the child running, or comes to rest and then decides on
a start: `Station.idle` is the state in which it decides, and `idle_spec` says the four ways in
which a call gets there. What follows is read off these:

- with `auto_reconnect` off an epoch is *spent* once a child was started for it or it was given
  up, and stays so (`Spent`): `one_start_per_request`;
- a new epoch is taken up, unless the exit of the old child is noticed in the very call that first
  sees it: `new_epoch_honoured_iff`.
-/

namespace EdgeSensor.Vpn

open EdgeSensor.Lib EdgeSensor.Py

section Attempts

variable (repr : Json → String)

/-- The state in which a call decides on a start; none where a child keeps running. -/
def Station.idle (v : Station) (t : Tick) : Option Station :=
  if ((v.clearLatch t).stopIfChanged repr t).running then none
  else some (((v.clearLatch t).stopIfChanged repr t).noteExit t)

/-- The connection was given up for the epoch of the call. -/
def Station.Latched (v : Station) (t : Tick) : Prop :=
  t.autoReconnect = false ∧ v.sup.gaveUpEpoch = t.epoch

instance (v : Station) (t : Tick) : Decidable (v.Latched t) := inferInstanceAs (Decidable (_ ∧ _))

/-- The time of a start has come. -/
def Station.Due (v : Station) (t : Tick) : Prop := ¬ v.Latched t ∧ v.sup.nextStartAt ≤ t.now

instance (v : Station) (t : Tick) : Decidable (v.Due t) := inferInstanceAs (Decidable (_ ∧ _))

/-- The call gets to `_start`. -/
def Station.Attempts (v : Station) (t : Tick) : Prop :=
  (t.targetPath repr).isSome = true ∧ ∃ w, v.idle repr t = some w ∧ w.Due t

/-- The child has exited, and no call has noticed. -/
def Station.ExitPending (v : Station) : Prop := v.sup.proc.isSome = true ∧ v.running = false

instance (v : Station) (t : Tick) : Decidable (v.Attempts repr t) :=
  decidable_of_iff ((t.targetPath repr).isSome = true
    ∧ ((v.idle repr t).any fun w => w.Due t) = true)
    (by simp [Station.Attempts, Option.any_eq_true])

instance (v : Station) : Decidable v.ExitPending := inferInstanceAs (Decidable (_ ∧ _))

/-- What of the latch a new epoch leaves. -/
def Station.latchFor (v : Station) (t : Tick) : Option Int :=
  if v.sup.gaveUpEpoch = t.epoch then v.sup.gaveUpEpoch else none

/-- The backoff after one more failure. -/
def bumped (backoff : Rat) : Rat :=
  min backoffMax (max backoffBase (if backoff * 2 = 0 then backoffBase else backoff * 2))

variable {repr} {v w : Station} {t : Tick}

/-! ## What a call does -/

theorem writeStatus_timing (v : Station) (t : Tick) :
    (v.writeStatus t).started = v.started ∧ (v.writeStatus t).sup.backoff = v.sup.backoff
      ∧ (v.writeStatus t).sup.nextStartAt = v.sup.nextStartAt
      ∧ (v.writeStatus t).sup.gaveUpEpoch = v.sup.gaveUpEpoch := by
  unfold Station.writeStatus
  cases v.running with
  | true => exact ⟨rfl, rfl, rfl, rfl⟩
  | false => exact ⟨rfl, rfl, rfl, rfl⟩

theorem clearLatch_eq (v : Station) (t : Tick) :
    v.clearLatch t = { v with sup := { v.sup with gaveUpEpoch := v.latchFor t } } := by
  unfold Station.clearLatch Station.latchFor
  by_cases hsame : v.sup.gaveUpEpoch = t.epoch
  · rw [if_pos hsame, if_neg (by simp [hsame])]
  · rw [if_neg hsame]
    split
    next => rfl
    next hclear =>
      have hnone : v.sup.gaveUpEpoch = none := by simpa [hsame] using hclear
      rw [← hnone]

/-- The call is for another epoch, or another profile, than what runs. -/
def Station.Changed (v : Station) (repr : Json → String) (t : Tick) : Prop :=
  t.epoch ≠ v.sup.activeEpoch
    ∨ v.sup.activeProfile.isSome = true ∧ v.sup.activeProfile ≠ some (t.wantProfile repr)

theorem stopIfChanged_cases (v : Station) (repr : Json → String) (t : Tick) :
    v.running = true ∧ v.Changed repr t ∧ v.stopIfChanged repr t
        = { v.stopProc with sup := { v.stopProc.sup with backoff := 0, nextStartAt := 0 } }
      ∨ (v.running = true → ¬ v.Changed repr t) ∧ v.stopIfChanged repr t = v := by
  have hif : (v.running && ((v.sup.activeProfile.isSome
        && v.sup.activeProfile ≠ some (t.wantProfile repr)) || t.epoch ≠ v.sup.activeEpoch)) = true
      ↔ v.running = true ∧ v.Changed repr t := by
    simp [Station.Changed, or_comm]
  unfold Station.stopIfChanged
  simp only
  split
  next h => exact .inl ⟨(hif.mp h).1, (hif.mp h).2, rfl⟩
  next h => exact .inr ⟨fun hrun hchanged => h (hif.mpr ⟨hrun, hchanged⟩), rfl⟩

/-- The four ways to come to rest. -/
inductive Rest (repr : Json → String) (v w : Station) (t : Tick) : Prop where
  /-- The child was stopped, for a new epoch or another profile. -/
  | stopped (hrun : v.running = true)
      (hchanged : v.Changed repr t)
      (hlatch : w.sup.gaveUpEpoch = v.latchFor t)
      (hbackoff : w.sup.backoff = 0) (hnext : w.sup.nextStartAt = 0)
  /-- It had exited, and is to be started again. -/
  | bumped (hpending : v.ExitPending) (hauto : t.autoReconnect = true)
      (hlatch : w.sup.gaveUpEpoch = v.latchFor t)
      (hbackoff : w.sup.backoff = bumped v.sup.backoff)
      (hnext : w.sup.nextStartAt = t.now + bumped v.sup.backoff)
  /-- It had exited, and is given up. -/
  | gaveUp (hpending : v.ExitPending) (hauto : t.autoReconnect = false)
      (hlatch : w.sup.gaveUpEpoch = t.epoch)
  /-- There was none. -/
  | resting (hnone : v.sup.proc = none) (hlatch : w.sup.gaveUpEpoch = v.latchFor t)
      (hbackoff : w.sup.backoff = v.sup.backoff)
      (hnext : w.sup.nextStartAt = v.sup.nextStartAt)

/-- Without a child there is one way only. -/
theorem Rest.of_none (h : Rest repr v w t) (hnone : v.sup.proc = none) :
    w.sup.gaveUpEpoch = v.latchFor t ∧ w.sup.backoff = v.sup.backoff
      ∧ w.sup.nextStartAt = v.sup.nextStartAt := by
  have hpending : ¬ v.ExitPending := by
    rw [Station.ExitPending, hnone]
    nofun
  cases h with
  | stopped hrun =>
    rw [Station.running, hnone] at hrun
    cases hrun
  | bumped hpending' => exact absurd hpending' hpending
  | gaveUp hpending' => exact absurd hpending' hpending
  | resting _ hlatch hbackoff hnext => exact ⟨hlatch, hbackoff, hnext⟩

theorem idle_spec (h : v.idle repr t = some w) :
    w.sup.proc = none ∧ w.started = v.started
      ∧ (w.sup.activeEpoch = none ∨ w.sup.activeEpoch = v.sup.activeEpoch) ∧ Rest repr v w t := by
  unfold Station.idle at h
  rw [clearLatch_eq] at h
  rcases stopIfChanged_cases { v with sup := { v.sup with gaveUpEpoch := v.latchFor t } }
      repr t with ⟨hrun, hchanged, hstop⟩ | ⟨-, hkeep⟩
  · -- what runs was stopped, so there is no exit to note
    rw [hstop] at h
    cases h
    exact ⟨rfl, rfl, .inl rfl, .stopped hrun hchanged rfl rfl rfl⟩
  · rw [hkeep] at h
    split at h
    next => cases h
    next hidle =>
      have hidle : v.running = false := Bool.eq_false_iff.mpr hidle
      rw [← Option.some.inj h]
      unfold Station.noteExit
      cases hproc : v.sup.proc with
      | none => exact ⟨hproc, rfl, .inr rfl, .resting hproc rfl rfl rfl⟩
      | some pid =>
        have hpending : v.ExitPending := ⟨by rw [hproc]; rfl, hidle⟩
        cases hauto : t.autoReconnect with
        | true => exact ⟨rfl, rfl, .inr rfl, .bumped hpending hauto rfl rfl rfl⟩
        | false => exact ⟨rfl, rfl, .inr rfl, .gaveUp hpending hauto rfl⟩

/-- A child that is left running runs for what the call asks for. -/
theorem idle_eq_none (h : v.idle repr t = none) :
    v.running = true ∧ ¬ v.Changed repr t
      ∧ (v.clearLatch t).stopIfChanged repr t
        = { v with sup := { v.sup with gaveUpEpoch := v.latchFor t } } := by
  unfold Station.idle at h
  rw [clearLatch_eq] at h ⊢
  rcases stopIfChanged_cases { v with sup := { v.sup with gaveUpEpoch := v.latchFor t } }
      repr t with ⟨-, -, hstop⟩ | ⟨hsame, hkeep⟩
  · rw [hstop] at h
    cases h
  · rw [hkeep] at h ⊢
    split at h
    next hrun => exact ⟨hrun, hsame hrun, rfl⟩
    next => cases h

/-- A call that finds a profile. -/
theorem reconcileOnce_target (h : (t.targetPath repr).isSome = true) :
    (∃ w path, v.idle repr t = some w
        ∧ v.reconcileOnce repr t = (w.startIfDue repr t path).writeStatus t)
      ∨ v.idle repr t = none ∧ v.reconcileOnce repr t
        = Station.writeStatus { v with sup := { v.sup with gaveUpEpoch := v.latchFor t } } t := by
  obtain ⟨path, hpath⟩ := Option.isSome_iff_exists.mp h
  unfold Station.reconcileOnce
  rw [hpath]
  cases hidle : v.idle repr t with
  | none =>
    obtain ⟨hrun, -, hkept⟩ := idle_eq_none hidle
    refine .inr ⟨rfl, ?_⟩
    simp only [hkept]
    exact if_pos hrun
  | some w =>
    refine .inl ⟨w, path, rfl, ?_⟩
    unfold Station.idle at hidle
    split at hidle
    next => cases hidle
    next hrest =>
      cases hidle
      simp only
      rw [if_neg hrest]

theorem startIfDue_of_not_due {path : String} (h : ¬ w.Due t) : w.startIfDue repr t path = w := by
  unfold Station.startIfDue
  split
  next => rfl
  next hlatch =>
    refine if_neg fun hnext => h ⟨fun ⟨hauto, hsame⟩ => hlatch ?_, hnext⟩
    simp [hauto, hsame]

theorem startIfDue_of_due {path : String} (h : w.Due t) :
    w.startIfDue repr t path
      = { w.start t (t.wantProfile repr) path with
          sup := { (w.start t (t.wantProfile repr) path).sup with backoff := 0 } } := by
  obtain ⟨hlatch, hnext⟩ := h
  unfold Station.startIfDue
  rw [if_neg, if_pos hnext]
  intro hif
  refine hlatch ?_
  simpa [Station.Latched] using hif

/-- A call that attempts no start leaves the child that runs, or rests. -/
theorem quiet_call (htarget : (t.targetPath repr).isSome = true) (h : ¬ v.Attempts repr t) :
    (∃ w, v.idle repr t = some w ∧ ¬ w.Due t ∧ v.reconcileOnce repr t = w.writeStatus t)
      ∨ v.idle repr t = none ∧ v.reconcileOnce repr t
        = Station.writeStatus { v with sup := { v.sup with gaveUpEpoch := v.latchFor t } } t := by
  rcases reconcileOnce_target htarget with ⟨w, path, hidle, hcall⟩ | hrun
  · have hdue : ¬ w.Due t := fun hdue => h ⟨htarget, w, hidle, hdue⟩
    rw [startIfDue_of_not_due hdue] at hcall
    exact .inl ⟨w, hidle, hdue, hcall⟩
  · exact .inr hrun

/-- A call that attempts a start: a child for what the call asks for, or a longer backoff, which is
forgotten at once. -/
theorem attempt_call (h : v.Attempts repr t) :
    ∃ w, v.idle repr t = some w ∧ w.Due t
      ∧ (v.reconcileOnce repr t).sup.backoff = 0
      ∧ (v.reconcileOnce repr t).sup.gaveUpEpoch = w.sup.gaveUpEpoch
      ∧ (t.popenError = none ∧ (v.reconcileOnce repr t).started = v.started + 1
          ∧ (v.reconcileOnce repr t).sup.proc = some v.started
          ∧ (v.reconcileOnce repr t).sup.activeProfile = some (t.wantProfile repr)
          ∧ (v.reconcileOnce repr t).sup.activeEpoch = t.epoch
        ∨ t.popenError ≠ none ∧ (v.reconcileOnce repr t).started = v.started
          ∧ (v.reconcileOnce repr t).sup.proc = none
          ∧ (v.reconcileOnce repr t).sup.activeEpoch = w.sup.activeEpoch
          ∧ (v.reconcileOnce repr t).sup.nextStartAt = t.now + bumped w.sup.backoff) := by
  obtain ⟨htarget, w, hidle, hdue⟩ := h
  refine ⟨w, hidle, hdue, ?_⟩
  obtain ⟨-, hstarted, -⟩ := idle_spec hidle
  rcases reconcileOnce_target htarget with ⟨w', path, hidle', hcall⟩ | ⟨hnone, -⟩
  · cases hidle.symm.trans hidle'
    rw [startIfDue_of_due hdue] at hcall
    rw [hcall, ← hstarted]
    obtain ⟨hstarted', hbackoff, hnext, hlatch⟩ := writeStatus_timing
      { w.start t (t.wantProfile repr) path with
          sup := { (w.start t (t.wantProfile repr) path).sup with backoff := 0 } } t
    obtain ⟨-, hproc, hprofile, hepoch⟩ := writeStatus_frame
      { w.start t (t.wantProfile repr) path with
          sup := { (w.start t (t.wantProfile repr) path).sup with backoff := 0 } } t
    rw [hstarted', hbackoff, hnext, hlatch, hproc, hprofile, hepoch]
    unfold Station.start
    cases hpopen : t.popenError with
    | none => exact ⟨rfl, rfl, .inl ⟨rfl, rfl, rfl, rfl, rfl⟩⟩
    | some error => exact ⟨rfl, rfl, .inr ⟨nofun, rfl, rfl, rfl, rfl⟩⟩
  · rw [hnone] at hidle
    cases hidle

/-! ## At rest -/

/-- A step at which a start is attempted. -/
def Attempting (repr : Json → String) (v : Station) (step : VpnStep) : Prop :=
  ∃ t, step = .reconcile t ∧ v.Attempts repr t

theorem latchFor_ne {e : Int} (h : v.sup.gaveUpEpoch ≠ some e) : v.latchFor t ≠ some e := by
  unfold Station.latchFor
  split
  next => exact h
  next => nofun

/-- A call that finds no child and attempts no start leaves things as they are. -/
theorem rest_call (htarget : (t.targetPath repr).isSome = true) (hnone : v.sup.proc = none)
    (h : ¬ v.Attempts repr t) :
    (v.reconcileOnce repr t).sup.proc = none
      ∧ (v.reconcileOnce repr t).sup.nextStartAt = v.sup.nextStartAt
      ∧ (v.reconcileOnce repr t).sup.gaveUpEpoch = v.latchFor t := by
  rcases quiet_call htarget h with ⟨w, hidle, -, hcall⟩ | ⟨hidle, -⟩
  · obtain ⟨-, -, hnext, hlatch⟩ := writeStatus_timing w t
    obtain ⟨-, hproc, -⟩ := writeStatus_frame w t
    obtain ⟨hnone', -, -, hrest⟩ := idle_spec hidle
    obtain ⟨hlatch', -, hnext'⟩ := hrest.of_none hnone
    rw [hcall, hproc, hnext, hlatch]
    exact ⟨hnone', hnext', hlatch'⟩
  · obtain ⟨hrun, -⟩ := idle_eq_none hidle
    rw [Station.running, hnone] at hrun
    cases hrun

/-- And so does a run without an attempt: no child, the same `next_start_at`, and no epoch given
up that was not before. -/
theorem rest_run {steps : List VpnStep}
    (htarget : ∀ t, .reconcile t ∈ steps → (t.targetPath repr).isSome = true) {i j : Nat}
    (hij : i ≤ j) (hnone : (stateAt (VpnStep.next repr) v steps i).sup.proc = none)
    (hquiet : ∀ k, i ≤ k → k < j → ¬ At (VpnStep.next repr) v steps (Attempting repr) k) :
    let s := stateAt (VpnStep.next repr) v steps
    (s j).sup.proc = none ∧ (s j).sup.nextStartAt = (s i).sup.nextStartAt
      ∧ ∀ e : Int, (s i).sup.gaveUpEpoch ≠ some e → (s j).sup.gaveUpEpoch ≠ some e := by
  induction j, hij using Nat.le_induction with
  | base => exact ⟨hnone, rfl, fun _ h => h⟩
  | succ j hij ih =>
    obtain ⟨hnone', hnext, hlatch⟩ := ih fun k hik hkj => hquiet k hik (Nat.lt_succ_of_lt hkj)
    cases hstep : steps[j]? with
    | none =>
      simp only [stateAt_succ_of_none hstep]
      exact ⟨hnone', hnext, hlatch⟩
    | some step =>
      simp only [stateAt_succ hstep]
      cases step with
      | exit pid => exact ⟨hnone', hnext, hlatch⟩
      | reconcile t =>
        have hnot : ¬ Station.Attempts repr _ t := fun hattempt =>
          hquiet j hij (Nat.lt_succ_self j) ⟨_, hstep, t, rfl, hattempt⟩
        obtain ⟨hproc, hsame, hlatch'⟩ :=
          rest_call (htarget t (List.mem_of_getElem? hstep)) hnone' hnot
        refine ⟨hproc, hsame.trans hnext, fun e he => ?_⟩
        rw [VpnStep.next, hlatch']
        exact latchFor_ne (hlatch e he)

/-! ## One start for one request -/

/-- Whatever is called for is what `d` says, and the profile is there. -/
def Under (repr : Json → String) (d : Obj) (steps : List VpnStep) : Prop :=
  ∀ t, .reconcile t ∈ steps → t.desired = d ∧ (t.targetPath repr).isSome = true

/-- Connect once, for an epoch: a link that has come down is to stay so. -/
structure AsksOnce (d : Obj) (e : Int) : Prop where
  connect : (d.get "connect").truthy = true
  once : ((Dict.get? d "auto_reconnect").getD (.bool true)).truthy = false
  epoch : d.get "epoch" = .int e

/-- The start for an epoch has been used: it was given up, or a child was started for it. -/
def Spent (repr : Json → String) (t : Tick) (v : Station) : Prop :=
  v.sup.gaveUpEpoch = t.epoch
    ∨ v.sup.proc.isSome = true ∧ ¬ v.Changed repr t

theorem epoch_of_asksOnce {d : Obj} {e : Int} (h : AsksOnce d e) (ht : t.desired = d) :
    t.autoReconnect = false ∧ t.epoch = some e := by
  unfold Tick.autoReconnect Tick.epoch
  rw [ht, h.epoch]
  exact ⟨h.once, rfl⟩

theorem Spent.congr {t' : Tick} (h : Spent repr t v) (hsame : t.desired = t'.desired) :
    Spent repr t' v := by
  unfold Spent Station.Changed Tick.epoch Tick.wantProfile Tick.wantConnect at h ⊢
  rw [← hsame]
  exact h

/-- A call that comes to rest in a spent epoch has it given up. -/
theorem Spent.gaveUp (h : Spent repr t v) (hauto : t.autoReconnect = false)
    (hidle : v.idle repr t = some w) : w.sup.gaveUpEpoch = t.epoch := by
  obtain ⟨-, -, -, hrest⟩ := idle_spec hidle
  cases hrest with
  | stopped hrun hchanged hlatch =>
    rcases h with h | ⟨-, hsame⟩
    · rw [hlatch, Station.latchFor, if_pos h, h]
    · exact absurd hchanged hsame
  | bumped hpending hauto' =>
    rw [hauto] at hauto'
    cases hauto'
  | gaveUp hpending hauto' hlatch => exact hlatch
  | resting hnone hlatch =>
    rcases h with h | ⟨hsome, -⟩
    · rw [hlatch, Station.latchFor, if_pos h, h]
    · rw [hnone] at hsome
      cases hsome

theorem Spent.not_attempts (h : Spent repr t v) (hauto : t.autoReconnect = false) :
    ¬ v.Attempts repr t :=
  fun ⟨_, _, hidle, hlatch, _⟩ => hlatch ⟨hauto, h.gaveUp hauto hidle⟩

/-- A call without an attempt starts nothing, and keeps a spent epoch spent. -/
theorem quiet_call_spent (htarget : (t.targetPath repr).isSome = true)
    (hauto : t.autoReconnect = false) (h : ¬ v.Attempts repr t) :
    (v.reconcileOnce repr t).started = v.started
      ∧ (Spent repr t v → Spent repr t (v.reconcileOnce repr t)) := by
  rcases quiet_call htarget h with ⟨w, hidle, -, hcall⟩ | ⟨hidle, hcall⟩
  · obtain ⟨hstarted, -, -, hlatch⟩ := writeStatus_timing w t
    rw [hcall]
    refine ⟨hstarted.trans (idle_spec hidle).2.1, fun hspent => .inl ?_⟩
    rw [hlatch, hspent.gaveUp hauto hidle]
  · obtain ⟨hrun, hsame, -⟩ := idle_eq_none hidle
    let kept : Station := { v with sup := { v.sup with gaveUpEpoch := v.latchFor t } }
    obtain ⟨hstarted, -⟩ := writeStatus_timing kept t
    obtain ⟨-, hproc, hprofile, hepoch⟩ := writeStatus_frame kept t
    rw [hcall]
    refine ⟨hstarted, fun _ => .inr ⟨?_, ?_⟩⟩
    · rw [hproc]
      unfold Station.running at hrun
      cases hheld : v.sup.proc with
      | none =>
        rw [hheld] at hrun
        cases hrun
      | some pid => rfl
    · unfold Station.Changed
      rw [hprofile, hepoch]
      exact hsame

/-- One start at most, and then the epoch is spent. -/
theorem call_once (htarget : (t.targetPath repr).isSome = true) (hauto : t.autoReconnect = false)
    {n : Nat} (h : v.started = n ∨ v.started = n + 1 ∧ Spent repr t v) :
    (v.reconcileOnce repr t).started = n
      ∨ (v.reconcileOnce repr t).started = n + 1 ∧ Spent repr t (v.reconcileOnce repr t) := by
  by_cases hattempt : v.Attempts repr t
  · rcases h with hn | ⟨-, hspent⟩
    · obtain ⟨w, -, -, -, -, hout⟩ := attempt_call hattempt
      rcases hout with ⟨-, hstarted, hproc, hprofile, hepoch⟩ | ⟨-, hstarted, -⟩
      · refine .inr ⟨by rw [hstarted, hn], .inr ⟨by rw [hproc]; rfl, ?_⟩⟩
        unfold Station.Changed
        rw [hprofile, hepoch]
        simp
      · exact .inl (hstarted.trans hn)
    · exact absurd hattempt (hspent.not_attempts hauto)
  · obtain ⟨hstarted, hkeep⟩ := quiet_call_spent htarget hauto hattempt
    rw [hstarted]
    exact h.imp_right (And.imp_right hkeep)

/-- Under one request at most one child is started, whatever there was before. -/
theorem one_start_under {d : Obj} {e : Int} (hd : AsksOnce d e) {steps : List VpnStep}
    (hsteps : Under repr d steps) (v : Station) :
    (steps.foldl (VpnStep.next repr) v).started ≤ v.started + 1 := by
  suffices hinv : ∀ {n : Nat} (v : Station),
      (v.started = n ∨ v.started = n + 1 ∧ ∀ t, t.desired = d → Spent repr t v) →
      (steps.foldl (VpnStep.next repr) v).started ≤ n + 1 from hinv v (.inl rfl)
  intro n
  induction steps with
  | nil =>
    rintro v (h | ⟨h, -⟩)
    · exact h.le.trans (Nat.le_succ n)
    · exact h.le
  | cons step steps ih =>
    intro v h
    refine ih (fun t ht => hsteps t (List.mem_cons_of_mem _ ht)) _ ?_
    cases step with
    | exit pid => exact h
    | reconcile t =>
      obtain ⟨hsame, htarget⟩ := hsteps t List.mem_cons_self
      obtain ⟨hauto, -⟩ := epoch_of_asksOnce hd hsame
      refine (call_once htarget hauto (h.imp_right (And.imp_right fun h => h t hsame))).imp_right ?_
      exact And.imp_right fun hspent t' ht' => hspent.congr (hsame.trans ht'.symm)

/-- **With auto-reconnect off a request is one attempt.** While `desired.json` stays as it is, at
most one child is started, however often calls come and children exit; and when only the epoch
changes, at most one more. -/
theorem one_start_per_request (repr : Json → String) (d : Obj) (e e' : Int) (hd : AsksOnce d e)
    (first second : List VpnStep) (hfirst : Under repr d first)
    (hsecond : Under repr (d.set "epoch" (.int e')) second) :
    (first.foldl (VpnStep.next repr) {}).started ≤ 1
      ∧ ((first ++ second).foldl (VpnStep.next repr) {}).started
        ≤ (first.foldl (VpnStep.next repr) {}).started + 1 := by
  have hd' : AsksOnce (d.set "epoch" (.int e')) e' := by
    obtain ⟨hconnect, honce, -⟩ := hd
    refine ⟨?_, ?_, ?_⟩
    · rw [Obj.get_set_ne d _ (by decide)]
      exact hconnect
    · rw [Dict.get?_set_ne d _ (by decide)]
      exact honce
    · rw [Obj.get, Dict.get?_set_self]
      rfl
  rw [List.foldl_append]
  exact ⟨one_start_under hd hfirst {}, one_start_under hd' hsecond _⟩

/-- A tick that finds a request for `plant`, which is there. -/
def plantTick (auto : Bool) (epoch : Int) (now : Rat) : Tick where
  desired := [("connect", .bool true), ("profile", .str "plant"), ("auto_reconnect", .bool auto),
    ("epoch", .int epoch)]
  dir := { isFile := fun name => name = "plant" }
  now := now
  nowIso := ""

theorem under_plantTick (auto : Bool) (epoch : Int) (steps : List VpnStep)
    (h : ∀ t, .reconcile t ∈ steps → ∃ now, t = plantTick auto epoch now) :
    Under (fun _ => "") (plantTick auto epoch 0).desired steps := by
  intro t ht
  obtain ⟨now, rfl⟩ := h t ht
  have hpath : ((plantTick true 0 0).targetPath fun _ => "").isSome = true := by decide +kernel
  exact ⟨rfl, hpath⟩

/-- Once in the first epoch, and once more in the second. -/
theorem one_start_per_request_plant :
    let first : List VpnStep :=
      [.reconcile (plantTick false 1 10), .exit 0, .reconcile (plantTick false 1 20),
        .reconcile (plantTick false 1 30)]
    let second : List VpnStep :=
      [.reconcile (plantTick false 2 40), .reconcile (plantTick false 2 50)]
    (first.foldl (VpnStep.next fun _ => "") {}).started ≤ 1
      ∧ ((first ++ second).foldl (VpnStep.next fun _ => "") {}).started
        ≤ (first.foldl (VpnStep.next fun _ => "") {}).started + 1 :=
  one_start_per_request (fun _ => "") (plantTick false 1 0).desired 1 2 ⟨rfl, rfl, rfl⟩ _ _
    (under_plantTick false 1 _ (by simp)) (under_plantTick false 2 _ (by simp))

/-! ## A new epoch -/

/-- The calls take up what they are asked for: until one attempts a start, the epoch is not given
up, and each call attempts it unless it comes before the `next_start_at` that the first one left. -/
def Honoured (repr : Json → String) (v : Station) (calls : List VpnStep) : Prop :=
  ∀ i t, calls[i]? = some (.reconcile t) →
    (∀ j < i, ¬ At (VpnStep.next repr) v calls (Attempting repr) j) →
    (stateAt (VpnStep.next repr) v calls (i + 1)).sup.gaveUpEpoch ≠ t.epoch
      ∧ ((stateAt (VpnStep.next repr) v calls i).Attempts repr t
        ∨ t.now < (stateAt (VpnStep.next repr) v calls 1).sup.nextStartAt)

/-- Neither the latch nor the child knows of an epoch. -/
def Unseen (e : Int) (v : Station) : Prop :=
  v.sup.gaveUpEpoch ≠ some e ∧ v.sup.activeEpoch ≠ some e

/-- A call gives up an epoch only when it notices an exit in it. -/
theorem Rest.latch_ne {e : Int} (h : Rest repr v w t) (hlatch : v.sup.gaveUpEpoch ≠ some e)
    (hgaveUp : v.ExitPending → t.autoReconnect = false → t.epoch ≠ some e) :
    w.sup.gaveUpEpoch ≠ some e := by
  cases h with
  | stopped hrun hchanged hlatch' =>
    rw [hlatch']
    exact latchFor_ne hlatch
  | bumped hpending hauto hlatch' =>
    rw [hlatch']
    exact latchFor_ne hlatch
  | gaveUp hpending hauto hlatch' =>
    rw [hlatch']
    exact hgaveUp hpending hauto
  | resting hnone hlatch' =>
    rw [hlatch']
    exact latchFor_ne hlatch

theorem Unseen.idle {e : Int} (h : Unseen e v) (ht : t.epoch ≠ some e)
    (hidle : v.idle repr t = some w) : Unseen e w := by
  obtain ⟨hlatch, hactive⟩ := h
  obtain ⟨-, -, hepoch, hrest⟩ := idle_spec hidle
  refine ⟨hrest.latch_ne hlatch fun _ _ => ht, ?_⟩
  rcases hepoch with hnone | hsame
  · rw [hnone]
    nofun
  · rw [hsame]
    exact hactive

theorem Unseen.writeStatus {e : Int} (h : Unseen e v) (t : Tick) : Unseen e (v.writeStatus t) := by
  obtain ⟨-, -, -, hlatch⟩ := writeStatus_timing v t
  obtain ⟨-, -, -, hepoch⟩ := writeStatus_frame v t
  unfold Unseen
  rw [hlatch, hepoch]
  exact h

/-- A call for another epoch. -/
theorem Unseen.reconcileOnce {e : Int} (h : Unseen e v) (ht : t.epoch ≠ some e) :
    Unseen e (v.reconcileOnce repr t) := by
  by_cases htarget : (t.targetPath repr).isSome = true
  · by_cases hattempt : v.Attempts repr t
    · obtain ⟨w, hidle, -, -, hlatch, hout⟩ := attempt_call hattempt
      obtain ⟨hlatch', hepoch'⟩ := h.idle ht hidle
      refine ⟨by rw [hlatch]; exact hlatch', ?_⟩
      rcases hout with ⟨-, -, -, -, hepoch⟩ | ⟨-, -, -, hepoch, -⟩
      · rw [hepoch]
        exact ht
      · rw [hepoch]
        exact hepoch'
    · rcases quiet_call htarget hattempt with ⟨w, hidle, -, hcall⟩ | ⟨-, hcall⟩
      · rw [hcall]
        exact (h.idle ht hidle).writeStatus t
      · rw [hcall]
        have hkept : Unseen e { v with sup := { v.sup with gaveUpEpoch := v.latchFor t } } :=
          ⟨latchFor_ne h.1, h.2⟩
        exact hkept.writeStatus t
  · have hnone : t.targetPath repr = none := by simpa using htarget
    have hstop : Unseen e v.stopProc := ⟨h.1, nofun⟩
    unfold Station.reconcileOnce
    rw [hnone]
    simp only
    split
    next => exact Unseen.writeStatus hstop t
    next =>
      refine Unseen.writeStatus ?_ t
      split
      next => exact hstop
      next => exact h

theorem unseen_history {e : Int} {history : List VpnStep}
    (hnew : ∀ t, .reconcile t ∈ history → t.epoch ≠ some e) (h : Unseen e v) :
    Unseen e (history.foldl (VpnStep.next repr) v) := by
  induction history generalizing v with
  | nil => exact h
  | cons step history ih =>
    refine ih (fun t ht => hnew t (List.mem_cons_of_mem _ ht)) ?_
    cases step with
    | exit pid => exact h
    | reconcile t => exact h.reconcileOnce (hnew t List.mem_cons_self)

/-- A call for an epoch that is not given up, and for which no child runs: an attempt, or a rest
until `next_start_at`. -/
theorem call_new_epoch {e : Int} (htarget : (t.targetPath repr).isSome = true)
    (hepoch : t.epoch = some e) (hlatch : v.sup.gaveUpEpoch ≠ some e)
    (hactive : v.running = true → v.sup.activeEpoch ≠ some e)
    (hok : t.autoReconnect = true ∨ ¬ v.ExitPending) :
    (v.reconcileOnce repr t).sup.gaveUpEpoch ≠ some e
      ∧ (v.Attempts repr t ∨ t.now < (v.reconcileOnce repr t).sup.nextStartAt
        ∧ (v.reconcileOnce repr t).sup.proc = none) := by
  have hfresh (w) (hidle : v.idle repr t = some w) : w.sup.gaveUpEpoch ≠ some e := by
    refine (idle_spec hidle).2.2.2.latch_ne hlatch fun hpending hauto => ?_
    rcases hok with hauto' | hpending'
    · rw [hauto] at hauto'
      cases hauto'
    · exact absurd hpending hpending'
  by_cases hattempt : v.Attempts repr t
  · obtain ⟨w, hidle, -, -, hlatch', -⟩ := attempt_call hattempt
    rw [hlatch']
    exact ⟨hfresh w hidle, .inl hattempt⟩
  · rcases quiet_call htarget hattempt with ⟨w, hidle, hdue, hcall⟩ | ⟨hidle, -⟩
    · obtain ⟨-, -, hnext, hlatch'⟩ := writeStatus_timing w t
      obtain ⟨-, hproc, -⟩ := writeStatus_frame w t
      rw [hcall, hnext, hlatch', hproc]
      refine ⟨hfresh w hidle, .inr ⟨?_, (idle_spec hidle).1⟩⟩
      by_contra hnow
      refine hdue ⟨fun hlatched => hfresh w hidle ?_, not_lt.mp hnow⟩
      rw [hlatched.2, hepoch]
    · obtain ⟨hrun, hsame, -⟩ := idle_eq_none hidle
      refine absurd (.inl ?_) hsame
      rw [hepoch]
      exact (hactive hrun).symm

/-- An exit that is noticed with `auto_reconnect` off gives up the epoch of the call. -/
theorem call_gives_up (htarget : (t.targetPath repr).isSome = true)
    (hauto : t.autoReconnect = false) (hpending : v.ExitPending) :
    (v.reconcileOnce repr t).sup.gaveUpEpoch = t.epoch := by
  rcases reconcileOnce_target htarget with ⟨w, path, hidle, hcall⟩ | ⟨hidle, -⟩
  · obtain ⟨-, -, -, hrest⟩ := idle_spec hidle
    cases hrest with
    | stopped hrun =>
      rw [hpending.2] at hrun
      cases hrun
    | bumped _ hauto' =>
      rw [hauto] at hauto'
      cases hauto'
    | gaveUp _ _ hlatch =>
      rw [hcall, startIfDue_of_not_due (fun hdue => hdue.1 ⟨hauto, hlatch⟩),
        (writeStatus_timing w t).2.2.2, hlatch]
    | resting hnone =>
      rw [Station.ExitPending, hnone] at hpending
      cases hpending.1
  · obtain ⟨hrun, -⟩ := idle_eq_none hidle
    rw [hpending.2] at hrun
    cases hrun

/-- **A reconnect is honoured**, after any history, unless `auto_reconnect` is off and the call that
first sees the new epoch is also the one that notices the exit of the old child. -/
theorem new_epoch_honoured_iff (repr : Json → String) (history : List VpnStep) (d : Obj) (e : Int)
    (hepoch : d.get "epoch" = .int e) (hnew : ∀ t, .reconcile t ∈ history → t.epoch ≠ some e)
    (first : Tick) (rest : List VpnStep) (hcalls : Under repr d (.reconcile first :: rest)) :
    Honoured repr (history.foldl (VpnStep.next repr) {}) (.reconcile first :: rest)
      ↔ first.autoReconnect = true
        ∨ ¬ (history.foldl (VpnStep.next repr) {}).ExitPending := by
  obtain ⟨hlatch, hactive⟩ : Unseen e (history.foldl (VpnStep.next repr) {}) :=
    unseen_history hnew ⟨nofun, nofun⟩
  generalize history.foldl (VpnStep.next repr) {} = v at hlatch hactive ⊢
  have hsome (t : Tick) (ht : .reconcile t ∈ VpnStep.reconcile first :: rest) :
      t.epoch = some e := by
    unfold Tick.epoch
    rw [(hcalls t ht).1, hepoch]
  constructor
  · intro h
    by_contra hbad
    rw [not_or, not_not, Bool.not_eq_true] at hbad
    exact (h 0 first rfl fun j hj => absurd hj (Nat.not_lt_zero j)).1
      (call_gives_up (hcalls first List.mem_cons_self).2 hbad.1 hbad.2)
  · intro hok i t ht hquiet
    have hmem := List.mem_of_getElem? ht
    rw [stateAt_succ ht, hsome t hmem]
    cases i with
    | zero =>
      cases ht
      obtain ⟨hkept, hcall⟩ :=
        call_new_epoch (hcalls first hmem).2 (hsome first hmem) hlatch (fun _ => hactive) hok
      exact ⟨hkept, hcall.imp_right And.left⟩
    | succ i =>
      -- the first call left no child, and nothing has changed since
      have hfirst := hcalls first List.mem_cons_self
      obtain ⟨hkept, hcall⟩ := call_new_epoch hfirst.2 (hsome first List.mem_cons_self) hlatch
        (fun _ => hactive) hok
      have hnot : ¬ v.Attempts repr first := fun hattempt =>
        hquiet 0 (Nat.succ_pos i) ⟨_, rfl, first, rfl, hattempt⟩
      obtain ⟨hnone, hnext, hlatch'⟩ := rest_run (fun t ht => (hcalls t ht).2)
        (Nat.succ_le_succ (Nat.zero_le i)) (hcall.resolve_left hnot).2 fun k _ hk => hquiet k hk
      obtain ⟨hkept', hcall'⟩ := @call_new_epoch repr _ t e (hcalls t hmem).2 (hsome t hmem)
        (hlatch' e hkept) (by rw [Station.running, hnone]; nofun)
        (.inr (by rw [Station.ExitPending, hnone]; nofun))
      refine ⟨hkept', ?_⟩
      by_cases hattempt : Station.Attempts repr
          (stateAt (VpnStep.next repr) v (.reconcile first :: rest) (i + 1)) t
      · exact .inl hattempt
      · obtain ⟨hwait, -⟩ := hcall'.resolve_left hattempt
        rw [(rest_call (hcalls t hmem).2 hnone hattempt).2.1, hnext] at hwait
        exact .inr hwait

/-- A child still runs in the first epoch: the second one is taken up. -/
theorem new_epoch_honoured_plant :
    Honoured (fun _ => "")
      ([VpnStep.reconcile (plantTick false 1 10)].foldl (VpnStep.next fun _ => "") {})
      [.reconcile (plantTick false 2 20)] :=
  (new_epoch_honoured_iff (fun _ => "") _ (plantTick false 2 0).desired 2 rfl
    (fun t ht => by cases List.mem_singleton.mp ht; decide) _ []
    (under_plantTick false 2 _ (by simp))).mpr (.inr (by decide +kernel))

/-- It exits before the call that sees the second epoch: that epoch is given up. -/
theorem new_epoch_given_up :
    ¬ Honoured (fun _ => "")
      ([VpnStep.reconcile (plantTick false 1 10), .exit 0].foldl (VpnStep.next fun _ => "") {})
      [.reconcile (plantTick false 2 20)] := by
  intro h
  refine (h 0 _ rfl fun j hj => absurd hj (Nat.not_lt_zero j)).1 ?_
  decide +kernel

end Attempts

end EdgeSensor.Vpn
