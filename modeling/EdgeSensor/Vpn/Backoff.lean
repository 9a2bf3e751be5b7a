import EdgeSensor.Vpn.Attempts
import Mathlib.Tactic.Linarith
import Mathlib.Tactic.NormNum

/-!
# The backoff of the supervisor (`_bump_backoff` in `services/vpn-client/supervisor.py`)

The delay is doubled at each failure, and set to zero after each attempt at a start, one that
failed or one whose child is still to connect. So it never gets past its second value, and gets
there only where a start fails right after an exit was noticed: `Backed` says what the field holds
at any time, `escalates_iff` which runs keep to the law of doubling.
-/

namespace EdgeSensor.Vpn

open EdgeSensor.Lib EdgeSensor.Py

/-- A child has exited, or could not be started. -/
inductive Failure where
  | exit
  | start
  deriving DecidableEq

section Backoff

variable (repr : Json → String)

/-- The failure that a call comes upon. -/
def failureOf (v : Station) (t : Tick) : Option Failure :=
  if v.ExitPending then some .exit
  else if v.Attempts repr t ∧ t.popenError.isSome = true then some .start
  else none

/-- The status says that the link is up. -/
def Station.connected (v : Station) : Bool := v.status.any fun status => status.state = "connected"

/-- The failures in a row, after a call; a link that is up ends the row. -/
def rowAfter (v : Station) (t : Tick) (row : List Failure) : List Failure :=
  match failureOf repr v t with
  | some failure => row ++ [failure]
  | none => if (v.reconcileOnce repr t).connected then [] else row

/-- The failures in a row before step `i` of a run. -/
def rowAt (steps : List VpnStep) : Nat → List Failure
  | 0 => []
  | i + 1 =>
    match steps[i]? with
    | some (.reconcile t) =>
      rowAfter repr (stateAt (VpnStep.next repr) {} steps i) t (rowAt steps i)
    | _ => rowAt steps i

/-- The delay after `n` failures in a row. -/
def backoffLaw (n : Nat) : Rat := min backoffMax (backoffBase * 2 ^ (n - 1))

/-- At each failure `next_start_at` is put off by the law, and the next attempt comes no earlier. -/
def Escalates (steps : List VpnStep) : Prop :=
  let s := stateAt (VpnStep.next repr) {} steps
  ∀ i t, steps[i]? = some (.reconcile t) → failureOf repr (s i) t ≠ none →
    (s (i + 1)).sup.nextStartAt = t.now + backoffLaw (rowAt repr steps (i + 1)).length
      ∧ ∀ j t', i < j → steps[j]? = some (.reconcile t') →
        (∀ k, i < k → k < j → ¬ At (VpnStep.next repr) {} steps (Attempting repr) k) →
        (s j).Attempts repr t' →
        t.now + backoffLaw (rowAt repr steps (i + 1)).length ≤ t'.now

/-- Reconnect whenever the link is down. -/
def Reconnects (d : Obj) : Prop :=
  (d.get "connect").truthy = true
    ∧ ((Dict.get? d "auto_reconnect").getD (.bool true)).truthy = true

/-- What the backoff is: nothing while there is a child, and between the children what the last
failure has left. -/
structure Backed (d : Obj) (v : Station) (row : List Failure) : Prop where
  held : v.sup.proc.isSome = true →
    v.sup.backoff = 0 ∧ ∀ t, t.desired = d → ¬ v.Changed repr t
  rest : v.sup.proc = none →
    v.sup.backoff = if row.getLast? = some .exit then backoffBase else 0

variable {repr} {v w : Station} {t : Tick} {d : Obj} {row : List Failure}

theorem changed_congr {t' : Tick} (h : t.desired = t'.desired) :
    v.Changed repr t ↔ v.Changed repr t' := by
  unfold Station.Changed Tick.epoch Tick.wantProfile Tick.wantConnect
  rw [h]

theorem isSome_of_running (h : v.running = true) : v.sup.proc.isSome = true := by
  unfold Station.running at h
  cases hproc : v.sup.proc with
  | none =>
    rw [hproc] at h
    cases h
  | some pid => rfl

/-- Where no child runs, the status does not say that the link is up. -/
theorem not_connected_of_idle (h : v.running = false) (t : Tick) :
    (v.writeStatus t).connected = false := by
  unfold Station.connected Station.writeStatus
  rw [h]
  simp only [Option.any_some, Bool.false_eq_true, if_false]
  split
  · split
    · decide
    · decide
  · decide

theorem bumped_zero : bumped 0 = 3 := by decide +kernel

theorem bumped_base : bumped backoffBase = 6 := by decide +kernel

/-- In a run whose request stays, a call comes to rest only where there was no child, or where its
exit is noticed. -/
theorem Backed.rest_of_idle (h : Backed repr d v row) (hd : t.desired = d)
    (hauto : t.autoReconnect = true) (hidle : v.idle repr t = some w) :
    v.ExitPending ∧ w.sup.backoff = backoffBase ∧ w.sup.nextStartAt = t.now + 3
      ∨ v.sup.proc = none ∧ w.sup.backoff = v.sup.backoff := by
  obtain ⟨-, -, -, hrest⟩ := idle_spec hidle
  cases hrest with
  | stopped hrun hchanged => exact absurd hchanged ((h.held (isSome_of_running hrun)).2 t hd)
  | bumped hpending _ _ hbackoff hnext =>
    rw [(h.held hpending.1).1, bumped_zero] at hbackoff hnext
    exact .inl ⟨hpending, hbackoff, hnext⟩
  | gaveUp _ hauto' =>
    rw [hauto] at hauto'
    cases hauto'
  | resting hnone _ hbackoff => exact .inr ⟨hnone, hbackoff⟩

/-- A call that notices an exit puts the start off by the first delay. -/
theorem Backed.exit (h : Backed repr d v row) (hd : t.desired = d)
    (htarget : (t.targetPath repr).isSome = true) (hauto : t.autoReconnect = true)
    (hpending : v.ExitPending) :
    (v.reconcileOnce repr t).sup.proc = none
      ∧ (v.reconcileOnce repr t).sup.backoff = backoffBase
      ∧ (v.reconcileOnce repr t).sup.nextStartAt = t.now + 3 := by
  rcases reconcileOnce_target htarget with ⟨w, path, hidle, hcall⟩ | ⟨hidle, -⟩
  · rcases h.rest_of_idle hd hauto hidle with ⟨-, hbackoff, hnext⟩ | ⟨hnone, -⟩
    · have hdue : ¬ w.Due t := fun hdue => by
        have hnow := hdue.2
        rw [hnext] at hnow
        linarith
      obtain ⟨-, hbackoff', hnext', -⟩ := writeStatus_timing w t
      rw [hcall, startIfDue_of_not_due hdue, hbackoff', hnext', (writeStatus_frame w t).2.1]
      exact ⟨(idle_spec hidle).1, hbackoff, hnext⟩
    · rw [Station.ExitPending, hnone] at hpending
      cases hpending.1
  · obtain ⟨hrun, -⟩ := idle_eq_none hidle
    rw [hpending.2] at hrun
    cases hrun

/-- **One call**: what the backoff is, and how far a failure puts the next start off. -/
theorem Backed.call (h : Backed repr d v row) (hd : t.desired = d)
    (htarget : (t.targetPath repr).isSome = true) (hauto : t.autoReconnect = true) :
    Backed repr d (v.reconcileOnce repr t) (rowAfter repr v t row)
      ∧ ∀ failure, failureOf repr v t = some failure →
        (v.reconcileOnce repr t).sup.proc = none
          ∧ (v.reconcileOnce repr t).sup.nextStartAt
            = t.now + if failure = .start ∧ row.getLast? = some .exit then 6 else 3 := by
  unfold rowAfter
  by_cases hpending : v.ExitPending
  · have hfailure : failureOf repr v t = some .exit := if_pos hpending
    obtain ⟨hnone, hbackoff, hnext⟩ := h.exit hd htarget hauto hpending
    rw [hfailure]
    refine ⟨⟨fun hsome => ?_, fun _ => ?_⟩, ?_⟩
    · rw [hnone] at hsome
      cases hsome
    · rw [hbackoff, List.getLast?_concat, if_pos rfl]
    · rintro _ ⟨⟩
      exact ⟨hnone, hnext⟩
  · by_cases hattempt : v.Attempts repr t
    · obtain ⟨w, hidle, -, hbackoff, -, hout⟩ := attempt_call hattempt
      rcases hout with ⟨hpopen, -, hproc, hprofile, hepoch⟩ | ⟨hpopen, -, hproc, -, hnext⟩
      · have hfailure : failureOf repr v t = none := by
          rw [failureOf, if_neg hpending, if_neg fun h => by rw [hpopen] at h; cases h.2]
        rw [hfailure]
        refine ⟨⟨fun _ => ⟨hbackoff, fun t' ht' => ?_⟩, fun hnone => ?_⟩, nofun⟩
        · rw [changed_congr (ht'.trans hd.symm), Station.Changed, hprofile, hepoch]
          simp
        · rw [hproc] at hnone
          cases hnone
      · have hfailure : failureOf repr v t = some .start := by
          rw [failureOf, if_neg hpending, if_pos ⟨hattempt, Option.isSome_iff_ne_none.mpr hpopen⟩]
        rw [hfailure]
        refine ⟨⟨fun hsome => ?_, fun _ => ?_⟩, ?_⟩
        · rw [hproc] at hsome
          cases hsome
        · rw [hbackoff, List.getLast?_concat, if_neg (by decide)]
        · rintro _ ⟨⟩
          refine ⟨hproc, ?_⟩
          rcases h.rest_of_idle hd hauto hidle with ⟨hpending', -⟩ | ⟨hnone, hsame⟩
          · exact absurd hpending' hpending
          · rw [hnext, hsame, h.rest hnone]
            by_cases hlast : row.getLast? = some .exit
            · rw [if_pos hlast, if_pos ⟨rfl, hlast⟩, bumped_base]
            · rw [if_neg hlast, if_neg fun h => hlast h.2, bumped_zero]
    · have hfailure : failureOf repr v t = none := by
        rw [failureOf, if_neg hpending, if_neg fun h => hattempt h.1]
      rw [hfailure]
      refine ⟨?_, nofun⟩
      rcases quiet_call htarget hattempt with ⟨w, hidle, -, hcall⟩ | ⟨hidle, hcall⟩
      · -- there was no child, and is none
        obtain ⟨-, hbackoff, -⟩ := writeStatus_timing w t
        obtain ⟨-, hproc, -⟩ := writeStatus_frame w t
        have hnone' := (idle_spec hidle).1
        rw [hcall, not_connected_of_idle (by rw [Station.running, hnone']) t]
        rcases h.rest_of_idle hd hauto hidle with ⟨hpending', -⟩ | ⟨hnone, hsame⟩
        · exact absurd hpending' hpending
        · refine ⟨fun hsome => ?_, fun _ => ?_⟩
          · rw [hproc, hnone'] at hsome
            cases hsome
          · rw [hbackoff, hsame]
            exact h.rest hnone
      · -- the child keeps running
        obtain ⟨hrun, -, -⟩ := idle_eq_none hidle
        let kept : Station := { v with sup := { v.sup with gaveUpEpoch := v.latchFor t } }
        obtain ⟨-, hbackoff, -⟩ := writeStatus_timing kept t
        obtain ⟨-, hproc, hprofile, hepoch⟩ := writeStatus_frame kept t
        obtain ⟨hzero, hsame⟩ := h.held (isSome_of_running hrun)
        rw [hcall]
        refine ⟨fun _ => ⟨hbackoff.trans hzero, fun t' ht' => ?_⟩, fun hnone => ?_⟩
        · unfold Station.Changed
          rw [hprofile, hepoch]
          exact hsame t' ht'
        · have hsome := isSome_of_running hrun
          rw [show v.sup.proc = none from hproc.symm.trans hnone] at hsome
          cases hsome

/-! ## The law -/

/-- From the third failure on the law asks for twelve seconds and more. -/
theorem twelve_le_backoffLaw {n : Nat} (h : 3 ≤ n) : 12 ≤ backoffLaw n := by
  have hpow : (2 : Rat) ^ 2 ≤ 2 ^ (n - 1) := pow_le_pow_right₀ (by norm_num) (by omega)
  unfold backoffLaw backoffMax backoffBase
  refine le_min (by norm_num) ?_
  linarith

/-- The failures in a row that the delay follows the law of. -/
def Lawful (row : List Failure) : Prop := row.length = 1 ∨ row = [.exit, .start]

/-- The delay that a failure leads to is the law's for a first failure, and for a start that fails
after a first exit. -/
theorem delay_iff (row : List Failure) (failure : Failure) :
    (if failure = .start ∧ row.getLast? = some .exit then 6 else 3)
        = backoffLaw (row ++ [failure]).length ↔ Lawful (row ++ [failure]) := by
  have hone : backoffLaw 1 = 3 := by decide +kernel
  have htwo : backoffLaw 2 = 6 := by decide +kernel
  match row with
  | [] => exact iff_of_true (by rw [if_neg fun h => nomatch h.2]; exact hone.symm) (.inl rfl)
  | [before] =>
    have hlength : ([before] ++ [failure]).length = 2 := rfl
    rw [hlength, htwo]
    cases before with
    | start => exact iff_of_false (by simp) (by simp [Lawful])
    | exit =>
      cases failure with
      | start => exact iff_of_true (by simp) (.inr rfl)
      | exit => exact iff_of_false (by simp) (by simp [Lawful])
  | x :: y :: row =>
    have hlong := @twelve_le_backoffLaw ((x :: y :: row) ++ [failure]).length (by simp)
    refine iff_of_false (fun h => ?_) (by simp [Lawful])
    rw [← h] at hlong
    split at hlong
    · linarith
    · linarith

theorem backed_at {steps : List VpnStep} (hauto : Reconnects d) (hsteps : Under repr d steps)
    (i : Nat) : Backed repr d (stateAt (VpnStep.next repr) {} steps i) (rowAt repr steps i) := by
  induction i with
  | zero => exact ⟨nofun, fun _ => rfl⟩
  | succ i ih =>
    cases hstep : steps[i]? with
    | none =>
      rw [stateAt_succ_of_none hstep, rowAt, hstep]
      exact ih
    | some step =>
      rw [stateAt_succ hstep, rowAt, hstep]
      cases step with
      | exit pid => exact ⟨ih.held, ih.rest⟩
      | reconcile t =>
        obtain ⟨hd, htarget⟩ := hsteps t (List.mem_of_getElem? hstep)
        exact (ih.call hd htarget (by rw [Tick.autoReconnect, hd]; exact hauto.2)).1

/-- **The delays follow the law** in those runs in which each failure is the first since the link
was up, or a start that fails right after a first exit. -/
theorem escalates_iff (repr : Json → String) (d : Obj) (hauto : Reconnects d)
    (steps : List VpnStep) (hsteps : Under repr d steps) :
    Escalates repr steps ↔ ∀ i t, steps[i]? = some (.reconcile t) →
      failureOf repr (stateAt (VpnStep.next repr) {} steps i) t ≠ none →
      Lawful (rowAt repr steps (i + 1)) := by
  refine forall₄_congr fun i t ht hfails => ?_
  obtain ⟨hd, htarget⟩ := hsteps t (List.mem_of_getElem? ht)
  obtain ⟨failure, hfailure⟩ := Option.ne_none_iff_exists'.mp hfails
  obtain ⟨-, hcall⟩ := (backed_at hauto hsteps i).call hd htarget
    (by rw [Tick.autoReconnect, hd]; exact hauto.2)
  obtain ⟨hnone, hnext⟩ := hcall failure hfailure
  have hrow : rowAt repr steps (i + 1) = rowAt repr steps i ++ [failure] := by
    rw [rowAt, ht]
    simp only [rowAfter, hfailure]
  rw [hrow, ← delay_iff, stateAt_succ ht, VpnStep.next, hnext]
  constructor
  · rintro ⟨h, -⟩
    exact add_left_cancel h
  · intro h
    refine ⟨congrArg (t.now + ·) h, fun j t' hij ht' hquiet hattempt => ?_⟩
    -- between the failure and the attempt nothing moves `next_start_at`
    have hrest : (stateAt (VpnStep.next repr) {} steps (i + 1)).sup.proc = none := by
      rw [stateAt_succ ht]
      exact hnone
    obtain ⟨hnone', hnext', -⟩ := rest_run (fun t ht => (hsteps t ht).2) hij hrest
      fun k hik hkj => hquiet k hik hkj
    obtain ⟨-, w, hidle, -, hnow⟩ := hattempt
    obtain ⟨-, -, hsame⟩ := (idle_spec hidle).2.2.2.of_none hnone'
    rw [hsame, hnext', stateAt_succ ht, VpnStep.next, hnext, h] at hnow
    exact hnow

/-- One exit and a restart. -/
theorem escalates_once :
    Escalates (fun _ => "") [.reconcile (plantTick true 1 10), .exit 0,
      .reconcile (plantTick true 1 20), .reconcile (plantTick true 1 30)] := by
  refine (escalates_iff (fun _ => "") (plantTick true 1 0).desired ⟨rfl, rfl⟩ _
    (under_plantTick true 1 _ (by simp))).mpr fun i t ht hfails => ?_
  match i, ht with
  | 0, ht =>
    cases ht
    exact absurd (by decide +kernel) hfails
  | 2, ht =>
    cases ht
    exact .inl (by decide +kernel)
  | 3, ht =>
    cases ht
    exact absurd (by decide +kernel) hfails

/-- The second exit is followed by the first delay again: three seconds, where the law has six. -/
theorem backoff_stays :
    let steps : List VpnStep := [.reconcile (plantTick true 1 10), .exit 0,
      .reconcile (plantTick true 1 20), .reconcile (plantTick true 1 30), .exit 1,
      .reconcile (plantTick true 1 40)]
    Reconnects (plantTick true 1 0).desired
      ∧ Under (fun _ => "") (plantTick true 1 0).desired steps
      ∧ ¬ Escalates (fun _ => "") steps := by
  refine ⟨⟨rfl, rfl⟩, under_plantTick true 1 _ (by simp), fun h => ?_⟩
  have hdelay := (h 5 _ rfl (by decide +kernel)).1
  exact absurd hdelay (by decide +kernel)

end Backoff

end EdgeSensor.Vpn
