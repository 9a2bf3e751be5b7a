import Mathlib.Data.List.Induction
import Mathlib.Tactic.Common

/-!
# Tried until it works, a number of times at most

What is tried waits after a failure for the next try, until one succeeds or `budget` have
failed. `after` is where the outcomes of the tries so far have brought it; it is `none` where a
try came too late. `after_eq` reads the outcomes back from where it stands.
-/

namespace EdgeSensor.Lib

/-- Where something stands that is tried until it works. -/
inductive Standing where
  | waiting (failures : Nat)
  | done (failures : Nat)
  | givenUp
  deriving DecidableEq

namespace Standing

/-- After one more try. -/
def next (budget : Nat) : Standing → Bool → Option Standing
  | .waiting n, true => some (.done n)
  | .waiting n, false => some (if n + 1 < budget then .waiting (n + 1) else .givenUp)
  | .done _, _ => none
  | .givenUp, _ => none

/-- After these tries. -/
def after (budget : Nat) (tries : List Bool) : Option Standing :=
  tries.foldlM (next budget) (.waiting 0)

/-- The outcomes that have brought it there. -/
def Outcomes (budget : Nat) (tries : List Bool) : Standing → Prop
  | .waiting n => tries = List.replicate n false ∧ n < budget
  | .done n => tries = List.replicate n false ++ [true] ∧ n < budget
  | .givenUp => tries = List.replicate budget false

variable {budget : Nat} {tries : List Bool} {st st' : Standing}

theorem after_concat (ok : Bool) :
    after budget (tries ++ [ok]) = (after budget tries).bind fun st => next budget st ok := by
  unfold after
  rw [List.foldlM_append]
  cases tries.foldlM (next budget) (.waiting 0) with
  | none => rfl
  | some st =>
    show (next budget st ok).bind some = next budget st ok
    exact Option.bind_fun_some _

theorem after_concat_some {ok : Bool} (h : after budget tries = some st)
    (hnext : next budget st ok = some st') : after budget (tries ++ [ok]) = some st' := by
  rw [after_concat, h]
  exact hnext

/-- One try more: the outcomes say where it stands. -/
theorem Outcomes.concat {ok : Bool} (h : Outcomes budget tries st)
    (hnext : next budget st ok = some st') : Outcomes budget (tries ++ [ok]) st' := by
  cases st with
  | waiting n =>
    obtain ⟨rfl, hn⟩ := h
    cases ok with
    | true =>
      cases hnext
      exact ⟨rfl, hn⟩
    | false =>
      have hone : List.replicate n false ++ [false] = List.replicate (n + 1) false :=
        List.replicate_succ'.symm
      rw [hone]
      simp only [next, Option.some.injEq] at hnext
      split at hnext
      next hlt =>
        subst hnext
        exact ⟨rfl, hlt⟩
      next hge =>
        subst hnext
        have hall : n + 1 = budget := by omega
        rw [hall]
        rfl
  | done n => cases hnext
  | givenUp => cases hnext

/-- **Where it stands says how the tries went.** -/
theorem after_eq (hbudget : 1 ≤ budget) (h : after budget tries = some st) :
    Outcomes budget tries st := by
  induction tries using List.reverseRecOn generalizing st with
  | nil =>
    cases h
    exact ⟨rfl, hbudget⟩
  | append_singleton tries ok ih =>
    rw [after_concat] at h
    obtain ⟨before, hbefore, hnext⟩ := Option.bind_eq_some_iff.mp h
    exact (ih hbefore).concat hnext

/-- Never more tries than the budget. -/
theorem length_le (hbudget : 1 ≤ budget) (h : after budget tries = some st) :
    tries.length ≤ budget := by
  have houtcomes := after_eq hbudget h
  cases st with
  | waiting n =>
    rw [houtcomes.1, List.length_replicate]
    exact Nat.le_of_lt houtcomes.2
  | done n =>
    rw [houtcomes.1, List.length_append, List.length_replicate, List.length_singleton]
    exact houtcomes.2
  | givenUp =>
    have hlength : tries.length = budget := by
      rw [show tries = List.replicate budget false from houtcomes, List.length_replicate]
    exact Nat.le_of_eq hlength

end Standing

end EdgeSensor.Lib
