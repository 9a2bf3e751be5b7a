import Mathlib.Data.List.Basic

/-!
# Runs of a machine, position by position

The state a machine is in before each input of a run, and predicates placed at a
position of the run.
-/

namespace EdgeSensor.Lib

variable {σ ι : Type}

/-- The state before the input at position `i`. -/
def stateAt (step : σ → ι → σ) (s : σ) (inputs : List ι) (i : Nat) : σ :=
  (inputs.take i).foldl step s

/-- `p` holds of the state and the input at position `i`. -/
def At (step : σ → ι → σ) (s : σ) (inputs : List ι) (p : σ → ι → Prop) (i : Nat) : Prop :=
  ∃ x, inputs[i]? = some x ∧ p (stateAt step s inputs i) x

/-- Position `i` is the first at which `p` holds. -/
def FirstAt (step : σ → ι → σ) (s : σ) (inputs : List ι) (p : σ → ι → Prop) (i : Nat) : Prop :=
  At step s inputs p i ∧ ∀ j < i, ¬ At step s inputs p j

theorem stateAt_zero (step : σ → ι → σ) (s : σ) (inputs : List ι) :
    stateAt step s inputs 0 = s := rfl

theorem stateAt_succ {step : σ → ι → σ} {s : σ} {inputs : List ι} {i : Nat} {x : ι}
    (h : inputs[i]? = some x) :
    stateAt step s inputs (i + 1) = step (stateAt step s inputs i) x := by
  rw [stateAt, List.take_add_one, h, List.foldl_append]
  rfl

theorem stateAt_succ_of_none {step : σ → ι → σ} {s : σ} {inputs : List ι} {i : Nat}
    (h : inputs[i]? = none) : stateAt step s inputs (i + 1) = stateAt step s inputs i := by
  rw [stateAt, List.take_add_one, h]
  simp [stateAt]

theorem at_some {step : σ → ι → σ} {s : σ} {inputs : List ι} {p : σ → ι → Prop} {i : Nat} {x : ι}
    (h : inputs[i]? = some x) : At step s inputs p i ↔ p (stateAt step s inputs i) x := by
  constructor
  · rintro ⟨x', hx', hp⟩
    rw [h] at hx'
    cases hx'
    exact hp
  · intro hp
    exact ⟨x, h, hp⟩

theorem not_at_none {step : σ → ι → σ} {s : σ} {inputs : List ι} {p : σ → ι → Prop} {i : Nat}
    (h : inputs[i]? = none) : ¬ At step s inputs p i := by
  rintro ⟨x, hx, _⟩
  rw [h] at hx
  cases hx

/-- What holds at the start and survives every step of the run holds in every state of it. -/
theorem stateAt_inv {step : σ → ι → σ} {s : σ} {inputs : List ι} {p : σ → Prop} (h0 : p s)
    (hstep : ∀ i x, inputs[i]? = some x → p (stateAt step s inputs i) →
      p (step (stateAt step s inputs i) x)) (i : Nat) : p (stateAt step s inputs i) := by
  induction i with
  | zero => exact h0
  | succ i ih =>
    cases hx : inputs[i]? with
    | none =>
      rw [stateAt_succ_of_none hx]
      exact ih
    | some x =>
      rw [stateAt_succ hx]
      exact hstep i x hx ih

/-- What one step brings about and the steps after it keep, holds from then on. -/
theorem stateAt_since {step : σ → ι → σ} {s : σ} {inputs : List ι} {q : σ → ι → Prop}
    {p : σ → Prop} {i j : Nat} (hj : At step s inputs q j)
    (hstart : ∀ s x, inputs[j]? = some x → q s x → p (step s x))
    (hkeep : ∀ k x, j < k → k < i → inputs[k]? = some x → p (stateAt step s inputs k) →
      p (step (stateAt step s inputs k) x)) (hji : j < i) : p (stateAt step s inputs i) := by
  induction i with
  | zero => omega
  | succ i ih =>
    by_cases hlast : j = i
    · obtain ⟨x, hx, hq⟩ := hj
      subst hlast
      rw [stateAt_succ hx]
      exact hstart _ x hx hq
    · have hbefore : p (stateAt step s inputs i) :=
        ih (fun k x hjk hki => hkeep k x hjk (by omega)) (by omega)
      cases hx : inputs[i]? with
      | none =>
        rw [stateAt_succ_of_none hx]
        exact hbefore
      | some x =>
        rw [stateAt_succ hx]
        exact hkeep i x (by omega) (by omega) hx hbefore

/-- `p` holds of every input of the run and the state before it. -/
def Along (step : σ → ι → σ) (p : σ → ι → Prop) : σ → List ι → Prop
  | _, [] => True
  | s, x :: inputs => p s x ∧ Along step p (step s x) inputs

instance Along.decidable (step : σ → ι → σ) (p : σ → ι → Prop) [∀ s x, Decidable (p s x)] :
    ∀ s inputs, Decidable (Along step p s inputs)
  | _, [] => .isTrue trivial
  | s, x :: inputs =>
    have := Along.decidable step p (step s x) inputs
    inferInstanceAs (Decidable (p s x ∧ Along step p (step s x) inputs))

theorem Along.at {step : σ → ι → σ} {p : σ → ι → Prop} {s : σ} {inputs : List ι}
    (h : Along step p s inputs) (i : Nat) (x : ι) (hx : inputs[i]? = some x) :
    p (stateAt step s inputs i) x := by
  induction inputs generalizing s i with
  | nil => cases hx
  | cons y inputs ih =>
    cases i with
    | zero =>
      cases hx
      exact h.1
    | succ i => exact ih h.2 i hx

/-- What each step keeps where `p` holds of it, a run that meets `p` keeps. -/
theorem Along.inv {step : σ → ι → σ} {p : σ → ι → Prop} {q : σ → Prop} {s : σ} {inputs : List ι}
    (h : Along step p s inputs) (h0 : q s) (hstep : ∀ s x, q s → p s x → q (step s x)) :
    q (inputs.foldl step s) := by
  induction inputs generalizing s with
  | nil => exact h0
  | cons x inputs ih => exact ih h.2 (hstep s x h0 h.1)

/-- What follows from `p` and an invariant is met along the run as well. -/
theorem Along.imp {step : σ → ι → σ} {p r : σ → ι → Prop} {q : σ → Prop} {s : σ} {inputs : List ι}
    (h : Along step p s inputs) (h0 : q s) (hstep : ∀ s x, q s → p s x → q (step s x))
    (himp : ∀ s x, q s → p s x → r s x) : Along step r s inputs := by
  induction inputs generalizing s with
  | nil => trivial
  | cons x inputs ih => exact ⟨himp s x h0 h.1, ih h.2 (hstep s x h0 h.1)⟩

theorem Along.and {step : σ → ι → σ} {p r : σ → ι → Prop} {s : σ} {inputs : List ι}
    (h : Along step p s inputs) (h' : Along step r s inputs) :
    Along step (fun s x => p s x ∧ r s x) s inputs := by
  induction inputs generalizing s with
  | nil => trivial
  | cons x inputs ih => exact ⟨⟨h.1, h'.1⟩, ih h.2 h'.2⟩

theorem along_true {step : σ → ι → σ} {s : σ} (inputs : List ι) :
    Along step (fun _ _ => True) s inputs := by
  induction inputs generalizing s with
  | nil => trivial
  | cons x inputs ih => exact ⟨trivial, ih⟩

/-- A run that does not end in `bad` has met `p`, if not to meet it is bad and bad is for good. -/
theorem along_of_not_bad {step : σ → ι → σ} {p : σ → ι → Prop} {bad : σ → Prop} {s : σ}
    {inputs : List ι} (hlasts : ∀ s x, bad s → bad (step s x))
    (hmiss : ∀ s x, ¬ p s x → bad (step s x)) (hend : ¬ bad (inputs.foldl step s)) :
    Along step p s inputs := by
  have hkept : ∀ (inputs : List ι) (s : σ), bad s → bad (inputs.foldl step s) := by
    intro inputs
    induction inputs with
    | nil => exact fun _ hbad => hbad
    | cons x inputs ih => exact fun s hbad => ih _ (hlasts s x hbad)
  induction inputs generalizing s with
  | nil => trivial
  | cons x inputs ih =>
    refine ⟨?_, ih hend⟩
    by_contra hnot
    exact hend (hkept inputs _ (hmiss s x hnot))

/-- `At` reads the predicate only where the run is. -/
theorem at_congr {step : σ → ι → σ} {s : σ} {inputs : List ι} {p q : σ → ι → Prop}
    (h : ∀ i x, inputs[i]? = some x → (p (stateAt step s inputs i) x ↔ q (stateAt step s inputs i) x))
    (i : Nat) : At step s inputs p i ↔ At step s inputs q i := by
  constructor
  · intro ⟨x, hx, hp⟩
    exact ⟨x, hx, (h i x hx).mp hp⟩
  · intro ⟨x, hx, hq⟩
    exact ⟨x, hx, (h i x hx).mpr hq⟩

/-- Where something holds at all, it holds for a first time, no later. -/
theorem exists_firstAt {step : σ → ι → σ} {s : σ} {inputs : List ι} {p : σ → ι → Prop} {i : Nat}
    (h : At step s inputs p i) : ∃ j ≤ i, FirstAt step s inputs p j := by
  induction i using Nat.strongRecOn with
  | ind i ih =>
    by_cases hearlier : ∃ j < i, At step s inputs p j
    · obtain ⟨j, hj, ht⟩ := hearlier
      obtain ⟨k, hk, hfirst⟩ := ih j hj ht
      exact ⟨k, by omega, hfirst⟩
    · exact ⟨i, Nat.le_refl i, h, fun j hj ht => hearlier ⟨j, hj, ht⟩⟩

theorem FirstAt.unique {step : σ → ι → σ} {s : σ} {inputs : List ι} {p : σ → ι → Prop} {i j : Nat}
    (hi : FirstAt step s inputs p i) (hj : FirstAt step s inputs p j) : i = j := by
  rcases Nat.lt_trichotomy i j with h | h | h
  · exact absurd hi.1 (hj.2 i h)
  · exact h
  · exact absurd hj.1 (hi.2 j h)

end EdgeSensor.Lib
