import EdgeSensor.Lib.Run
import Mathlib.Data.Finset.Insert

/-!
# One-shot latches behind a gate

A machine latches a key the first time its trigger holds and reports then and
only then; a gate decides whether the report gets out. The latch does not look at
the gate. `gated_iff` says what that costs: whenever the trigger holds with the
gate open the key has been reported by then, *if and only if* no trigger ever
meets an open gate or the very first trigger does.

`LatchStep` is one step of the set of latched keys itself: what it adds, and what it
reports. A step either `fires` on one fresh key or stays `quiet`.
-/

namespace EdgeSensor.Lib

/-- A step from the latched keys `before` to `after`: it latches the keys it acts on,
and reports those that were not latched. -/
structure LatchStep {κ : Type} (before after : Finset κ) (acts reported : κ → Prop) : Prop where
  mem_iff : ∀ k, k ∈ after ↔ k ∈ before ∨ acts k
  reported_iff : ∀ k, reported k ↔ acts k ∧ k ∉ before

namespace LatchStep

variable {κ : Type} {before : Finset κ} {acts reported : κ → Prop}

/-- A step that acts on one fresh key and reports it. -/
theorem fires [DecidableEq κ] {key : κ} (hfresh : key ∉ before) (hacts : ∀ k, acts k ↔ k = key)
    (hreported : ∀ k, reported k ↔ k = key) :
    LatchStep before (insert key before) acts reported where
  mem_iff k := by
    rw [Finset.mem_insert, hacts, or_comm]
  reported_iff k := by
    rw [hreported, hacts]
    constructor
    · rintro rfl
      exact ⟨rfl, hfresh⟩
    · exact And.left

/-- A step that reports nothing, every key it acts on being latched already. -/
theorem quiet (hreported : ∀ k, ¬ reported k) (hlatched : ∀ k, acts k → k ∈ before) :
    LatchStep before before acts reported where
  mem_iff k := by
    constructor
    · exact .inl
    · rintro (hmem | hacts)
      · exact hmem
      · exact hlatched k hacts
  reported_iff k := by
    constructor
    · intro h
      exact absurd h (hreported k)
    · rintro ⟨hacts, hfresh⟩
      exact absurd (hlatched k hacts) hfresh

end LatchStep

/-- A latch: `set` records that `trigger` has held. -/
structure Latch (σ ι : Type) where
  step : σ → ι → σ
  set : σ → Prop
  trigger : σ → ι → Prop
  gate : σ → ι → Prop
  set_step : ∀ s x, set (step s x) ↔ set s ∨ trigger s x

namespace Latch

variable {σ ι : Type} (l : Latch σ ι)

/-- The report gets out: a trigger, not latched yet, gate open. -/
def fires (s : σ) (x : ι) : Prop := l.trigger s x ∧ l.gate s x ∧ ¬ l.set s

variable {s : σ} {inputs : List ι}

/-- The latch at position `i` remembers every earlier trigger. -/
theorem set_stateAt (i : Nat) :
    l.set (stateAt l.step s inputs i)
      ↔ l.set s ∨ ∃ j < i, At l.step s inputs l.trigger j := by
  induction i with
  | zero => simp [stateAt_zero]
  | succ i ih =>
    cases hx : inputs[i]? with
    | none =>
      rw [stateAt_succ_of_none hx, ih]
      refine or_congr_right ⟨fun ⟨j, hj, h⟩ => ⟨j, by omega, h⟩, fun ⟨j, hj, h⟩ => ?_⟩
      rcases Nat.lt_succ_iff_lt_or_eq.mp hj with hlt | rfl
      · exact ⟨j, hlt, h⟩
      · obtain ⟨x, hx', -⟩ := h
        rw [hx] at hx'
        cases hx'
    | some x =>
      rw [stateAt_succ hx, l.set_step, ih, or_assoc]
      refine or_congr_right ⟨?_, ?_⟩
      · intro h
        rcases h with ⟨j, hj, h⟩ | h
        · exact ⟨j, by omega, h⟩
        · exact ⟨i, by omega, x, hx, h⟩
      · intro ⟨j, hj, h⟩
        rcases Nat.lt_succ_iff_lt_or_eq.mp hj with hlt | rfl
        · exact .inl ⟨j, hlt, h⟩
        · obtain ⟨y, hy, h⟩ := h
          rw [hx] at hy
          cases hy
          exact .inr h

/-- From an unset latch, the report gets out exactly at the first trigger, if the
gate is open there. -/
theorem fires_iff (h0 : ¬ l.set s) (i : Nat) :
    At l.step s inputs l.fires i ↔ FirstAt l.step s inputs l.trigger i
      ∧ At l.step s inputs l.gate i := by
  constructor
  · intro ⟨x, hx, ht, hg, hset⟩
    refine ⟨⟨⟨x, hx, ht⟩, fun j hj h => ?_⟩, ⟨x, hx, hg⟩⟩
    exact hset ((l.set_stateAt i).mpr (.inr ⟨j, hj, h⟩))
  · intro ⟨⟨⟨x, hx, ht⟩, hfirst⟩, ⟨y, hy, hg⟩⟩
    rw [hx] at hy
    cases hy
    refine ⟨x, hx, ht, hg, fun hset => ?_⟩
    rcases (l.set_stateAt i).mp hset with h | ⟨j, hj, h⟩
    · exact h0 h
    · exact hfirst j hj h

/-- **The law of the gated latch.** Every trigger that meets an open gate has been
reported by then, exactly when the first trigger met an open gate or no trigger
ever does. -/
theorem gated_iff (h0 : ¬ l.set s) :
    (∀ i, At l.step s inputs (fun s x => l.trigger s x ∧ l.gate s x) i →
      ∃ j ≤ i, At l.step s inputs l.fires j)
    ↔ (∀ i, FirstAt l.step s inputs l.trigger i → At l.step s inputs l.gate i)
      ∨ ∀ i, ¬ At l.step s inputs (fun s x => l.trigger s x ∧ l.gate s x) i := by
  constructor
  · intro h
    by_cases hex : ∃ i, At l.step s inputs (fun s x => l.trigger s x ∧ l.gate s x) i
    · left
      obtain ⟨i, hi⟩ := hex
      obtain ⟨j, -, hfire⟩ := h i hi
      obtain ⟨hfirst, hgate⟩ := (l.fires_iff h0 j).mp hfire
      intro k hk
      rw [hk.unique hfirst]
      exact hgate
    · exact .inr fun i hi => hex ⟨i, hi⟩
  · intro h i hi
    rcases h with h | h
    · obtain ⟨x, hx, ht, hg⟩ := hi
      obtain ⟨j, hj, hfirst⟩ := exists_firstAt ⟨x, hx, ht⟩
      exact ⟨j, hj, (l.fires_iff h0 j).mpr ⟨hfirst, h j hfirst⟩⟩
    · exact absurd hi (h i)

end Latch

end EdgeSensor.Lib
