import EdgeSensor.Lib.Run
import Mathlib.Logic.Function.Basic

/-!
# One temporary file for several writers

Each party writes what it has to say to a temporary file and renames that over the target.
The name of the temporary file is the same for all, so what is renamed is what was written
last, and a party whose file is gone already finds nothing to rename.

Between a party's write and its rename it is pending. `Owned` says that only one is, and
that the file holds what it wrote: so it is when every write finds nobody pending. `Short`
says that more parties are to rename than there are files: so it is from the first write
that finds somebody pending, and for good, unless a rename fails (`short_write`,
`Short.write`, `Short.rename`).
-/

namespace EdgeSensor.Lib

/-- What the parties have written and not yet renamed, and what is in the temporary file. -/
structure SharedTemp (ι κ : Type) where
  pending : ι → Option κ
  temp : Option κ

namespace SharedTemp

variable {ι κ : Type} {s : SharedTemp ι κ} {p : ι} {c : κ}

/-- Nobody is pending. -/
def Free (s : SharedTemp ι κ) : Prop := ∀ p, s.pending p = none

/-- Who is pending is alone in that, and the file holds what it wrote. -/
def Owned (s : SharedTemp ι κ) : Prop :=
  ∀ p c, s.pending p = some c → s.temp = some c ∧ ∀ q, q ≠ p → s.pending q = none

/-- There are more parties to rename than files to be renamed. -/
def Short (s : SharedTemp ι κ) : Prop :=
  ∃ p, s.pending p ≠ none ∧ (s.temp ≠ none → ∃ q, q ≠ p ∧ s.pending q ≠ none)

theorem Free.owned (h : s.Free) : s.Owned := by
  intro p c hp
  rw [h p] at hp
  cases hp

theorem Short.not_free (h : s.Short) : ¬ s.Free := by
  obtain ⟨p, hp, -⟩ := h
  exact fun hfree => hp (hfree p)

variable [DecidableEq ι]

def write (s : SharedTemp ι κ) (p : ι) (c : κ) : SharedTemp ι κ :=
  { pending := Function.update s.pending p (some c), temp := some c }

def rename (s : SharedTemp ι κ) (p : ι) : SharedTemp ι κ :=
  { pending := Function.update s.pending p none, temp := none }

theorem Free.owned_write (h : s.Free) : (s.write p c).Owned := by
  have hothers : ∀ q, q ≠ p → (s.write p c).pending q = none := fun q hq => by
    rw [show (s.write p c).pending q = s.pending q from Function.update_of_ne hq _ _]
    exact h q
  intro q d hq
  by_cases hqp : q = p
  · subst hqp
    rw [show (s.write q c).pending q = some c from Function.update_self ..] at hq
    cases hq
    exact ⟨rfl, hothers⟩
  · rw [hothers q hqp] at hq
    cases hq

/-- The owner's rename leaves nobody pending. -/
theorem Owned.free_rename (h : s.Owned) (hp : s.pending p = some c) : (s.rename p).Free := by
  intro q
  by_cases hqp : q = p
  · subst hqp
    exact Function.update_self ..
  · rw [show (s.rename p).pending q = s.pending q from Function.update_of_ne hqp _ _]
    exact (h p c hp).2 q hqp

/-- Who is pending stays so when another one writes or renames. -/
theorem pending_write_ne {q : ι} (hq : s.pending q ≠ none) : (s.write p c).pending q ≠ none := by
  by_cases hqp : q = p
  · rw [hqp, show (s.write p c).pending p = some c from Function.update_self ..]
    exact Option.some_ne_none c
  · rw [show (s.write p c).pending q = s.pending q from Function.update_of_ne hqp _ _]
    exact hq

theorem pending_write_self : (s.write p c).pending p ≠ none := by
  rw [show (s.write p c).pending p = some c from Function.update_self ..]
  exact Option.some_ne_none c

/-- A write that finds somebody pending: two are, for one file. -/
theorem short_write (hp : s.pending p = none) (hbusy : ¬ s.Free) : (s.write p c).Short := by
  obtain ⟨q, hq⟩ := not_forall.mp hbusy
  refine ⟨p, pending_write_self, fun _ => ⟨q, ?_, pending_write_ne hq⟩⟩
  rintro rfl
  exact hq hp

theorem Short.write (h : s.Short) (hp : s.pending p = none) : (s.write p c).Short :=
  short_write hp h.not_free

/-- A rename that finds a file: it was one of two that were pending. -/
theorem Short.rename (h : s.Short) (htemp : s.temp ≠ none) : (s.rename p).Short := by
  obtain ⟨q, hq, htwo⟩ := h
  obtain ⟨r, hrq, hr⟩ := htwo htemp
  -- one of the two is not the party that renames
  have hrest : ∃ q', q' ≠ p ∧ s.pending q' ≠ none := by
    by_cases hqp : q = p
    · exact ⟨r, fun hrp => hrq (hrp.trans hqp.symm), hr⟩
    · exact ⟨q, hqp, hq⟩
  obtain ⟨q', hqp, hq'⟩ := hrest
  refine ⟨q', ?_, fun hfile => absurd rfl hfile⟩
  rw [show (s.rename p).pending q' = s.pending q' from Function.update_of_ne hqp _ _]
  exact hq'

end SharedTemp

end EdgeSensor.Lib
