import EdgeSensor.Lib.Run
import Mathlib.Algebra.Order.Sub.Basic

/-!
# A meter that is read by differences

A level rises, and from time to time the rise since the last reading is reported. The mark is
what the next difference is taken from. What has been reported since the base adds up to the
level that was last read, if the mark is the level that was reported (`even_next_iff` says of
each event when it stays so). A run in which it does never reports more than there is, and
after a reading it has reported all.
-/

namespace EdgeSensor.Lib

variable {α : Type}

/-- The level now, the level the next difference is taken from, and what has been reported
since the base. -/
structure Meter (α : Type) where
  level : α
  base : α
  mark : α
  reported : α

/-- What happens to a meter, with the level afterwards. -/
inductive MeterEvent (α : Type) where
  | rise (level : α)
  /-- The difference is reported, and the level is read a second time for the mark. -/
  | report (level : α)
  /-- The mark is lost. -/
  | forget (level : α)
  /-- The level becomes the base. -/
  | rebase (level : α)

namespace Meter

section Next

variable [AddCommMonoid α] [Sub α]

def next (m : Meter α) : MeterEvent α → Meter α
  | .rise level => { m with level := level }
  | .report level =>
    { m with level := level, mark := level, reported := m.reported + (m.level - m.mark) }
  | .forget level => { m with level := level, mark := 0 }
  | .rebase level => { level := level, base := level, mark := level, reported := 0 }

/-- The event leaves an even meter even: it does not rise between the difference and the mark,
and no mark is lost. -/
def Keeps (m : Meter α) : MeterEvent α → Prop
  | .rise _ => True
  | .report level => level = m.level
  | .forget _ => m.mark = 0
  | .rebase _ => True

variable [LE α]

/-- What has been reported is what has been marked, and that is there. -/
structure Even (m : Meter α) : Prop where
  sum : m.base + m.reported = m.mark
  le : m.mark ≤ m.level

end Next

section Order

variable [AddCommMonoid α] [PartialOrder α] [CanonicallyOrderedAdd α] [Sub α] [OrderedSub α]
  {m : Meter α} {e : MeterEvent α}

/-- After a difference all has been reported that was there when it was taken. -/
theorem Even.sum_report (h : m.Even) (level : α) :
    (m.next (.report level)).base + (m.next (.report level)).reported = m.level := by
  show m.base + (m.reported + (m.level - m.mark)) = m.level
  rw [← add_assoc, h.sum]
  exact add_tsub_cancel_of_le h.le

/-- **When an event keeps the meter even.** -/
theorem even_next_iff (h : m.Even) (hrise : m.level ≤ (m.next e).level) :
    (m.next e).Even ↔ m.Keeps e := by
  cases e with
  | rise level => exact ⟨fun _ => trivial, fun _ => ⟨h.sum, h.le.trans hrise⟩⟩
  | report level =>
    constructor
    · exact fun heven => heven.sum.symm.trans (h.sum_report level)
    · rintro rfl
      exact ⟨h.sum_report m.level, le_refl _⟩
  | forget level =>
    constructor
    · exact fun heven => h.sum.symm.trans heven.sum
    · exact fun hmark => ⟨h.sum.trans hmark, zero_le⟩
  | rebase level => exact ⟨fun _ => trivial, fun _ => ⟨add_zero level, le_refl _⟩⟩

omit [CanonicallyOrderedAdd α] [OrderedSub α] in
/-- The mark only rises. -/
theorem mark_le_next (h : m.Even) (hrise : m.level ≤ (m.next e).level) (hkeeps : m.Keeps e) :
    m.mark ≤ (m.next e).mark := by
  cases e with
  | rise level => exact le_refl _
  | report level => exact h.le.trans hrise
  | forget level => exact le_of_eq hkeeps
  | rebase level => exact h.le.trans hrise

end Order

/-! ## Runs of a system with a meter -/

section Runs

variable [AddCommMonoid α] [PartialOrder α] [CanonicallyOrderedAdd α] [Sub α] [OrderedSub α]
  {σ ι : Type} {step : σ → ι → σ} {meter : σ → Meter α} {event : σ → ι → MeterEvent α} {s : σ}
  {inputs : List ι}

/-- Each step of the run is an event of the meter that keeps it even, and the level does not
fall. -/
structure Metered (step : σ → ι → σ) (meter : σ → Meter α) (event : σ → ι → MeterEvent α) (s : σ)
    (inputs : List ι) : Prop where
  start : (meter s).Even
  next : ∀ s x, meter (step s x) = (meter s).next (event s x)
  rises : Along step (fun s x => (meter s).level ≤ (meter (step s x)).level) s inputs
  keeps : Along step (fun s x => (meter s).Keeps (event s x)) s inputs

/-- The meter is even throughout. -/
theorem Metered.even (h : Metered step meter event s inputs) (i : Nat) :
    (meter (stateAt step s inputs i)).Even := by
  refine stateAt_inv (p := fun s => (meter s).Even) h.start (fun i x hx heven => ?_) i
  have hrise := h.rises.at i x hx
  rw [h.next] at hrise ⊢
  exact (even_next_iff heven hrise).mpr (h.keeps.at i x hx)

/-- Neither the level nor the mark falls. -/
theorem Metered.mono (h : Metered step meter event s inputs) {i j : Nat} (hij : i ≤ j) :
    (meter (stateAt step s inputs i)).level ≤ (meter (stateAt step s inputs j)).level
      ∧ (meter (stateAt step s inputs i)).mark ≤ (meter (stateAt step s inputs j)).mark := by
  induction hij with
  | refl => exact ⟨le_refl _, le_refl _⟩
  | @step j hij ih =>
    cases hx : inputs[j]? with
    | none =>
      rw [stateAt_succ_of_none hx]
      exact ih
    | some x =>
      have hrise := h.rises.at j x hx
      rw [stateAt_succ hx]
      refine ⟨ih.1.trans hrise, ih.2.trans ?_⟩
      rw [h.next] at hrise ⊢
      exact mark_le_next (h.even j) hrise (h.keeps.at j x hx)

/-- Never more has been reported than there is. -/
theorem Metered.sum_le (h : Metered step meter event s inputs) (i : Nat) :
    (meter (stateAt step s inputs i)).base + (meter (stateAt step s inputs i)).reported
      ≤ (meter (stateAt step s inputs i)).level := by
  have heven := h.even i
  rw [heven.sum]
  exact heven.le

/-- **Once all that is there is marked, all has been reported until the level rises.** -/
theorem Metered.sum_eq (h : Metered step meter event s inputs) {i j : Nat} (hij : i ≤ j)
    (hmarked : (meter (stateAt step s inputs i)).mark = (meter (stateAt step s inputs i)).level)
    (hsame : (meter (stateAt step s inputs j)).level = (meter (stateAt step s inputs i)).level) :
    (meter (stateAt step s inputs j)).base + (meter (stateAt step s inputs j)).reported
      = (meter (stateAt step s inputs j)).level := by
  have heven := h.even j
  rw [heven.sum]
  refine le_antisymm heven.le ?_
  rw [hsame, ← hmarked]
  exact (h.mono hij).2

end Runs

end Meter

end EdgeSensor.Lib
