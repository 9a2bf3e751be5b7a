import Mathlib.Data.Option.Basic
import Mathlib.Logic.Function.Basic

/-!
# One owner among those that are there

Each of some parties is there or not, and one that is there owns something or does not. `Single`
says that exactly one owns it, unless nobody is there. The rules say when it stays so: when one
leaves, when one takes it over, and when one comes while others leave.
-/

namespace EdgeSensor.Lib

variable {δ : Type}

/-- Exactly one of those that are there is the owner. -/
structure Single (u : δ → Option Bool) : Prop where
  unique : ∀ d d', u d = some true → u d' = some true → d = d'
  owned : ∀ d b, u d = some b → ∃ d', u d' = some true

/-- It may leave: it is not the owner, or leaves nobody behind. -/
def MayLeave (u : δ → Option Bool) (d : δ) : Prop := u d = some true → ∀ d', d' ≠ d → u d' = none

/-- The owner when `d` has come to those of `u`: the one they have, else `d`. -/
def Heir (u : δ → Option Bool) (d x : δ) : Prop := u x = some true ∨ x = d ∧ ∀ y, u y ≠ some true

variable {u v : δ → Option Bool} {d : δ}

/-- Nobody is there. -/
theorem Single.of_nobody (h : ∀ d, u d = none) : Single u where
  unique d d' hd _ := by
    rw [h d] at hd
    cases hd
  owned d b hd := by
    rw [h d] at hd
    cases hd

/-- One owner, and nobody else owns it. -/
theorem Single.of_owner (h : u d = some true) (hothers : ∀ d', u d' = some true → d' = d) : Single u where
  unique a b ha hb := (hothers a ha).trans (hothers b hb).symm
  owned _ _ _ := ⟨d, h⟩

theorem Single.leave [DecidableEq δ] (h : Single u) (hmay : MayLeave u d) :
    Single (Function.update u d none) := by
  have hstays : ∀ c b, Function.update u d none c = some b → c ≠ d ∧ u c = some b := by
    intro c b hc
    by_cases hcd : c = d
    · rw [hcd, Function.update_self] at hc
      cases hc
    · rw [Function.update_of_ne hcd] at hc
      exact ⟨hcd, hc⟩
  refine ⟨fun a b ha hb => h.unique a b (hstays a true ha).2 (hstays b true hb).2, fun a b ha => ?_⟩
  obtain ⟨hne, ha⟩ := hstays a b ha
  obtain ⟨o, ho⟩ := h.owned a b ha
  refine ⟨o, ?_⟩
  by_cases hod : o = d
  · -- the owner has left, and `a` would have been left behind
    rw [hod] at ho
    rw [hmay ho a hne] at ha
    cases ha
  · rw [Function.update_of_ne hod]
    exact ho

/-- `d` comes to those of `u` as it has to be, and then some leave, the owner only with all. -/
theorem Single.join {down : δ → Prop} (hunique : ∀ a b, u a = some true → u b = some true → a = b)
    (hd : u d = none) (hdown : ∀ x, down x → v x = none) (hstays : ∀ x, x ≠ d → ¬ down x → v x = u x)
    (hfits : ¬ down d → ∃ b, v d = some b ∧ (b = true ↔ ∀ y, u y ≠ some true))
    (hspared : ∀ x, Heir u d x → down x → ∀ y, y = d ∨ u y ≠ none → down y) : Single v := by
  have hthere : ∀ x b, v x = some b → ¬ down x := by
    intro x b hx hdownx
    rw [hdown x hdownx] at hx
    cases hx
  have hrest : ∀ x b, x ≠ d → v x = some b → u x = some b := by
    intro x b hne hx
    rw [← hstays x hne (hthere x b hx)]
    exact hx
  have honly : ∀ x, v d = some true → v x = some true → x = d := by
    intro x hvd hx
    by_contra hne
    obtain ⟨b, hb, hiff⟩ := hfits (hthere d true hvd)
    rw [hvd] at hb
    cases hb
    exact hiff.mp rfl x (hrest x true hne hx)
  refine ⟨fun a b ha hb => ?_, fun a b ha => ?_⟩
  · by_cases had : a = d
    · subst had
      exact (honly b ha hb).symm
    · by_cases hbd : b = d
      · subst hbd
        exact honly a hb ha
      · exact hunique a b (hrest a true had ha) (hrest b true hbd hb)
  · have hleft : a = d ∨ u a ≠ none := by
      by_cases had : a = d
      · exact .inl had
      · rw [hrest a b had ha]
        exact .inr (Option.some_ne_none b)
    have hheir : ∀ x, Heir u d x → ¬ down x :=
      fun x hx hdownx => hthere a b ha (hspared x hx hdownx a hleft)
    by_cases hnone : ∀ y, u y ≠ some true
    · obtain ⟨c, hc, hiff⟩ := hfits (hheir d (.inr ⟨rfl, hnone⟩))
      rw [hiff.mpr hnone] at hc
      exact ⟨d, hc⟩
    · simp only [not_forall, not_not] at hnone
      obtain ⟨y, hy⟩ := hnone
      have hyd : y ≠ d := by
        rintro rfl
        rw [hd] at hy
        cases hy
      exact ⟨y, (hstays y hyd (hheir y (.inl hy))).trans hy⟩

end EdgeSensor.Lib
