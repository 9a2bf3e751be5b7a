import Mathlib.Data.List.Infix

/-!
# A scan that stops after a streak

A list is gone through until so many misses were met in a row; a hit starts the count again, and
what is neither leaves it as it is. No hit is left out (`filter_upToStreak_iff`) unless one stands
behind such a streak.
-/

namespace EdgeSensor.Lib

section Streak

variable {α : Type} (hit miss : α → Bool) (n : Nat)

/-- What the scan goes through, with a streak of `k` behind it. -/
def upToStreak : Nat → List α → List α
  | _, [] => []
  | k, x :: xs =>
    if hit x then x :: upToStreak 0 xs
    else if miss x then if n ≤ k + 1 then [x] else x :: upToStreak (k + 1) xs
    else x :: upToStreak k xs

/-- There are `n` misses in a row. -/
def HasStreak (xs : List α) : Prop :=
  ∃ mid, mid <:+: xs ∧ (∀ x ∈ mid, hit x = false) ∧ n ≤ mid.countP miss

/-- Or there are, with the `k` before. -/
def HasStreakFrom (k : Nat) (xs : List α) : Prop :=
  HasStreak hit miss n xs
    ∨ ∃ mid, mid <+: xs ∧ (∀ x ∈ mid, hit x = false) ∧ n ≤ k + mid.countP miss

/-- No hit stands behind a streak. -/
def NoHitBehind (k : Nat) (xs : List α) : Prop :=
  ∀ before x after, xs = before ++ x :: after → hit x = true → ¬ HasStreakFrom hit miss n k before

variable {hit miss n} {k : Nat} {x : α} {xs : List α}

theorem upToStreak_initial (k : Nat) (xs : List α) : upToStreak hit miss n k xs <+: xs := by
  induction xs generalizing k with
  | nil => exact List.prefix_refl []
  | cons x xs ih =>
    have hcons (k : Nat) : x :: upToStreak hit miss n k xs <+: x :: xs :=
      List.cons_prefix_cons.mpr ⟨rfl, ih k⟩
    rw [upToStreak]
    split
    · exact hcons 0
    · split
      · split
        · exact List.cons_prefix_cons.mpr ⟨rfl, List.nil_prefix⟩
        · exact hcons (k + 1)
      · exact hcons k

theorem not_hasStreakFrom_nil (hk : k < n) : ¬ HasStreakFrom hit miss n k [] := by
  rintro (⟨mid, hmid, -, hcount⟩ | ⟨mid, hmid, -, hcount⟩)
  · rw [List.infix_nil.mp hmid, List.countP_nil] at hcount
    omega
  · rw [List.prefix_nil.mp hmid, List.countP_nil] at hcount
    omega

/-- After a hit the count starts again. -/
theorem hasStreakFrom_hit (hk : k < n) (hx : hit x = true) :
    HasStreakFrom hit miss n k (x :: xs) ↔ HasStreakFrom hit miss n 0 xs := by
  have hnil {mid : List α} (hpre : mid <+: x :: xs) (hno : ∀ y ∈ mid, hit y = false) :
      mid = [] := by
    rcases List.prefix_cons_iff.mp hpre with rfl | ⟨mid', rfl, -⟩
    · rfl
    · rw [hno x List.mem_cons_self] at hx
      cases hx
  constructor
  · rintro (⟨mid, hmid, hno, hcount⟩ | ⟨mid, hmid, hno, hcount⟩)
    · rcases List.infix_cons_iff.mp hmid with hpre | hinf
      · rw [hnil hpre hno, List.countP_nil] at hcount
        omega
      · exact .inl ⟨mid, hinf, hno, hcount⟩
    · rw [hnil hmid hno, List.countP_nil] at hcount
      omega
  · rintro (⟨mid, hmid, hno, hcount⟩ | ⟨mid, hmid, hno, hcount⟩)
    · exact .inl ⟨mid, List.infix_cons hmid, hno, hcount⟩
    · refine .inl ⟨mid, List.infix_cons hmid.isInfix, hno, ?_⟩
      omega

/-- Another element adds to the streak what it counts. -/
theorem hasStreakFrom_cons (hx : hit x = false) :
    HasStreakFrom hit miss n k (x :: xs)
      ↔ n ≤ k ∨ HasStreakFrom hit miss n (k + [x].countP miss) xs := by
  have hcons {mid : List α} (hno : ∀ y ∈ mid, hit y = false) : ∀ y ∈ x :: mid, hit y = false :=
    List.forall_mem_cons.mpr ⟨hx, hno⟩
  have hcount (mid : List α) : (x :: mid).countP miss = [x].countP miss + mid.countP miss := by
    rw [← List.countP_append, List.singleton_append]
  constructor
  · rintro (⟨mid, hmid, hno, hn⟩ | ⟨mid, hmid, hno, hn⟩)
    · rcases List.infix_cons_iff.mp hmid with hpre | hinf
      · rcases List.prefix_cons_iff.mp hpre with rfl | ⟨mid', rfl, hpre'⟩
        · exact .inl (Nat.le_trans hn (Nat.zero_le k))
        · refine .inr (.inr ⟨mid', hpre', (List.forall_mem_cons.mp hno).2, ?_⟩)
          rw [hcount] at hn
          omega
      · exact .inr (.inl ⟨mid, hinf, hno, hn⟩)
    · rcases List.prefix_cons_iff.mp hmid with rfl | ⟨mid', rfl, hpre'⟩
      · exact .inl hn
      · refine .inr (.inr ⟨mid', hpre', (List.forall_mem_cons.mp hno).2, ?_⟩)
        rw [hcount] at hn
        omega
  · rintro (hn | ⟨mid, hmid, hno, hn⟩ | ⟨mid, hmid, hno, hn⟩)
    · exact .inr ⟨[], List.nil_prefix, fun _ h => absurd h List.not_mem_nil, hn⟩
    · exact .inl ⟨mid, List.infix_cons hmid, hno, hn⟩
    · refine .inr ⟨x :: mid, List.cons_prefix_cons.mpr ⟨rfl, hmid⟩, hcons hno, ?_⟩
      rw [hcount]
      omega

/-- The condition, one element on. -/
theorem noHitBehind_cons (hk : k < n) {k' : Nat}
    (hstep : ∀ before, HasStreakFrom hit miss n k (x :: before)
      ↔ HasStreakFrom hit miss n k' before) :
    NoHitBehind hit miss n k (x :: xs) ↔ NoHitBehind hit miss n k' xs := by
  constructor
  · intro h before y after hxs hy hbad
    exact h (x :: before) y after (by rw [hxs, List.cons_append]) hy ((hstep before).mpr hbad)
  · intro h before y after hxs hy hbad
    cases before with
    | nil => exact not_hasStreakFrom_nil hk hbad
    | cons first before =>
      cases hxs
      exact h before y after rfl hy ((hstep before).mp hbad)

/-- **No hit is left out** unless one stands behind a streak. -/
theorem filter_upToStreak_iff (hk : k < n) :
    (upToStreak hit miss n k xs).filter hit = xs.filter hit ↔ NoHitBehind hit miss n k xs := by
  induction xs generalizing k with
  | nil => exact iff_of_true rfl fun before x after h => by simp at h
  | cons x xs ih =>
    rw [upToStreak]
    by_cases hx : hit x = true
    · rw [if_pos hx, List.filter_cons_of_pos hx, List.filter_cons_of_pos hx,
        List.cons.injEq, and_iff_right rfl, ih (by omega),
        noHitBehind_cons hk fun before => hasStreakFrom_hit hk hx]
    · have hx' : hit x = false := Bool.eq_false_iff.mpr hx
      have hnk : ¬ n ≤ k := not_le.mpr hk
      rw [if_neg hx]
      by_cases hmiss : miss x = true
      · have hone : [x].countP miss = 1 := by rw [List.countP_singleton, if_pos hmiss]
        rw [if_pos hmiss]
        by_cases hstop : n ≤ k + 1
        · -- here the scan stops: every hit there may be is behind the streak
          rw [if_pos hstop, List.filter_cons_of_neg hx, List.filter_cons_of_neg hx, List.filter_nil]
          constructor
          · intro hnone before y after hxs hy hbad
            cases before with
            | nil => exact not_hasStreakFrom_nil hk hbad
            | cons first before =>
              obtain ⟨-, rfl⟩ := List.cons.inj hxs
              have hmem : y ∈ (before ++ y :: after).filter hit :=
                List.mem_filter.mpr ⟨List.mem_append_right _ List.mem_cons_self, hy⟩
              rw [show (before ++ y :: after).filter hit = [] from hnone.symm] at hmem
              exact absurd hmem List.not_mem_nil
          · intro h
            refine (List.filter_eq_nil_iff.mpr fun y hy hhit => ?_).symm
            obtain ⟨before, after, rfl⟩ := List.append_of_mem hy
            refine h (x :: before) y after rfl hhit (.inr ⟨[x], ?_, ?_, ?_⟩)
            · exact List.cons_prefix_cons.mpr ⟨rfl, List.nil_prefix⟩
            · exact List.forall_mem_singleton.mpr hx'
            · rw [hone]
              exact hstop
        · rw [if_neg hstop, List.filter_cons_of_neg hx, List.filter_cons_of_neg hx, ih (by omega)]
          refine (noHitBehind_cons hk fun before => ?_).symm
          rw [hasStreakFrom_cons hx', hone, or_iff_right hnk]
      · have hzero : [x].countP miss = 0 := by rw [List.countP_singleton, if_neg hmiss]
        rw [if_neg hmiss, List.filter_cons_of_neg hx, List.filter_cons_of_neg hx, ih hk]
        refine (noHitBehind_cons hk fun before => ?_).symm
        rw [hasStreakFrom_cons hx', hzero, or_iff_right hnk, Nat.add_zero]

end Streak

end EdgeSensor.Lib
