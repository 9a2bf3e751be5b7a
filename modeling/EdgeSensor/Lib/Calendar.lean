import Mathlib.Order.Monotone.Basic
import Mathlib.Tactic.IntervalCases

/-!
# Days and years

The Gregorian calendar: days are counted from the first of January of the year 1 on, as
`date.toordinal` does. A date's ordinal lies in its year (`ordinal_pos_of`, `ordinal_le_of`), and
the years lie one behind the other, so two dates a day apart at most are in one year, or the one is
the last of its year and the other the first of the next (`new_year`).
-/

namespace EdgeSensor.Lib

/-- `calendar.isleap`. -/
def isLeap (year : Nat) : Bool := year % 4 == 0 && (year % 100 != 0 || year % 400 == 0)

def daysInMonth (year month : Nat) : Nat :=
  if month = 2 then if isLeap year then 29 else 28
  else if month = 4 ∨ month = 6 ∨ month = 9 ∨ month = 11 then 30
  else 31

def daysInYear (year : Nat) : Nat := if isLeap year then 366 else 365

def daysBeforeYear (year : Nat) : Nat :=
  (year - 1) * 365 + (year - 1) / 4 - (year - 1) / 100 + (year - 1) / 400

/-- The days before a month, January being the first. -/
def daysBeforeMonth (year : Nat) : Nat → Nat
  | 0 => 0
  | 1 => 0
  | month + 2 => daysBeforeMonth year (month + 1) + daysInMonth year (month + 1)

/-- A date of the calendar. -/
structure CalendarDate where
  year : Nat
  month : Nat
  day : Nat
  year_pos : 1 ≤ year
  month_pos : 1 ≤ month
  month_le : month ≤ 12
  day_pos : 1 ≤ day
  day_le : day ≤ daysInMonth year month
  deriving DecidableEq

namespace CalendarDate

/-- The day of the year, from 1 on. -/
def dayOfYear (date : CalendarDate) : Nat := daysBeforeMonth date.year date.month + date.day

/-- `date.toordinal()`. -/
def ordinal (date : CalendarDate) : Nat := daysBeforeYear date.year + date.dayOfYear

end CalendarDate

/-! ## Years -/

theorem isLeap_iff {year : Nat} : isLeap year = true ↔ 4 ∣ year ∧ (¬ 100 ∣ year ∨ 400 ∣ year) := by
  unfold isLeap
  simp only [Bool.and_eq_true, Bool.or_eq_true, beq_iff_eq, bne_iff_ne, Nat.dvd_iff_mod_eq_zero, Ne]

theorem daysBeforeYear_succ {year : Nat} (h : 1 ≤ year) :
    daysBeforeYear (year + 1) = daysBeforeYear year + daysInYear year := by
  obtain ⟨n, rfl⟩ := Nat.exists_eq_add_of_le' h
  have hcentury : 100 ∣ n + 1 → 4 ∣ n + 1 := Nat.dvd_trans ⟨25, rfl⟩
  have hcycle : 400 ∣ n + 1 → 100 ∣ n + 1 := Nat.dvd_trans ⟨4, rfl⟩
  have hle : n / 100 ≤ n := Nat.div_le_self n 100
  unfold daysBeforeYear daysInYear
  rw [Nat.add_sub_cancel, Nat.add_sub_cancel, Nat.succ_div, Nat.succ_div, Nat.succ_div]
  generalize n / 100 = centuries at hle ⊢
  generalize n / 4 = fours
  generalize n / 400 = cycles
  by_cases h4 : 4 ∣ n + 1
  · by_cases h100 : 100 ∣ n + 1
    · by_cases h400 : 400 ∣ n + 1
      · rw [if_pos h4, if_pos h100, if_pos h400, if_pos (isLeap_iff.mpr ⟨h4, .inr h400⟩)]
        omega
      · have hcommon : ¬ isLeap (n + 1) = true := fun hleap =>
          (isLeap_iff.mp hleap).2.elim (· h100) h400
        rw [if_pos h4, if_pos h100, if_neg h400, if_neg hcommon]
        omega
    · rw [if_pos h4, if_neg h100, if_neg fun h400 => h100 (hcycle h400),
        if_pos (isLeap_iff.mpr ⟨h4, .inl h100⟩)]
      omega
  · rw [if_neg h4, if_neg fun h100 => h4 (hcentury h100),
      if_neg fun h400 => h4 (hcentury (hcycle h400)), if_neg fun hleap => h4 (isLeap_iff.mp hleap).1]
    omega

theorem daysBeforeYear_le {a b : Nat} (ha : 1 ≤ a) (hab : a ≤ b) :
    daysBeforeYear a ≤ daysBeforeYear b := by
  induction hab with
  | refl => exact Nat.le_refl _
  | step hle ih =>
    rw [daysBeforeYear_succ (ha.trans hle)]
    exact ih.trans (Nat.le_add_right _ _)

/-- A later year begins when the earlier one is over. -/
theorem daysBeforeYear_add_le {a b : Nat} (ha : 1 ≤ a) (hab : a < b) :
    daysBeforeYear a + daysInYear a ≤ daysBeforeYear b := by
  rw [← daysBeforeYear_succ ha]
  exact daysBeforeYear_le (Nat.le_add_left 1 a) hab

/-! ## Dates -/

namespace CalendarDate

variable {date d e : CalendarDate}

/-- The first day of the year. -/
def IsFirst (date : CalendarDate) : Prop := date.month = 1 ∧ date.day = 1

/-- The last day of the year. -/
def IsLast (date : CalendarDate) : Prop := date.month = 12 ∧ date.day = 31

theorem day_le_31 (date : CalendarDate) : date.day ≤ 31 := by
  refine date.day_le.trans ?_
  unfold daysInMonth
  split
  · split <;> omega
  · split <;> omega

/-- The days of a year lie between its first and its last. -/
theorem dayOfYear_spec (date : CalendarDate) :
    1 ≤ date.dayOfYear ∧ date.dayOfYear ≤ daysInYear date.year
      ∧ (date.dayOfYear = 1 → date.IsFirst) ∧ (date.dayOfYear = daysInYear date.year → date.IsLast) := by
  obtain ⟨year, month, day, hyear, hmonth, hmonth', hday, hday'⟩ := date
  unfold dayOfYear IsFirst IsLast daysInYear
  dsimp only
  cases hleap : isLeap year <;> interval_cases month
    <;> simp [daysBeforeMonth, daysInMonth, hleap] at hday' ⊢ <;> omega

/-- The date of a smaller ordinal is in no later year. -/
theorem year_le (h : d.ordinal ≤ e.ordinal) : d.year ≤ e.year := by
  by_contra hlt
  have hbefore := daysBeforeYear_add_le e.year_pos (Nat.not_le.mp hlt)
  have hd := (dayOfYear_spec d).1
  have he := (dayOfYear_spec e).2.1
  unfold ordinal at h
  omega

/-- Two dates a day apart that are not of one year are the last day and the first. -/
theorem new_year (hle : d.ordinal ≤ e.ordinal) (hday : e.ordinal ≤ d.ordinal + 1)
    (hne : d.year ≠ e.year) : d.IsLast ∧ e.IsFirst := by
  have hlt : d.year < e.year := Nat.lt_of_le_of_ne (year_le hle) hne
  have hbefore := daysBeforeYear_add_le d.year_pos hlt
  obtain ⟨-, hdle, -, hlast⟩ := dayOfYear_spec d
  obtain ⟨hepos, -, hfirst, -⟩ := dayOfYear_spec e
  unfold ordinal at hday
  exact ⟨hlast (by omega), hfirst (by omega)⟩

end CalendarDate

end EdgeSensor.Lib
