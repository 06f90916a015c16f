import Mathlib
import ClusterBilling.Time.Iso

/-!
Dates and numbers of days are two names of the same thing: every date of the calendar has a number,
and every number below that of the year 10000 has a date. So a moment is what its date and its time
of day say, and going back in time is a subtraction.
-/
namespace ClusterBilling.Time

section months
variable {year month month' : ℕ}

def daysInYear (year : ℕ) : ℕ := if isLeapYear year then 366 else 365

theorem isLeapYear_iff : isLeapYear year = true ↔
    year % 4 = 0 ∧ (year % 100 ≠ 0 ∨ year % 400 = 0) := by
  simp [isLeapYear]

theorem daysBeforeMonth_succ (year : ℕ) (h : 1 ≤ month) :
    daysBeforeMonth year (month + 1) = daysBeforeMonth year month + daysInMonth year month := by
  obtain ⟨k, rfl⟩ := Nat.exists_eq_add_of_le' h
  simp only [daysBeforeMonth, ← List.sum_eq_foldr, Nat.add_sub_cancel, List.range_succ,
    List.map_append, List.sum_append, List.map_cons, List.map_nil, List.sum_singleton]

theorem daysInMonth_le (year month : ℕ) : daysInMonth year month ≤ 31 := by
  unfold daysInMonth
  split
  · split <;> decide
  all_goals decide

/-- The twelve months make up the year. -/
theorem daysBeforeMonth_thirteen (year : ℕ) : daysBeforeMonth year 13 = daysInYear year := by
  simp only [daysBeforeMonth, daysInYear, daysInMonth]
  cases isLeapYear year <;> rfl

theorem daysBeforeMonth_mono (year : ℕ) (h : 1 ≤ month) (hle : month ≤ month') :
    daysBeforeMonth year month ≤ daysBeforeMonth year month' := by
  induction month', hle using Nat.le_induction with
  | base => rfl
  | succ n hn ih =>
    rw [daysBeforeMonth_succ year (h.trans hn)]
    omega

theorem daysBeforeYear_succ (h : 1 ≤ year) :
    daysBeforeYear (year + 1) = daysBeforeYear year + daysInYear year := by
  obtain ⟨y, rfl⟩ := Nat.exists_eq_add_of_le' h
  have hle : y / 100 ≤ y / 4 := by omega
  simp only [daysBeforeYear, daysInYear, isLeapYear_iff, Nat.add_sub_cancel, Nat.succ_div,
    Nat.dvd_iff_mod_eq_zero]
  split_ifs <;> omega

theorem daysBeforeYear_mono {year' : ℕ} (h : 1 ≤ year) (hle : year ≤ year') :
    daysBeforeYear year ≤ daysBeforeYear year' := by
  induction year', hle using Nat.le_induction with
  | base => rfl
  | succ n hn ih =>
    rw [daysBeforeYear_succ (h.trans hn)]
    omega

/-- The months are taken off one by one: what is left is a day of the month that is reached, unless
the months run out. -/
theorem monthAndDay_spec (year : ℕ) {month : ℕ} (h : 1 ≤ month) (fuel n : ℕ) :
    let date := Date.monthAndDay year month fuel n
    month ≤ date.1 ∧ date.1 ≤ month + fuel ∧ 1 ≤ date.2 ∧
      daysBeforeMonth year date.1 + date.2 = daysBeforeMonth year month + n + 1 ∧
      (date.1 < month + fuel → date.2 ≤ daysInMonth year date.1) := by
  induction fuel generalizing month n with
  | zero => simp [Date.monthAndDay, Nat.add_assoc]
  | succ fuel ih =>
    rw [Date.monthAndDay]
    split_ifs with hn
    · simpa [Nat.add_assoc] using hn
    · have hsucc := daysBeforeMonth_succ year h
      obtain ⟨h1, h2, h3, h4, h5⟩ := ih (by omega : 1 ≤ month + 1) (n - daysInMonth year month)
      exact ⟨by omega, by omega, h3, by omega, fun hlt => h5 (by omega)⟩

end months

namespace Date
variable {d d' : Date} {n : ℕ}

/-- A date comes before the first day of the next year. -/
theorem Valid.toDays_bounds (h : d.Valid) :
    daysBeforeYear d.year ≤ d.toDays ∧ d.toDays < daysBeforeYear (d.year + 1) := by
  obtain ⟨hy, -, hm, hm', hd, hd'⟩ := h
  have hmonth := daysBeforeMonth_succ d.year hm
  have hyear := daysBeforeMonth_mono d.year (by omega) (by omega : d.month + 1 ≤ 13)
  rw [daysBeforeMonth_thirteen] at hyear
  rw [daysBeforeYear_succ hy, toDays]
  omega

theorem Valid.toDays_lt (h : d.Valid) : d.toDays < calendarDays := by
  have hle : daysBeforeYear (d.year + 1) ≤ daysBeforeYear 10000 :=
    daysBeforeYear_mono (by omega) (by have := h.2.1; omega)
  have hend : daysBeforeYear 10000 = calendarDays := by decide
  have := h.toDays_bounds.2
  omega

/-- Two dates do not have the same number. -/
theorem Valid.toDays_inj (h : d.Valid) (h' : d'.Valid) (he : d.toDays = d'.toDays) : d = d' := by
  have hyear : d.year = d'.year := by
    have hb := h.toDays_bounds
    have hb' := h'.toDays_bounds
    rcases lt_trichotomy d.year d'.year with hlt | heq | hlt
    · have := daysBeforeYear_mono (by omega) (show d.year + 1 ≤ d'.year by omega)
      omega
    · exact heq
    · have := daysBeforeYear_mono (by omega) (show d'.year + 1 ≤ d.year by omega)
      omega
  obtain ⟨year, month, day⟩ := d
  obtain ⟨year', month', day'⟩ := d'
  obtain rfl : year = year' := hyear
  obtain ⟨-, -, hm, -, hd, hdm⟩ := h
  obtain ⟨-, -, hm', -, hd', hdm'⟩ := h'
  simp only [toDays] at *
  have hmonth : month = month' := by
    have hs := daysBeforeMonth_succ year hm
    have hs' := daysBeforeMonth_succ year hm'
    rcases lt_trichotomy month month' with hlt | heq | hlt
    · have := daysBeforeMonth_mono year (by omega) (show month + 1 ≤ month' by omega)
      omega
    · exact heq
    · have := daysBeforeMonth_mono year (by omega) (show month' + 1 ≤ month by omega)
      omega
  subst hmonth
  congr 1
  omega

/-- Cycles of 400, 100, 4 and 1 years, in which the last century of a cycle and the last year of
four are a day longer, leave the day within the year. -/
theorem daysBeforeYear_cycles {q c k s x : ℕ} (hc : c ≤ 3) (hk : k ≤ 24) (hs : s ≤ 3)
    (hx : x < if s = 3 ∧ (k ≠ 24 ∨ c = 3) then 366 else 365) :
    daysBeforeYear (q * 400 + c * 100 + k * 4 + s + 1) =
      q * 146097 + c * 36524 + k * 1461 + s * 365 ∧
    x < daysInYear (q * 400 + c * 100 + k * 4 + s + 1) := by
  constructor
  · simp only [daysBeforeYear, Nat.add_sub_cancel]
    omega
  · unfold daysInYear
    split_ifs at hx ⊢ with hleap hlong <;> rw [isLeapYear_iff] at hleap
    · exact hx
    · omega
    · omega
    · exact hx

/-- Every number of days below the end of the calendar is that of a date. -/
theorem ofDays_spec (h : n < calendarDays) : (ofDays n).Valid ∧ (ofDays n).toDays = n := by
  unfold calendarDays at h
  let c := min (n % 146097 / 36524) 3
  let r := n % 146097 - c * 36524
  let s := min (r % 1461 / 365) 3
  let x := r % 1461 - s * 365
  have hx : x < if s = 3 ∧ (r / 1461 ≠ 24 ∨ c = 3) then 366 else 365 := by
    split_ifs <;> omega
  obtain ⟨hyear, hlt⟩ := daysBeforeYear_cycles (q := n / 146097) (c := c) (k := r / 1461) (s := s)
    (by omega) (by omega) (by omega) hx
  obtain ⟨year, hdef⟩ : ∃ year, year = n / 146097 * 400 + c * 100 + r / 1461 * 4 + s + 1 :=
    ⟨_, rfl⟩
  have hdate : ofDays n = ⟨year, (monthAndDay year 1 11 x).1, (monthAndDay year 1 11 x).2⟩ := by
    rw [hdef]
    rfl
  rw [← hdef] at hyear hlt
  obtain ⟨h1, h2, h3, h4, h5⟩ := monthAndDay_spec year (le_refl 1) 11 x
  generalize (monthAndDay year 1 11 x).1 = m at *
  generalize (monthAndDay year 1 11 x).2 = d at *
  have hfirst : daysBeforeMonth year 1 = 0 := rfl
  simp only [hdate, Valid, toDays]
  refine ⟨⟨by omega, by omega, h1, h2, h3, ?_⟩, by omega⟩
  by_cases hm : m < 12
  · exact h5 hm
  · obtain rfl : m = 12 := by omega
    have htwelve := daysBeforeMonth_succ year (show 1 ≤ 12 by norm_num)
    rw [daysBeforeMonth_thirteen] at htwelve
    omega

theorem toDays_ofDays (h : n < calendarDays) : (ofDays n).toDays = n := (ofDays_spec h).2

theorem ofDays_toDays (h : d.Valid) : ofDays d.toDays = d := by
  obtain ⟨hv, he⟩ := ofDays_spec h.toDays_lt
  exact hv.toDays_inj h he

end Date
end ClusterBilling.Time
