/-! Days of the Gregorian calendar, counted from the first day of year 1. -/
namespace ClusterBilling.Time

def isLeapYear (year : Nat) : Bool :=
  year % 4 = 0 && (year % 100 != 0 || year % 400 = 0)

def daysInMonth (year month : Nat) : Nat :=
  match month with
  | 2 => if isLeapYear year then 29 else 28
  | 4 | 6 | 9 | 11 => 30
  | _ => 31

/-- The days of the months before `month` in `year`. -/
def daysBeforeMonth (year month : Nat) : Nat :=
  ((List.range (month - 1)).map fun i => daysInMonth year (i + 1)).foldr (· + ·) 0

/-- The days of the years before `year`. -/
def daysBeforeYear (year : Nat) : Nat :=
  let y := year - 1
  365 * y + y / 4 - y / 100 + y / 400

structure Date where
  year : Nat
  month : Nat
  day : Nat
deriving DecidableEq, Repr

namespace Date

/-- A day that the calendar has, in the years 1 to 9999. -/
def Valid (d : Date) : Prop :=
  1 ≤ d.year ∧ d.year ≤ 9999 ∧ 1 ≤ d.month ∧ d.month ≤ 12 ∧
    1 ≤ d.day ∧ d.day ≤ daysInMonth d.year d.month

instance (d : Date) : Decidable d.Valid := by unfold Valid; infer_instance

/-- The number of days before this one. -/
def toDays (d : Date) : Nat :=
  daysBeforeYear d.year + daysBeforeMonth d.year d.month + (d.day - 1)

/-- The month and the day that are `n` days after the first of `month`. -/
def monthAndDay (year month : Nat) : (fuel n : Nat) → Nat × Nat
  | 0, n => (month, n + 1)
  | fuel + 1, n =>
    if n < daysInMonth year month then (month, n + 1)
    else monthAndDay year (month + 1) fuel (n - daysInMonth year month)

/--
The day that has `n` days before it. A cycle of 400 years has 146097 days, a century in it 36524
but for the last, four years in that 1461 but for the last of three centuries, and a year 365
but for a leap year.
-/
def ofDays (n : Nat) : Date :=
  let century := min (n % 146097 / 36524) 3
  let rest := n % 146097 - century * 36524
  let single := min (rest % 1461 / 365) 3
  let year := n / 146097 * 400 + century * 100 + rest / 1461 * 4 + single + 1
  let (month, day) := monthAndDay year 1 11 (rest % 1461 - single * 365)
  ⟨year, month, day⟩

end Date
end ClusterBilling.Time
