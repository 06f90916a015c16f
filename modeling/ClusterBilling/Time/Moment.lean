import ClusterBilling.Decimal.Numeral
import ClusterBilling.Time.Calendar

/-! Moments of the years 1 to 9999, to the microsecond. -/
namespace ClusterBilling.Time
open Decimal

/-- Microseconds in a second. -/
def second : Nat := 1000000
def day : Nat := 86400 * second

/-- The days of the years 1 to 9999. -/
def calendarDays : Nat := 3652059

/-- What a clock shows, and how far it is ahead of UTC if that is known. -/
structure Moment where
  /-- Microseconds since the start of year 1 on this clock. -/
  clock : Nat
  /-- Microseconds by which the clock is ahead of UTC. -/
  offset? : Option Int
  clock_lt : clock < calendarDays * day
deriving DecidableEq

/-- A count of microseconds as the nearest floating-point number of seconds. -/
def secondsOfMicros (n : Int) : Float :=
  nearestFloat (n < 0) n.natAbs (-6)

namespace Moment

/-- The moment at which a clock shows a date and the microseconds since midnight, if it can. -/
def ofFields? (date : Date) (sinceMidnight : Nat) (offset? : Option Int) : Option Moment :=
  let clock := date.toDays * day + sinceMidnight
  if h : date.Valid ∧ sinceMidnight < day ∧ clock < calendarDays * day then
    some ⟨clock, offset?, h.2.2⟩
  else none

/-- The start of 1970 in UTC. -/
def epoch : Moment := ⟨719162 * day, some 0, by decide⟩

/-- The moment in UTC so many microseconds after the epoch, if the calendar has it. -/
def ofUnixMicros? (micros : Nat) : Option Moment :=
  let clock := epoch.clock + micros
  if h : clock < calendarDays * day then some ⟨clock, some 0, h⟩ else none

/-- The moment `micros` before this one, if it is not before the first of all. -/
def back? (m : Moment) (micros : Nat) : Option Moment :=
  if micros ≤ m.clock then
    some { m with
      clock := m.clock - micros
      clock_lt := Nat.lt_of_le_of_lt (Nat.sub_le ..) m.clock_lt }
  else none

/-- The microseconds from `start` to `finish`, unless just one of them knows its distance from
UTC. -/
def micros? (start finish : Moment) : Option Int :=
  match start.offset?, finish.offset? with
  | none, none => some ((finish.clock : Int) - start.clock)
  | some a, some b => some ((finish.clock - b) - (start.clock - a))
  | _, _ => none

/-- Seconds since the epoch; a clock that does not know its distance from UTC is taken to show
UTC. -/
def unixSeconds (m : Moment) : Float :=
  match m.offset? with
  | some offset => secondsOfMicros (m.clock - offset - epoch.clock)
  | none =>
    let whole : Int := (m.clock / second : Nat) - (epoch.clock / second : Nat)
    nearestFloat (whole < 0) whole.natAbs 0 + nearestFloat false (m.clock % second) (-6)

end Moment
end ClusterBilling.Time
