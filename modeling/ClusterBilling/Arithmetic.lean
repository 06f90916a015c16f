import ClusterBilling.Time.Moment

/-! The arithmetic that costs are computed in. -/
namespace ClusterBilling

/--
The operations that billing applies to costs and hours. The program runs them on floating-point
numbers; laws that rounding breaks are stated over an exact instance of the same definitions.
-/
class Arithmetic (α : Type) extends Add α, Sub α, Mul α, Div α where
  ofNat : Nat → α
  /-- A count of microseconds in seconds. -/
  ofMicros : Int → α
  isZero : α → Bool
  isPositive : α → Bool
  /-- At most zero; what is not a number is neither this nor positive. -/
  isNonpositive : α → Bool

namespace Arithmetic

instance : Arithmetic Float where
  ofNat := Float.ofNat
  ofMicros := Time.secondsOfMicros
  isZero x := x == 0
  isPositive x := 0 < x
  isNonpositive x := x ≤ 0

end Arithmetic

/-- The months of a year have 730 hours each on average, and every monthly rate is for so many. -/
def hoursPerMonth : Nat := 730

def minutesPerHour : Nat := 60

/-- The hours from `start` to `finish`, unless just one of them knows its distance from UTC. -/
def hoursBetween? {α : Type} [Arithmetic α] (start finish : Time.Moment) : Option α :=
  (start.micros? finish).map fun n => Arithmetic.ofMicros n / Arithmetic.ofNat 3600

end ClusterBilling
