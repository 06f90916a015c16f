/-! Fractions rounded to the nearest binary64 number, ties to even. -/
namespace ClusterBilling.Decimal

/-- The nearest integer; of two equally near the even one. -/
def nearestInteger (q : Rat) : Int :=
  let below := q.floor
  let rest := q - below
  if rest < 1 / 2 then below
  else if rest = 1 / 2 then below + below % 2
  else below + 1

/-- The power of two of the leading binary digit of a positive fraction. -/
def leadingBit (q : Rat) : Int :=
  let e : Int := q.num.natAbs.log2 - q.den.log2
  if (2 : Rat) ^ e ≤ q then e else e - 1

/-- The distance between neighbours among the binary64 numbers near `q`. -/
def spacing (q : Rat) : Rat :=
  2 ^ max (leadingBit q - 52) (-1074)

/-- The binary64 number nearest to a fraction that is not negative; none when that is beyond the
finite ones. -/
def nearest (q : Rat) : Option Rat :=
  let x := nearestInteger (q / spacing q) * spacing q
  if x < 2 ^ (1024 : Int) then some x else none

end ClusterBilling.Decimal
