import ClusterBilling.Decimal.Layout

/-! Numbers with a fixed count of places, and with a fixed count of significant digits. -/
namespace ClusterBilling.Decimal

/-- `count / 10 ^ places`, with all its places. -/
def placesChars (places count : Nat) : List Char :=
  let ds := digitChars count
  let ds := List.replicate (places + 1 - ds.length) '0' ++ ds
  ds.take (ds.length - places) ++ '.' :: ds.drop (ds.length - places)

def Binary.fixed (places : Nat) (b : Binary) : String :=
  let (num, den) := b.fraction
  let body := placesChars places (roundDiv (num * Nat.pow 10 places) den)
  String.ofList (if b.negative then '-' :: body else body)

/-- The exact value rounded to six places, ties to even. -/
def sixPlaces (x : Float) : String :=
  (Reading.ofFloat x).render (Binary.fixed 6)

/-- The nearest decimal with `places` significant digits. -/
def Binary.significant (places : Nat) (b : Binary) : Scaled :=
  if b.mantissa = 0 then ⟨b.negative, 0, 0⟩
  else
    let (num, den) := b.fraction
    let power := leadingPower num den + 1 - places
    let digits := roundDiv (num * Nat.pow 10 (-power).toNat) (den * Nat.pow 10 power.toNat)
    Scaled.trim ⟨b.negative, digits, power⟩ places

/-- Positional from `1e-4` to below `1e6`, and no point where no digit follows it. -/
def briefLayout : Layout := ⟨-4, 5, ""⟩

/-- The number rounded to six significant digits, without trailing zeros. -/
def sixDigits (x : Float) : String :=
  (Reading.ofFloat x).render fun b => briefLayout.render (b.significant 6)

end ClusterBilling.Decimal
