import ClusterBilling.Decimal.Binary

/-! Decimal digits laid out as text. -/
namespace ClusterBilling.Decimal

/-- The decimal number `± digits * 10 ^ exponent`. -/
structure Scaled where
  negative : Bool
  digits : Nat
  exponent : Int
deriving DecidableEq, Repr

/-- Move the trailing zeros of the digits, at most `fuel` of them, into the exponent. -/
def Scaled.trim (s : Scaled) : (fuel : Nat) → Scaled
  | 0 => s
  | fuel + 1 =>
    if s.digits ≠ 0 ∧ s.digits % 10 = 0 then
      trim { s with digits := s.digits / 10, exponent := s.exponent + 1 } fuel
    else s

/-- How a decimal number is written. -/
structure Layout where
  /-- The least exponent of the leading digit that is written without `e`. -/
  least : Int
  /-- The greatest exponent of the leading digit that is written without `e`. -/
  greatest : Int
  /-- What follows a number that has no digits after the point and no `e`. -/
  whole : String

/-- The text of a decimal exponent: a sign and at least two digits. -/
def exponentChars (e : Int) : List Char :=
  let ds := digitChars e.natAbs
  'e' :: (if e < 0 then '-' else '+') :: (if ds.length < 2 then '0' :: ds else ds)

def Layout.render (layout : Layout) (s : Scaled) : String :=
  let ds := digitChars s.digits
  let lead : Int := s.exponent + ds.length - 1
  let body :=
    if layout.least ≤ lead ∧ lead ≤ layout.greatest then
      if lead < 0 then '0' :: '.' :: List.replicate (-lead - 1).toNat '0' ++ ds
      else
        let places := lead.toNat + 1
        if ds.length ≤ places then
          ds ++ List.replicate (places - ds.length) '0' ++ layout.whole.toList
        else ds.take places ++ '.' :: ds.drop places
    else
      let point := if ds.length = 1 then [] else ['.']
      ds.take 1 ++ point ++ ds.drop 1 ++ exponentChars lead
  String.ofList (if s.negative then '-' :: body else body)

/-- The words for the numbers that have no digits; any other number is written by `digits`. -/
def Reading.render (digits : Binary → String) : Reading → String
  | .nan => "nan"
  | .infinite false => "inf"
  | .infinite true => "-inf"
  | .finite b => digits b

end ClusterBilling.Decimal
