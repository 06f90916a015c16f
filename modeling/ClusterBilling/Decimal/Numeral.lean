import ClusterBilling.Text.Blank
import ClusterBilling.Text.Digit
import ClusterBilling.Decimal.Binary

/-! Text read as a floating-point number. -/
namespace ClusterBilling.Decimal
open Text

/-- The number nearest to `± digits * 10 ^ power`. Powers that can only overflow or vanish are not
computed. -/
def nearestFloat (negative : Bool) (digits : Nat) (power : Int) : Float :=
  let magnitude : Float :=
    if digits = 0 then 0
    else
      let lead := power + (digitChars digits).length
      if 310 < lead then Float.ofBits 0x7FF0000000000000
      else if lead < -330 then 0
      else Float.ofScientific digits (power < 0) power.natAbs
  if negative then -magnitude else magnitude

/-- The number nearest to an integer, if one of the finite numbers is. -/
def nearestInt? (n : Int) : Option Float :=
  let x := nearestFloat (n < 0) n.natAbs 0
  if x.isFinite then some x else none

/-- A row of ASCII digits in front of the text. -/
def takeDigits (cs : List Char) : List Char × List Char :=
  (cs.takeWhile Char.isDigit, cs.dropWhile Char.isDigit)

/-- Every underscore stands between two digits. -/
def underscoresBetweenDigits : (previous : Char) → List Char → Bool
  | previous, [] => previous != '_'
  | previous, c :: cs =>
    (if c = '_' then previous.isDigit else previous != '_' || c.isDigit)
      && underscoresBetweenDigits c cs

/-- A sign in front of the text, and the rest. -/
def takeSign : List Char → Bool × List Char
  | '-' :: cs => (true, cs)
  | '+' :: cs => (false, cs)
  | cs => (false, cs)

/-- The decimal exponent that ends a number; without one it is zero. -/
def readExponent? : List Char → Option Int
  | [] => some 0
  | c :: cs =>
    if c = 'e' || c = 'E' then
      let (negative, ds) := takeSign cs
      if ds.isEmpty || !ds.all Char.isDigit then none
      else
        let n : Int := digitsValue ds
        some (if negative then -n else n)
    else none

/-- Digits with at most one point, of which at least one is a digit, and an exponent. -/
def readUnsigned? (negative : Bool) (cs : List Char) : Option Float := do
  let (whole, rest) := takeDigits cs
  let (places, rest) := match rest with
    | '.' :: rest => takeDigits rest
    | rest => ([], rest)
  if whole.isEmpty && places.isEmpty then none
  else
    let exponent ← readExponent? rest
    return nearestFloat negative (digitsValue (whole ++ places)) (exponent - places.length)

/-- The words for what is not a finite number, in any case. -/
def readWord? (negative : Bool) (cs : List Char) : Option Float :=
  let word := String.ofList (cs.map Char.toLower)
  if word = "inf" || word = "infinity" then
    some (Float.ofBits (if negative then 0xFFF0000000000000 else 0x7FF0000000000000))
  else if word = "nan" then some (Float.ofBits 0x7FF8000000000000)
  else none

/-- One character as the reader sees it once the text is not all ASCII: any digit stands for its
value, any blank for a space. -/
def plainChar (c : Char) : Char :=
  if c.toNat < 127 then c
  else if isBlank c then ' '
  else match digitValue? c with
    | some d => Char.ofNat (48 + d)
    | none => '?'

/-- The six blanks of ASCII that may surround a number. -/
def isPadding (c : Char) : Bool :=
  c = ' ' || (9 ≤ c.toNat && c.toNat ≤ 13)

/--
A number as text: blanks around it, a sign, digits of any script with underscores between them,
a point, an exponent, or a word for infinity or for no number.
-/
def readNumber? (cs : List Char) : Option Float :=
  let cs := stripWhile isPadding (cs.map plainChar)
  if underscoresBetweenDigits ' ' cs then
    let (negative, rest) := takeSign (cs.filter (· != '_'))
    readUnsigned? negative rest <|> readWord? negative rest
  else none

end ClusterBilling.Decimal
