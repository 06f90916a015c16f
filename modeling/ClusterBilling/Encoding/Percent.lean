import ClusterBilling.Text.Digit
import ClusterBilling.Text.Quoted

/-! Bytes written as percent signs and hexadecimal digits. -/
namespace ClusterBilling.Encoding
open Text

/-- A byte by a percent sign and two hexadecimal digits. -/
def percentByte (b : UInt8) : List Char := '%' :: (hex 2 b.toNat).map Char.toUpper

/-- All characters but the plain ones, and but the percent signs that stand for a byte already, by
their bytes in UTF-8. -/
def percentEncoded (isPlain : Char → Bool) : List Char → List Char
  | '%' :: a :: b :: cs =>
    if (hexValue? a).isSome && (hexValue? b).isSome then
      '%' :: a :: b :: percentEncoded isPlain cs
    else percentByte 0x25 ++ percentEncoded isPlain (a :: b :: cs)
  | c :: cs =>
    (if isPlain c && c ≠ '%' then [c] else (String.singleton c).toUTF8.toList.flatMap percentByte)
      ++ percentEncoded isPlain cs
  | [] => []

/-- Text in which a percent sign and two hexadecimal digits stand for a byte, and that for the
character of its number. -/
def percentDecoded : List Char → List Char
  | '%' :: a :: b :: cs =>
    match hexValue? a, hexValue? b with
    | some a, some b => Char.ofNat (16 * a + b) :: percentDecoded cs
    | _, _ => '%' :: percentDecoded (a :: b :: cs)
  | c :: cs => c :: percentDecoded cs
  | [] => []

end ClusterBilling.Encoding
