/-! Base 64. -/
namespace ClusterBilling.Encoding

/-- The character of six bits. -/
def base64Char (n : Nat) : Char :=
  if n < 26 then Char.ofNat (0x41 + n)
  else if n < 52 then Char.ofNat (0x61 + (n - 26))
  else if n < 62 then Char.ofNat (0x30 + (n - 52))
  else if n = 62 then '+'
  else '/'

/-- Four characters for three bytes, with equals signs for those that are missing at the end. -/
def base64 : List UInt8 → List Char
  | a :: b :: c :: bs =>
    let n := (a.toNat * 256 + b.toNat) * 256 + c.toNat
    base64Char (n / 0x40000) :: base64Char (n / 0x1000 % 64) :: base64Char (n / 64 % 64)
      :: base64Char (n % 64) :: base64 bs
  | [a, b] =>
    let n := (a.toNat * 256 + b.toNat) * 4
    [base64Char (n / 0x1000), base64Char (n / 64 % 64), base64Char (n % 64), '=']
  | [a] =>
    let n := a.toNat * 16
    [base64Char (n / 64), base64Char (n % 64), '=', '=']
  | [] => []

end ClusterBilling.Encoding
