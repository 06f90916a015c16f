import ClusterBilling.Encoding.Basic
import ClusterBilling.Text.Digit
import ClusterBilling.Text.Name

/-! Latin-1 with escapes by a backslash, as programs write text. -/
namespace ClusterBilling.Encoding
open Text

def hexByte? (b : UInt8) : Option Nat := hexValue? (Char.ofNat b.toNat)

/-- A code point of so many hexadecimal digits, which begin `used` bytes from the start. A fault
takes all digits that there are. -/
def hexPiece (digits used : Nat) (bs : List UInt8) : Piece :=
  let values := (bs.take digits).map hexByte?
  let found := (values.takeWhile Option.isSome).reduceOption
  if found.length < digits then .bad (used + found.length) "truncated escape"
  else match CodePoint.ofNat? (found.foldl (fun n d => 16 * n + d) 0) with
    | some p => .code [p] (used + digits)
    | none => .bad (used + digits) "illegal Unicode character"

/-- Up to three octal digits. -/
def octalPiece (bs : List UInt8) : Piece :=
  let digits := (bs.take 3).takeWhile fun b => 0x30 ≤ b && b ≤ 0x37
  .ofNat (digits.foldl (fun n b => 8 * n + (b.toNat - 0x30)) 0) (1 + digits.length)

/-- The control characters, quotation marks and backslashes that one letter after a backslash stands
for. -/
def letterEscapes : List (UInt8 × Nat) :=
  [(0x5c, 0x5c), (0x27, 0x27), (0x22, 0x22), (0x61, 7), (0x62, 8), (0x66, 12), (0x6e, 10),
    (0x72, 13), (0x74, 9), (0x76, 11)]

/-- A character by its name between braces. A fault takes all up to the closing brace, and that too
if there is a name. -/
def namePiece (bs : List UInt8) : Piece :=
  match bs with
  | 0x7b :: rest =>
    let name := rest.takeWhile (· ≠ 0x7d)
    let isClosed := name.length < rest.length
    if isClosed && !name.isEmpty then
      match numberOfName? (name.map fun b => Char.ofNat b.toNat) with
      | some n => .ofNat n (4 + name.length)
      | none => .bad (4 + name.length) "unknown character name"
    else .bad (3 + name.length) "malformed character escape"
  | _ => .bad 2 "malformed character escape"

/-- Every escape; an unknown one stands for itself. -/
def escapePiece : List UInt8 → Piece
  | 0x5c :: b :: rest =>
    if b = 0x0a then .code [] 2
    else if 0x30 ≤ b && b ≤ 0x37 then octalPiece (b :: rest)
    else if b = 0x78 then hexPiece 2 2 rest
    else if b = 0x75 then hexPiece 4 2 rest
    else if b = 0x55 then hexPiece 8 2 rest
    else if b = 0x4e then namePiece rest
    else match letterEscapes.lookup b with
      | some n => .ofNat n 2
      | none => .code ['\\', Char.ofNat b.toNat] 2
  | [0x5c] => .bad 1 "backslash at end of string"
  | b :: _ => .ofNat b.toNat 1
  | [] => .bad 0 "unexpected end of data"

def escaped : Codec where
  name := "unicodeescape"
  piece := escapePiece

/-- Escapes of code points only; a backslash takes the byte after it with it. -/
def rawEscapePiece : List UInt8 → Piece
  | 0x5c :: b :: rest =>
    if b = 0x75 then hexPiece 4 2 rest
    else if b = 0x55 then hexPiece 8 2 rest
    else .code ['\\', Char.ofNat b.toNat] 2
  | b :: _ => .ofNat b.toNat 1
  | [] => .bad 0 "unexpected end of data"

def rawEscaped : Codec where
  name := "rawunicodeescape"
  piece := rawEscapePiece

end ClusterBilling.Encoding
