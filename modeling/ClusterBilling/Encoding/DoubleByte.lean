import ClusterBilling.Encoding.Basic

/-!
Encodings in which a code has one byte if it is ASCII and two bytes otherwise. The codes of two
bytes are the cells of a grid; a code without character is at fault with its first byte only.
-/
namespace ClusterBilling.Encoding

/-- All that is left of a text is too short for a code. -/
def cutShort (bs : List UInt8) : Piece := .bad bs.length "incomplete multibyte sequence"

/-- The characters of a code of so many bytes, or a fault of its first byte. -/
def pieceOf (length : Nat) : Option (List Char) → Piece
  | some cs => .code (cs.map .scalar) length
  | none => .bad 1 "illegal multibyte sequence"

/-- One character, in the form that codes of several characters need. -/
def one (c? : Option Char) : Option (List Char) := c?.map ([·])

/-- An ASCII character, or a code of two bytes. -/
def doubleBytePiece (chars? : UInt8 → UInt8 → Option (List Char)) : List UInt8 → Piece
  | [] => cutShort []
  | a :: rest =>
    if a < 0x80 then .ofNat a.toNat 1
    else match rest with
      | [] => cutShort [a]
      | b :: _ => pieceOf 2 (chars? a b)

/-- The encoding with these codes of two bytes. -/
def doubleByte (chars? : UInt8 → UInt8 → Option (List Char)) : Codec where
  name := "multibyte"
  piece := doubleBytePiece chars?

/-- The cell of two bytes from `0xa1` to `0xfe` each. -/
def extendedCell? (a b : UInt8) : Option (Nat × Nat) :=
  if 0xa1 ≤ a && a ≤ 0xfe && 0xa1 ≤ b && b ≤ 0xfe then some (a.toNat - 0xa1, b.toNat - 0xa1)
  else none

/-- The cell of two printable ASCII bytes. -/
def plainCell? (a b : UInt8) : Option (Nat × Nat) :=
  if 0x21 ≤ a && a ≤ 0x7e && 0x21 ≤ b && b ≤ 0x7e then some (a.toNat - 0x21, b.toNat - 0x21)
  else none

/-- The `n`-th number from `least` on that is not in `taken`, which is in increasing order. -/
def nthFree (least n : Nat) (taken : List Nat) : Nat :=
  taken.foldl (fun candidate t => if t ≤ candidate then candidate + 1 else candidate) (least + n)

end ClusterBilling.Encoding
