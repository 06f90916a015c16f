import ClusterBilling.Encoding.DoubleByte
import ClusterBilling.Encoding.Grid.Big5
import ClusterBilling.Encoding.Grid.Cp950
import ClusterBilling.Encoding.Grid.Gb2312
import ClusterBilling.Encoding.Grid.Gbk
import ClusterBilling.Encoding.Grid.Hkscs

/-! Chinese, in its simplified and its traditional form. -/
namespace ClusterBilling.Encoding.Chinese
open Grid

def gbChar? (cell? : Option (Nat × Nat)) : Option Char :=
  cell?.bind fun (row, column) => gb2312.char? row column

/-- GB 2312 beside ASCII. -/
def simplified : Codec := doubleByte fun a b => one (gbChar? (extendedCell? a b))

/-- The column of a second byte from `0x40` on, without `0x7f`. -/
def gbkColumn? (b : UInt8) : Option Nat :=
  if 0x40 ≤ b && b ≤ 0x7e then some (b.toNat - 0x40)
  else if 0x80 ≤ b && b ≤ 0xfe then some (b.toNat - 0x41)
  else none

/-- The ideographs of GB 2312, in order. -/
def gbIdeographs : List Nat :=
  ((gb2312.rows.drop 15).flatMap fun row => row.toList.map Char.toNat).mergeSort

/-- The place of a cell among those of the ideographs that GBK adds: they fill the rows in front of
GB 2312, and then the columns in front of it from its tenth row on. -/
def ideographPlace? (row column : Nat) : Option Nat :=
  if 0x81 ≤ row ∧ row ≤ 0xa0 then some ((row - 0x81) * 190 + column)
  else if 0xaa ≤ row ∧ row ≤ 0xfe ∧ column < 96 then some (32 * 190 + (row - 0xaa) * 96 + column)
  else none

/-- GBK adds the ideographs that GB 2312 lacks, of which there are 14139, in their order. -/
def gbkIdeograph? (row column : Nat) : Option Char := do
  let place ← ideographPlace? row column
  if place < 14139 then some (Char.ofNat (nthFree 0x4e00 place gbIdeographs)) else none

/-- Two characters of GB 2312 are others in GBK. -/
def gbkChar? (a b : UInt8) : Option Char :=
  if a = 0xa1 && b = 0xa4 then some '·'
  else if a = 0xa1 && b = 0xaa then some '—'
  else gbChar? (extendedCell? a b) <|> do
    let column ← gbkColumn? b
    charOfRuns? gbkRuns a.toNat column <|> gbkIdeograph? a.toNat column

def gbk : Codec := doubleByte fun a b => one (gbkChar? a b)

/-- The private code points of a cell: three blocks of them, and what is left between the
characters. -/
def privatePoint? (row column : Nat) : Option Nat :=
  if 0xaa ≤ row ∧ row ≤ 0xaf ∧ 96 ≤ column then some (0xe000 + (row - 0xaa) * 94 + (column - 96))
  else if 0xf8 ≤ row ∧ row ≤ 0xfe ∧ 96 ≤ column then
    some (0xe234 + (row - 0xf8) * 94 + (column - 96))
  else if 0xa1 ≤ row ∧ row ≤ 0xa7 ∧ column < 96 then some (0xe4c6 + (row - 0xa1) * 96 + column)
  else gb18030Private.findSome? fun (r, first, count, point) =>
    if r = row ∧ first ≤ column ∧ column < first + count then some (point + (column - first))
    else none

/-- The characters of two bytes of GB 18030. -/
def gb18030Char? (a b : UInt8) : Option Char :=
  gbkChar? a b <|> do
    let column ← gbkColumn? b
    charOfRuns? gb18030Runs a.toNat column <|> (privatePoint? a.toNat column).map Char.ofNat

/-- The number of a code of four bytes whose first counts from `least` on. -/
def longNumber (least a b c d : UInt8) : Nat :=
  ((((a.toNat - least.toNat) * 10 + (b.toNat - 0x30)) * 126 + (c.toNat - 0x81)) * 10)
    + (d.toNat - 0x30)

/-- The character of a code of four bytes: first those that have no shorter code, in their order,
and from a first byte of `0x90` on those past the sixteen low bits. -/
def longChar? (a b c d : UInt8) : Option Char :=
  if a < 0x81 || 0xfe < a || c < 0x81 || 0xfe < c || d < 0x30 || 0x39 < d then none
  else if a < 0x85 then
    let n := longNumber 0x81 a b c d
    if 39420 ≤ n then none
    else (gb18030Long.reverse.find? (·.1 ≤ n)).map fun (first, point) =>
      Char.ofNat (point + (n - first))
  else if 0x90 ≤ a then
    let point := 0x10000 + longNumber 0x90 a b c d
    if point < 0x110000 then some (Char.ofNat point) else none
  else none

/-- A digit as the second byte makes a code of four bytes. -/
def gb18030Piece (bs : List UInt8) : Piece :=
  match bs with
  | a :: b :: rest =>
    if 0x80 ≤ a && 0x30 ≤ b && b ≤ 0x39 then
      match rest with
      | c :: d :: _ => pieceOf 4 (one (longChar? a b c d))
      | _ => cutShort bs
    else doubleBytePiece (fun a b => one (gb18030Char? a b)) bs
  | _ => doubleBytePiece (fun _ _ => none) bs

def gb18030 : Codec where
  name := "gb18030"
  piece := gb18030Piece

/-- HZ: seven bits, in which a tilde switches between ASCII and GB 2312. The state says whether the
latter is on. -/
def hz : Scanner Bool := fun isDouble bs =>
  match bs with
  | [0x7e] => (cutShort bs, isDouble)
  | 0x7e :: b :: _ =>
    if b = 0x7e && !isDouble then (.ofNat 0x7e 2, false)
    else if b = 0x7b && !isDouble then (.code [] 2, true)
    else if b = 0x0a && !isDouble then (.code [] 2, false)
    else if b = 0x7d && isDouble then (.code [] 2, false)
    else (pieceOf 2 none, isDouble)
  | a :: rest =>
    if 0x80 ≤ a then (pieceOf 1 none, isDouble)
    else if !isDouble then (.ofNat a.toNat 1, false)
    else match rest with
      | [] => (cutShort bs, true)
      | b :: _ => (pieceOf 2 (one (gbChar? (plainCell? a b))), true)
  | [] => (cutShort [], isDouble)

/-- The column of a second byte in two blocks of 63 and 94. -/
def bigColumn? (b : UInt8) : Option Nat :=
  if 0x40 ≤ b && b ≤ 0x7e then some (b.toNat - 0x40)
  else if 0xa1 ≤ b && b ≤ 0xfe then some (b.toNat - 0xa1 + 63)
  else none

def bigChar? (a b : UInt8) : Option Char := do
  let column ← bigColumn? b
  Grid.big5.char? a.toNat column

def traditional : Codec := doubleByte fun a b => one (bigChar? a b)

def cp950 : Codec := doubleByte fun a b =>
  one (((bigColumn? b).bind (charOfRuns? cp950Runs a.toNat)) <|> bigChar? a b)

/-- Four codes of HKSCS stand for a letter and an accent. -/
def accented? (a b : UInt8) : Option (List Char) :=
  if a ≠ 0x88 then none
  else if b = 0x62 then some ['Ê', '\u0304']
  else if b = 0x64 then some ['Ê', '\u030c']
  else if b = 0xa3 then some ['ê', '\u0304']
  else if b = 0xa5 then some ['ê', '\u030c']
  else none

def hkscsChar? (a b : UInt8) : Option Char := do
  let column ← bigColumn? b
  hkscsLow.char? a.toNat column <|> hkscsMiddle.char? a.toNat column
    <|> hkscsHigh.char? a.toNat column

/-- Big5 with HKSCS, which has three rows for itself. -/
def hongKong : Codec := doubleByte fun a b =>
  let isOwn := 0xc6 ≤ a && a ≤ 0xc8 && (0xc7 ≤ a || 0xa1 ≤ b)
  (if isOwn then none else one (bigChar? a b)) <|> one (hkscsChar? a b) <|> accented? a b

end ClusterBilling.Encoding.Chinese
