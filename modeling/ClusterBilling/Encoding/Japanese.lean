import ClusterBilling.Encoding.DoubleByte
import ClusterBilling.Encoding.Grid.Cp932
import ClusterBilling.Encoding.Grid.Jisx0208
import ClusterBilling.Encoding.Grid.Jisx0212
import ClusterBilling.Encoding.Grid.Jisx0213

/-! Japanese: the grids of JIS in the arrangements of EUC and of Shift JIS. -/
namespace ClusterBilling.Encoding.Japanese
open Grid

/-- What the cells of a grid stand for. -/
abbrev Cells := Nat → Nat → Option (List Char)

/-- The edition of a standard. -/
inductive Edition where
  | of2000
  | of2004
deriving DecidableEq, Repr

/-- The cells that an edition still lacks. -/
def Edition.lacking : Edition → List (Nat × Nat)
  | of2000 => jisx0213Of2004
  | of2004 => []

def basicCells : Cells := fun row column => one (jisx0208.char? row column)

def furtherCells : Cells := fun row column => one (jisx0212.char? row column)

/-- The first plane of JIS X 0213, in which some cells hold two characters. -/
def firstPlane (edition : Edition) : Cells := fun row column =>
  if edition.lacking.contains (row, column) then none
  else basicCells row column <|> one (jisx0213First.char? row column)
    <|> (jisx0213Pairs.find? fun (r, c, _) => r = row ∧ c = column).map (·.2.2.toList)

/-- The second plane of JIS X 0213; the edition of 2004 changed one cell. -/
def secondPlane (edition : Edition) : Cells := fun row column =>
  if edition = .of2000 && row = 92 && column = 26 then some ['鬝']
  else one (jisx0213Second.char? row column)

/-- Katakana of half width, by their bytes. -/
def katakana? (b : UInt8) : Option Char :=
  if 0xa1 ≤ b && b ≤ 0xdf then some (Char.ofNat (0xfec0 + b.toNat)) else none

/-- The piece of a code of two bytes, by its cell. A cell that an edition still lacks is at fault
with both bytes. -/
def cellPiece (cells : Cells) (lacking : List (Nat × Nat)) : Option (Nat × Nat) → Piece
  | none => pieceOf 2 none
  | some (row, column) =>
    if lacking.contains (row, column) then .bad 2 "illegal multibyte sequence"
    else pieceOf 2 (cells row column)

/-- EUC: `0x8e` stands in front of katakana, and `0x8f` in front of the cells of another grid. -/
def extendedPiece (first : Option (Nat × Nat) → Piece) (second : Cells) (bs : List UInt8) : Piece :=
  match bs with
  | 0x8e :: b :: _ => pieceOf 2 (one (katakana? b))
  | 0x8f :: rest =>
    match rest with
    | a :: b :: _ => pieceOf 3 ((extendedCell? a b).bind fun (row, column) => second row column)
    | _ => cutShort bs
  | a :: b :: _ => if a < 0x80 then .ofNat a.toNat 1 else first (extendedCell? a b)
  | _ => doubleBytePiece (fun _ _ => none) bs

def extended : Codec where
  name := "euc_jp"
  piece := extendedPiece (cellPiece basicCells []) furtherCells

/-- EUC with JIS X 0213; what its second plane leaves empty is taken from JIS X 0212. -/
def extendedOf (edition : Edition) : Codec where
  name := "euc_jis"
  piece :=
    let first : Cells := fun row column =>
      if row = 1 ∧ column = 17 then some ['～'] else firstPlane edition row column
    extendedPiece (cellPiece first edition.lacking)
      fun row column => secondPlane edition row column <|> furtherCells row column

/-- The cell of a code of Shift JIS, with two rows to a first byte. -/
def shiftedCell? (a b : UInt8) : Option (Nat × Nat) :=
  if b < 0x40 || b = 0x7f || 0xfc < b then none
  else
    let lead := if a < 0xe0 then a.toNat - 0x81 else a.toNat - 0xc1
    let place := if b < 0x80 then b.toNat - 0x40 else b.toNat - 0x41
    some (2 * lead + place / 94, place % 94)

/-- Shift JIS: single bytes beside codes of two bytes. -/
def shiftedPiece (single? : UInt8 → Option Char) (cell : Option (Nat × Nat) → Piece)
    (bs : List UInt8) : Piece :=
  match bs with
  | [] => cutShort bs
  | a :: rest =>
    match single? a with
    | some c => .code [c] 1
    | none =>
      if (0x81 ≤ a && a ≤ 0x9f) || (0xe0 ≤ a && a ≤ 0xfc) then
        match rest with
        | [] => cutShort bs
        | b :: _ => cell (shiftedCell? a b)
      else pieceOf 1 none

/-- ASCII or katakana. -/
def asciiOrKatakana? (b : UInt8) : Option Char :=
  if b < 0x80 then some (Char.ofNat b.toNat) else katakana? b

def shifted : Codec where
  name := "shift_jis"
  piece := shiftedPiece asciiOrKatakana? (cellPiece basicCells [])

/-- The Roman letters of JIS X 0201: a yen sign and an overline take two places of ASCII. -/
def roman? (b : UInt8) : Option Char :=
  if b = 0x5c then some '¥' else if b = 0x7e then some '‾'
  else if b < 0x80 then some (Char.ofNat b.toNat) else none

/-- The rows of the second plane that follow one another after the first plane. -/
def secondPlaneRows : List Nat := [0, 7, 2, 3, 4, 11, 12, 13, 14] ++ List.range' 77 17

/-- Shift JIS with JIS X 0213. -/
def shiftedOf (edition : Edition) : Codec where
  name := "shift_jis"
  piece :=
    let cells : Cells := fun row column =>
      if row = 0 ∧ column = 31 then some ['\\']
      else if row < 94 then firstPlane edition row column
      else secondPlaneRows[row - 94]?.bind fun row => secondPlane edition row column
    shiftedPiece (fun b => roman? b <|> katakana? b) (cellPiece cells edition.lacking)

/-- The single bytes of code page 932, of which four are private. -/
def cp932Single? (b : UInt8) : Option Char :=
  if b ≤ 0x80 then some (Char.ofNat b.toNat)
  else if b = 0xa0 then some '\uf8f0'
  else if 0xfd ≤ b then some (Char.ofNat (0xf8f1 + (b.toNat - 0xfd)))
  else katakana? b

/-- Six symbols that code page 932 has of full width. -/
def cp932Runs : List Run :=
  [⟨0, 32, "～∥"⟩, ⟨0, 60, "－"⟩, ⟨0, 80, "￠￡"⟩, ⟨1, 43, "￢"⟩, ⟨12, 0, cp932Row13⟩]

/-- The character at a place of a row, if it is not blank. -/
def charAt? (row : String) (place : Nat) : Option Char := row.toList[place]?.filter (· ≠ ' ')

/-- The cells of code page 932: twenty rows are private. -/
def cp932Cells : Cells := fun row column =>
  if 94 ≤ row ∧ row < 114 then some [Char.ofNat (0xe000 + (row - 94) * 94 + column)]
  else one ((charOfRuns? cp932Runs row column).filter (· ≠ ' ')
    <|> (if 88 ≤ row ∧ row < 92 then charAt? cp932Selection ((row - 88) * 94 + column) else none)
    <|> (if 114 ≤ row then charAt? cp932Extension ((row - 114) * 94 + column) else none)
    <|> jisx0208.char? row column)

def cp932 : Codec where
  name := "cp932"
  piece := shiftedPiece cp932Single? (cellPiece cp932Cells [])

end ClusterBilling.Encoding.Japanese
