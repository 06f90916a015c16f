import ClusterBilling.Encoding.DoubleByte
import ClusterBilling.Encoding.Grid.Ksx1001

/-! Korean. A syllable is a leading consonant, a vowel and an optional final consonant. -/
namespace ClusterBilling.Encoding.Korean

def ksxChar? (cell? : Option (Nat × Nat)) : Option Char :=
  cell?.bind fun (row, column) => Grid.ksx1001.char? row column

/-- The syllable of three letters by their numbers; without a final consonant the last number is
zero. -/
def syllable (leading vowel final : Nat) : Char :=
  Char.ofNat (0xac00 + (leading * 21 + vowel) * 28 + final)

/-- The leading consonants among the first thirty letters of KS X 1001, by their numbers. -/
def leadingNumbers : List (Option Nat) :=
  [some 0, some 1, none, some 2, none, none, some 3, some 4, some 5, none, none, none, none, none,
    none, none, some 6, some 7, some 8, none, some 9, some 10, some 11, some 12, some 13, some 14,
    some 15, some 16, some 17, some 18]

/-- The final consonants among the same letters. -/
def finalNumbers : List (Option Nat) :=
  [some 1, some 2, some 3, some 4, some 5, some 6, some 7, none, some 8, some 9, some 10, some 11,
    some 12, some 13, some 14, some 15, some 16, some 17, none, some 18, some 19, some 20, some 21,
    some 22, none, some 23, some 24, some 25, some 26, some 27]

/-- The byte that fills the place of a letter. -/
def filler : UInt8 := 0xd4

/-- A syllable of three letters of KS X 1001 by their second bytes. -/
def composed? (leading vowel final : UInt8) : Option Char := do
  let consonant := fun (numbers : List (Option Nat)) (b : UInt8) =>
    if b < 0xa1 then none else numbers[b.toNat - 0xa1]?.join
  let l ← consonant leadingNumbers leading
  let f ← if final = filler then some 0 else consonant finalNumbers final
  if 0xbf ≤ vowel && vowel ≤ 0xd3 then some (syllable l (vowel.toNat - 0xbf) f) else none

/-- A filler begins a row of four letters that make up one syllable. -/
def extendedPiece (bs : List UInt8) : Piece :=
  match bs with
  | 0xa4 :: 0xd4 :: rest =>
    match rest with
    | l :: leading :: v :: vowel :: f :: final :: _ =>
      if l = 0xa4 && v = 0xa4 && f = 0xa4 then pieceOf 8 (one (composed? leading vowel final))
      else pieceOf 8 none
    | _ => cutShort bs
  | _ => doubleBytePiece (fun a b => one (ksxChar? (extendedCell? a b))) bs

/-- KS X 1001 beside ASCII. -/
def extended : Codec where
  name := "euc_kr"
  piece := extendedPiece

/-- The syllables of KS X 1001, in order. -/
def ksxSyllables : List Nat :=
  ((Grid.ksx1001.rows.drop 15).take 25).flatMap fun row => row.toList.map Char.toNat

/-- The place of a code of the unified encoding among those that it adds: rows of letters and of
bytes past ASCII, up to KS X 1001. -/
def addedPlace? (a b : UInt8) : Option Nat :=
  let column? :=
    if 0x41 ≤ b && b ≤ 0x5a then some (b.toNat - 0x41)
    else if 0x61 ≤ b && b ≤ 0x7a then some (b.toNat - 0x61 + 26)
    else if 0x81 ≤ b && b ≤ 0xfe then some (b.toNat - 0x81 + 52)
    else none
  column?.bind fun column =>
    if 0x81 ≤ a && a ≤ 0xa0 then some ((a.toNat - 0x81) * 178 + column)
    else if 0xa1 ≤ a && a ≤ 0xc6 && column < 84 then
      some (32 * 178 + (a.toNat - 0xa1) * 84 + column)
    else none

/-- The unified encoding adds the syllables that KS X 1001 lacks, of which there are 8822, in their
order. -/
def unified : Codec := doubleByte fun a b =>
  one (ksxChar? (extendedCell? a b) <|> do
    let place ← addedPlace? a b
    if place < 8822 then some (Char.ofNat (nthFree 0xac00 place ksxSyllables)) else none)

/-- What five bits of a Johab code say about one letter of a syllable. -/
inductive Letter where
  | absent
  /-- The letter by its number, and the character of it alone. -/
  | letter (number alone : Nat)
deriving DecidableEq, Repr

/-- Leading consonants by their bits. -/
def johabLeading : List (Option Letter) :=
  none :: some .absent :: ([0x31, 0x32, 0x34, 0x37, 0x38, 0x39, 0x41, 0x42, 0x43, 0x45, 0x46, 0x47,
    0x48, 0x49, 0x4a, 0x4b, 0x4c, 0x4d, 0x4e].zipIdx.map fun (alone, n) => some (.letter n alone))

/-- Vowels by their bits; `0` has none. -/
def johabVowels : List (Option Letter) :=
  let letters := fun (first : Nat) (count : Nat) =>
    (List.range count).map fun i => some (Letter.letter (first + i) (0x4f + first + i))
  [none, none, some .absent] ++ letters 0 5 ++ [none, none] ++ letters 5 6 ++ [none, none]
    ++ letters 11 6 ++ [none, none] ++ letters 17 4

/-- Final consonants by their bits. -/
def johabFinals : List (Option Letter) :=
  let letters := fun (first : Nat) (alone : List Nat) =>
    alone.zipIdx.map fun (a, i) => some (Letter.letter (first + i) a)
  [none, some .absent] ++ letters 1 [0x31, 0x32, 0x33, 0x34, 0x35, 0x36, 0x37, 0x39, 0x3a, 0x3b,
    0x3c, 0x3d, 0x3e, 0x3f, 0x40, 0x41] ++ [none]
    ++ letters 17 [0x42, 0x44, 0x45, 0x46, 0x47, 0x48, 0x4a, 0x4b, 0x4c, 0x4d, 0x4e]

/-- A syllable or one letter of it. -/
def johabSyllable? (a b : UInt8) : Option Char := do
  let leading ← johabLeading[a.toNat / 4 % 32]?.join
  let vowel ← johabVowels[a.toNat % 4 * 8 + b.toNat / 32]?.join
  let final ← johabFinals[b.toNat % 32]?.join
  let alone := fun (n : Nat) => Char.ofNat (0x3100 + n)
  match leading, vowel, final with
  | .absent, .absent, .absent => some '\u3000'
  | .absent, .absent, .letter _ f => some (alone f)
  | .absent, .letter _ v, .absent => some (alone v)
  | .letter _ l, .absent, .absent => some (alone l)
  | .letter l _, .letter v _, .absent => some (syllable l v 0)
  | .letter l _, .letter v _, .letter f _ => some (syllable l v f)
  | _, _, _ => none

/-- The cell of KS X 1001 that a code past the syllables stands for: two rows to a first byte. -/
def johabCell? (a b : UInt8) : Option (Nat × Nat) :=
  if a < 0xd9 || a = 0xdf || 0xf9 < a || b < 0x31 || (0x80 ≤ b && b < 0x91) || b.toNat % 128 = 0x7f
    || (a = 0xda && 0xa1 ≤ b && b ≤ 0xd3) then none
  else
    let row := if a < 0xe0 then 2 * (a.toNat - 0xd9) else 2 * a.toNat - 0x197
    let place := if b < 0x91 then b.toNat - 0x31 else b.toNat - 0x43
    some (row + place / 94, place % 94)

/-- Johab: the letters of a syllable by five bits each, and the rest of KS X 1001. -/
def johab : Codec := doubleByte fun a b =>
  one (if a < 0xd8 then johabSyllable? a b else ksxChar? (johabCell? a b))

end ClusterBilling.Encoding.Korean
