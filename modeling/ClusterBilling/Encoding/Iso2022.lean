import ClusterBilling.Encoding.Charset
import ClusterBilling.Encoding.Chart.Iso8859
import ClusterBilling.Encoding.Chinese
import ClusterBilling.Encoding.Japanese
import ClusterBilling.Encoding.Korean

/-!
ISO 2022: seven bits, in which escape sequences switch between sets of characters. Up to three sets
are at hand at a time; one of them is in use.
-/
namespace ClusterBilling.Encoding.Iso2022

/-- How escape sequences name a set: by a letter, and by whether its characters have two bytes. -/
structure Label where
  letter : UInt8
  isDouble : Bool := false
deriving DecidableEq, Repr

def ascii : Label := ⟨0x42, false⟩

/-- A set of characters. -/
structure CharacterSet where
  label : Label
  /-- The characters of a code of one byte, or of two. -/
  chars? : List UInt8 → Option (List Char)

def singleSet (letter : UInt8) (char? : UInt8 → Option Char) : CharacterSet where
  label := ⟨letter, false⟩
  chars? bs := bs.head?.bind fun b => one (char? b)

def doubleSet (letter : UInt8) (cells : Nat → Nat → Option (List Char)) : CharacterSet where
  label := ⟨letter, true⟩
  chars? bs := match bs with
    | a :: b :: _ => (plainCell? a b).bind fun (row, column) => cells row column
    | _ => none

open Japanese in
def romanSet : CharacterSet := singleSet 0x4a roman?

open Japanese in
def katakanaSet : CharacterSet :=
  singleSet 0x49 fun b => if b < 0x80 then katakana? (b + 0x80) else none

def jisx0208 : CharacterSet := doubleSet 0x42 Japanese.basicCells
def jisx0208Of1978 : CharacterSet := doubleSet 0x40 Japanese.basicCells
def jisx0212 : CharacterSet := doubleSet 0x44 Japanese.furtherCells
def jisx0213First (letter : UInt8) (edition : Japanese.Edition) : CharacterSet :=
  doubleSet letter (Japanese.firstPlane edition)
def jisx0213Second : CharacterSet := doubleSet 0x50 (Japanese.secondPlane .of2004)
def ksx1001 : CharacterSet :=
  doubleSet 0x43 fun row column => one (Grid.ksx1001.char? row column)
def gb2312 : CharacterSet := doubleSet 0x41 fun row column => one (Grid.gb2312.char? row column)

/-- Sets that only single shifts reach. -/
def latinSet : CharacterSet := singleSet 0x41 fun _ => none
def greekSet : CharacterSet := singleSet 0x46 fun _ => none

/-- A version of ISO 2022. -/
structure Version where
  sets : List CharacterSet
  /-- Whether two control characters switch between the first set and the second. -/
  shifts : Bool := false
  /-- Whether one character at a time may be taken from the third set. -/
  singleShifts : Bool := false
  /-- Whether the sequence for the revised JIS X 0208 is known. -/
  revised : Bool := true

structure State where
  first : Label := ascii
  second : Label := ascii
  third : Label := ascii
  isShifted : Bool := false
  /-- Whether an unknown escape sequence is passed through. -/
  passing : Bool := false
deriving DecidableEq, Repr

/-- What ends an escape sequence. -/
def isFinal (b : UInt8) : Bool := 0x40 ≤ b && b ≤ 0x5a

/-- The length of the escape sequence in front of a text: from its second byte on up to the one that
ends it. Of sixteen bytes without end none counts, and of fewer nothing is known. -/
def escapeLength? (revised : Bool) (bs : List UInt8) : (fuel i : Nat) → Option Nat
  | 0, _ => some 0
  | fuel + 1, i =>
    if 16 ≤ i then some 0
    else match bs.drop i with
      | [] => none
      | b :: rest =>
        if isFinal b then some (i + 1)
        else if revised && b = 0x26 && rest.head? = some 0x40 then
          escapeLength? revised bs fuel (i + 3)
        else escapeLength? revised bs fuel (i + 1)

/-- The place and the label that an escape sequence gives, if it is well-formed. -/
def designation? (v : Version) : List UInt8 → Option (Nat × Label)
  | [_, 0x24, letter] => some (0, ⟨letter, true⟩)
  | [_, 0x28, letter] => some (0, ⟨letter, false⟩)
  | [_, 0x29, letter] => some (1, ⟨letter, false⟩)
  | [_, 0x2e, letter] => if v.singleShifts then some (2, ⟨letter, false⟩) else none
  | [_, 0x24, 0x28, letter] => some (0, ⟨letter, true⟩)
  | [_, 0x24, 0x29, letter] => some (1, ⟨letter, true⟩)
  | [_, _, _, 0x1b, 0x24, 0x42] => if v.revised then some (0, ⟨0x42, true⟩) else none
  | _ => none

def Version.set? (v : Version) (label : Label) : Option CharacterSet :=
  v.sets.find? (·.label = label)

/-- Put a set into one of the three places. -/
def State.designate (s : State) (place : Nat) (label : Label) : State :=
  match place with
  | 0 => { s with first := label }
  | 1 => { s with second := label }
  | _ => { s with third := label }

/-- An escape sequence that may switch sets. One that does not name a known set is at fault as a
whole. -/
def escapePiece (v : Version) (s : State) (bs : List UInt8) : Piece × State :=
  match escapeLength? v.revised bs 16 1 with
  | none => (cutShort bs, s)
  | some 0 => (pieceOf 1 none, s)
  | some n =>
    match designation? v (bs.take n) with
    | some (place, label) =>
      if label = ascii || (v.set? label).isSome then (.code [] n, s.designate place label)
      else (.bad n "illegal multibyte sequence", s)
    | none => (.bad n "illegal multibyte sequence", s)

/-- Says of a single shift that its set has no characters for it. -/
def emptyShift : String := "no characters for a single shift"

/-- A Greek character; three that were added later are not known. -/
def greekChar? (b : UInt8) : Option Char :=
  if b = 0x24 || b = 0x25 || b = 0x2a then none else Chart.iso8859Part7.char? (b ^^^ 0x80)

/-- A character of the third set after a single shift. -/
def shiftPiece (label : Label) (b : UInt8) : Piece :=
  let char? : Option Char :=
    if label = latinSet.label then if b < 0x80 then some (Char.ofNat (b.toNat + 0x80)) else none
    else if label = greekSet.label then greekChar? b
    else if b < 0x80 then some (Char.ofNat b.toNat) else none
  if !([ascii, latinSet.label, greekSet.label].contains label) then .bad 3 emptyShift
  else match char? with
    | some c => .code [c] 3
    | none => .bad 3 "illegal multibyte sequence"

/-- A character of the set in use. -/
def charPiece (v : Version) (s : State) (bs : List UInt8) : Piece :=
  let label := if s.isShifted then s.second else s.first
  match bs with
  | [] => cutShort bs
  | b :: rest =>
    if 0x80 ≤ b then pieceOf 1 none
    else if label = ascii then .ofNat b.toNat 1
    else
      let width := if label.isDouble then 2 else 1
      if label.isDouble && rest.isEmpty then cutShort bs
      else match (v.set? label).bind (·.chars? bs) with
        | some cs => .code (cs.map .scalar) width
        | none => .bad width "illegal multibyte sequence"

def scanner (v : Version) : Scanner State := fun s bs =>
  match bs with
  | [] => (cutShort bs, s)
  | b :: rest =>
    if s.passing then (.ofNat b.toNat 1, { s with passing := !isFinal b })
    else if b = 0x1b then
      match rest with
      | [] => (cutShort bs, s)
      | c :: rest =>
        if [0x28, 0x29, 0x24, 0x2e, 0x26].contains c then escapePiece v s bs
        else if v.singleShifts && c = 0x4e then
          match rest with
          | [] => (cutShort bs, s)
          | d :: _ => (shiftPiece s.third d, s)
        else (.ofNat 0x1b 1, { s with passing := true })
    else if v.shifts && b = 0x0f then (.code [] 1, { s with isShifted := false })
    else if v.shifts && b = 0x0e then (.code [] 1, { s with isShifted := true })
    else if b = 0x0a then (.ofNat 0x0a 1, { s with isShifted := false })
    else if b < 0x20 then (.ofNat b.toNat 1, s)
    else (charPiece v s bs, s)

/-- Two faults are not replaced: a single shift to the wrong set, and an end that breaks off and has
more than eight bytes. -/
def refusal? : Piece → Option CharsetFault
  | .bad n reason =>
    if reason = emptyShift then some .emptyShift
    else if 8 < n && reason = "incomplete multibyte sequence" then some .longEscape
    else none
  | _ => none

def charset (v : Version) : Charset :=
  let plain := Charset.ofScanner (scanner v) {}
  { plain with
    lossy bs :=
      match ((scanner v).pieces {} bs).findSome? refusal? with
      | some fault => .error fault
      | none => plain.lossy bs }

def korean : Version := { sets := [ksx1001], shifts := true, revised := false }

def japanese : Version := { sets := [jisx0208, romanSet, jisx0208Of1978] }

def japanese1 : Version := { sets := [jisx0208, jisx0212, romanSet, jisx0208Of1978] }

def japanese2 : Version where
  sets := [jisx0208, jisx0212, ksx1001, gb2312, romanSet, jisx0208Of1978, latinSet, greekSet]
  singleShifts := true

def japaneseOf2004 : Version where
  sets := [jisx0208, jisx0213First 0x51 .of2004, jisx0213Second]

def japanese3 : Version where
  sets := [jisx0208, jisx0213First 0x4f .of2000, jisx0213Second]

def japaneseExtended : Version where
  sets := [jisx0208, jisx0212, romanSet, katakanaSet, jisx0208Of1978]

end ClusterBilling.Encoding.Iso2022
