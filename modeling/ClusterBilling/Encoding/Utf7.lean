import ClusterBilling.Encoding.Charset

/-! UTF-7: ASCII, in which a plus sign begins a section of UTF-16 in base 64. -/
namespace ClusterBilling.Encoding.Utf7
open CodePoint

/-- What a section has read and not put out yet. -/
structure Section where
  /-- The number that the bits left over denote. -/
  bits : Nat := 0
  count : Nat := 0
  /-- A high surrogate that waits for its partner. -/
  high? : Option Nat := none
deriving DecidableEq, Repr

/-- The six bits of a character of a section. -/
def sixBits? (b : UInt8) : Option Nat :=
  if 0x41 ≤ b && b ≤ 0x5a then some (b.toNat - 0x41)
  else if 0x61 ≤ b && b ≤ 0x7a then some (b.toNat - 0x61 + 26)
  else if 0x30 ≤ b && b ≤ 0x39 then some (b.toNat - 0x30 + 52)
  else if b = 0x2b then some 62
  else if b = 0x2f then some 63
  else none

/-- What comes out of a text: code points, and faults. -/
abbrev Output := List (Option CodePoint)

/-- Take up a unit of UTF-16. A high surrogate without partner stands for itself. -/
def Section.addUnit (s : Section) (unit : Nat) : Output × Section :=
  let rest := { s with high? := none }
  let alone := s.high?.toList.map ofNat?
  match s.high? with
  | some high =>
    if isLowSurrogate unit then ([ofNat? (joinSurrogates high unit)], rest)
    else if isHighSurrogate unit then (alone, { s with high? := some unit })
    else (alone ++ [ofNat? unit], rest)
  | none =>
    if isHighSurrogate unit then ([], { s with high? := some unit }) else ([ofNat? unit], rest)

/-- Take up six bits; sixteen of them are a unit. -/
def Section.addBits (s : Section) (bits : Nat) : Output × Section :=
  let bits := s.bits * 64 + bits
  let count := s.count + 6
  if 16 ≤ count then
    let left := count - 16
    { s with bits := bits % (1 <<< left), count := left }.addUnit (bits >>> left)
  else ([], { s with bits, count })

/-- Whether a section ends within a character or with other bits than zeros. -/
def Section.isPartial (s : Section) : Bool := 6 ≤ s.count || s.bits ≠ 0

/-- Whether a byte stands for itself outside of sections. -/
def isDirect (b : UInt8) : Bool := b < 0x80 && b ≠ 0x2b

mutual

/-- Outside of a section. -/
def direct : List UInt8 → Output
  | [] => []
  | 0x2b :: 0x2d :: bs => some (.scalar '+') :: direct bs
  | 0x2b :: b :: bs => if (sixBits? b).isSome then inside {} (b :: bs) else none :: direct bs
  | [0x2b] => []
  | b :: bs => (if isDirect b then ofNat? b.toNat else none) :: direct bs

/-- Inside of a section. The character that ends it is lost if it is a hyphen or if the section is
at fault. -/
def inside (s : Section) : List UInt8 → Output
  | [] => if s.isPartial || s.high?.isSome then [none] else []
  | b :: bs =>
    match sixBits? b with
    | some bits =>
      let (out, s) := s.addBits bits
      out ++ inside s bs
    | none =>
      if s.isPartial then none :: direct bs
      else
        let alone := if isDirect b then s.high?.toList.map ofNat? else []
        alone ++ if b = 0x2d then direct bs
          else (if isDirect b then ofNat? b.toNat else none) :: direct bs

end

end Utf7

def Charset.utf7 : Charset where
  lossy bs := .ok ((Utf7.direct bs).map (·.getD replacement))
  strict? bs := (Utf7.direct bs).mapM id

end ClusterBilling.Encoding
