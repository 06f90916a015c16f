import ClusterBilling.Encoding.Basic

/-! Encodings of one byte to a character. -/
namespace ClusterBilling.Encoding

/-- The encoding that gives each byte a character, or none. -/
def byteCodec (char? : UInt8 → Option Char) : Codec where
  name := "charmap"
  piece bs := match bs.head?.bind char? with
    | some c => .code [c] 1
    | none => .bad 1 "character maps to <undefined>"

/-- Each byte stands for the character of its number. -/
def latin1 : Codec := byteCodec fun b => some (Char.ofNat b.toNat)

/-- A chart of characters in the order of their bytes, sixteen to a row. -/
structure Chart where
  rows : List String
  /-- The byte of the first row; the bytes before it are ASCII. -/
  first : Nat
deriving DecidableEq, Repr

namespace Chart

/-- A chart of all bytes. -/
def ofRows (rows : List String) : Chart := ⟨rows, 0⟩

/-- A chart that is ASCII in its first half. -/
def ofUpperRows (rows : List String) : Chart := ⟨rows, 128⟩

/-- The character of a byte; the replacement character marks the bytes without one. -/
def char? (c : Chart) (b : UInt8) : Option Char :=
  if b.toNat < c.first then some (Char.ofNat b.toNat)
  else
    let n := b.toNat - c.first
    (c.rows[n / 16]?.bind (·.toList[n % 16]?)).filter (· ≠ '\ufffd')

def codec (c : Chart) : Codec := byteCodec c.char?

/-- The chart of which only the first half has characters. -/
def ascii : Chart := .ofUpperRows []

end Chart
end ClusterBilling.Encoding
