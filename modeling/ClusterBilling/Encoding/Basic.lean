import ClusterBilling.Text.Quoted

/-! Bytes read as text, piece by piece, and what becomes of bytes that are no text. -/
namespace ClusterBilling.Encoding

/-- What the first bytes of a text are. -/
inductive Piece where
  /-- Code points and the number of their bytes. A switch to another set of characters has
  none. -/
  | code (points : List CodePoint) (length : Nat)
  /-- A number of bytes that stand for nothing, and why. -/
  | bad (length : Nat) (reason : String)
deriving DecidableEq, Repr

/-- The character of a number, and how many bytes it took. -/
def Piece.ofNat (point length : Nat) : Piece := .code [Char.ofNat point] length

/-- A way to write text as bytes. -/
structure Codec where
  name : String
  /-- The first piece of a text that is not empty. -/
  piece : List UInt8 → Piece
  /-- The surrogate that the text begins with, if it does, and the number of its bytes. -/
  surrogate? : List UInt8 → Option (CodePoint × Nat) := fun _ => none

/-- How the first piece of a text that is not empty is found, and the state that it leaves for the
next. -/
abbrev Scanner (σ : Type) := σ → List UInt8 → Piece × σ

/-- Bytes that are no text: those from `start` on, as many as `bytes`. -/
structure DecodeError where
  codec : String
  start : Nat
  bytes : List UInt8
  reason : String
deriving DecidableEq, Repr

def DecodeError.message (e : DecodeError) : String :=
  let head := s!"'{e.codec}' codec can't decode "
  match e.bytes with
  | [b] =>
    head ++ "byte 0x" ++ String.ofList (Text.hex 2 b.toNat)
      ++ s!" in position {e.start}: {e.reason}"
  | bs => head ++ s!"bytes in position {e.start}-{e.start + bs.length - 1}: {e.reason}"

/-- Stands for bytes that are no text. -/
def replacement : CodePoint := '\ufffd'

namespace Piece

def length : Piece → Nat
  | code _ n => n
  | bad n _ => n

/-- What the piece stands for, with one replacement for a fault. -/
def lossy : Piece → List CodePoint
  | code points _ => points
  | bad .. => [replacement]

/-- What the piece stands for, unless it is a fault. -/
def strict? : Piece → Option (List CodePoint)
  | code points _ => some points
  | bad .. => none

end Piece

namespace Scanner
variable {σ : Type}

def piecesFrom (scan : Scanner σ) : (fuel : Nat) → σ → List UInt8 → List Piece
  | 0, _, _ => []
  | _, _, [] => []
  | fuel + 1, state, b :: bs =>
    let (piece, next) := scan state (b :: bs)
    piece :: piecesFrom scan fuel next ((b :: bs).drop piece.length)

/-- The pieces of a text in their order. -/
def pieces (scan : Scanner σ) (start : σ) (bs : List UInt8) : List Piece :=
  piecesFrom scan bs.length start bs

/-- A text for all bytes, with replacements where they are at fault. -/
def lossy (scan : Scanner σ) (start : σ) (bs : List UInt8) : List CodePoint :=
  (scan.pieces start bs).flatMap Piece.lossy

end Scanner

namespace Codec

/-- No state passes from one piece to the next. -/
def scanner (c : Codec) : Scanner Unit := fun _ bs => (c.piece bs, ())

/-- Decode up to the first fault. A lone surrogate is no fault. -/
def decodeFrom (c : Codec) : (fuel start : Nat) → (done : List CodePoint) → List UInt8 →
    Except DecodeError (List CodePoint)
  | 0, _, done, _ => .ok done.reverse
  | _, _, done, [] => .ok done.reverse
  | fuel + 1, start, done, b :: bs =>
    match c.piece (b :: bs) with
    | .code points length =>
      decodeFrom c fuel (start + length) (points.reverse ++ done) ((b :: bs).drop length)
    | .bad length reason =>
      match c.surrogate? (b :: bs) with
      | some (p, n) => decodeFrom c fuel (start + n) (p :: done) ((b :: bs).drop n)
      | none => .error ⟨c.name, start, (b :: bs).take length, reason⟩

/-- All the bytes as text, or the first fault. -/
def decode (c : Codec) (start : Nat) (bs : List UInt8) : Except DecodeError (List CodePoint) :=
  decodeFrom c bs.length start [] (bs.drop start)

end Codec
end ClusterBilling.Encoding
