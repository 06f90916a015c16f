/-!
Compressed data: blocks of bytes as they are, or of codes of variable length. A code stands for a
byte, for the end of its block, or for bytes that came before.
-/
namespace ClusterBilling.Encoding.Deflate

/-- Why reading stops. -/
inductive Stop where
  /-- No bits are left. -/
  | exhausted
  | fault (reason : String)
deriving DecidableEq, Repr

/-- The bits that are left, and the bytes that have come out. -/
structure State where
  bits : List Bool
  out : Array UInt8 := #[]

/-- A step of reading. What has come out stays when it stops. -/
abbrev Inflater := ExceptT Stop (StateM State)

def fault {β : Type} (reason : String) : Inflater β := throw (.fault reason)

def bit : Inflater Bool := do
  match (← get).bits with
  | [] => throw .exhausted
  | b :: bits =>
    modify ({ · with bits })
    return b

/-- A number of so many bits, the lowest first. -/
def number : Nat → Inflater Nat
  | 0 => return 0
  | n + 1 => return (← bit).toNat + 2 * (← number n)

def put (b : UInt8) : Inflater Unit := modify fun s => { s with out := s.out.push b }

/-- Leave out the bits up to the next byte. -/
def align : Inflater Unit := modify fun s => { s with bits := s.bits.drop (s.bits.length % 8) }

/-- The bits of bytes, the lowest of each byte first. -/
def bitsOf (bs : List UInt8) : List Bool :=
  bs.flatMap fun b => (List.range 8).map b.toNat.testBit

/-- The bytes that come out of input, unless there is a fault. Input that ends early is none. -/
def run (inflater : Inflater Unit) (input : List UInt8) : Except String (List UInt8) :=
  match inflater.run { bits := bitsOf input } with
  | (.error (.fault reason), _) => .error reason
  | (_, s) => .ok s.out.toList

/-! ## Codes -/

/-- Symbols by codes of bits: of two codes the longer one is the higher one. -/
structure Code where
  /-- How many codes there are of each length from 1 on. -/
  counts : List Nat
  /-- The symbols, by the order of their codes. -/
  symbols : Array Nat
deriving DecidableEq, Repr

namespace Code

/-- The code in which a symbol's code has the length at its place; there is none for length 0. -/
def ofLengths (lengths : List Nat) : Code where
  counts := (List.range (max 1 (lengths.foldl max 0))).map fun n => lengths.count (n + 1)
  symbols := ((lengths.zipIdx.filter (·.1 ≠ 0)).mergeSort (·.1 ≤ ·.1)).toArray.map Prod.snd

/-- How many codes of the greatest length are free, unless there are more symbols than codes. -/
def free? (c : Code) : Option Nat :=
  c.counts.foldlM (fun free n => if n ≤ 2 * free then some (2 * free - n) else none) 1

def isEmpty (c : Code) : Bool := c.symbols.isEmpty

/-- Whether each row of bits begins with a code, or there is no code at all. -/
def isComplete (c : Code) : Bool := c.isEmpty || c.free? = some 0

/-- Whether a code is complete or has a single symbol with a single bit. -/
def isUsable (c : Code) : Bool := c.isComplete || c.counts = [1]

/-- Read a symbol. There is none if no code begins with the bits. -/
def symbol? (c : Code) : Inflater (Option Nat) := walk 0 0 c.counts
where
  /-- Read on, for a code that is so far above the first one of its length. -/
  walk (offset index : Nat) : List Nat → Inflater (Option Nat)
    | [] => return none
    | n :: counts => do
      let offset := 2 * offset + (← bit).toNat
      if offset < n then return c.symbols[index + offset]?
      else walk (offset - n) (index + n) counts

end Code

/-! ## Blocks -/

/-- Copy bytes that came out so far back. -/
def copy (distance : Nat) : Nat → Inflater Unit
  | 0 => return
  | n + 1 => do
    modify fun s => { s with out := s.out.push (s.out.getD (s.out.size - distance) 0) }
    copy distance n

/-- The least length of each symbol from 257 on, and how many bits add to it. -/
def lengthRanges : List (Nat × Nat) :=
  [(3, 0), (4, 0), (5, 0), (6, 0), (7, 0), (8, 0), (9, 0), (10, 0), (11, 1), (13, 1), (15, 1),
    (17, 1), (19, 2), (23, 2), (27, 2), (31, 2), (35, 3), (43, 3), (51, 3), (59, 3), (67, 4),
    (83, 4), (99, 4), (115, 4), (131, 5), (163, 5), (195, 5), (227, 5), (258, 0)]

/-- The least distance of each symbol, and how many bits add to it. -/
def distanceRanges : List (Nat × Nat) :=
  [(1, 0), (2, 0), (3, 0), (4, 0), (5, 1), (7, 1), (9, 2), (13, 2), (17, 3), (25, 3), (33, 4),
    (49, 4), (65, 5), (97, 5), (129, 6), (193, 6), (257, 7), (385, 7), (513, 8), (769, 8),
    (1025, 9), (1537, 9), (2049, 10), (3073, 10), (4097, 11), (6145, 11), (8193, 12),
    (12289, 12), (16385, 13), (24577, 13)]

/-- A number of a range. -/
def within : Option (Nat × Nat) → (reason : String) → Inflater Nat
  | none, reason => fault reason
  | some (least, bits), _ => return least + (← number bits)

/-- Bytes that came before, for a symbol from 257 on. -/
def repetition (distances : Code) (symbol : Nat) : Inflater Unit := do
  let length ← within lengthRanges[symbol - 257]? "invalid literal/length code"
  let range? := (← distances.symbol?).bind (distanceRanges[·]?)
  let distance ← within range? "invalid distance code"
  if (← get).out.size < distance then fault "invalid distance too far back"
  else copy distance length

/-- At most so many symbols, up to the end of their block. -/
def symbols (literals distances : Code) : Nat → Inflater Unit
  | 0 => throw .exhausted
  | n + 1 => do
    match ← literals.symbol? with
    | none => fault "invalid literal/length code"
    | some 256 => return
    | some symbol =>
      if symbol < 256 then put (.ofNat symbol) else repetition distances symbol
      symbols literals distances n

/-- Bytes as they are, so many of them. -/
def plainBytes : Nat → Inflater Unit
  | 0 => return
  | n + 1 => do
    put (.ofNat (← number 8))
    plainBytes n

def plainBlock : Inflater Unit := do
  align
  let length ← number 16
  let complement ← number 16
  if length + complement = 0xffff then plainBytes length
  else fault "invalid stored block lengths"

def codedBlock (literals distances : Code) : Inflater Unit := do
  symbols literals distances ((← get).bits.length + 1)

def fixedLiterals : Code :=
  .ofLengths (.replicate 144 8 ++ .replicate 112 9 ++ .replicate 24 7 ++ .replicate 8 8)

def fixedDistances : Code := .ofLengths (.replicate 32 5)

/-- The symbols for lengths of codes in the order in which their own lengths are given. -/
def lengthOrder : List Nat := [16, 17, 18, 0, 8, 7, 9, 6, 10, 5, 11, 4, 12, 3, 13, 2, 14, 1, 15]

/-- Lengths of codes up to so many in all. A symbol from 16 on repeats the last one or a zero. -/
def codeLengths (code : Code) (total : Nat) (lengths : List Nat) : (steps : Nat) →
    Inflater (List Nat)
  | 0 => return lengths
  | n + 1 => do
    if total ≤ lengths.length then return lengths
    match (← code.symbol?).getD 0 with
    | 16 =>
      let count := 3 + (← number 2)
      match lengths.getLast? with
      | none => fault "invalid bit length repeat"
      | some length => continueWith n (.replicate count length)
    | 17 => continueWith n (.replicate (3 + (← number 3)) 0)
    | 18 => continueWith n (.replicate (11 + (← number 7)) 0)
    | length => continueWith n [length]
where
  continueWith (n : Nat) (more : List Nat) : Inflater (List Nat) :=
    if total < lengths.length + more.length then fault "invalid bit length repeat"
    else codeLengths code total (lengths ++ more) n

/-- The codes that a block gives for itself. -/
def ownCodes : Inflater (Code × Code) := do
  let literals := 257 + (← number 5)
  let distances := 1 + (← number 5)
  let count := 4 + (← number 4)
  if 286 < literals || 30 < distances then fault "too many length or distance symbols"
  let given ← (List.range count).mapM fun _ => number 3
  let code := Code.ofLengths ((List.range 19).map fun s => given.getD (lengthOrder.idxOf s) 0)
  if !code.isComplete then fault "invalid code lengths set"
  let lengths ← codeLengths code (literals + distances) [] (literals + distances)
  if lengths.getD 256 0 = 0 then fault "invalid code -- missing end-of-block"
  let literalCode := Code.ofLengths (lengths.take literals)
  let distanceCode := Code.ofLengths (lengths.drop literals)
  if !literalCode.isUsable then fault "invalid literal/lengths set"
  if !distanceCode.isUsable then fault "invalid distances set"
  return (literalCode, distanceCode)

/-- A block, of which its first bit says whether it is the last one. -/
def block : Inflater Bool := do
  let isLast ← bit
  match ← number 2 with
  | 0 => plainBlock
  | 1 => codedBlock fixedLiterals fixedDistances
  | 2 =>
    let (literals, distances) ← ownCodes
    codedBlock literals distances
  | _ => fault "invalid block type"
  return isLast

/-- At most so many blocks, and the rest of the byte in which the last one ends. -/
def blocks : Nat → Inflater Unit
  | 0 => throw .exhausted
  | n + 1 => do
    if ← block then align else blocks n

/-- All blocks. Each of them takes a bit at least. -/
def allBlocks : Inflater Unit := do blocks ((← get).bits.length + 1)

end ClusterBilling.Encoding.Deflate
