import ClusterBilling.Encoding.Deflate

/-! Compressed data in the two forms that replies use. -/
namespace ClusterBilling.Encoding

/-- The remainder of bytes by a polynomial over two elements. -/
def crc32 (bs : List UInt8) : UInt32 :=
  let shift := fun (n : UInt32) => if n &&& 1 = 1 then (n >>> 1) ^^^ 0xedb88320 else n >>> 1
  let step := fun (n : UInt32) (b : UInt8) => Nat.repeat shift 8 (n ^^^ b.toUInt32)
  (bs.foldl step 0xffffffff) ^^^ 0xffffffff

/-- The sum of bytes, and the sum of such sums. -/
def adler32 (bs : List UInt8) : Nat :=
  let step := fun ((low, high) : Nat × Nat) (b : UInt8) =>
    let low := (low + b.toNat) % 65521
    (low, (high + low) % 65521)
  let (low, high) := bs.foldl step (1, 0)
  high * 65536 + low

namespace Deflate

/-- Skip the bytes up to the next zero. -/
def skipText : Nat → Inflater Unit
  | 0 => throw .exhausted
  | n + 1 => do
    if (← number 8) = 0 then return else skipText n

/-- The header of gzip data. -/
def gzipHeader (input : List UInt8) : Inflater Unit := do
  if (← number 16) ≠ 0x8b1f then fault "incorrect header check"
  let flags ← number 16
  if flags % 256 ≠ 8 then fault "unknown compression method"
  if flags &&& 0xe000 ≠ 0 then fault "unknown header flags set"
  discard (number 48)
  if flags.testBit 10 then discard (number (8 * (← number 16)))
  if flags.testBit 11 then skipText (input.length + 1)
  if flags.testBit 12 then skipText (input.length + 1)
  if flags.testBit 9 then
    let length := input.length - (← get).bits.length / 8
    if (← number 16) ≠ (crc32 (input.take length)).toNat % 65536 then fault "header crc mismatch"

/-- Data with a header, and with its checksum and its length at the end. -/
def gzip (input : List UInt8) : Inflater Unit := do
  gzipHeader input
  allBlocks
  if (← number 32) ≠ (crc32 (← get).out.toList).toNat then fault "incorrect data check"
  if (← number 32) ≠ (← get).out.size % 0x100000000 then fault "incorrect length check"

/-- Data with a header of two bytes, and with its checksum at the end. -/
def zlib : Inflater Unit := do
  let method ← number 8
  let flags ← number 8
  if (method * 256 + flags) % 31 ≠ 0 then fault "incorrect header check"
  if method % 16 ≠ 8 then fault "unknown compression method"
  if 7 < method / 16 then fault "invalid window size"
  if flags.testBit 5 then
    discard (number 32)
    fault "no dictionary"
  allBlocks
  let sum := fun high low => high * 256 + low
  let bytes ← (List.range 4).mapM fun _ => number 8
  if bytes.foldl sum 0 ≠ adler32 (← get).out.toList then fault "incorrect data check"

end Deflate

/-- A form of compressed data. -/
inductive Compression where
  | gzip
  | deflate
deriving DecidableEq, Repr

namespace Compression

/-- A form by the name that headers give it. -/
def ofName? : String → Option Compression
  | "gzip" => some gzip
  | "deflate" => some deflate
  | _ => none

/-- The data itself. The second form is also read without header and checksum. -/
def unpack : Compression → List UInt8 → Except String (List UInt8)
  | gzip, bs => Deflate.run (Deflate.gzip bs) bs
  | deflate, bs =>
    match Deflate.run Deflate.zlib bs with
    | .error _ => Deflate.run Deflate.allBlocks bs
    | unpacked => unpacked

/-- Data that was compressed in one form after the other. -/
def unpackAll (forms : List Compression) (bs : List UInt8) : Except String (List UInt8) :=
  forms.reverse.foldlM (fun bs form => form.unpack bs) bs

end Compression
end ClusterBilling.Encoding
