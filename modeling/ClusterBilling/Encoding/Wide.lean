import ClusterBilling.Encoding.Basic

/-! UTF-16 and UTF-32 in both byte orders. -/
namespace ClusterBilling.Encoding
open CodePoint

/-- Which byte of a unit comes first. -/
inductive ByteOrder where
  | little
  | big
deriving DecidableEq, Repr

def ByteOrder.suffix : ByteOrder → String
  | little => "le"
  | big => "be"

/-- The number that a row of bytes denotes. -/
def ByteOrder.value (order : ByteOrder) (bs : List UInt8) : Nat :=
  let bs := match order with
    | little => bs.reverse
    | big => bs
  bs.foldl (fun n b => 256 * n + b.toNat) 0

def utf16Piece (order : ByteOrder) : List UInt8 → Piece
  | a :: b :: rest =>
    let unit := order.value [a, b]
    if isLowSurrogate unit then .bad 2 "illegal encoding"
    else if isHighSurrogate unit then
      match rest with
      | c :: d :: _ =>
        let next := order.value [c, d]
        if isLowSurrogate next then .ofNat (joinSurrogates unit next) 4
        else .bad 2 "illegal UTF-16 surrogate"
      | rest => .bad (2 + rest.length) "unexpected end of data"
    else .ofNat unit 2
  | bs => .bad bs.length "truncated data"

def utf16 (order : ByteOrder) : Codec where
  name := "utf-16-" ++ order.suffix
  piece := utf16Piece order
  surrogate? bs := match bs with
    | a :: b :: _ =>
      let unit := order.value [a, b]
      if isHighSurrogate unit || isLowSurrogate unit then (CodePoint.ofNat? unit).map (·, 2)
      else none
    | _ => none

def utf32Piece (order : ByteOrder) : List UInt8 → Piece
  | a :: b :: c :: d :: _ =>
    let point := order.value [a, b, c, d]
    if isHighSurrogate point || isLowSurrogate point then
      .bad 4 "code point in surrogate code point range"
    else if 0x110000 ≤ point then .bad 4 "code point not in range(0x110000)"
    else .ofNat point 4
  | bs => .bad bs.length "truncated data"

def utf32 (order : ByteOrder) : Codec where
  name := "utf-32-" ++ order.suffix
  piece := utf32Piece order
  surrogate? bs := match bs with
    | a :: b :: c :: d :: _ =>
      let point := order.value [a, b, c, d]
      if isHighSurrogate point || isLowSurrogate point then (CodePoint.ofNat? point).map (·, 4)
      else none
    | _ => none

end ClusterBilling.Encoding
