import ClusterBilling.Encoding.Utf8
import ClusterBilling.Encoding.Wide

/-! Encodings as headers name them: how each reads a body, and when it refuses to. -/
namespace ClusterBilling.Encoding

/-- Why an encoding refuses to read a body. -/
inductive CharsetFault where
  /-- No mark tells the order of the bytes in a unit of so many bits. -/
  | noMark (bits : Nat)
  /-- An escape sequence breaks off and is too long to wait for its end. -/
  | longEscape
  /-- A single shift selects a set that has no characters for it. -/
  | emptyShift
  /-- It turns bytes into other bytes. -/
  | bytesToBytes
  /-- It turns text into other text. -/
  | textToText
  /-- It does not replace faults. -/
  | noReplacement
  /-- It is there to read nothing. -/
  | undefined
  /-- It reads nothing but ASCII. -/
  | notAscii (error : DecodeError)
  /-- Its name holds the character zero. -/
  | zeroInName
  /-- Of two sections of its name one has a number and the other, which comes first unless
  `numberFirst`, has none. -/
  | mixedSections (numberFirst : Bool)
deriving DecidableEq, Repr

def CharsetFault.message : CharsetFault → String
  | noMark bits => s!"UTF-{bits} stream does not start with BOM"
  | longEscape => "pending buffer overflow"
  | emptyShift => "internal codec error"
  | bytesToBytes => ""
  | textToText => "descriptor 'translate' for 'str' objects doesn't apply to a 'bytes' object"
  | noReplacement => "Unsupported error handling replace"
  | undefined => "undefined encoding"
  | notAscii e => e.message
  | zeroInName => "embedded null character"
  | mixedSections false => "'<' not supported between instances of 'int' and 'NoneType'"
  | mixedSections true => "'<' not supported between instances of 'NoneType' and 'int'"

/-- An encoding by what it makes of bytes. -/
structure Charset where
  /-- A text for all bytes, with replacements where they are at fault. -/
  lossy : List UInt8 → Except CharsetFault (List CodePoint)
  /-- The text that bytes without fault are. -/
  strict? : List UInt8 → Option (List CodePoint)

namespace Charset

/-- An encoding that is read piece by piece. -/
def ofScanner {σ : Type} (scan : Scanner σ) (start : σ) : Charset where
  lossy bs := .ok (scan.lossy start bs)
  strict? bs := ((scan.pieces start bs).mapM Piece.strict?).map List.flatten

def ofCodec (c : Codec) : Charset := .ofScanner c.scanner ()

/-- An encoding that reads nothing. -/
def refusing (fault : CharsetFault) : Charset := ⟨fun _ => .error fault, fun _ => none⟩

/-- ASCII alone, without replacements for anything else. -/
def asciiOnly : Charset where
  lossy _ := .error .noReplacement
  strict? bs := bs.mapM fun b => if b < 0x80 then some (.scalar (Char.ofNat b.toNat)) else none

/-- UTF-8 with a mark in front of the text, which may be missing. The beginning of a mark is no
text. -/
def utf8WithMark : Charset where
  lossy bs :=
    if bs.length < 3 && bs.isPrefixOf mark then .ok [] else (ofCodec utf8).lossy (unmarked bs)
  strict? bs := (ofCodec utf8).strict? (unmarked bs)
where
  mark : List UInt8 := [0xef, 0xbb, 0xbf]
  unmarked (bs : List UInt8) : List UInt8 := if mark.isPrefixOf bs then bs.drop 3 else bs

/-- Units of so many bits, whose order of bytes a mark in front of the text tells. A body without
mark is refused if it holds at least one unit. -/
def marked (bits : Nat) (codec : ByteOrder → Codec) (mark : ByteOrder → List UInt8) : Charset where
  lossy bs :=
    match order? bs with
    | some order => (ofCodec (codec order)).lossy (bs.drop (bits / 8))
    | none => if bits / 8 ≤ bs.length then .error (.noMark bits) else .ok [replacement]
  strict? bs :=
    match order? bs with
    | some order => (ofCodec (codec order)).strict? (bs.drop (bits / 8))
    | none => (ofCodec (codec .little)).strict? bs
where
  order? (bs : List UInt8) : Option ByteOrder :=
    [ByteOrder.little, .big].find? fun order => (mark order).isPrefixOf bs

def utf16WithMark : Charset := marked 16 utf16 fun
  | .little => [0xff, 0xfe]
  | .big => [0xfe, 0xff]

def utf32WithMark : Charset := marked 32 utf32 fun
  | .little => [0xff, 0xfe, 0, 0]
  | .big => [0, 0, 0xfe, 0xff]

end Charset
end ClusterBilling.Encoding
