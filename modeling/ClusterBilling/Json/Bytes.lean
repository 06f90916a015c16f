import ClusterBilling.Encoding.Utf8
import ClusterBilling.Encoding.Wide
import ClusterBilling.Json.Reader

/-! JSON text in bytes: the encoding is told by a byte order mark, or else by the place of the
zero bytes. -/
namespace ClusterBilling.Json
open Encoding

/-- The byte order marks, each with its encoding. A mark that begins with another one comes before
it. -/
def marks : List (List UInt8 × Codec) :=
  [([0x00, 0x00, 0xfe, 0xff], utf32 .big), ([0xff, 0xfe, 0x00, 0x00], utf32 .little),
    ([0xfe, 0xff], utf16 .big), ([0xff, 0xfe], utf16 .little), ([0xef, 0xbb, 0xbf], utf8)]

/-- The encoding of a JSON text without mark. -/
def unmarked (bs : List UInt8) : Codec :=
  match bs with
  | a :: b :: c :: d :: _ =>
    if a = 0 then if b = 0 then utf32 .big else utf16 .big
    else if b = 0 then if c = 0 && d = 0 then utf32 .little else utf16 .little
    else utf8
  | [a, b] => if a = 0 then utf16 .big else if b = 0 then utf16 .little else utf8
  | _ => utf8

/-- The encoding of a JSON text, and the length of its byte order mark. -/
def detect (bs : List UInt8) : Codec × Nat :=
  match marks.find? fun (mark, _) => mark.isPrefixOf bs with
  | some (mark, codec) => (codec, mark.length)
  | none => (unmarked bs, 0)

/-- Why bytes are not a JSON text. -/
inductive BytesError where
  | encoding (error : DecodeError)
  | text (error : ReadError)

def BytesError.message : BytesError → String
  | encoding e => e.message
  | text e => e.message

/-- Positions of faults count from the first byte, but after the mark of UTF-8. -/
def readBytes (bs : List UInt8) (maxDepth : Nat := usualDepth) : Except BytesError Json :=
  let (codec, mark) := detect bs
  let decoded :=
    if codec.name = utf8.name then codec.decode 0 (bs.drop mark) else codec.decode mark bs
  match decoded with
  | .error e => .error (.encoding e)
  | .ok text =>
    match read ⟨text⟩ maxDepth with
    | .error e => .error (.text e)
    | .ok v => .ok v

end ClusterBilling.Json
