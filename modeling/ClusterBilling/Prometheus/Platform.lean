import ClusterBilling.Encoding.ContentType
import ClusterBilling.Encoding.Unencodable
import ClusterBilling.Json.Reader
import ClusterBilling.Prometheus.Address
import ClusterBilling.Prometheus.Headers

/-! What a client leaves to the platform that it runs on. -/
namespace ClusterBilling.Prometheus

/-- How requests are carried, and how bodies are unpacked and read. -/
structure Platform where
  /-- Why headers cannot be sent, if they cannot. -/
  headerFault? : Headers → Option Encoding.EncodeError
  /-- An address, and the headers for it, as a request carries them. -/
  carried : Text → Headers → Text × Headers
  /-- The body of a reply with these headers, or why it cannot be unpacked. -/
  unpacked : Headers → List UInt8 → Except String (List UInt8)
  /-- The text of an unpacked body, in the encoding that the headers name. -/
  bodyText : Headers → List UInt8 → Except Encoding.CharsetFault Text
  /-- How many arrays and objects may be nested in one another in a body. -/
  maxDepth : Nat

namespace Platform

/-- A user in the address counts more than a header. -/
def carriedAs (url : Text) (headers : Headers) : Text × Headers :=
  let address := Address.ofChars url.chars
  let headers := match address.credentials? with
    | some credentials => headers.replace "authorization" (.ofChars credentials)
    | none => headers
  (.ofChars address.render, headers)

/-- The body without the forms of compression that its headers name. -/
def unpackedAs (headers : Headers) (body : List UInt8) : Except String (List UInt8) :=
  (Encoding.Compression.unpackAll headers.compressions body).mapError
    ("Error -3 while decompressing data: " ++ ·)

/-- The text of a body in the encoding that its content type names. -/
def textOf (headers : Headers) (body : List UInt8) : Except Encoding.CharsetFault Text :=
  if body.isEmpty then .ok ""
  else
    let charset := Encoding.Charset.ofContentType (headers.value? "content-type")
    (charset.lossy body).map fun points => ⟨points⟩

/-- The platform of a program that is told nothing else. -/
def standard : Platform where
  headerFault? := Encoding.headerFault?
  carried := carriedAs
  unpacked := unpackedAs
  bodyText := textOf
  maxDepth := Json.usualDepth

end Platform
end ClusterBilling.Prometheus
