import ClusterBilling.Decimal.Fixed
import ClusterBilling.Fault
import ClusterBilling.Json.Bytes
import ClusterBilling.Json.Display
import ClusterBilling.Log
import ClusterBilling.Prometheus.Platform
import ClusterBilling.Query.Basic

/-! The requests that queries become, and what is made of the replies. -/
namespace ClusterBilling.Prometheus

/-- A backend by its address, the headers that each request carries, and the platform. -/
structure Client where
  url : Text
  headers : Headers
  platform : Platform

/-- A request for a resource, with its parameters in order. -/
structure Request where
  url : Text
  parameters : List (Text × Text)
  headers : Headers
deriving DecidableEq, Repr

structure Reply where
  status : Nat
  headers : Headers
  /-- The body as it came, which may be compressed. -/
  body : List UInt8

/-- What a request met with. -/
inductive Exchange where
  | reply (reply : Reply)
  /-- The request or its reply did not come through. -/
  | lost (reason : Text)
  /-- The client itself failed. -/
  | broken (label text : Text)

/-- What a request meets with, and when: after so many rounds of its batch, and so many seconds. -/
structure Delivery where
  exchange : Exchange
  rounds : Nat := 0
  elapsed : Float := 0

/-- A network, by what becomes of each request. -/
abbrev Network := Request → Delivery

namespace Client

/-- A client, unless its headers cannot be sent. Slashes at the end of the address do not count. -/
def ofUrl (url : Text) (headers : Headers) (platform : Platform := .standard) :
    Except Encoding.EncodeError Client :=
  match platform.headerFault? headers with
  | some e => .error e
  | none => .ok ⟨⟨Text.dropEndWhile (· = .scalar '/') url.points⟩, headers, platform⟩

/-- The resource that answers a query. -/
def path (q : Query) : Text :=
  match q.range? with
  | none => "/api/v1/query"
  | some _ => "/api/v1/query_range"

/-- Times with six places, and the step with six significant digits. -/
def rangeParameters (r : EvaluationRange) : List (Text × Text) :=
  [("start", Decimal.sixPlaces r.start.unixSeconds),
    ("end", Decimal.sixPlaces r.finish.unixSeconds),
    ("step", Decimal.sixDigits r.step)]

/-- The request that a query becomes. -/
def request (c : Client) (q : Query) : Request :=
  let (url, headers) := c.platform.carried (c.url ++ path q) c.headers
  { url
    parameters := ("query", q.text) :: (q.range?.map rangeParameters).getD []
    headers }

/-- Why a query cannot be sent, if it cannot. -/
def unsendable? (q : Query) : Option Encoding.EncodeError :=
  Encoding.Repertoire.unicode.missing? q.text

/-- The requests that a query leads to: one, if it can be sent. -/
def requests (c : Client) (q : Query) : List Request :=
  if (unsendable? q).isSome then [] else [c.request q]

/-- The event that announces a request. -/
def requestEvent (q : Query) : Event :=
  ⟨.debug, .backend, "prometheus_request", [("path", .string (path q)), ("query", .string q.text)]⟩

/-- The value in an unpacked body. -/
def decode (c : Client) (body : List UInt8) : Except Json.BytesError Json :=
  Json.readBytes body c.platform.maxDepth

/-- The text of an unpacked body. -/
def bodyText (c : Client) (headers : Headers) (body : List UInt8) : Except ReadingFailure Text :=
  (c.platform.bodyText headers body).mapError .charset

/-- What a reply says about its failure: the error that its body states, or else the body itself. -/
def errorText (c : Client) (headers : Headers) (body : List UInt8) : Except ReadingFailure Text :=
  match c.decode body with
  | .error (.text (.tooDeep container)) => .error (.tooDeep container)
  | .error _ => c.bodyText headers body
  | .ok v =>
    let error := (v.member? "error").getD .null
    let type := (v.member? "errorType").getD .null
    if error.isNothing then c.bodyText headers body
    else if type.isNothing then .ok error.plainText
    else .ok (type.plainText ++ ": " ++ error.plainText)

/-- The value in the body of a reply. -/
def receive (c : Client) (q : Query) : Exchange → Except Fault Json
  | .reply r =>
    match c.platform.unpacked r.headers r.body with
    | .error reason => lost reason
    | .ok body =>
      if 400 ≤ r.status then
        match c.errorText r.headers body with
        | .ok text => failure .transport (toString r.status ++ " from " ++ path q ++ ": " ++ text)
        | .error e => .error (.reading e)
      else
        match c.decode body with
        | .ok v => .ok v
        | .error (.text (.tooDeep container)) => .error (.reading (.tooDeep container))
        | .error e => failure .parse ("response is not valid JSON: " ++ e.message)
  | .lost reason => lost reason
  | .broken label text => .error (.foreign label text)
where
  failure (kind : FailureKind) (detail : Text) : Except Fault Json :=
    .error (.query ⟨kind, detail, q.text, ""⟩)
  lost (reason : Text) : Except Fault Json :=
    failure .transport ("request to " ++ c.url ++ path q ++ " failed: " ++ reason)

end Client
end ClusterBilling.Prometheus
