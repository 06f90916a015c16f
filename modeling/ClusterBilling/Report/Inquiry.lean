import ClusterBilling.Batch
import ClusterBilling.Prometheus.Answer
import ClusterBilling.Prometheus.Client
import ClusterBilling.Query.Basic

/-! Programs that put queries to a backend, and the batches of queries among them. -/
namespace ClusterBilling

/-- What a backend makes of a query. -/
structure Response where
  /-- The value that it answers with. -/
  body : Except Fault Json
  /-- The rounds of the batch that pass before it answers. -/
  rounds : Nat := 0
  /-- The seconds that pass before it answers. -/
  elapsed : Float := 0
  events : List Event := []

/-- A backend, by its response to each query. -/
abbrev Backend := Query → Response

/-- The backend that a client reaches over a network. -/
def Prometheus.Client.backend (c : Client) (network : Network) : Backend := fun q =>
  match unsendable? q with
  | some e => { body := .error (.unsendable e), events := [requestEvent q] }
  | none =>
    let delivery := network (c.request q)
    { body := c.receive q delivery.exchange
      rounds := delivery.rounds
      elapsed := delivery.elapsed
      events := [requestEvent q] }

/-- A query under its name in a batch. -/
abbrev NamedQuery := Text × Query

/-- The series of a value, and the event that tells how many they are. -/
def readBody (query : Text) (body : Except Fault Json) :
    Except Fault (List (Series Float)) × List Event :=
  match body with
  | .error f => (.error f, [])
  | .ok v =>
    match Prometheus.readAnswer v with
    | .error e => (.error (e.toFault query), [])
    | .ok series =>
      (.ok series, [⟨.debug, .answers, "query_parsed", [("series", .integer series.length)]⟩])

/-- A program that calls a backend on its way to a result. -/
inductive Inquiry (α : Type) where
  | done (result : α)
  /-- Put a query to the backend, and go on with its response. -/
  | call (query : NamedQuery) (next : Response → Inquiry α)

namespace Inquiry
variable {α β : Type}

def bind : Inquiry α → (α → Inquiry β) → Inquiry β
  | done a, f => f a
  | call q next, f => call q fun response => (next response).bind f

instance : Monad Inquiry where
  pure := done
  bind := bind

/-- What comes of a program at a backend: its result, and the queries that the backend was called
with, in the order of the calls. -/
def run (backend : Backend) : Inquiry α → α × List NamedQuery
  | done a => (a, [])
  | call q next =>
    let (a, queries) := (next (backend q.2)).run backend
    (a, q :: queries)

end Inquiry

/-- A query as it ends with a response. -/
def Response.settled (response : Response) (q : NamedQuery) : Settled × Nat :=
  let (outcome, events) := readBody q.2.text response.body
  (⟨q.1, outcome, response.events ++ events, response.elapsed⟩, response.rounds)

/-- Call the backend with a query. -/
def inquire (q : NamedQuery) : Inquiry (Settled × Nat) :=
  .call q fun response => .done (response.settled q)

/-- Call the backend with all the queries of a batch, one after the other. -/
def inquireAll (metrics : Metrics) (queries : List NamedQuery) : Inquiry Batch := do
  let tasks ← queries.mapM inquire
  return .run metrics tasks

/-- A query as it ends at a backend. -/
def settle (backend : Backend) (q : NamedQuery) : Settled × Nat := ((inquire q).run backend).1

theorem settle_eq (backend : Backend) (q : NamedQuery) :
    settle backend q = (backend q.2).settled q := rfl

/-- A batch as it ends at a backend. -/
def ask (backend : Backend) (metrics : Metrics) (queries : List NamedQuery) : Batch :=
  ((inquireAll metrics queries).run backend).1

end ClusterBilling
