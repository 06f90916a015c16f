import ClusterBilling.Fault
import ClusterBilling.Log
import ClusterBilling.Metrics
import ClusterBilling.Series

/-!
Batches of queries that run side by side. Results come in the order in which the queries were
submitted; faults, events and metrics in the order in which they ended.
-/
namespace ClusterBilling

/-- One query of a batch once it has ended. -/
structure Settled where
  name : Text
  outcome : Except Fault (List (Series Float))
  /-- What was logged while the query ran. -/
  events : List Event := []
  /-- How long it took, in seconds. -/
  elapsed : Float := 0

namespace Settled

/-- The series of the answer; none if the query failed. -/
def series (s : Settled) : List (Series Float) :=
  match s.outcome with
  | .ok series => series
  | .error _ => []

/-- The fault, under the name of the query. -/
def fault? (s : Settled) : Option QueryFault :=
  match s.outcome with
  | .ok _ => none
  | .error f => some (f.toQueryFault s.name)

/-- What is logged when the query ends: a fault of the query by its detail, any other as a crash. -/
def endEvents (s : Settled) : List Event :=
  match s.outcome with
  | .ok _ => []
  | .error (.query f) =>
    [⟨.warning, .batches, "query_failed", [("query", .string s.name), ("error", .string f.detail)]⟩]
  | .error _ => [⟨.error, .batches, "query_crashed", [("query", .string s.name)]⟩]

/-- Count the failure, if there is one, and the duration. -/
def record (m : Metrics) (s : Settled) : Metrics :=
  let m := match s.fault? with
    | some f => m.addFailure s.name f.kind.word
    | none => m
  m.observeDuration s.name s.elapsed

end Settled

/-- A batch after all of its queries have ended. -/
structure Batch where
  /-- The series of each query, in the order of submission; none for a query that failed. -/
  answers : Answers Float
  /-- A fault for each query that failed, in the order in which they ended. -/
  faults : List QueryFault
  events : List Event
  metrics : Metrics

namespace Batch

/-- The event that sums up the failures of a batch, if there are any. -/
def summaryEvents (failed total : Nat) : List Event :=
  if failed = 0 then []
  else [⟨.warning, .batches, "query_batch_errors",
    [("failed", .integer failed), ("total", .integer total)]⟩]

/-- Gather what was `submitted`, with its parts `finished` in the order in which they ended. -/
def gather (metrics : Metrics) (submitted finished : List Settled) : Batch where
  answers := .ofList (submitted.map fun s => (s.name, s.series))
  faults := finished.filterMap Settled.fault?
  events := finished.flatMap (fun s => s.events ++ s.endEvents)
    ++ summaryEvents (finished.filterMap Settled.fault?).length submitted.length
  metrics := finished.foldl Settled.record metrics

/-- The order in which queries end that take so many rounds each: those of one round
as submitted. -/
def byRound (tasks : List (Settled × Nat)) : List Settled :=
  (tasks.mergeSort fun a b => a.2 ≤ b.2).map Prod.fst

/-- Every task ends once. -/
theorem byRound_perm (tasks : List (Settled × Nat)) :
    (byRound tasks).Perm (tasks.map Prod.fst) :=
  (List.mergeSort_perm tasks _).map Prod.fst

/-- Run tasks that take so many rounds each. -/
def run (metrics : Metrics) (tasks : List (Settled × Nat)) : Batch :=
  gather metrics (tasks.map Prod.fst) (byRound tasks)

/-- The faults of the named queries. -/
def faultsFor (b : Batch) (names : List Text) : List QueryFault :=
  b.faults.filter fun f => names.contains f.name

/-- Faults as one; nothing fails where there are none. -/
def raise (faults : List QueryFault) : Except Fault Unit :=
  if faults.isEmpty then .ok () else .error (.batch (faults.map .query))

/-- Fail if one of the named queries did. -/
def raiseFor (b : Batch) (names : List Text) : Except Fault Unit :=
  raise (b.faultsFor names)

/-- Fail if any query did. -/
def raiseForAny (b : Batch) : Except Fault Unit :=
  raise b.faults

end Batch
end ClusterBilling
