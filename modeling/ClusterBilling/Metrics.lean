import ClusterBilling.Decimal.Shortest
import ClusterBilling.Table

/-! Counts of what the queries of a run took and how they failed. -/
namespace ClusterBilling

/-- Durations, counted by the least bound that each does not exceed. -/
structure Histogram where
  /-- One count for each bound of `durationBounds`, and one for what exceeds them all. -/
  counts : List Nat
  sum : Float

/-- The upper bounds of durations in seconds. -/
def durationBounds : List Float :=
  [0.005, 0.01, 0.025, 0.05, 0.075, 0.1, 0.25, 0.5, 0.75, 1, 2.5, 5, 7.5, 10]

/-- A number as metrics show it. -/
def metricNumber (x : Float) : String :=
  match Decimal.Reading.ofFloat x with
  | .nan => "NaN"
  | .infinite false => "+Inf"
  | .infinite true => "-Inf"
  | .finite b => Decimal.plainLayout.render b.shortest

/-- The bounds as labels show them, with infinity as the last. -/
def boundLabels : List String := durationBounds.map metricNumber ++ ["+Inf"]

namespace Histogram

def empty : Histogram := ⟨List.replicate (durationBounds.length + 1) 0, 0⟩

/-- Count one more under the first bound that is not exceeded. What is not a number is not
counted. -/
def countUnder (x : Float) : List Float → List Nat → List Nat
  | bound :: bounds, count :: counts =>
    if x ≤ bound then (count + 1) :: counts else count :: countUnder x bounds counts
  | [], count :: counts => if x.isNaN then count :: counts else (count + 1) :: counts
  | _, [] => []

def observe (h : Histogram) (x : Float) : Histogram :=
  ⟨countUnder x durationBounds h.counts, h.sum + x⟩

/-- How many durations do not exceed each bound, and how many there are. -/
def cumulative (h : Histogram) : List Nat :=
  (List.range h.counts.length).map fun i => (h.counts.take (i + 1)).foldr (· + ·) 0

/-- How many durations were counted. -/
def count (h : Histogram) : Nat := h.counts.foldr (· + ·) 0

end Histogram

/-- The query and the kind of failure that an error count is for. -/
structure FailureKey where
  query : Text
  kind : Text
deriving DecidableEq, Repr

/-- Durations by query, and failures by query and kind, each in the order of first use. -/
structure Metrics where
  durations : Table Histogram
  failures : List (FailureKey × Nat)

/-- One number with the labels that tell it from others of its name. -/
structure MetricSample where
  name : Text
  labels : List (Text × Text)
  value : Float

namespace Metrics

instance : EmptyCollection Metrics := ⟨⟨∅, []⟩⟩

def observeDuration (m : Metrics) (query : Text) (seconds : Float) : Metrics :=
  { m with durations := m.durations.alter query fun h? => (h?.getD .empty).observe seconds }

/-- Add one to the count of a key. -/
def countFailure (key : FailureKey) : List (FailureKey × Nat) → List (FailureKey × Nat)
  | [] => [(key, 1)]
  | (k, n) :: rest => if k = key then (k, n + 1) :: rest else (k, n) :: countFailure key rest

def addFailure (m : Metrics) (query kind : Text) : Metrics :=
  { m with failures := countFailure ⟨query, kind⟩ m.failures }

def durationName : String := "clustercost_query_duration_seconds"
def failureName : String := "clustercost_query_errors_total"

def histogramSamples (query : Text) (h : Histogram) : List MetricSample :=
  (boundLabels.zip h.cumulative).map (fun (bound, n) =>
    ⟨durationName ++ "_bucket", [("le", bound), ("query", query)], .ofNat n⟩)
    ++ [⟨durationName ++ "_count", [("query", query)], .ofNat h.count⟩,
      ⟨durationName ++ "_sum", [("query", query)], h.sum⟩]

def durationSamples (m : Metrics) : List MetricSample :=
  m.durations.entries.flatMap fun (query, h) => histogramSamples query h

def failureSamples (m : Metrics) : List MetricSample :=
  m.failures.map fun (key, n) => ⟨failureName, [("kind", key.kind), ("query", key.query)], .ofNat n⟩

/-- All samples, those of durations first; labels are in alphabetical order. -/
def samples (m : Metrics) : List MetricSample :=
  m.durationSamples ++ m.failureSamples

/-- The value of the sample with that name and just those labels, in whatever order. -/
def value? (m : Metrics) (name : Text) (labels : Table Text) : Option Float :=
  (m.samples.find? fun s =>
    s.name = name && s.labels.length = labels.entries.length
      && s.labels.all fun (k, v) => labels.get? k = some v).map (·.value)

/-- A label's value between quotation marks. -/
def escapeLabel (t : Text) : Text :=
  ⟨t.points.flatMap fun
    | .scalar '\\' => ['\\', '\\']
    | .scalar '\n' => ['\\', 'n']
    | .scalar '"' => ['\\', '"']
    | p => [p]⟩

/-- A sample as a line of text. -/
def sampleLine (s : MetricSample) : Text :=
  let labels := s.labels.map fun (k, v) => k ++ "=\"" ++ escapeLabel v ++ "\""
  s.name ++ "\x7b" ++ .join "," labels ++ "\x7d " ++ metricNumber s.value

/-- The lines that introduce the samples of one name. -/
def headerLines (name help type : String) : List Text :=
  [s!"# HELP {name} {help}", s!"# TYPE {name} {type}"]

/-- All metrics as lines of text. -/
def lines (m : Metrics) : List Text :=
  headerLines durationName "Duration of metrics backend queries" "histogram"
    ++ m.durationSamples.map sampleLine
    ++ headerLines failureName "Total number of failed metrics backend queries" "counter"
    ++ m.failureSamples.map sampleLine

end Metrics
end ClusterBilling
