import ClusterBilling.Time.Moment

/-! Queries to a metrics backend. -/
namespace ClusterBilling

/-- The times at which a query is evaluated: from `start` to `finish`, every `step` seconds. -/
structure EvaluationRange where
  start : Time.Moment
  finish : Time.Moment
  step : Float

/-- The text of a query, for the present moment or over a range of times. -/
structure Query where
  text : Text
  range? : Option EvaluationRange

end ClusterBilling
