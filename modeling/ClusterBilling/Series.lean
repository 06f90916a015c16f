import ClusterBilling.Table

/-! Labelled time series, as a metrics backend returns them. -/
namespace ClusterBilling

/-- A value and the Unix time in seconds at which it was seen. -/
structure Sample (α : Type) where
  time : α
  value : α
deriving DecidableEq, Repr

/-- Samples in ascending time, under labels. A series may have no samples. -/
structure Series (α : Type) where
  labels : Table Text
  samples : List (Sample α)

namespace Series
variable {α : Type}

def label (s : Series α) (name default : Text) : Text :=
  (s.labels.get? name).getD default

/-- The first sample, which stands for the series wherever one value is wanted. -/
def leading? (s : Series α) : Option (Sample α) := s.samples.head?

/-- The cluster that a series belongs to: that of its label, or `fallback` where the label is
missing or empty. -/
def clusterId (s : Series α) (fallback : Text) : Text :=
  let id := s.label "cluster_id" ""
  if id.isEmpty then fallback else id

/-- The same labels with the same texts, in whatever order, and equal samples. -/
def same [BEq α] (s t : Series α) : Bool :=
  s.labels.entries.length = t.labels.entries.length
    && s.labels.entries.all (fun (k, v) => t.labels.get? k = some v)
    && s.samples.length = t.samples.length
    && (s.samples.zip t.samples).all fun (a, b) => a.time == b.time && a.value == b.value

end Series

/-- The series that answered each query of a batch, by the query's name. -/
abbrev Answers (α : Type) := Table (List (Series α))

namespace Answers
variable {α : Type}

/-- The series of a query; none where the batch has no such query. -/
def of (answers : Answers α) (name : Text) : List (Series α) := (answers.get? name).getD []

end Answers
end ClusterBilling
