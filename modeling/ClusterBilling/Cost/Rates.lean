import ClusterBilling.Log
import ClusterBilling.Series

/-! Monthly cost rates, as times and values. -/
namespace ClusterBilling

/-- The time and the value of a sample. -/
abbrev Point (α : Type) := α × α

/-- Points of the monthly rate of each resource: the leading one of each series, or all of one
series. -/
structure Rates (α : Type) where
  total : List (Point α) := []
  cpu : List (Point α) := []
  memory : List (Point α) := []
  storage : List (Point α) := []
deriving DecidableEq, Repr

/-- The resources that have a query of their own. -/
inductive Resource where
  | cpu
  | memory
  | storage
  | total
deriving DecidableEq, Repr

namespace Resource

/-- The resources apart from the total, in the order in which reports take them up. -/
def parts : List Resource := [cpu, memory, storage]

/-- All resources, the total last. -/
def all : List Resource := [cpu, memory, storage, total]

def query : Resource → String
  | cpu => "cluster_cores"
  | memory => "cluster_ram"
  | storage => "cluster_storage"
  | total => "cluster_total"

end Resource

variable {α : Type}

namespace Rates

def get (r : Rates α) : Resource → List (Point α)
  | .cpu => r.cpu
  | .memory => r.memory
  | .storage => r.storage
  | .total => r.total

def set (r : Rates α) (resource : Resource) (points : List (Point α)) : Rates α :=
  match resource with
  | .cpu => { r with cpu := points }
  | .memory => { r with memory := points }
  | .storage => { r with storage := points }
  | .total => { r with total := points }

theorem get_set (r : Rates α) (a b : Resource) (points : List (Point α)) :
    (r.set a points).get b = if b = a then points else r.get b := by
  cases a <;> cases b <;> rfl

end Rates

def Sample.point (s : Sample α) : Point α := (s.time, s.value)

/-- The leading points of the series of each cluster; series without samples are left out. -/
def leadingPoints (series : List (Series α)) (fallback : Text) : Table (List (Point α)) :=
  series.foldl
    (fun table s =>
      match s.leading? with
      | none => table
      | some sample => table.alter (s.clusterId fallback) fun ps? => ps?.getD [] ++ [sample.point])
    ∅

/-- The events that tell which series have no samples. -/
def emptySeriesEvents (series : List (Series α)) : List Event :=
  series.filterMap fun s =>
    match s.leading? with
    | some _ => none
    | none =>
      some ⟨.warning, .reports, "series_without_data",
        [("labels", .object (s.labels.entries.map fun (k, v) => (k, .string v)))]⟩

/-- All points of the first series, if there is one. -/
def firstSeriesPoints? (series : List (Series α)) : Option (List (Point α)) :=
  series.head?.map fun s => s.samples.map Sample.point

/-- Put the leading points of each cluster under one resource. -/
def addResource (answers : Answers α) (fallback : Text) (rates : Table (Rates α)) (r : Resource) :
    Table (Rates α) :=
  (leadingPoints (answers.of r.query) fallback).entries.foldl
    (fun rates (clusterId, points) => rates.alter clusterId fun old? => (old?.getD {}).set r points)
    rates

/-- The rates of every cluster that has a sample of one of the resources. -/
def ratesByCluster (answers : Answers α) (fallback : Text) : Table (Rates α) :=
  Resource.parts.foldl (addResource answers fallback) ∅

/-- The rates of one cluster, the total included. -/
def ratesOf (answers : Answers α) (clusterId : Text) : Rates α :=
  Resource.all.foldl
    (fun rates r =>
      rates.set r (((leadingPoints (answers.of r.query) clusterId).get? clusterId).getD []))
    {}

/-- The points of the first series of each resource, or the first resource that has no series. -/
def ratesOverTime (answers : Answers α) : List Resource → Except Resource (Rates α)
  | [] => .ok {}
  | r :: rs =>
    match firstSeriesPoints? (answers.of r.query) with
    | none => .error r
    | some points => (ratesOverTime answers rs).map (·.set r points)

end ClusterBilling
