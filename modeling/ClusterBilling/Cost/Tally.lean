import ClusterBilling.Cost.Discount
import ClusterBilling.Series

/-! The cumulative costs of each cluster, added up over the series of a batch. -/
namespace ClusterBilling

/-- Costs by category, and all together; absent where no sample contributed. -/
structure Tally (α : Type) where
  gpu : Option α := none
  cpu : Option α := none
  ram : Option α := none
  storage : Option α := none
  total : Option α := none
deriving DecidableEq, Repr

namespace Tally
variable {α : Type} [Arithmetic α]

def get? (t : Tally α) : Category → Option α
  | .gpu => t.gpu
  | .cpu => t.cpu
  | .ram => t.ram
  | .storage => t.storage

/-- The cost of a category, zero where it is absent. -/
def getD (t : Tally α) (c : Category) : α := (t.get? c).getD (Arithmetic.ofNat 0)

/-- A sum that starts from zero. -/
def plus (sum? : Option α) (x : α) : Option α :=
  some (sum?.getD (Arithmetic.ofNat 0) + x)

/-- Add a cost to its category and to the total. -/
def add (t : Tally α) (c : Category) (cost : α) : Tally α :=
  let t := { t with total := plus t.total cost }
  match c with
  | .gpu => { t with gpu := plus t.gpu cost }
  | .cpu => { t with cpu := plus t.cpu cost }
  | .ram => { t with ram := plus t.ram cost }
  | .storage => { t with storage := plus t.storage cost }

theorem get?_add (t : Tally α) (c c' : Category) (cost : α) :
    (t.add c cost).get? c' = if c' = c then plus (t.get? c) cost else t.get? c' := by
  cases c <;> cases c' <;> rfl

@[simp] theorem total_add (t : Tally α) (c : Category) (cost : α) :
    (t.add c cost).total = plus t.total cost := by
  cases c <;> rfl

/-- Add the leading value of a series, less its discounts; a series without samples adds nothing. -/
def addSeries (t : Tally α) (c : Category) (multiplier : α) (s : Series α) : Tally α :=
  match s.leading? with
  | some sample => t.add c (sample.value * multiplier)
  | none => t

end Tally

variable {α : Type} [Arithmetic α]

/-- Add the series of one category, each to the cluster that it belongs to. -/
def addCategory (answers : Answers α) (fallback : Text) (discounts : Discounts α)
    (tallies : Table (Tally α)) (c : Category) : Table (Tally α) :=
  (answers.of c.query).foldl
    (fun tallies s => tallies.alter (s.clusterId fallback) fun t? =>
      (t?.getD {}).addSeries c (discounts.multiplier c) s)
    tallies

/-- The costs of every cluster that has a series in one of the categories, with or without
samples. -/
def tallies (answers : Answers α) (fallback : Text) (discounts : Discounts α) : Table (Tally α) :=
  Category.all.foldl (addCategory answers fallback discounts) ∅

end ClusterBilling
