import ClusterBilling.Cost.Bill
import ClusterBilling.Cost.Rates
import ClusterBilling.Decimal.Fixed
import ClusterBilling.Json.Basic
import ClusterBilling.Time.Iso

/-! Reports as JSON. -/
namespace ClusterBilling

def Breakdown.toJson (b : Breakdown Float) : Json :=
  .object [("idle", .float b.idle), ("other", .float b.other), ("system", .float b.system),
    ("user", .float b.user)]

/-- A breakdown, or null where there is none. -/
def breakdownOrNull (b? : Option (Breakdown Float)) : Json :=
  (b?.map Breakdown.toJson).getD .null

def Bill.toJson (b : Bill Float) : Json :=
  .object [
    ("startTime", .string b.start.iso),
    ("endTime", .string b.finish.iso),
    ("cpuCumulativeCost", .float b.cumulative.cpu),
    ("cpuMonthlyCost", .float b.monthly.cpu),
    ("cpuBreakdown", breakdownOrNull b.cpuBreakdown?),
    ("gpuCumulativeCost", .float b.cumulative.gpu),
    ("gpuMonthlyCost", .float b.monthly.gpu),
    ("ramCumulativeCost", .float b.cumulative.ram),
    ("ramMonthlyCost", .float b.monthly.ram),
    ("ramBreakdown", breakdownOrNull b.ramBreakdown?),
    ("storageCumulativeCost", .float b.cumulative.storage),
    ("storageMonthlyCost", .float b.monthly.storage),
    ("totalCumulativeCost", .float b.cumulative.total),
    ("totalMonthlyCost", .float b.monthly.total)]

/-- Times and values as text with six places. -/
def pointsToJson (points : List (Point Float)) : Json :=
  .array (points.map fun (time, value) =>
    .array [.string (Decimal.sixPlaces time), .string (Decimal.sixPlaces value)])

def Rates.toJson (r : Rates Float) : Json :=
  .object [("totalcost", pointsToJson r.total), ("cpucost", pointsToJson r.cpu),
    ("memcost", pointsToJson r.memory), ("storageCost", pointsToJson r.storage)]

/-- A report for each cluster, under its name. -/
def Table.toJson {α : Type} (report : α → Json) (t : Table α) : Json :=
  .object (t.entries.map fun (k, v) => (k, report v))

end ClusterBilling
