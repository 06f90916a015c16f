import ClusterBilling.Cost.Breakdown
import ClusterBilling.Cost.Tally

/-! The bill of a cluster: what it cost over a window, and what that makes in a month. -/
namespace ClusterBilling
open Time

/-- Costs by category, and their sum. -/
structure Charges (α : Type) where
  cpu : α
  gpu : α
  ram : α
  storage : α
  total : α
deriving DecidableEq, Repr

structure Bill (α : Type) where
  start : Moment
  finish : Moment
  cumulative : Charges α
  monthly : Charges α
  cpuBreakdown? : Option (Breakdown α)
  ramBreakdown? : Option (Breakdown α)

/-- Why there is no bill. -/
inductive BillingError (α : Type) where
  /-- Only one end of the window knows its distance from UTC. -/
  | mixedClocks
  /-- The window, or the data in it, lasts no time. -/
  | noHours (start finish : Moment) (hours : α)

variable {α : Type} [Arithmetic α]

/-- A cost as the cost of a month. -/
def monthlyRate (hours cost : α) : α := cost / hours * Arithmetic.ofNat hoursPerMonth

/-- The hours that a bill divides by: those of the data, or those of the window where these are
zero. -/
def billedHours (start finish : Moment) (dataHours : α) : Except (BillingError α) α :=
  let hours? := if Arithmetic.isZero dataHours then hoursBetween? start finish else some dataHours
  match hours? with
  | none => .error .mixedClocks
  | some hours =>
    if Arithmetic.isNonpositive hours then .error (.noHours start finish hours) else .ok hours

namespace Bill

/-- The charges of four categories, added from left to right. -/
def charges (cpu gpu ram storage : α) : Charges α :=
  ⟨cpu, gpu, ram, storage, cpu + gpu + ram + storage⟩

/-- The bill for costs that came up in so many hours. -/
def ofCosts (cpu gpu ram storage : α) (start finish : Moment) (dataHours : α)
    (cpuBreakdown? ramBreakdown? : Option (Breakdown α)) : Except (BillingError α) (Bill α) :=
  match billedHours start finish dataHours with
  | .error e => .error e
  | .ok hours =>
    .ok {
      start := start
      finish := finish
      cumulative := charges cpu gpu ram storage
      monthly := charges (monthlyRate hours cpu) (monthlyRate hours gpu) (monthlyRate hours ram)
        (monthlyRate hours storage)
      cpuBreakdown? := cpuBreakdown?
      ramBreakdown? := ramBreakdown? }

end Bill

/-- The minutes that were observed: the leading value of the first series, if it is positive. -/
def observedMinutes? (dataCount : List (Series α)) : Option α :=
  match dataCount with
  | [] => none
  | s :: _ =>
    match s.leading? with
    | some sample => if Arithmetic.isPositive sample.value then some sample.value else none
    | none => none

/-- The minutes that were observed, or those of the window. -/
def dataMinutes? (dataCount : List (Series α)) (start finish : Moment) : Option α :=
  match observedMinutes? dataCount with
  | some minutes => some minutes
  | none => (hoursBetween? start finish).map (· * Arithmetic.ofNat minutesPerHour)

/-- The bill of one cluster. -/
def billCluster (answers : Answers α) (start finish : Moment) (fallback : Text) (dataHours : α)
    (clusterId : Text) (tally : Tally α) : Except (BillingError α) (Bill α) :=
  Bill.ofCosts (tally.getD .cpu) (tally.getD .gpu) (tally.getD .ram) (tally.getD .storage)
    start finish dataHours
    ((cpuBreakdowns (answers.of "cpu_mode_pct") fallback).get? clusterId)
    ((ramBreakdowns (answers.of "ram_system_pct") fallback).get? clusterId)

/-- The entries of a table under a function that may fail; the first failure counts. -/
def mapEntries {β γ ε : Type} (f : Text → β → Except ε γ) :
    List (Text × β) → Except ε (List (Text × γ))
  | [] => .ok []
  | (k, v) :: es =>
    match f k v with
    | .error e => .error e
    | .ok w => (mapEntries f es).map ((k, w) :: ·)

theorem map_fst_of_mapEntries {β γ ε : Type} {f : Text → β → Except ε γ} {es : List (Text × β)}
    {ws : List (Text × γ)} (h : mapEntries f es = .ok ws) :
    ws.map Prod.fst = es.map Prod.fst := by
  induction es generalizing ws with
  | nil => cases h; rfl
  | cons e es ih =>
    obtain ⟨k, v⟩ := e
    simp only [mapEntries] at h
    split at h
    · cases h
    · cases hr : mapEntries f es with
      | error e => rw [hr] at h; cases h
      | ok vs => rw [hr] at h; cases h; simp [ih hr]

/-- A table under a function that may fail. -/
def Table.mapM {β γ ε : Type} (t : Table β) (f : Text → β → Except ε γ) : Except ε (Table γ) :=
  match h : mapEntries f t.entries with
  | .error e => .error e
  | .ok es => .ok ⟨es, map_fst_of_mapEntries h ▸ t.nodup⟩

/-- The bills of all clusters that have costs, from the answers to a batch of cost queries. -/
def bills (answers : Answers α) (start finish : Moment) (fallback : Text)
    (discounts : Discounts α) : Except (BillingError α) (Table (Bill α)) :=
  match dataMinutes? (answers.of "data_count") start finish with
  | none => .error .mixedClocks
  | some minutes =>
    (tallies answers fallback discounts).mapM
      (billCluster answers start finish fallback (minutes / Arithmetic.ofNat minutesPerHour))

/-- The event that tells that the minutes are those of the window. -/
def dataCountEvents (dataCount : List (Series α)) : List Event :=
  match observedMinutes? dataCount with
  | some _ => []
  | none => [⟨.warning, .bills, "data_count_missing", [("fallback", .string "window")]⟩]

end ClusterBilling
