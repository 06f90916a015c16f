import ClusterBilling.Cost.Bill
import ClusterBilling.Cost.Rates
import ClusterBilling.Query.Catalog
import ClusterBilling.Report.Inquiry
import ClusterBilling.Time.Timestamp
import ClusterBilling.Time.Window

/-! The four reports. Each checks its range of time before it calls the backend. -/
namespace ClusterBilling
open Time

/-- What a report is asked for. -/
structure ReportRequest where
  window : Text
  offset : Text
  /-- The cluster of the series that name none. -/
  clusterId : Text
  /-- A query for the costs of local storage. -/
  localStorage : Text
  now : Moment

/-- What a report found: what was told and counted, and how it ended. -/
structure Findings (β : Type) where
  events : List Event
  metrics : Metrics
  outcome : Except Fault β

/-- A report that ends before it asks anything. -/
def Findings.refused {β : Type} (metrics : Metrics) (f : Fault) : Findings β :=
  ⟨[], metrics, .error f⟩

/-- The course of a report at a backend: what it found, and the queries that it called the backend
with. -/
structure Course (β : Type) extends Findings β where
  queries : List NamedQuery

/-- What a report comes to at a backend. -/
def Inquiry.course {β : Type} (backend : Backend) (report : Inquiry (Findings β)) : Course β :=
  let (findings, queries) := report.run backend
  { findings with queries }

/-- The course of a report that is refused before it calls the backend. -/
def Course.refused {β : Type} (metrics : Metrics) (f : Fault) : Course β :=
  ⟨.refused metrics f, []⟩

def Course.map {β γ : Type} (f : β → γ) (c : Course β) : Course γ :=
  { c with outcome := c.outcome.map f }

/-- A report over a range of time, which is refused before anything is asked. -/
def inRange {ρ β : Type} (metrics : Metrics) (range : Except RangeError ρ)
    (report : ρ → Inquiry (Findings β)) : Inquiry (Findings β) :=
  match range with
  | .error e => return .refused metrics (.range e)
  | .ok x => report x

/-- Queries for the present moment. -/
def instantQueries (texts : List NamedText) : List NamedQuery :=
  texts.map fun (name, text) => (name, ⟨text, none⟩)

/-- Queries over a range of times. -/
def rangeQueries (texts : List NamedText) (range : EvaluationRange) : List NamedQuery :=
  texts.map fun (name, text) => (name, ⟨text, some range⟩)

/-- A bill cannot be had without the answers to these. -/
def essentialQueries : List Text := ["total_cpu", "total_ram", "total_storage"]

/-- The warning that a query failed that a bill can do without. -/
def degradedEvent (f : QueryFault) : Event :=
  ⟨.warning, .reports, "cluster_cost_query_degraded", [("error", .string f.message)]⟩

def queryEvent (q : NamedQuery) : Event :=
  ⟨.debug, .reports, "cluster_cost_query", [("query", .string q.1), ("text", .string q.2.text)]⟩

/-- The series that no bill takes up yet, if there are any. -/
def unmergedEvents (answers : Answers Float) : List Event :=
  match answers.of "ram_other_pct" with
  | [] => []
  | series => [⟨.debug, .bills, "ram_other_pct_unmerged", [("series", .integer series.length)]⟩]

def billEvent (entry : Text × Bill Float) : Event :=
  ⟨.debug, .bills, "cluster_costs_computed",
    [("cluster_id", .string entry.1), ("total_cumulative", .float entry.2.cumulative.total)]⟩

def billsEvent (r : ReportRequest) (count : Nat) : Event :=
  ⟨.info, .reports, "cluster_costs_computed",
    [("clusters", .integer count), ("window", .string r.window), ("offset", .string r.offset)]⟩

def BillingError.toFault : BillingError Float → Fault
  | mixedClocks => .mixedClocks
  | noHours start finish hours => .range (.noDataHours start finish hours)

/-- Bills from the answers to their queries, unless an essential one failed. -/
def billFindings (source : DiscountSource) (r : ReportRequest) (window : Window)
    (queries : List NamedQuery) (batch : Batch) : Findings (Table (Bill Float)) :=
  let asked := queries.map queryEvent ++ batch.events
  match batch.raiseFor essentialQueries with
  | .error f => ⟨asked, batch.metrics, .error f⟩
  | .ok () =>
    let others := (queries.map Prod.fst).filter (!essentialQueries.contains ·)
    let (discounts, discountEvents) := source.resolve
    let told := asked ++ (batch.faultsFor others).map degradedEvent ++ discountEvents
      ++ dataCountEvents (batch.answers.of "data_count") ++ unmergedEvents batch.answers
    match bills batch.answers window.start window.finish r.clusterId discounts with
    | .error e => ⟨told, batch.metrics, .error e.toFault⟩
    | .ok bills =>
      ⟨told ++ bills.entries.map billEvent ++ [billsEvent r bills.entries.length],
        batch.metrics, .ok bills⟩

/-- Ask for the bills of all clusters over a window. -/
def inquireBills (source : DiscountSource) (metrics : Metrics) (r : ReportRequest) :
    Inquiry (Findings (Table (Bill Float))) :=
  inRange metrics (Window.resolve r.window r.offset r.now) fun window => do
    let queries := instantQueries (billQueries r.window r.offset r.localStorage)
    let batch ← inquireAll metrics queries
    return billFindings source r window queries batch

/-- Rates from the answers to their queries, unless one failed. -/
def rateFindings {β : Type} (warnings : Answers Float → List Event)
    (report : Answers Float → Except InsufficientData β) (batch : Batch) : Findings β :=
  match batch.raiseForAny with
  | .error f => ⟨batch.events, batch.metrics, .error f⟩
  | .ok () =>
    ⟨batch.events ++ warnings batch.answers, batch.metrics,
      (report batch.answers).mapError .insufficient⟩

/-- Ask for monthly rates. -/
def inquireRates {β : Type} (metrics : Metrics) (queries : List NamedQuery)
    (warnings : Answers Float → List Event) (report : Answers Float → Except InsufficientData β) :
    Inquiry (Findings β) := do
  let batch ← inquireAll metrics queries
  return rateFindings warnings report batch

/-- The warnings about the series of some resources that have no samples. -/
def emptySeriesWarnings (resources : List Resource) (answers : Answers Float) : List Event :=
  resources.flatMap fun r => emptySeriesEvents (answers.of r.query)

/-- Ask for the monthly rates of every cluster, averaged over a window. -/
def inquireClusterRates (metrics : Metrics) (r : ReportRequest) :
    Inquiry (Findings (Table (Rates Float))) :=
  inRange metrics (Window.resolve r.window r.offset r.now) fun _ =>
    inquireRates metrics (instantQueries (rateQueries r.window r.offset r.localStorage false))
      (emptySeriesWarnings Resource.parts) fun answers => .ok (ratesByCluster answers r.clusterId)

/-- The rates of a cluster, which must have a total. -/
def ratesWithTotal (clusterId : Text) (answers : Answers Float) :
    Except InsufficientData (Rates Float) :=
  let rates := ratesOf answers clusterId
  if rates.total.isEmpty then .error (.noTotal clusterId) else .ok rates

/-- Ask for the monthly rates of one cluster, averaged over a window. -/
def inquireAverage (metrics : Metrics) (r : ReportRequest) : Inquiry (Findings (Rates Float)) :=
  inRange metrics (Window.resolve r.window r.offset r.now) fun _ =>
    inquireRates metrics (instantQueries (rateQueries r.window r.offset r.localStorage true))
      (emptySeriesWarnings Resource.all) (ratesWithTotal r.clusterId)

/-- The range of times from `start` to `finish`, every `window`; an offset must be a
duration too. -/
def resolveRange (start finish window offset : Text) : Except RangeError EvaluationRange :=
  match Moment.ofTimestamp start with
  | .error e => .error e
  | .ok s =>
    match Moment.ofTimestamp finish with
    | .error e => .error e
    | .ok f =>
      match Duration.parse window with
      | .error e => .error e
      | .ok step =>
        if step.micros = 0 ∨ f.clock ≤ s.clock then .error (.emptyRange start finish window)
        else
          match offsetMicros offset with
          | .error e => .error e
          | .ok _ => .ok ⟨s, f, step.seconds⟩

/-- Ask for the monthly rates between two times, sampled every `window`. -/
def inquireOverTime (metrics : Metrics) (start finish : Text) (r : ReportRequest) :
    Inquiry (Findings (Rates Float)) :=
  inRange metrics (resolveRange start finish r.window r.offset) fun range =>
    inquireRates metrics (rangeQueries (rateQueries r.window r.offset r.localStorage true) range)
      (fun _ => []) fun answers =>
        (ratesOverTime answers Resource.all).mapError fun resource => .noSeries resource.query

/-- The bills of all clusters, from a backend. -/
def reportBills (backend : Backend) (source : DiscountSource) (metrics : Metrics)
    (r : ReportRequest) : Course (Table (Bill Float)) :=
  (inquireBills source metrics r).course backend

/-- The rates of every cluster, from a backend. -/
def reportClusterRates (backend : Backend) (metrics : Metrics) (r : ReportRequest) :
    Course (Table (Rates Float)) :=
  (inquireClusterRates metrics r).course backend

/-- The rates of one cluster, from a backend. -/
def reportAverage (backend : Backend) (metrics : Metrics) (r : ReportRequest) :
    Course (Rates Float) :=
  (inquireAverage metrics r).course backend

/-- The rates between two times, from a backend. -/
def reportOverTime (backend : Backend) (metrics : Metrics) (start finish : Text)
    (r : ReportRequest) : Course (Rates Float) :=
  (inquireOverTime metrics start finish r).course backend

end ClusterBilling
