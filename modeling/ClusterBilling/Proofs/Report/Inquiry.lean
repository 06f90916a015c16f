import Mathlib.Tactic
import ClusterBilling.Report.Basic

/-!
What comes of programs that call a backend. A batch calls it with each of its queries, once and in
order; a report either refuses its range of time without a call, or is found in the answers of its
batch.
-/
namespace ClusterBilling
open Time

theorem exists_eq_ok {ε β : Type} {x : Except ε β} (h : x.isOk = true) : ∃ y, x = .ok y := by
  cases x with
  | error e => cases h
  | ok y => exact ⟨y, rfl⟩

namespace Inquiry
variable {α β γ : Type}

theorem bind_done (x : Inquiry α) : x.bind done = x := by
  induction x with
  | done a => rfl
  | call q next ih => exact congrArg (call q) (funext ih)

theorem bind_assoc (x : Inquiry α) (f : α → Inquiry β) (g : β → Inquiry γ) :
    (x.bind f).bind g = x.bind fun a => (f a).bind g := by
  induction x with
  | done a => rfl
  | call q next ih => exact congrArg (call q) (funext ih)

instance : LawfulMonad Inquiry := .mk' Inquiry bind_done (fun _ _ => rfl) bind_assoc

variable (backend : Backend)

@[simp] theorem run_pure (a : α) : (pure a : Inquiry α).run backend = (a, []) := rfl

/-- Of two programs, the calls of the first come first. -/
@[simp] theorem run_bind (x : Inquiry α) (f : α → Inquiry β) :
    (x >>= f).run backend =
      (((f (x.run backend).1).run backend).1,
        (x.run backend).2 ++ ((f (x.run backend).1).run backend).2) := by
  induction x with
  | done a => rfl
  | call q next ih =>
    change (call q fun response => next response >>= f).run backend = _
    rw [run, ih]
    rfl

@[simp] theorem run_map (f : α → β) (x : Inquiry α) :
    (f <$> x).run backend = (f (x.run backend).1, (x.run backend).2) := by
  simp only [map_eq_pure_bind, run_bind, run_pure, List.append_nil]

/-- A query is one call, whatever it ends with. -/
@[simp] theorem run_inquire (q : NamedQuery) :
    (inquire q).run backend = (settle backend q, [q]) := rfl

theorem run_mapM_inquire (queries : List NamedQuery) :
    (queries.mapM inquire).run backend = (queries.map (settle backend), queries) := by
  induction queries with
  | nil => rfl
  | cons q queries ih => simp [ih]

end Inquiry

section
variable (backend : Backend) (metrics : Metrics) (queries : List NamedQuery)

theorem ask_eq : ask backend metrics queries = .run metrics (queries.map (settle backend)) := by
  simp [ask, inquireAll, Inquiry.run_mapM_inquire]

/-- A batch is one call for each of its queries, in order, whichever of them fail. -/
@[simp] theorem run_inquireAll :
    (inquireAll metrics queries).run backend = (ask backend metrics queries, queries) := by
  simp [ask_eq, inquireAll, Inquiry.run_mapM_inquire]

/-- A batch in terms of its queries as they end. -/
theorem answers_ask :
    (ask backend metrics queries).answers =
      .ofList (queries.map fun q => (q.1, (settle backend q).1.series)) := by
  rw [ask_eq, Batch.run, Batch.gather, List.map_map, List.map_map]
  rfl

end

section
variable {ρ β : Type} (backend : Backend) (metrics : Metrics)

theorem course_inRange_error (e : RangeError) (report : ρ → Inquiry (Findings β)) :
    (inRange metrics (.error e) report).course backend = .refused metrics (.range e) := rfl

theorem course_inRange_ok (x : ρ) (report : ρ → Inquiry (Findings β)) :
    (inRange metrics (.ok x) report).course backend = (report x).course backend := rfl

/-- What is found in the answers of a batch, after a call for each of its queries. -/
theorem course_bind_inquireAll (queries : List NamedQuery) (found : Batch → Findings β) :
    (inquireAll metrics queries >>= fun batch => pure (found batch)).course backend =
      ⟨found (ask backend metrics queries), queries⟩ := by
  simp [Inquiry.course]

/-- Rates over a batch of queries, from a backend. -/
def reportRates (queries : List NamedQuery) (warnings : Answers Float → List Event)
    (report : Answers Float → Except InsufficientData β) : Course β :=
  ⟨rateFindings warnings report (ask backend metrics queries), queries⟩

theorem course_inquireRates (queries : List NamedQuery) (warnings : Answers Float → List Event)
    (report : Answers Float → Except InsufficientData β) :
    (inquireRates metrics queries warnings report).course backend =
      reportRates backend metrics queries warnings report :=
  course_bind_inquireAll backend metrics queries _

end

/-- The queries of a bill. -/
def ReportRequest.billQueries (r : ReportRequest) : List NamedQuery :=
  instantQueries (ClusterBilling.billQueries r.window r.offset r.localStorage)

/-- The queries of the rates, with or without the total. -/
def ReportRequest.rateQueries (r : ReportRequest) (withTotal : Bool) : List NamedQuery :=
  instantQueries (ClusterBilling.rateQueries r.window r.offset r.localStorage withTotal)

section
variable {r : ReportRequest} {window : Window}

theorem reportBills_of_refused {e : RangeError}
    (hr : Window.resolve r.window r.offset r.now = .error e) (backend : Backend)
    (source : DiscountSource) (metrics : Metrics) :
    reportBills backend source metrics r = .refused metrics (.range e) := by
  rw [reportBills, inquireBills, hr, course_inRange_error]

theorem reportBills_of_window (hw : Window.resolve r.window r.offset r.now = .ok window)
    (backend : Backend) (source : DiscountSource) (metrics : Metrics) :
    reportBills backend source metrics r =
      ⟨billFindings source r window r.billQueries (ask backend metrics r.billQueries),
        r.billQueries⟩ := by
  rw [reportBills, inquireBills, hw, course_inRange_ok]
  exact course_bind_inquireAll backend metrics r.billQueries _

theorem reportClusterRates_of_refused {e : RangeError}
    (hr : Window.resolve r.window r.offset r.now = .error e) (backend : Backend)
    (metrics : Metrics) :
    reportClusterRates backend metrics r = .refused metrics (.range e) := by
  rw [reportClusterRates, inquireClusterRates, hr, course_inRange_error]

theorem reportClusterRates_of_window
    (hw : Window.resolve r.window r.offset r.now = .ok window) (backend : Backend)
    (metrics : Metrics) :
    reportClusterRates backend metrics r =
      reportRates backend metrics (r.rateQueries false) (emptySeriesWarnings Resource.parts)
        fun answers => .ok (ratesByCluster answers r.clusterId) := by
  rw [reportClusterRates, inquireClusterRates, hw, course_inRange_ok, course_inquireRates]
  rfl

theorem reportAverage_of_refused {e : RangeError}
    (hr : Window.resolve r.window r.offset r.now = .error e) (backend : Backend)
    (metrics : Metrics) : reportAverage backend metrics r = .refused metrics (.range e) := by
  rw [reportAverage, inquireAverage, hr, course_inRange_error]

theorem reportAverage_of_window (hw : Window.resolve r.window r.offset r.now = .ok window)
    (backend : Backend) (metrics : Metrics) :
    reportAverage backend metrics r =
      reportRates backend metrics (r.rateQueries true) (emptySeriesWarnings Resource.all)
        (ratesWithTotal r.clusterId) := by
  rw [reportAverage, inquireAverage, hw, course_inRange_ok, course_inquireRates]
  rfl

theorem reportOverTime_of_refused {start finish : Text} {e : RangeError}
    (hr : resolveRange start finish r.window r.offset = .error e) (backend : Backend)
    (metrics : Metrics) :
    reportOverTime backend metrics start finish r = .refused metrics (.range e) := by
  rw [reportOverTime, inquireOverTime, hr, course_inRange_error]

theorem reportOverTime_of_range {start finish : Text} {range : EvaluationRange}
    (hr : resolveRange start finish r.window r.offset = .ok range) (backend : Backend)
    (metrics : Metrics) :
    reportOverTime backend metrics start finish r =
      reportRates backend metrics
        (rangeQueries (rateQueries r.window r.offset r.localStorage true) range) (fun _ => [])
        fun answers => (ratesOverTime answers Resource.all).mapError fun x => .noSeries x.query := by
  rw [reportOverTime, inquireOverTime, hr, course_inRange_ok, course_inquireRates]

end

end ClusterBilling
