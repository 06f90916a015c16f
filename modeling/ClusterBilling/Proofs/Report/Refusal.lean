import ClusterBilling.Proofs.Batch.Dispatch
import ClusterBilling.Proofs.Report.Degradation

/-!
When reports are refused. A range of time is refused before the backend is called; once a batch is
on its way the backend is called with all of it, and nothing that comes back makes a report refuse
its range.
-/
namespace ClusterBilling
open Time

namespace Course
variable {β ρ : Type} {backend : Backend} {metrics : Metrics}
  {isBatch : ρ → List NamedQuery → Prop}

end Course

section
variable {r : ReportRequest} {window : Window}

theorem queries_reportBills (hw : Window.resolve r.window r.offset r.now = .ok window)
    (backend : Backend) (source : DiscountSource) (metrics : Metrics) :
    (reportBills backend source metrics r).queries = r.billQueries := by
  rw [reportBills_of_window hw]

/-- Bills end with faults of essential queries, or else they are there. -/
theorem outcome_reportBills (hw : Window.resolve r.window r.offset r.now = .ok window)
    (backend : Backend) (source : DiscountSource) (metrics : Metrics) :
    (∃ table, (reportBills backend source metrics r).outcome = .ok table) ∨
      endedFaults backend essentialQueries r.billQueries ≠ [] ∧
        (reportBills backend source metrics r).outcome =
          .error (.batch ((endedFaults backend essentialQueries r.billQueries).map .query)) := by
  by_cases hf : endedFaults backend essentialQueries r.billQueries = []
  · left
    obtain ⟨table, ht⟩ := bills_ok (Window.resolve_before hw)
      (ask backend metrics r.billQueries).answers r.clusterId source.resolve.1
    exact ⟨table, by rw [reportBills_of_no_faults hw backend source metrics hf, ht]; rfl⟩
  · exact .inr ⟨hf, reportBills_of_faults hw backend source metrics hf⟩

end

section
variable {β : Type} (backend : Backend) (metrics : Metrics) (queries : List NamedQuery)
  (warnings : Answers Float → List Event) (report : Answers Float → Except InsufficientData β)

theorem queries_reportRates :
    (reportRates backend metrics queries warnings report).queries = queries := rfl

/-- Rates end with the faults of their batch if there are any, and else with the report. -/
theorem outcome_reportRates :
    (reportRates backend metrics queries warnings report).outcome =
      if (ask backend metrics queries).faults = [] then
        (report (ask backend metrics queries).answers).mapError .insufficient
      else .error (.batch ((ask backend metrics queries).faults.map .query)) := by
  unfold reportRates rateFindings Batch.raiseForAny Batch.raise
  dsimp only
  by_cases hf : (ask backend metrics queries).faults = []
  · simp [hf]
  · simp [hf]

theorem outcome_reportRates_ne_range (e : RangeError) :
    (reportRates backend metrics queries warnings report).outcome ≠ .error (.range e) := by
  rw [outcome_reportRates]
  split_ifs
  · cases report (ask backend metrics queries).answers <;> exact fun h => nomatch h
  · exact fun h => nomatch h

end

end ClusterBilling
