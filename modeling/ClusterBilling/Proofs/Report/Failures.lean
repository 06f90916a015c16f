import ClusterBilling.Proofs.Batch.Accounting
import ClusterBilling.Proofs.Report.Refusal

/-!
What reports can fail with. Whatever a backend does, and whatever the texts of a request hold, a
report refuses its range of time, tells which queries of its batch failed, or finds too little in
the answers; nothing else comes out of it.
-/
namespace ClusterBilling
open Time

namespace Fault

/-- The range of time is refused, or some queries of a batch failed, each fault under the name of
its query. -/
inductive OfReport (names : List Text) : Fault → Prop where
  | range (e : RangeError) : OfReport names (.range e)
  | batch {faults : List QueryFault} (hne : faults ≠ []) (hn : ∀ f ∈ faults, f.name ∈ names) :
      OfReport names (.batch (faults.map .query))

/-- The same, or the answers hold too little. -/
inductive OfFullReport (names : List Text) : Fault → Prop where
  | report {f : Fault} (hf : f.OfReport names) : OfFullReport names f
  | insufficient (e : InsufficientData) : OfFullReport names (.insufficient e)

end Fault

/-- A report that fails does so in a certain way. -/
def Course.FailsAs {β : Type} (kind : Fault → Prop) (c : Course β) : Prop :=
  ∀ f, c.outcome = .error f → kind f

/-- There is an answer to the query of each resource. -/
def Answers.Cover {α : Type} (answers : Answers α) (resources : List Resource) : Prop :=
  ∀ r ∈ resources, (answers.get? r.query).isSome

/-- Where the window of a request is not refused there are hours for a bill to divide by, above
zero whatever was answered. -/
def ReportRequest.HasHours (r : ReportRequest) : Prop :=
  ∀ w, Window.resolve r.window r.offset r.now = .ok w → ∀ dataCount : List (Series Float),
    ∃ minutes hours, dataMinutes? dataCount w.start w.finish = some minutes ∧
      billedHours w.start w.finish (minutes / Arithmetic.ofNat minutesPerHour) = .ok hours ∧
        ¬ hours ≤ 0

section
variable {backend : Backend} {metrics : Metrics} {queries : List NamedQuery}

theorem name_mem_of_fault {f : QueryFault} {s : Settled}
    (hs : s ∈ Batch.byRound (queries.map (settle backend))) (hf : s.fault? = some f) :
    f.name ∈ queries.map Prod.fst := by
  obtain ⟨q, hq, rfl⟩ := mem_byRound_settle.mp hs
  rw [Settled.name_of_fault? hf, name_settle]
  exact List.mem_map_of_mem hq

theorem name_mem_of_mem_faults {f : QueryFault} (hf : f ∈ (ask backend metrics queries).faults) :
    f.name ∈ queries.map Prod.fst := by
  rw [ask_eq] at hf
  obtain ⟨s, hs, hf⟩ := List.mem_filterMap.mp hf
  exact name_mem_of_fault hs hf

theorem name_mem_of_mem_endedFaults {names : List Text} {f : QueryFault}
    (hf : f ∈ endedFaults backend names queries) : f.name ∈ queries.map Prod.fst := by
  obtain ⟨s, hs, hf⟩ := List.mem_filterMap.mp hf
  exact name_mem_of_fault (List.mem_of_mem_filter hs) hf

/-- Every query of a batch has an answer, an empty one if it failed. -/
theorem isSome_answers_ask (name : Text) :
    ((ask backend metrics queries).answers.get? name).isSome ↔ name ∈ queries.map Prod.fst := by
  rw [Table.isSome_get?_iff, answers_ask, Table.keys_ofList, List.mem_eraseDups, List.map_map]
  rfl

theorem cover_ask {resources : List Resource}
    (h : queries.map Prod.fst = resources.map fun r => (r.query : Text)) :
    (ask backend metrics queries).answers.Cover resources := by
  intro r hr
  rw [isSome_answers_ask, h]
  exact List.mem_map_of_mem hr

end

/-- The queries of a batch that fail, each with its fault, in the order in which they end. -/
def endedFailures (backend : Backend) (queries : List NamedQuery) : List (Text × Fault) :=
  failures (Batch.byRound (queries.map (settle backend)))

/-- A query of the batch fails. -/
def AnyFails (backend : Backend) (queries : List NamedQuery) : Prop :=
  ∃ q ∈ queries, ∃ f, backend.outcome q.2 = .error f

/-- There is one fault for each query that failed, in the order in which they ended. -/
structure TellsFailures (backend : Backend) (queries : List NamedQuery) (faults : List Fault) :
    Prop where
  collected : List.Forall₂ (fun failure f => Collected failure.1 failure.2 f)
    (endedFailures backend queries) faults
  failed : ∀ name f, (name, f) ∈ endedFailures backend queries ↔
    ∃ q ∈ queries, q.1 = name ∧ backend.outcome q.2 = .error f
  once : ((endedFailures backend queries).map Prod.fst).Nodup

section
variable {backend : Backend} {queries : List NamedQuery}

theorem mem_endedFailures {name : Text} {f : Fault} :
    (name, f) ∈ endedFailures backend queries ↔
      ∃ q ∈ queries, q.1 = name ∧ backend.outcome q.2 = .error f := by
  constructor
  · intro h
    obtain ⟨s, hs, hn, ho⟩ := mem_failures h
    obtain ⟨q, hq, rfl⟩ := mem_byRound_settle.mp hs
    exact ⟨q, hq, hn, ho⟩
  · rintro ⟨q, hq, rfl, ho⟩
    refine List.mem_filterMap.mpr ⟨(settle backend q).1, mem_byRound_settle.mpr ⟨q, hq, rfl⟩, ?_⟩
    rw [outcome_settle, ho]
    rfl

theorem faults_collected (backend : Backend) (metrics : Metrics) (queries : List NamedQuery) :
    List.Forall₂ (fun failure f => Collected failure.1 failure.2 f)
      (endedFailures backend queries) ((ask backend metrics queries).faults.map .query) := by
  rw [ask_eq]
  exact failures_collected _

theorem faults_tellFailures (hn : (queries.map Prod.fst).Nodup) (metrics : Metrics) :
    TellsFailures backend queries ((ask backend metrics queries).faults.map .query) where
  collected := faults_collected backend metrics queries
  failed _ _ := mem_endedFailures
  once := by
    have hp := (Batch.byRound_perm (queries.map (settle backend))).map Settled.name
    simp only [List.map_map, Function.comp_def, name_settle] at hp
    exact (hp.nodup_iff.mpr hn).sublist (failures_names_sublist _)

theorem faults_eq_nil_iff (metrics : Metrics) :
    (ask backend metrics queries).faults = [] ↔ ¬ AnyFails backend queries := by
  have hl := (faults_collected backend metrics queries).length_eq
  rw [← List.length_eq_zero_iff, ← List.length_map (f := Fault.query), ← hl,
    List.length_eq_zero_iff, List.eq_nil_iff_forall_not_mem]
  constructor
  · rintro h ⟨q, hq, f, ho⟩
    exact h (q.1, f) (mem_endedFailures.mpr ⟨q, hq, rfl, ho⟩)
  · rintro h ⟨name, f⟩ hf
    obtain ⟨q, hq, -, ho⟩ := mem_endedFailures.mp hf
    exact h ⟨q, hq, f, ho⟩

theorem exists_ok_of_not_anyFails (h : ¬ AnyFails backend queries) {q : NamedQuery}
    (hq : q ∈ queries) : ∃ series, backend.outcome q.2 = .ok series := by
  cases ho : backend.outcome q.2 with
  | ok series => exact ⟨series, rfl⟩
  | error f => exact absurd ⟨q, hq, f, ho⟩ h

end

theorem Course.refused_failsAs {β : Type} {kind : Fault → Prop} (metrics : Metrics)
    {e : RangeError} (h : kind (.range e)) :
    (Course.refused (β := β) metrics (.range e)).FailsAs kind := by
  intro f hf
  cases hf
  exact h

theorem reportBills_failsAs (backend : Backend) (source : DiscountSource) (metrics : Metrics)
    (r : ReportRequest) :
    (reportBills backend source metrics r).FailsAs
      (Fault.OfReport (r.billQueries.map Prod.fst)) := by
  cases hw : Window.resolve r.window r.offset r.now with
  | error e =>
    rw [reportBills_of_refused hw]
    exact Course.refused_failsAs metrics (.range e)
  | ok window =>
    intro f hf
    rcases outcome_reportBills hw backend source metrics with ⟨table, ht⟩ | ⟨hne, he⟩
    · rw [ht] at hf
      cases hf
    · rw [he] at hf
      cases hf
      exact .batch hne fun f hf => name_mem_of_mem_endedFaults hf

section
variable {β : Type} (backend : Backend) (metrics : Metrics) (queries : List NamedQuery)
  (warnings : Answers Float → List Event)

/-- Rates end with the faults of the queries that fail, if any do. -/
theorem outcome_of_anyFails (report : Answers Float → Except InsufficientData β)
    (hn : (queries.map Prod.fst).Nodup) (h : AnyFails backend queries) :
    ∃ faults, (reportRates backend metrics queries warnings report).outcome =
      .error (.batch faults) ∧ TellsFailures backend queries faults := by
  refine ⟨_, ?_, faults_tellFailures hn metrics⟩
  rw [outcome_reportRates, if_neg fun hf => (faults_eq_nil_iff metrics).mp hf h]

theorem outcome_of_not_anyFails (report : Answers Float → Except InsufficientData β)
    (h : ¬ AnyFails backend queries) :
    (reportRates backend metrics queries warnings report).outcome =
      (report (ask backend metrics queries).answers).mapError .insufficient := by
  rw [outcome_reportRates, if_pos ((faults_eq_nil_iff metrics).mpr h)]

/-- Rates fail with their batch, or else as the report on the answers does. -/
theorem reportRates_failsAs (report : Answers Float → Except InsufficientData β)
    {kind : Fault → Prop} (hb : ∀ f, f.OfReport (queries.map Prod.fst) → kind f)
    (hr : ∀ answers e, report answers = .error e → kind (.insufficient e)) :
    (reportRates backend metrics queries warnings report).FailsAs kind := by
  intro f hf
  rw [outcome_reportRates] at hf
  split_ifs at hf with hne
  · cases he : report (ask backend metrics queries).answers with
    | ok rates =>
      rw [he] at hf
      cases hf
    | error e =>
      rw [he] at hf
      cases hf
      exact hr _ e he
  · cases hf
    exact hb _ (.batch hne fun f hf => name_mem_of_mem_faults hf)

end

theorem ReportRequest.hasHours (r : ReportRequest) : r.HasHours := by
  intro w hw dataCount
  obtain ⟨minutes, hours, hm, hh⟩ := dataHours_billed (Window.resolve_before hw) dataCount
  exact ⟨minutes, hours, hm, hh, of_decide_eq_false (isNonpositive_of_billedHours hh)⟩

/-- Each of the four reports ends well, refuses its range of time or tells which queries of its
batch failed; only the rates that need a total or a series of each resource can find too little.
No report misses an answer that it looks up, and no bill divides by zero hours. -/
theorem reports_fail_as (backend : Backend) (source : DiscountSource) (metrics : Metrics)
    (start finish : Text) (r : ReportRequest) :
    (reportBills backend source metrics r).FailsAs
      (Fault.OfReport ((billQueries r.window r.offset r.localStorage).map Prod.fst)) ∧
    (reportClusterRates backend metrics r).FailsAs
      (Fault.OfReport ((rateQueries r.window r.offset r.localStorage false).map Prod.fst)) ∧
    (reportAverage backend metrics r).FailsAs
      (Fault.OfFullReport ((rateQueries r.window r.offset r.localStorage true).map Prod.fst)) ∧
    (reportOverTime backend metrics start finish r).FailsAs
      (Fault.OfFullReport ((rateQueries r.window r.offset r.localStorage true).map Prod.fst)) ∧
    (ask backend metrics
      (instantQueries (rateQueries r.window r.offset r.localStorage false))).answers.Cover
        Resource.parts ∧
    (ask backend metrics
      (instantQueries (rateQueries r.window r.offset r.localStorage true))).answers.Cover
        Resource.all ∧
    (∀ range, (ask backend metrics
      (rangeQueries (rateQueries r.window r.offset r.localStorage true) range)).answers.Cover
        Resource.all) ∧
    r.HasHours := by
  refine ⟨?bills, ?clusterRates, ?average, ?overTime, cover_ask rfl, cover_ask rfl,
    fun _ => cover_ask rfl, r.hasHours⟩
  case bills => exact reportBills_failsAs backend source metrics r
  case clusterRates =>
    cases hw : Window.resolve r.window r.offset r.now with
    | error e =>
      rw [reportClusterRates_of_refused hw]
      exact Course.refused_failsAs metrics (.range e)
    | ok _ =>
      rw [reportClusterRates_of_window hw]
      exact reportRates_failsAs _ _ _ _ _ (fun _ hf => hf) fun _ _ he => nomatch he
  case average =>
    cases hw : Window.resolve r.window r.offset r.now with
    | error e =>
      rw [reportAverage_of_refused hw]
      exact Course.refused_failsAs metrics (.report (.range e))
    | ok _ =>
      rw [reportAverage_of_window hw]
      exact reportRates_failsAs _ _ _ _ _ (fun _ => .report) fun _ e _ => .insufficient e
  case overTime =>
    cases hr : resolveRange start finish r.window r.offset with
    | error e =>
      rw [reportOverTime_of_refused hr]
      exact Course.refused_failsAs metrics (.report (.range e))
    | ok _ =>
      rw [reportOverTime_of_range hr]
      exact reportRates_failsAs _ _ _ _ _ (fun _ => .report) fun _ e _ => .insufficient e

end ClusterBilling
