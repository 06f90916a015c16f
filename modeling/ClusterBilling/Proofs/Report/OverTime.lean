import ClusterBilling.Proofs.Report.Agreement
import ClusterBilling.Proofs.Report.Sampling
import ClusterBilling.Proofs.Time.Window

/-!
What a report over time ends with, where several things are wrong at once: its range comes first,
then the queries that fail, then the first resource without a series. Of the series of a resource
only the first one counts.
-/
namespace ClusterBilling
open Text Time

/-- Two timestamps in order, a window that lasts some time, and an offset that is blank or says how
long. -/
structure ValidRange (start finish window offset : Text) : Prop where
  ends : ∃ s f, Moment.ofTimestamp start = .ok s ∧ Moment.ofTimestamp finish = .ok f ∧ s.Before f
  window : ∃ n, Lasts window n ∧ 0 < n
  offset : isAllBlank offset ∨ ∃ n, Lasts offset n

theorem exists_offsetMicros_iff {offset : Text} :
    (∃ n, offsetMicros offset = .ok n) ↔ isAllBlank offset ∨ ∃ n, Lasts offset n := by
  simp only [Window.offsetMicros_eq_ok, Leads]
  cases isAllBlank offset <;> simp

/-- A range is not refused just if it is valid. -/
theorem exists_resolveRange_iff {start finish window offset : Text} :
    (∃ range, resolveRange start finish window offset = .ok range) ↔
      ValidRange start finish window offset := by
  constructor
  · rintro ⟨range, h⟩
    obtain ⟨hs, hf, hlt, ⟨d, hd, hpos, -⟩, ho⟩ := resolveRange_eq_ok.mp h
    have hbefore := (Moment.before_iff_of_utc (Moment.offset?_ofTimestamp hs)
      (Moment.offset?_ofTimestamp hf)).mpr hlt
    exact ⟨⟨_, _, hs, hf, hbefore⟩, ⟨_, ⟨d, hd, rfl⟩, hpos⟩, exists_offsetMicros_iff.mp ho⟩
  · rintro ⟨⟨s, f, hs, hf, hbefore⟩, ⟨n, ⟨d, hd, rfl⟩, hpos⟩, ho⟩
    have hlt := (Moment.before_iff_of_utc (Moment.offset?_ofTimestamp hs)
      (Moment.offset?_ofTimestamp hf)).mp hbefore
    exact ⟨⟨s, f, d.seconds⟩, resolveRange_eq_ok.mpr
      ⟨hs, hf, hlt, ⟨d, hd, hpos, rfl⟩, exists_offsetMicros_iff.mpr ho⟩⟩

/-! ### The first series of each resource -/

section
variable {α : Type} {answers answers' : Answers α} {rs : List Resource}

theorem ratesOverTime_eq_error {x : Resource} : ratesOverTime answers rs = .error x ↔
    rs.find? (fun x => (answers.of x.query).isEmpty) = some x := by
  induction rs with
  | nil => simp [ratesOverTime]
  | cons r rs ih =>
    rw [ratesOverTime]
    cases h : answers.of r.query with
    | nil => simp [firstSeriesPoints?, h]
    | cons s rest =>
      rw [List.find?_cons_of_neg (by simp [h]), ← ih]
      cases ratesOverTime answers rs <;> simp [firstSeriesPoints?, Except.map]

theorem ratesOverTime_eq_ok {rates : Rates α} (h : ratesOverTime answers rs = .ok rates) :
    ∀ x ∈ rs, ∃ s rest, answers.of x.query = s :: rest ∧
      rates.get x = s.samples.map Sample.point := by
  induction rs generalizing rates with
  | nil => exact fun _ hx => nomatch hx
  | cons r rs ih =>
    rw [ratesOverTime] at h
    cases hr : answers.of r.query with
    | nil => simp [firstSeriesPoints?, hr] at h
    | cons s rest =>
      cases hrest : ratesOverTime answers rs with
      | error y => simp [firstSeriesPoints?, hr, hrest, Except.map] at h
      | ok rates' =>
        rw [hr, hrest] at h
        obtain rfl := Except.ok.inj h
        intro x hx
        rw [Rates.get_set]
        split_ifs with hxr
        · exact ⟨s, rest, hxr ▸ hr, rfl⟩
        · exact ih hrest x ((List.mem_cons.mp hx).resolve_left hxr)

/-- No series but the first ones have any influence. -/
theorem ratesOverTime_congr
    (h : ∀ x ∈ rs, (answers.of x.query).head? = (answers'.of x.query).head?) :
    ratesOverTime answers rs = ratesOverTime answers' rs := by
  induction rs with
  | nil => rfl
  | cons r rs ih =>
    obtain ⟨hr, hrs⟩ := List.forall_mem_cons.mp h
    rw [ratesOverTime, ratesOverTime, firstSeriesPoints?, firstSeriesPoints?, hr, ih hrs]

end

/-! ### The report -/

/-- The first series of each resource decide: the first resource that has none is told, or else all
points of the first series are there, in their order. -/
structure FirstSeriesDecide (series : Resource → List (Series Float))
    (outcome : Except Fault (Rates Float)) : Prop where
  insufficient : ∀ e, outcome = .error (.insufficient e) ↔
    ∃ x, Resource.all.find? (fun x => (series x).isEmpty) = some x ∧ e = .noSeries x.query
  rates : (∀ x, series x ≠ []) → ∃ rates, outcome = .ok rates ∧
    ∀ x, ∃ s rest, series x = s :: rest ∧ rates.get x = s.samples.map Sample.point

/-- What a report over time makes of answers. -/
def overTimeOf (answers : Answers Float) : Except Fault (Rates Float) :=
  ((ratesOverTime answers Resource.all).mapError fun x =>
    InsufficientData.noSeries x.query).mapError .insufficient

theorem firstSeriesDecide_overTimeOf (answers : Answers Float) :
    FirstSeriesDecide (fun x => answers.of x.query) (overTimeOf answers) := by
  have herror := @ratesOverTime_eq_error _ answers Resource.all
  unfold overTimeOf
  cases h : ratesOverTime answers Resource.all with
  | error x =>
    have hx := herror.mp h
    refine ⟨fun e => ⟨?_, ?_⟩, fun hne => ?_⟩
    · rintro ⟨⟩
      exact ⟨x, hx, rfl⟩
    · rintro ⟨y, hy, rfl⟩
      obtain rfl := Option.some.inj (hx.symm.trans hy)
      rfl
    · have hempty := List.find?_some hx
      exact absurd (List.isEmpty_iff.mp hempty) (hne x)
  | ok rates =>
    refine ⟨fun e => iff_of_false (fun he => nomatch he) ?_, fun _ => ⟨rates, rfl, fun x => ?_⟩⟩
    · rintro ⟨x, hx, -⟩
      exact nomatch h.symm.trans (herror.mpr hx)
    · exact ratesOverTime_eq_ok h x (by cases x <;> decide)

theorem overTimeOf_ne_batch (answers : Answers Float) (faults : List Fault) :
    overTimeOf answers ≠ .error (.batch faults) := by
  unfold overTimeOf
  cases ratesOverTime answers Resource.all <;> exact fun h => nomatch h

section
variable {start finish : Text} {r : ReportRequest} {range : EvaluationRange}
  (hr : resolveRange start finish r.window r.offset = .ok range)
  (backend : Backend) (metrics : Metrics)
include hr

theorem names_reportOverTime :
    (reportOverTime backend metrics start finish r).queries.map Prod.fst =
      Resource.all.map fun x => (x.query : Text) := by
  rw [queries_reportOverTime hr]
  rfl

theorem names_reportOverTime_nodup :
    ((reportOverTime backend metrics start finish r).queries.map Prod.fst).Nodup := by
  rw [names_reportOverTime hr]
  decide

variable {backend}

theorem outcome_reportOverTime_of_anyFails
    (hf : AnyFails backend (reportOverTime backend metrics start finish r).queries) :
    ∃ faults, (reportOverTime backend metrics start finish r).outcome = .error (.batch faults) ∧
      TellsFailures backend (reportOverTime backend metrics start finish r).queries faults := by
  have hn := names_reportOverTime_nodup hr backend metrics
  rw [queries_reportOverTime hr] at hf hn ⊢
  rw [reportOverTime_of_range hr]
  exact outcome_of_anyFails _ _ _ _ _ hn hf

theorem outcome_reportOverTime
    (hf : ¬ AnyFails backend (reportOverTime backend metrics start finish r).queries) :
    (reportOverTime backend metrics start finish r).outcome =
      overTimeOf (ask backend metrics
        (reportOverTime backend metrics start finish r).queries).answers := by
  rw [queries_reportOverTime hr] at hf ⊢
  rw [reportOverTime_of_range hr]
  exact outcome_of_not_anyFails _ _ _ _ _ hf

/-- Answers that share their first series make one report, whatever backend they come from. -/
theorem outcome_reportOverTime_of_answers {series : Resource → List (Series Float)}
    {answers : Answers Float}
    (ha : backend.Answers series (reportOverTime backend metrics start finish r).queries)
    (hfirst : ∀ x, (series x).head? = (answers.of x.query).head?) :
    (reportOverTime backend metrics start finish r).outcome = overTimeOf answers := by
  rw [outcome_reportOverTime hr metrics ha.not_anyFails, overTimeOf, overTimeOf,
    ratesOverTime_congr]
  intro x hx
  have hq : (x.query : Text) ∈
      (reportOverTime backend metrics start finish r).queries.map Prod.fst := by
    rw [names_reportOverTime hr]
    exact List.mem_map_of_mem hx
  rw [ha.of_query (names_reportOverTime_nodup hr backend metrics) metrics hq, hfirst]

end

/-- A report over time refuses its range just if it is not valid. If it is, the report ends with one
fault for each query that fails, in the order in which they end, just if any does. Otherwise the
first series of each resource decide, and no other series has any influence. -/
theorem overTime_precedence (backend : Backend) (metrics : Metrics) (start finish : Text)
    (r : ReportRequest) :
    let report := reportOverTime backend metrics start finish r
    ((∃ e, report.outcome = .error (.range e)) ↔ ¬ ValidRange start finish r.window r.offset) ∧
    (ValidRange start finish r.window r.offset →
      report.queries.map Prod.fst = Resource.all.map (fun x => (x.query : Text)) ∧
      ((∃ faults, report.outcome = .error (.batch faults)) ↔ AnyFails backend report.queries) ∧
      (∀ faults, report.outcome = .error (.batch faults) →
        TellsFailures backend report.queries faults) ∧
      (¬ AnyFails backend report.queries → ∃ series, backend.Answers series report.queries ∧
        FirstSeriesDecide series report.outcome ∧
        ∀ backend' series' metrics', backend'.Answers series' report.queries →
          (∀ x, (series' x).head? = (series x).head?) →
            (reportOverTime backend' metrics' start finish r).outcome = report.outcome)) := by
  intro report
  cases hr : resolveRange start finish r.window r.offset with
  | error e =>
    have hv : ¬ ValidRange start finish r.window r.offset := by
      rw [← exists_resolveRange_iff, hr]
      rintro ⟨range, h⟩
      cases h
    refine ⟨iff_of_true ⟨e, ?_⟩ hv, fun h => absurd h hv⟩
    simp only [report, reportOverTime_of_refused hr]
    rfl
  | ok range =>
    have hv : ValidRange start finish r.window r.offset :=
      exists_resolveRange_iff.mp ⟨range, hr⟩
    have hnames := names_reportOverTime hr backend metrics
    have hn := names_reportOverTime_nodup hr backend metrics
    have hrange : ¬ ∃ e, report.outcome = .error (.range e) := by
      rintro ⟨e, he⟩
      simp only [report, reportOverTime_of_range hr] at he
      exact outcome_reportRates_ne_range _ _ _ _ _ e he
    refine ⟨iff_of_false hrange (not_not.mpr hv), fun _ => ⟨hnames, ?_⟩⟩
    by_cases hf : AnyFails backend report.queries
    · obtain ⟨faults, ho, ht⟩ := outcome_reportOverTime_of_anyFails hr metrics hf
      refine ⟨iff_of_true ⟨faults, ho⟩ hf, fun faults' ho' => ?_, fun hf' => absurd hf hf'⟩
      obtain rfl : faults = faults' := by
        simpa using ho.symm.trans ho'
      exact ht
    · have ho := outcome_reportOverTime hr metrics hf
      have hbatch : ¬ ∃ faults, report.outcome = .error (.batch faults) := by
        rintro ⟨faults, hb⟩
        exact overTimeOf_ne_batch _ faults (ho.symm.trans hb)
      refine ⟨iff_of_false hbatch hf, fun faults hb => absurd ⟨faults, hb⟩ hbatch, fun _ => ?_⟩
      refine ⟨_, backend.answers_ask hn (fun _ => exists_resource_of_names hnames)
        (fun _ => exists_ok_of_not_anyFails hf) metrics, ho ▸ firstSeriesDecide_overTimeOf _, ?_⟩
      intro backend' series' metrics' ha hfirst
      have hq : (reportOverTime backend' metrics' start finish r).queries = report.queries :=
        (queries_reportOverTime hr).trans (queries_reportOverTime hr).symm
      exact (outcome_reportOverTime_of_answers hr metrics' (hq ▸ ha) hfirst).trans ho.symm

/-- A day asked for backwards of a backend that fails, the same day the right way round, then of a
backend that knows no series, and of one that knows two. -/
theorem overTime_precedence_day :
    let r : ReportRequest := ⟨"1h", "", "cluster-a", "", .epoch⟩
    let first : Text := "2024-01-01T00:00:00.000Z"
    let second : Text := "2024-01-02T00:00:00.000Z"
    let matrix : Json := .object [("status", .string "success"),
      ("data", .object [("resultType", .string "matrix"), ("result", .array [
        .object [("values", .array [.array [.integer 0, .string "2.5"],
          .array [.integer 3600, .string "7"]])],
        .object [("values", .array [.array [.integer 0, .string "9"]])]])])]
    let failing : Backend := fun _ => { body := .error (.foreign "TimeoutError" "") }
    let empty : Backend := fun _ => { body := .ok emptyVector }
    let answering : Backend := fun _ => { body := .ok matrix }
    (∃ e, (reportOverTime failing ∅ second first r).outcome = .error (.range e)) ∧
      (∃ faults, (reportOverTime failing ∅ first second r).outcome = .error (.batch faults)) ∧
      (reportOverTime empty ∅ first second r).outcome =
        .error (.insufficient (.noSeries Resource.cpu.query)) ∧
      ∃ rates, (reportOverTime answering ∅ first second r).outcome = .ok rates ∧
        ∀ x, rates.get x = [(0, 2.5), (3600, 7)] := by
  intro r first second matrix failing empty answering
  have hback : (resolveRange second first r.window r.offset).toOption.isSome = false := by
    decide +kernel
  have hforth : (resolveRange first second r.window r.offset).toOption.isSome = true := by
    decide +kernel
  have hv : ValidRange first second r.window r.offset := by
    cases hr : resolveRange first second r.window r.offset with
    | error e => simp [hr, Except.toOption] at hforth
    | ok range => exact exists_resolveRange_iff.mp ⟨range, hr⟩
  -- a backend that answers all queries alike
  have hdecide {answer : List (Series Float)} {backend : Backend}
      (hb : ∀ q, backend.outcome q = .ok answer) :
      FirstSeriesDecide (fun _ => answer) (reportOverTime backend ∅ first second r).outcome := by
    obtain ⟨hnames, -, -, hanswered⟩ := (overTime_precedence backend ∅ first second r).2 hv
    have hnone : ¬ AnyFails backend (reportOverTime backend ∅ first second r).queries := by
      rintro ⟨q, -, f, hf⟩
      cases (hb q.2).symm.trans hf
    obtain ⟨series, ha, hdecide, -⟩ := hanswered hnone
    have hseries : series = fun _ => answer := funext fun x => by
      obtain ⟨q, -, -, ho⟩ := ha.exists_query (r := x) (by
        rw [hnames]
        exact List.mem_map_of_mem (by cases x <;> decide))
      exact Except.ok.inj (ho.symm.trans (hb q.2))
    rwa [hseries] at hdecide
  refine ⟨?range, ?batch, ?insufficient, ?rates⟩
  case range =>
    refine (overTime_precedence failing ∅ second first r).1.mpr fun hv => ?_
    obtain ⟨range, hr⟩ := exists_resolveRange_iff.mpr hv
    simp [hr, Except.toOption] at hback
  case batch =>
    obtain ⟨-, hfail, -⟩ := (overTime_precedence failing ∅ first second r).2 hv
    obtain ⟨q, hq⟩ := exists_mem_queries hforth
    exact hfail.mpr ⟨q, hq, _, rfl⟩
  case insufficient =>
    have hempty : empty.outcome = fun _ => .ok [] := rfl
    exact ((hdecide (congrFun hempty)).insufficient _).mpr ⟨.cpu, rfl, rfl⟩
  case rates =>
    let answer : List (Series Float) := [⟨∅, [⟨0, 2.5⟩, ⟨3600, 7⟩]⟩, ⟨∅, [⟨0, 9⟩]⟩]
    have hmatrix : Prometheus.readAnswer matrix = .ok answer := by rfl
    have hanswering (q : Query) : answering.outcome q = .ok answer := by
      rw [Backend.outcome, readBody, hmatrix]
    obtain ⟨rates, ho, hrates⟩ := (hdecide hanswering).rates fun _ => by simp [answer]
    refine ⟨rates, ho, fun x => ?_⟩
    obtain ⟨s, rest, hs, hget⟩ := hrates x
    rw [hget, ← (List.cons.inj hs).1]
    rfl

end ClusterBilling
