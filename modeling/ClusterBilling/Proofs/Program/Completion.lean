import ClusterBilling.Proofs.Batch.Records
import ClusterBilling.Proofs.Program.Acceptance
import ClusterBilling.Proofs.Program.Printing

/-!
How a run of an accepted command line ends. It prints its report, or it tells its user why there is
none; and the file for metrics, if one is named, records the queries that ran, however it ends.
-/
namespace ClusterBilling
open Time Prometheus

/-- A report either asks nothing and refuses its range of time, or asks a batch; then it fails with
this batch, or finds too little in its answers. Its metrics are those of what it asked. -/
structure Course.Conducted {β : Type} (backend : Backend) (metrics : Metrics) (c : Course β) :
    Prop where
  metrics : c.metrics = (ask backend metrics c.queries).metrics
  names : (c.queries.map Prod.fst).Nodup
  fails : c.FailsAs (Fault.OfFullReport (c.queries.map Prod.fst))
  refused : (∃ e, c.outcome = .error (.range e)) ↔ c.queries = []

section reports
variable {β : Type} {backend : Backend} {metrics : Metrics}

theorem Course.refused_conducted (e : RangeError) :
    (Course.refused (β := β) metrics (.range e)).Conducted backend metrics where
  metrics := by
    simp [Course.refused, Findings.refused, ask_eq, Batch.run, Batch.byRound, Batch.gather]
  names := List.nodup_nil
  fails := Course.refused_failsAs metrics (.report (.range e))
  refused := iff_of_true ⟨e, rfl⟩ rfl

theorem Course.queries_map {γ : Type} (f : β → γ) (c : Course β) :
    (c.map f).queries = c.queries := rfl

theorem Course.Conducted.map {γ : Type} {c : Course β} (h : c.Conducted backend metrics)
    (f : β → γ) : (c.map f).Conducted backend metrics where
  metrics := h.metrics
  names := h.names
  fails g hg := by
    cases ho : c.outcome with
    | ok x =>
      rw [Course.map, ho] at hg
      cases hg
    | error g' =>
      rw [Course.map, ho] at hg
      cases hg
      exact h.fails _ ho
  refused := by
    refine Iff.trans ?_ h.refused
    cases ho : c.outcome with
    | ok x => simp [Course.map, ho, Except.map]
    | error g => simp [Course.map, ho, Except.map]

theorem reportRates_conducted {queries : List NamedQuery} (hne : queries ≠ [])
    (hn : (queries.map Prod.fst).Nodup) (warnings : Answers Float → List Event)
    (report : Answers Float → Except InsufficientData β) :
    (reportRates backend metrics queries warnings report).Conducted backend metrics := by
  have hq := queries_reportRates backend metrics queries warnings report
  refine ⟨?_, by rwa [hq], ?_, ?_⟩
  · rw [hq]
    unfold reportRates rateFindings
    dsimp only
    split <;> rfl
  · rw [hq]
    exact reportRates_failsAs _ _ _ _ _ (fun _ => .report) fun _ e _ => .insufficient e
  · rw [hq]
    refine iff_of_false ?_ hne
    rintro ⟨e, he⟩
    exact outcome_reportRates_ne_range _ _ _ _ _ e he

theorem reportBills_conducted (source : DiscountSource) (r : ReportRequest) :
    (reportBills backend source metrics r).Conducted backend metrics := by
  cases hw : Window.resolve r.window r.offset r.now with
  | error e =>
    rw [reportBills_of_refused hw]
    exact Course.refused_conducted e
  | ok window =>
    have hq := queries_reportBills hw backend source metrics
    refine ⟨?_, hq ▸ r.names_billQueries_nodup, ?_, ?_⟩
    · rw [hq]
      rw [reportBills_of_window hw, billFindings]
      dsimp only
      split
      · rfl
      · split <;> rfl
    · intro f hf
      rw [hq]
      exact .report (reportBills_failsAs backend source metrics r f hf)
    · rw [hq]
      refine iff_of_false ?_ (List.cons_ne_nil _ _)
      rintro ⟨e, he⟩
      obtain ⟨table, ht⟩ | ⟨-, hf⟩ := outcome_reportBills hw backend source metrics
      · cases ht.symm.trans he
      · cases hf.symm.trans he

theorem reportClusterRates_conducted (r : ReportRequest) :
    (reportClusterRates backend metrics r).Conducted backend metrics := by
  cases hw : Window.resolve r.window r.offset r.now with
  | error e =>
    rw [reportClusterRates_of_refused hw]
    exact Course.refused_conducted e
  | ok _ =>
    rw [reportClusterRates_of_window hw]
    exact reportRates_conducted (List.cons_ne_nil _ _) (r.names_rateQueries_nodup false) _ _

theorem reportAverage_conducted (r : ReportRequest) :
    (reportAverage backend metrics r).Conducted backend metrics := by
  cases hw : Window.resolve r.window r.offset r.now with
  | error e =>
    rw [reportAverage_of_refused hw]
    exact Course.refused_conducted e
  | ok _ =>
    rw [reportAverage_of_window hw]
    exact reportRates_conducted (List.cons_ne_nil _ _) (r.names_rateQueries_nodup true) _ _

theorem reportOverTime_conducted (start finish : Text) (r : ReportRequest) :
    (reportOverTime backend metrics start finish r).Conducted backend metrics := by
  cases hr : resolveRange start finish r.window r.offset with
  | error e =>
    rw [reportOverTime_of_refused hr]
    exact Course.refused_conducted e
  | ok range =>
    rw [reportOverTime_of_range hr]
    have hn : ((rangeQueries (rateQueries r.window r.offset r.localStorage true) range).map
        Prod.fst).Nodup := by
      exact r.names_rateQueries_nodup true
    exact reportRates_conducted (List.cons_ne_nil _ _) hn _ _

/-- The report of every command. -/
theorem reportDocument_conducted (backend : Backend) (metrics : Metrics) (settings : Settings)
    (command : Command) (window offset : Text) (now : Moment) :
    (reportDocument backend settings metrics command window offset now).Conducted backend
      metrics := by
  cases command with
  | costs => exact (reportBills_conducted _ _).map _
  | totals => exact (reportClusterRates_conducted _).map _
  | average => exact (reportAverage_conducted _).map _
  | overTime start finish => exact (reportOverTime_conducted _ _ _).map _

end reports

/-- How a run ends whose report took this course. It prints the report, once, or else nothing and
tells the fault that there is instead. Either way the file for metrics is written if one is named,
and it records the queries that ran. There are none just if their range of time was refused, and
then the file holds no samples. -/
structure Run.Completes (r : Run) (i : Invocation) (client : Client) (network : Network)
    (c : Course Json) : Prop where
  output : (∃ document, c.outcome = .ok document ∧
      r.ending.output = ⟨document.indented 0 ++ "\n", none, 0⟩) ∨
    ∃ f, c.outcome = .error f ∧ f.OfFullReport (c.queries.map Prod.fst) ∧
      r.ending.output = ⟨"", some ("clustercost: " ++ f.message), 1⟩
  refused : (∃ e, c.outcome = .error (.range e)) ↔ c.queries = []
  requests : r.requests = c.queries.flatMap fun q => client.requests q.2
  file : r.metricsFile? = if i.metricsFile.isEmpty then none else some (i.metricsFile, c.metrics)
  records : c.metrics.Records (c.queries.map Prod.fst)
    (endedFailures (client.backend network) c.queries)
  untouched : c.queries = [] → c.metrics.samples = []

theorem output_ofFault {names : List Text} {f : Fault} (h : f.OfFullReport names) :
    (Ending.ofFault f).output = ⟨"", some ("clustercost: " ++ f.message), 1⟩ := by
  cases h with
  | report h => cases h <;> rfl
  | insufficient e => rfl

section runs
variable {arguments : List Text} {env : Environment} {network : Network} {now : Moment}
  {platform : Platform} {i : Invocation} {settings : Settings}

/-- An accepted command line in an environment that can be read is run. -/
theorem run_of_accepted (hi : readCommandLine arguments = .ok (.report i))
    (hs : i.settings env = .ok settings) :
    ∃ log, ∀ network now platform,
      run arguments env network now platform = i.run settings log network now platform := by
  obtain ⟨log, hl⟩ := exists_logSettings_of_accepted hi
  have hlog : LogSettings.ofNames settings.logLevel settings.logFormat = .ok log := by
    unfold Invocation.settings at hs
    split at hs
    · cases hs
    · cases hs
      exact hl
  refine ⟨log, fun network now platform => ?_⟩
  unfold run
  simp only [hi, hs, hlog]

/-- However the backend answers, and wherever a report may fail, a run prints its report or tells
the fault that it ends with, and writes its metrics, under a clock that works. It comes to nothing
only where headers cannot be sent. -/
theorem run_completes_either_way (hi : readCommandLine arguments = .ok (.report i))
    (hs : i.settings env = .ok settings) (hclock : ∀ r, (network r).elapsed.isNaN = false) :
    (∃ e, Client.ofUrl settings.url settings.headers platform = .error e ∧
      run arguments env network now platform =
        { ending := .crash (.headers e), metricsFile? := i.metricsFile? ∅ }) ∨
    ∃ client, Client.ofUrl settings.url settings.headers platform = .ok client ∧
      (run arguments env network now platform).Completes i client network
        (reportDocument (client.backend network) settings ∅ i.command i.window i.offset now) := by
  obtain ⟨log, hrun⟩ := run_of_accepted hi hs
  rw [hrun network now platform, Invocation.run]
  cases hc : Client.ofUrl settings.url settings.headers platform with
  | error e => exact .inl ⟨e, rfl, rfl⟩
  | ok client =>
    have hconducted := reportDocument_conducted (client.backend network) ∅ settings i.command
      i.window i.offset now
    have hrecords := records_ask client hclock hconducted.names
    rw [← hconducted.metrics] at hrecords
    refine .inr ⟨client, rfl, ?_, hconducted.refused, rfl, rfl, hrecords, ?_⟩
    · dsimp only
      cases ho : (reportDocument (client.backend network) settings ∅ i.command i.window i.offset
          now).outcome with
      | ok document => exact .inl ⟨document, rfl, rfl⟩
      | error f =>
        have hf := hconducted.fails f ho
        exact .inr ⟨f, rfl, hf, output_ofFault hf⟩
    · intro hq
      rw [hq] at hrecords
      exact hrecords.samples_eq_nil

end runs

/-- A network in which every request is lost. -/
def Prometheus.Network.losing (reason : Text) : Network := fun _ => { exchange := .lost reason }

/-- A query that is sent to it fails. -/
theorem exists_outcome_losing (c : Client) (reason : Text) {q : Query}
    (hq : Client.unsendable? q = none) :
    ∃ f, (c.backend (.losing reason)).outcome q = .error f := by
  unfold Backend.outcome Client.backend
  simp only [hq]
  exact ⟨_, rfl⟩

/-- There are no bills if every query fails. -/
theorem exists_reportBills_error {backend : Backend} {r : ReportRequest} {window : Window}
    (hw : Window.resolve r.window r.offset r.now = .ok window) (source : DiscountSource)
    (metrics : Metrics) (hall : ∀ q ∈ r.billQueries, ∃ f, backend.outcome q.2 = .error f) :
    ∃ f, (reportBills backend source metrics r).outcome = .error f := by
  have hcpu : (.ofString "total_cpu" : Text) ∈ r.billQueries.map Prod.fst := by
    rw [r.names_billQueries]
    decide
  obtain ⟨q, hq, hname⟩ := List.mem_map.mp hcpu
  have hfails : endedFaults backend essentialQueries r.billQueries ≠ [] :=
    (endedFaults_ne_nil_iff ..).mpr ⟨q, hq, by rw [hname]; decide, hall q hq⟩
  exact ⟨_, reportBills_of_faults hw backend source metrics hfails⟩

/-- A run for the bills of an hour, with a file for metrics. -/
def hourlyRun (network : Network) : Run :=
  run ["--metrics.textfile", "m.prom", "costs", "--window", "1h"] (fun _ => none) network .epoch

/-- A run whose requests are lost tells so, and its metrics count eight queries that failed. One
whose requests are answered prints its report, and its metrics count the same queries and no
failure. -/
theorem hourlyRun_completes :
    let lost := hourlyRun (.losing "timed out")
    let answered := hourlyRun (.accepting (sampleBody "60"))
    let names : List Text := ["data_count", "total_gpu", "total_cpu", "total_ram", "total_storage",
      "cpu_mode_pct", "ram_system_pct", "ram_other_pct"].map Text.ofString
    (∃ (f : Fault) (metrics : Metrics) (failed : List (Text × Fault)),
      lost.ending.output = ⟨"", some ("clustercost: " ++ f.message), 1⟩ ∧
      lost.metricsFile? = some (.ofString "m.prom", metrics) ∧
      metrics.Records names failed ∧ ∀ name ∈ names, ∃ f, (name, f) ∈ failed) ∧
    ∃ (document : Json) (metrics : Metrics),
      answered.ending.output = ⟨document.indented 0 ++ "
", none, 0⟩ ∧
      answered.metricsFile? = some (.ofString "m.prom", metrics) ∧
      metrics.Records names [] := by
  intro lost answered names
  let i : Invocation := ⟨none, "info", "console", "m.prom", .costs, "1h", ""⟩
  let client : Client := ⟨"http://localhost:9090", [], .standard⟩
  let bills (network : Network) :=
    reportBills (client.backend network) (Settings.discountSource {}) ∅ hourly
  have hi : readCommandLine ["--metrics.textfile", "m.prom", "costs", "--window", "1h"] =
      .ok (.report i) := by decide +kernel
  have hs : i.settings (fun _ => none) = .ok {} := rfl
  have hclock : (0 : Float).isNaN = false := by decide
  obtain ⟨window, hw⟩ := exists_window_hourly
  have hq (network : Network) : (bills network).queries = hourly.billQueries :=
    queries_reportBills hw _ _ _
  have completes (network : Network) (h : ∀ r, (network r).elapsed.isNaN = false) :
      (hourlyRun network).Completes i client network
        ((bills network).map (·.toJson Bill.toJson)) := by
    obtain ⟨e, he, -⟩ | ⟨client, hc, h⟩ := @run_completes_either_way _ _ network .epoch
      .standard _ _ hi hs h
    · cases he
    · cases hc
      exact h
  refine ⟨?lost, ?answered⟩
  case lost =>
    let network : Network := .losing "timed out"
    have h := completes network fun _ => hclock
    have hrecords := h.records
    rw [Course.queries_map, hq] at hrecords
    have hlost : ∀ q ∈ hourly.billQueries, ∃ f, (client.backend network).outcome q.2 = .error f :=
      fun q hq => exists_outcome_losing client _ (sendable_hourly hq)
    obtain ⟨document, hd, -⟩ | ⟨f, -, -, houtput⟩ := h.output
    · obtain ⟨table, ht, -⟩ := map_outcome_eq_ok hd
      obtain ⟨f, hf⟩ := exists_reportBills_error hw (Settings.discountSource {}) ∅ hlost
      cases ht.symm.trans hf
    refine ⟨f, (bills network).metrics, _, houtput, h.file, hrecords, fun name hname => ?_⟩
    obtain ⟨q, hq, rfl⟩ : ∃ q ∈ hourly.billQueries, q.1 = name := List.mem_map.mp hname
    obtain ⟨f, hf⟩ := hlost q hq
    exact ⟨f, mem_endedFailures.mpr ⟨q, hq, rfl, hf⟩⟩
  case answered =>
    let network : Network := .accepting (sampleBody "60")
    have h := completes network fun _ => hclock
    have hrecords := h.records
    rw [Course.queries_map, hq] at hrecords
    obtain ⟨v, series, hv, ha, -⟩ := exists_answer (sampleBody "60") (fun _ => true)
      (by decide +kernel)
    have hanswered : ∀ q ∈ hourly.billQueries, (client.backend network).outcome q.2 = .ok series :=
      fun q hq => outcome_accepting (client.hasBody_plain rfl 200 _) (sendable_hourly hq) hv ha
    have hnone : endedFailures (client.backend network) hourly.billQueries = [] := by
      refine List.eq_nil_iff_forall_not_mem.mpr fun ⟨name, f⟩ hf => ?_
      obtain ⟨q, hq, -, ho⟩ := mem_endedFailures.mp hf
      cases ho.symm.trans (hanswered q hq)
    rw [hnone] at hrecords
    obtain ⟨document, -, houtput⟩ | ⟨f, hf, -⟩ := h.output
    · exact ⟨document, (bills network).metrics, houtput, h.file, hrecords⟩
    · obtain ⟨table, ht⟩ := exists_reportBills hw (Settings.discountSource {}) ∅
        fun q hq => ⟨series, hanswered q hq⟩
      cases (map_outcome_of_ok (·.toJson Bill.toJson) ht).symm.trans hf

end ClusterBilling
