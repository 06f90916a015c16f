import ClusterBilling.Program.Basic
import ClusterBilling.Proofs.Report.Documents
import ClusterBilling.Proofs.Report.Sending

/-!
What is printed of a report. Rates are printed as JSON text, but bills only if all of their numbers
are finite. The text is read back as the report unless the name of a cluster holds two halves of a
character.
-/
namespace ClusterBilling
open Json Prometheus

/-- An accepted command line comes to a report. -/
structure Returns (arguments : List Text) (env : Environment) (network : Network)
    (now : Time.Moment) (platform : Platform) (i : Invocation) (document : Json) : Prop where
  accepted : readCommandLine arguments = .ok (.report i)
  made : ∃ settings log client, i.settings env = .ok settings ∧
    LogSettings.ofNames settings.logLevel settings.logFormat = .ok log ∧
    Client.ofUrl settings.url settings.headers platform = .ok client ∧
    (reportDocument (client.backend network) settings ∅ i.command i.window i.offset now).outcome =
      .ok document

section endings

theorem ofOutcome_eq_report_iff {outcome : Except Fault Json} {text : String} :
    Ending.ofOutcome outcome = .report text ↔
      ∃ document, outcome = .ok document ∧ text = document.indented 0 ++ "\n" := by
  cases outcome with
  | ok document =>
    unfold Ending.ofOutcome
    rw [Ending.report.injEq]
    exact ⟨fun h => ⟨document, rfl, h.symm⟩, fun ⟨_, hd, ht⟩ => Except.ok.inj hd ▸ ht.symm⟩
  | error f =>
    refine ⟨fun h => ?_, nofun⟩
    cases f <;> cases h

variable {arguments : List Text} {env : Environment} {network : Network} {now : Time.Moment}
  {platform : Platform} {text : String}

/-- A run prints nothing but reports, and each of them as it is. -/
theorem ending_eq_report_iff : (run arguments env network now platform).ending = .report text ↔
    ∃ i document, Returns arguments env network now platform i document ∧
      text = document.indented 0 ++ "\n" := by
  constructor
  · intro h
    unfold run at h
    split at h
    · cases h
    · cases h
    · next i hi =>
      split at h
      · cases h
      · next settings hs =>
        split at h
        · cases h
        · next log hl =>
          unfold Invocation.run at h
          split at h
          · cases h
          · next client hc =>
            obtain ⟨document, hd, ht⟩ := ofOutcome_eq_report_iff.mp h
            exact ⟨i, document, ⟨hi, settings, log, client, hs, hl, hc, hd⟩, ht⟩
  · rintro ⟨i, document, ⟨hi, settings, log, client, hs, hl, hc, hd⟩, ht⟩
    unfold run
    simp only [hi, hs, hl]
    unfold Invocation.run
    simp only [hc]
    exact ofOutcome_eq_report_iff.mpr ⟨document, hd, ht⟩

end endings

section bills
variable {backend : Backend} {source : DiscountSource} {metrics : Metrics} {r : ReportRequest}
  {table : Table (Bill Float)}

/-- A report of bills holds those of the answers to its batch. -/
theorem bills_of_reportBills (h : (reportBills backend source metrics r).outcome = .ok table) :
    ∃ window, Time.Window.resolve r.window r.offset r.now = .ok window ∧
      bills (ask backend metrics r.billQueries).answers window.start window.finish r.clusterId
        source.resolve.1 = .ok table := by
  cases hw : Time.Window.resolve r.window r.offset r.now with
  | error e =>
    rw [reportBills_of_refused hw] at h
    cases h
  | ok window =>
    refine ⟨window, rfl, ?_⟩
    by_cases hf : endedFaults backend essentialQueries r.billQueries = []
    · rw [reportBills_of_no_faults hw backend source metrics hf] at h
      cases hb : bills (ask backend metrics r.billQueries).answers window.start window.finish
          r.clusterId source.resolve.1 with
      | error e =>
        rw [hb] at h
        cases h
      | ok table' =>
        rw [hb] at h
        exact congrArg _ (Except.ok.inj h)
    · rw [reportBills_of_faults hw backend source metrics hf] at h
      cases h

/-- The bills of a report have sums as their totals. -/
theorem summed_of_reportBills (h : (reportBills backend source metrics r).outcome = .ok table) :
    ∀ e ∈ table.entries, e.2.cumulative.Summed ∧ e.2.monthly.Summed := by
  obtain ⟨window, hw, hb⟩ := bills_of_reportBills h
  obtain ⟨hours, he⟩ := entries_bills (Time.Window.resolve_before hw) hb
  rw [he]
  exact List.forall_mem_map.mpr fun clusterId _ => summed_billOver _ _ _ _ _

/-- Bills are there if every query is answered. -/
theorem exists_reportBills {window : Time.Window}
    (hw : Time.Window.resolve r.window r.offset r.now = .ok window) (source : DiscountSource)
    (metrics : Metrics) (ha : ∀ q ∈ r.billQueries, ∃ series, backend.outcome q.2 = .ok series) :
    ∃ table, (reportBills backend source metrics r).outcome = .ok table := by
  obtain h | ⟨hf, -⟩ := outcome_reportBills hw backend source metrics
  · exact h
  · obtain ⟨q, hq, -, f, hf⟩ := (endedFaults_ne_nil_iff ..).mp hf
    obtain ⟨series, hs⟩ := ha q hq
    cases hs.symm.trans hf

/-- Bills are JSON text just if all of them are finite. -/
theorem isText_reportBills_iff
    (h : (reportBills backend source metrics r).outcome = .ok table) :
    IsText ((table.toJson Bill.toJson).indented 0 ++ "\n") ↔ ∀ e ∈ table.entries, e.2.Finite := by
  have hsummed := summed_of_reportBills h
  rw [isText_indented_iff, Table.finite_toJson_iff]
  exact forall₂_congr fun e he => Bill.finite_toJson_iff (hsummed e he).1 (hsummed e he).2

section answered
variable {series : List (Series Float)}
  (ha : ∀ q ∈ r.billQueries, backend.outcome q.2 = .ok series)
include ha

theorem of_query_of_answered (metrics : Metrics) (c : Category) :
    (ask backend metrics r.billQueries).answers.of c.query = series := by
  have hmem : (c.query : Text) ∈ r.billQueries.map Prod.fst := by
    rw [r.names_billQueries]
    exact List.mem_map_of_mem (by cases c <;> decide)
  obtain ⟨q, hq, hname⟩ := List.mem_map.mp hmem
  rw [← hname]
  exact of_ask hq r.names_billQueries_nodup metrics (ha q hq)

/-- Bills are JSON text only if the leading samples that answer their queries are finite. -/
theorem isFinite_of_isText (h : (reportBills backend source metrics r).outcome = .ok table)
    (ht : IsText ((table.toJson Bill.toJson).indented 0 ++ "\n")) :
    ∀ s ∈ series, ∀ x ∈ s.leading?, x.value.isFinite := by
  obtain ⟨window, hw, hb⟩ := bills_of_reportBills h
  intro s hs x hx
  by_contra hn
  rw [← of_query_of_answered ha metrics .cpu] at hs
  obtain ⟨e, he, hnot⟩ := exists_not_finite (Time.Window.resolve_before hw) hb hs hx hn
  exact hnot ((isText_reportBills_iff h).mp ht e he)

end answered

end bills

section tables
variable {α : Type} {report : α → Json} {n maxDepth : ℕ}

/-- A table of reports is read back just if the names of its clusters are. -/
theorem read_table_iff (hw : ∀ x, Within n (report x)) (hn : n + 1 ≤ maxDepth)
    (h : ∀ x, (report x).Faithful) {t : Table α} (hf : (t.toJson report).Finite) :
    read (Text.ofString ((t.toJson report).indented 0 ++ "\n")) maxDepth = .ok (t.toJson report) ↔
      ∀ k ∈ t.keys, k.Unpaired := by
  rw [read_indented_eq_self_iff (Table.within_toJson hw t) hn hf, Table.faithful_toJson_iff h]

end tables

/-- What holds of the text that is printed of a report, for a reader that takes so many arrays and
objects in one another. -/
def Printed (maxDepth : ℕ) (command : Command) (document : Json) (text : String) : Prop :=
  match command with
  | .costs => ∃ bills : Table (Bill Float), document = bills.toJson Bill.toJson ∧
      (IsText text ↔ ∀ e ∈ bills.entries, e.2.Finite) ∧
      (IsText text →
        (read (Text.ofString text) maxDepth = .ok document ↔ ∀ k ∈ bills.keys, k.Unpaired))
  | .totals => ∃ rates : Table (Rates Float), document = rates.toJson Rates.toJson ∧
      IsText text ∧
      (read (Text.ofString text) maxDepth = .ok document ↔ ∀ k ∈ rates.keys, k.Unpaired)
  | .average | .overTime _ _ => IsText text ∧ read (Text.ofString text) maxDepth = .ok document

section printing
variable {backend : Backend} {settings : Settings} {metrics : Metrics} {window offset : Text}
  {now : Time.Moment} {document : Json} {maxDepth : ℕ}

theorem map_outcome_eq_ok {β γ : Type} {f : β → γ} {c : Course β} {y : γ}
    (h : (c.map f).outcome = .ok y) : ∃ x, c.outcome = .ok x ∧ y = f x := by
  obtain ⟨⟨events, metrics, outcome⟩, queries⟩ := c
  cases outcome with
  | error f => cases h
  | ok x => exact ⟨x, rfl, (Except.ok.inj h).symm⟩

theorem map_outcome_of_ok {β γ : Type} (f : β → γ) {c : Course β} {x : β}
    (h : c.outcome = .ok x) : (c.map f).outcome = .ok (f x) := by
  rw [Course.map, h]
  rfl

/-- The rates of one cluster are printed as they are. -/
theorem printed_rates (hn : 4 ≤ maxDepth) (r : Rates Float) :
    IsText (r.toJson.indented 0 ++ "\n") ∧
      read (Text.ofString (r.toJson.indented 0 ++ "\n")) maxDepth = .ok r.toJson :=
  ⟨(isText_indented_iff _).mpr r.finite_toJson,
    (read_indented_eq_self_iff r.within_toJson (by omega) r.finite_toJson).mpr
      r.faithful_toJson⟩

theorem printed_of_outcome (hn : 4 ≤ maxDepth) {command : Command}
    (h : (reportDocument backend settings metrics command window offset now).outcome =
      .ok document) : Printed maxDepth command document (document.indented 0 ++ "\n") := by
  unfold reportDocument at h
  cases command with
  | costs =>
    obtain ⟨bills, hb, rfl⟩ := map_outcome_eq_ok h
    have hvalid := isText_reportBills_iff hb
    refine ⟨bills, rfl, hvalid, fun ht => ?_⟩
    exact read_table_iff Bill.within_toJson (by omega) Bill.faithful_toJson
      ((isText_indented_iff _).mp ht)
  | totals =>
    obtain ⟨rates, -, rfl⟩ := map_outcome_eq_ok h
    have hfinite : (rates.toJson Rates.toJson).Finite :=
      (Table.finite_toJson_iff rates).mpr fun e _ => e.2.finite_toJson
    exact ⟨rates, rfl, (isText_indented_iff _).mpr hfinite,
      read_table_iff Rates.within_toJson (by omega) Rates.faithful_toJson hfinite⟩
  | average =>
    obtain ⟨rates, -, rfl⟩ := map_outcome_eq_ok h
    exact printed_rates hn rates
  | overTime start finish =>
    obtain ⟨rates, -, rfl⟩ := map_outcome_eq_ok h
    exact printed_rates hn rates

end printing

section runs

/-- A body that holds one series of one sample, under no name. -/
def sampleBody (value : String) : List UInt8 :=
  let head := "\x7b\"status\":\"success\",\"data\":\x7b\"resultType\":\"vector\",\"result\":" ++
    "[\x7b\"metric\":\x7b\x7d,\"value\":[1700000000,\""
  (head ++ value ++ "\"]\x7d]\x7d\x7d").toList.map fun c => .ofNat c.toNat

theorem exists_answer (body : List UInt8) (p : List (Series Float) → Bool)
    (h : ((readBytes body).toOption.bind fun v => (readAnswer v).toOption).any p = true) :
    ∃ v series, readBytes body = .ok v ∧ readAnswer v = .ok series ∧ p series = true := by
  cases hv : readBytes body with
  | error e => simp [hv, Except.toOption] at h
  | ok v =>
    cases ha : readAnswer v with
    | error e => simp [hv, ha, Except.toOption] at h
    | ok series => exact ⟨v, series, rfl, ha, by simpa [hv, ha, Except.toOption] using h⟩

/-- An hour of bills, whose queries can all be sent. -/
def hourly : ReportRequest := ⟨"1h", "", "", "", .epoch⟩

theorem sendable_hourly {q : NamedQuery} (hq : q ∈ hourly.billQueries) :
    Client.unsendable? q.2 = none :=
  ReportRequest.sendable_billQueries (Text.scalar_ofString _) (Text.scalar_ofString _)
    (Text.scalar_ofString _) hq

theorem exists_window_hourly :
    ∃ window, Time.Window.resolve hourly.window hourly.offset hourly.now = .ok window :=
  exists_eq_ok (by decide +kernel)

/-- The bills of an hour, where every request is answered with the same series. -/
theorem ending_hourly {body : List UInt8} {v : Json} {series : List (Series Float)}
    (hv : readBytes body = .ok v) (ha : readAnswer v = .ok series) :
    ∃ text, (run ["costs", "--window", "1h"] (fun _ => none) (.accepting body) .epoch).ending =
        .report text ∧ (IsText text → ∀ s ∈ series, ∀ x ∈ s.leading?, x.value.isFinite) := by
  let i : Invocation := ⟨none, "info", "console", "", .costs, "1h", ""⟩
  let client : Client := ⟨"http://localhost:9090", [], .standard⟩
  have hi : readCommandLine ["costs", "--window", "1h"] = .ok (.report i) := by decide +kernel
  obtain ⟨log, hlog⟩ : ∃ log, LogSettings.ofNames "info" "console" = .ok log :=
    exists_eq_ok (by decide +kernel)
  obtain ⟨window, hw⟩ := exists_window_hourly
  have hanswered : ∀ q ∈ hourly.billQueries,
      (client.backend (.accepting body)).outcome q.2 = .ok series := fun q hq =>
    outcome_accepting (client.hasBody_plain rfl 200 body) (sendable_hourly hq) hv ha
  obtain ⟨bills, hb⟩ := exists_reportBills hw (Settings.discountSource {}) ∅
    fun q hq => ⟨series, hanswered q hq⟩
  refine ⟨_, ending_eq_report_iff.mpr ⟨i, bills.toJson Bill.toJson, ⟨hi, {}, log, client, rfl, hlog,
    rfl, map_outcome_of_ok _ hb⟩, rfl⟩, isFinite_of_isText hanswered hb⟩

end runs

/-- A run that ends with a report prints it as JSON text that is read back as the report, but for
bills with numbers that are not finite and for clusters whose names hold two halves of a
character. A reader has to take four arrays and objects in one another for this. -/
theorem run_prints {arguments : List Text} {env : Environment} {network : Network}
    {now : Time.Moment} {platform : Platform} {text : String}
    (h : (run arguments env network now platform).ending = .report text) :
    ∃ i document, Returns arguments env network now platform i document ∧
      text = document.indented 0 ++ "\n" ∧
      ∀ maxDepth, 4 ≤ maxDepth → Printed maxDepth i.command document text := by
  obtain ⟨i, document, hr, rfl⟩ := ending_eq_report_iff.mp h
  obtain ⟨settings, log, client, -, -, -, ho⟩ := hr.made
  exact ⟨i, document, hr, rfl, fun _ hn => printed_of_outcome hn ho⟩

/-- One sample of sixty is printed. -/
theorem run_prints_hourly :
    ∃ text, (run ["costs", "--window", "1h"] (fun _ => none) (.accepting (sampleBody "60"))
        .epoch).ending = .report text ∧
      ∃ i document, Returns ["costs", "--window", "1h"] (fun _ => none)
          (.accepting (sampleBody "60")) .epoch .standard i document ∧
        text = document.indented 0 ++ "\n" ∧
        ∀ maxDepth, 4 ≤ maxDepth → Printed maxDepth i.command document text := by
  obtain ⟨v, series, hv, ha, -⟩ := exists_answer (sampleBody "60") (fun _ => true)
    (by decide +kernel)
  obtain ⟨text, he, -⟩ := ending_hourly hv ha
  exact ⟨text, he, run_prints he⟩

/-- A sample that is not a number is printed as what is no JSON text. -/
theorem not_isText_nan :
    ∃ text, (run ["costs", "--window", "1h"] (fun _ => none) (.accepting (sampleBody "NaN"))
      .epoch).ending = .report text ∧ ¬ IsText text := by
  obtain ⟨v, series, hv, ha, hnan⟩ := exists_answer (sampleBody "NaN")
    (fun series => series.any fun s => s.leading?.any fun x => !x.value.isFinite)
    (by decide +kernel)
  obtain ⟨text, he, ht⟩ := ending_hourly hv ha
  refine ⟨text, he, fun h => ?_⟩
  obtain ⟨s, hs, hx⟩ := List.any_eq_true.mp hnan
  obtain ⟨x, hx, hn⟩ := (Option.any_eq_true _ _).mp hx
  simp [ht h s hs x hx] at hn

end ClusterBilling
