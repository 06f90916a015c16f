import ClusterBilling.Proofs.Batch.Promotion
import ClusterBilling.Proofs.Cost.Composition
import ClusterBilling.Proofs.Query.Catalog
import ClusterBilling.Proofs.Report.Inquiry

/-!
Which failures of queries a bill survives. Those of essential queries end it, and with nothing but
their own faults; any other query might as well have been answered with nothing.
-/
namespace ClusterBilling
open Time

/-- A body that holds a vector of no series. -/
def emptyVector : Json :=
  .object [("status", .string "success"),
    ("data", .object [("resultType", .string "vector"), ("result", .array [])])]

theorem readAnswer_emptyVector : Prometheus.readAnswer emptyVector = .ok [] := by
  rfl

namespace Backend

/-- What a query comes to at a backend. -/
def outcome (backend : Backend) (q : Query) : Except Fault (List (Series Float)) :=
  (readBody q.text (backend q).body).1

/-- A backend that answers as another does, but with nothing where this one fails. It may take
other rounds, and other times. -/
structure Mends (mended backend : Backend) : Prop where
  kept : ∀ q series, backend.outcome q = .ok series → (mended q).body = (backend q).body
  emptied : ∀ q f, backend.outcome q = .error f → (mended q).body = .ok emptyVector

/-- A query that fails is answered with nothing. -/
def mend (backend : Backend) : Backend := fun q =>
  match backend.outcome q with
  | .ok _ => backend q
  | .error _ => { backend q with body := .ok emptyVector }

theorem mend_mends (backend : Backend) : backend.mend.Mends backend where
  kept q series hq := by rw [mend, hq]
  emptied q f hq := by rw [mend, hq]

variable {mended backend : Backend}

theorem Mends.outcome_of_ok (h : mended.Mends backend) {q : Query} {series : List (Series Float)}
    (hq : backend.outcome q = .ok series) : mended.outcome q = .ok series := by
  rw [outcome, h.kept q series hq]
  exact hq

theorem Mends.outcome_of_error (h : mended.Mends backend) {q : Query} {f : Fault}
    (hq : backend.outcome q = .error f) : mended.outcome q = .ok [] := by
  rw [outcome, h.emptied q f hq, readBody, readAnswer_emptyVector]

end Backend

theorem outcome_settle (backend : Backend) (q : NamedQuery) :
    (settle backend q).1.outcome = backend.outcome q.2 := rfl

theorem name_settle (backend : Backend) (q : NamedQuery) : (settle backend q).1.name = q.1 := rfl

section
variable {mended backend : Backend}

theorem Backend.Mends.settle_ok (h : mended.Mends backend) (q : NamedQuery) :
    ∃ series, (settle mended q).1.outcome = .ok series := by
  cases hq : backend.outcome q.2 with
  | ok series => exact ⟨series, h.outcome_of_ok hq⟩
  | error f => exact ⟨[], h.outcome_of_error hq⟩

theorem Backend.Mends.series_settle (h : mended.Mends backend) (q : NamedQuery) :
    (settle mended q).1.series = (settle backend q).1.series := by
  unfold Settled.series
  rw [outcome_settle, outcome_settle]
  cases hq : backend.outcome q.2 with
  | ok series => rw [h.outcome_of_ok hq]
  | error f => rw [h.outcome_of_error hq]

/-- A batch holds the same answers whether a query fails or is answered with nothing. -/
theorem Backend.Mends.answers_ask (h : mended.Mends backend) (metrics : Metrics)
    (queries : List NamedQuery) :
    (ask mended metrics queries).answers = (ask backend metrics queries).answers := by
  simp only [ClusterBilling.answers_ask, h.series_settle]

end

/-- The queries of a batch that end with a fault, under some names and in the order in which they
end. -/
def endedFaults (backend : Backend) (names : List Text) (queries : List NamedQuery) :
    List QueryFault :=
  ((Batch.byRound (queries.map (settle backend))).filter fun s =>
    names.contains s.name).filterMap Settled.fault?

theorem faultsFor_ask (backend : Backend) (metrics : Metrics) (names : List Text)
    (queries : List NamedQuery) :
    (ask backend metrics queries).faultsFor names = endedFaults backend names queries := by
  rw [ask_eq]
  exact filter_faults names _

/-- A query under one of the names fails. -/
def SomeFails (backend : Backend) (names : List Text) (queries : List NamedQuery) : Prop :=
  ∃ q ∈ queries, q.1 ∈ names ∧ ∃ f, backend.outcome q.2 = .error f

theorem mem_byRound_settle {backend : Backend} {queries : List NamedQuery} {s : Settled} :
    s ∈ Batch.byRound (queries.map (settle backend)) ↔ ∃ q ∈ queries, (settle backend q).1 = s := by
  rw [(Batch.byRound_perm _).mem_iff, List.map_map, List.mem_map]
  rfl

theorem endedFaults_ne_nil_iff (backend : Backend) (names : List Text)
    (queries : List NamedQuery) :
    endedFaults backend names queries ≠ [] ↔ SomeFails backend names queries := by
  constructor
  · intro h
    obtain ⟨f, hf⟩ := List.exists_mem_of_ne_nil _ h
    obtain ⟨s, hs, hf⟩ := List.mem_filterMap.mp hf
    obtain ⟨hs, hn⟩ := List.mem_filter.mp hs
    obtain ⟨q, hq, rfl⟩ := mem_byRound_settle.mp hs
    refine ⟨q, hq, List.contains_iff_mem.mp hn, ?_⟩
    cases ho : backend.outcome q.2 with
    | error g => exact ⟨g, rfl⟩
    | ok series => rw [Settled.fault?_of_ok ho] at hf; cases hf
  · rintro ⟨q, hq, hn, f, hf⟩
    apply List.ne_nil_of_mem
    refine List.mem_filterMap.mpr ⟨(settle backend q).1, ?_, Settled.fault?_of_error hf⟩
    exact List.mem_filter.mpr ⟨mem_byRound_settle.mpr ⟨q, hq, rfl⟩, List.contains_iff_mem.mpr hn⟩

theorem Backend.Mends.not_someFails {mended backend : Backend} (h : mended.Mends backend)
    (names : List Text) (queries : List NamedQuery) : ¬ SomeFails mended names queries := by
  rintro ⟨q, -, -, f, hf⟩
  obtain ⟨series, hs⟩ := h.settle_ok q
  rw [outcome_settle, hf] at hs
  cases hs

section
variable {r : ReportRequest} {window : Window}

theorem reportBills_of_faults (hw : Window.resolve r.window r.offset r.now = .ok window)
    (backend : Backend) (source : DiscountSource) (metrics : Metrics)
    (hf : endedFaults backend essentialQueries r.billQueries ≠ []) :
    (reportBills backend source metrics r).outcome =
      .error (.batch ((endedFaults backend essentialQueries r.billQueries).map .query)) := by
  have hr : (ask backend metrics r.billQueries).raiseFor essentialQueries =
      .error (.batch ((endedFaults backend essentialQueries r.billQueries).map .query)) := by
    rw [Batch.raiseFor, faultsFor_ask, Batch.raise, List.isEmpty_eq_false_iff.mpr hf]
    rfl
  rw [reportBills_of_window hw, billFindings, hr]

theorem reportBills_of_no_faults (hw : Window.resolve r.window r.offset r.now = .ok window)
    (backend : Backend) (source : DiscountSource) (metrics : Metrics)
    (hf : endedFaults backend essentialQueries r.billQueries = []) :
    (reportBills backend source metrics r).outcome =
      (bills (ask backend metrics r.billQueries).answers window.start window.finish r.clusterId
        source.resolve.1).mapError BillingError.toFault := by
  have hr : (ask backend metrics r.billQueries).raiseFor essentialQueries = .ok () := by
    rw [Batch.raiseFor, faultsFor_ask, Batch.raise, hf]
    rfl
  rw [reportBills_of_window hw, billFindings, hr]
  dsimp only
  split <;> next hb => rw [hb]; rfl

/-- Bills whose essential queries are answered are those of the clusters with costs. -/
theorem exists_entries_reportBills (hw : Window.resolve r.window r.offset r.now = .ok window)
    (backend : Backend) (source : DiscountSource) (metrics : Metrics)
    (hf : ¬ SomeFails backend essentialQueries r.billQueries) :
    let answers := (ask backend metrics r.billQueries).answers
    ∃ table hours, (reportBills backend source metrics r).outcome = .ok table ∧
      table.entries = (billedClusters answers r.clusterId).map fun clusterId =>
        (clusterId, billOver answers r.clusterId source.resolve.1 window.start window.finish hours
          clusterId) := by
  intro answers
  obtain ⟨minutes, hours, hm, hh⟩ :=
    dataHours_billed (Window.resolve_before hw) (answers.of "data_count")
  obtain ⟨table, ht, hentries⟩ := bills_of_hours answers r.clusterId source.resolve.1 hm hh
  rw [← endedFaults_ne_nil_iff, not_not] at hf
  refine ⟨table, hours, ?_, hentries⟩
  rw [reportBills_of_no_faults hw backend source metrics hf, ht]
  rfl

/-- A bill fails just if an essential query does, with the faults of these queries alone; any other
failure leaves it as an answer without series does. -/
theorem reportBills_degrades (hw : Window.resolve r.window r.offset r.now = .ok window)
    {mended backend : Backend} (hm : mended.Mends backend) (source : DiscountSource)
    (metrics : Metrics) :
    ((∃ faults, (reportBills backend source metrics r).outcome = .error (.batch faults)) ↔
      SomeFails backend essentialQueries r.billQueries) ∧
    (∀ faults, (reportBills backend source metrics r).outcome = .error (.batch faults) →
      faults = (endedFaults backend essentialQueries r.billQueries).map .query) ∧
    (¬ SomeFails backend essentialQueries r.billQueries →
      ∃ table, (reportBills backend source metrics r).outcome = .ok table ∧
        (reportBills mended source metrics r).outcome = .ok table) := by
  obtain ⟨table, ht⟩ := bills_ok (Window.resolve_before hw)
    (ask backend metrics r.billQueries).answers r.clusterId source.resolve.1
  have hok (h : ¬ SomeFails backend essentialQueries r.billQueries) :
      (reportBills backend source metrics r).outcome = .ok table := by
    rw [← endedFaults_ne_nil_iff, not_not] at h
    rw [reportBills_of_no_faults hw backend source metrics h, ht]
    rfl
  have herr (h : SomeFails backend essentialQueries r.billQueries) :=
    reportBills_of_faults hw backend source metrics ((endedFaults_ne_nil_iff ..).mpr h)
  refine ⟨⟨?_, fun h => ⟨_, herr h⟩⟩, ?_, fun h => ⟨table, hok h, ?_⟩⟩
  · rintro ⟨faults, hf⟩
    by_contra h
    rw [hok h] at hf
    cases hf
  · intro faults hf
    by_cases h : SomeFails backend essentialQueries r.billQueries
    · rw [herr h] at hf
      cases hf
      rfl
    · rw [hok h] at hf
      cases hf
  · have h' := hm.not_someFails essentialQueries r.billQueries
    rw [← endedFaults_ne_nil_iff, not_not] at h'
    rw [reportBills_of_no_faults hw mended source metrics h', hm.answers_ask, ht]
    rfl

/-- The queries of a bill can be told apart by their texts. -/
theorem ReportRequest.eq_of_text_eq {q q' : NamedQuery} (hq : q ∈ r.billQueries)
    (hq' : q' ∈ r.billQueries) (h : q.2.text = q'.2.text) : q = q' := by
  obtain ⟨t, ht, rfl⟩ := List.mem_map.mp hq
  obtain ⟨t', ht', rfl⟩ := List.mem_map.mp hq'
  obtain rfl := List.inj_on_of_nodup_map (billQueries_fill ..).distinct ht ht' h
  rfl

/-- The text of a query tells whether it is under one of some names. -/
theorem ReportRequest.text_mem_iff {q : NamedQuery} (hq : q ∈ r.billQueries) (names : List Text) :
    q.2.text ∈ (r.billQueries.filter fun q => names.contains q.1).map (·.2.text) ↔
      q.1 ∈ names := by
  constructor
  · intro h
    obtain ⟨q', hq', h⟩ := List.mem_map.mp h
    obtain ⟨hq', hn⟩ := List.mem_filter.mp hq'
    obtain rfl := eq_of_text_eq hq' hq h
    exact List.contains_iff_mem.mp hn
  · intro hn
    exact List.mem_map_of_mem (List.mem_filter.mpr ⟨hq, List.contains_iff_mem.mpr hn⟩)

/-- The bills stand if no more than the essential queries are answered. The costs that other queries
would have given are zero, and the breakdowns are left out. -/
theorem reportBills_degrades_timeouts :
    let r : ReportRequest := ⟨"1h", "", "main", "", .epoch⟩
    let essential := r.billQueries.filter fun q => essentialQueries.contains q.1
    let body : Json := .object [("status", .string "success"),
      ("data", .object [("resultType", .string "vector"), ("result", .array [
        .object [("value", .array [.integer 0, .string "6"])]])])]
    let backend : Backend := fun q =>
      { body := if q.text ∈ essential.map (·.2.text) then .ok body
          else .error (.foreign "TimeoutError" "") }
    ∃ table, (reportBills backend .none ∅ r).outcome = .ok table ∧
      (reportBills backend.mend .none ∅ r).outcome = .ok table ∧
      table.keys = [.ofString "main"] ∧ ∃ bill, table.get? "main" = some bill ∧
        bill.cumulative = ⟨6, 0, 6, 6, 18⟩ ∧ bill.cpuBreakdown? = none := by
  intro r essential body backend
  obtain ⟨window, hw⟩ : ∃ window, Window.resolve r.window r.offset r.now = .ok window :=
    exists_eq_ok (by decide +kernel)
  let answer : List (Series Float) := [⟨∅, [⟨0, 6⟩]⟩]
  have hbody : Prometheus.readAnswer body = .ok answer := by rfl
  have houtcome {q : NamedQuery} (hq : q ∈ r.billQueries) : backend.outcome q.2 =
      if q.1 ∈ essentialQueries then .ok answer else .error (.foreign "TimeoutError" "") := by
    have ht := ReportRequest.text_mem_iff hq essentialQueries
    unfold Backend.outcome
    split_ifs with hn
    · rw [show (backend q.2).body = .ok body from if_pos (ht.mpr hn), readBody, hbody]
    · rw [show (backend q.2).body = _ from if_neg (mt ht.mp hn)]
      rfl
  have hf : ¬ SomeFails backend essentialQueries r.billQueries := by
    rintro ⟨q, hq, hn, f, hf⟩
    rw [houtcome hq, if_pos hn] at hf
    cases hf
  obtain ⟨table, ht, hmended⟩ := (reportBills_degrades hw backend.mend_mends .none ∅).2.2 hf
  -- the answers in full: one series each for the essential queries, none for the others
  let answers : Answers Float :=
    .ofList (r.billQueries.map fun q => (q.1, if q.1 ∈ essentialQueries then answer else []))
  have hanswers : (ask backend ∅ r.billQueries).answers = answers := by
    rw [answers_ask]
    refine congrArg Table.ofList (List.map_congr_left fun q hq => congrArg (q.1, ·) ?_)
    rw [Settled.series, outcome_settle, houtcome hq]
    split_ifs <;> rfl
  obtain ⟨table', hours, ht', hentries⟩ := exists_entries_reportBills hw backend .none ∅ hf
  obtain rfl : table = table' := Except.ok.inj (ht.symm.trans ht')
  rw [hanswers] at hentries
  have hkeys : table.keys = [.ofString "main"] := by
    rw [Table.keys_of_entries_eq hentries]
    decide +kernel
  let cost := cumulativeCost answers "main" ⟨0, 0⟩ "main"
  have hcosts : Bill.charges (cost .cpu) (cost .gpu) (cost .ram) (cost .storage) =
      ⟨6, 0, 6, 6, 18⟩ := by
    decide +kernel
  refine ⟨table, ht, hmended, hkeys, ?_⟩
  rw [Table.get?_of_entries_eq hentries, if_pos (by decide +kernel)]
  exact ⟨_, rfl, hcosts, rfl⟩

end
end ClusterBilling
