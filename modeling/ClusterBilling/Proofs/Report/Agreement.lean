import ClusterBilling.Proofs.Cost.Rates
import ClusterBilling.Proofs.Report.Failures

/-!
Two ways to the rates of the default cluster: its average, and its entry in the rates of all
clusters. On the same answers they agree, for queries of the same texts.
-/
namespace ClusterBilling
open Time

/-- Every query is that of a resource, and is answered with the series of this resource. -/
def Backend.Answers (backend : Backend) (series : Resource → List (Series Float))
    (queries : List NamedQuery) : Prop :=
  ∀ q ∈ queries, ∃ r : Resource, q.1 = r.query ∧ backend.outcome q.2 = .ok (series r)

theorem Resource.query_inj {r r' : Resource} (h : (r.query : Text) = r'.query) : r = r' := by
  rw [Text.ofString_inj] at h
  revert h
  cases r <;> cases r' <;> decide

section
variable {backend : Backend} {series : Resource → List (Series Float)} {queries : List NamedQuery}

theorem exists_resource_of_names {resources : List Resource}
    (h : queries.map Prod.fst = resources.map fun x => (x.query : Text)) {q : NamedQuery}
    (hq : q ∈ queries) : ∃ x : Resource, q.1 = x.query := by
  have hn := List.mem_map_of_mem (f := Prod.fst) hq
  rw [h] at hn
  obtain ⟨x, -, hx⟩ := List.mem_map.mp hn
  exact ⟨x, hx.symm⟩

/-- No query fails in a batch that is answered. -/
theorem Backend.Answers.not_anyFails (h : backend.Answers series queries) :
    ¬ AnyFails backend queries := by
  rintro ⟨q, hq, f, hf⟩
  obtain ⟨x, -, ho⟩ := h q hq
  rw [ho] at hf
  cases hf

/-- The answer to a query is under the name of the query. -/
theorem of_ask {q : NamedQuery} {answer : List (Series Float)} (hq : q ∈ queries)
    (hn : (queries.map Prod.fst).Nodup) (metrics : Metrics)
    (ho : backend.outcome q.2 = .ok answer) :
    (ask backend metrics queries).answers.of q.1 = answer := by
  have hentries : (ask backend metrics queries).answers.entries =
      queries.map fun q => (q.1, (settle backend q).1.series) := by
    rw [ClusterBilling.answers_ask, Table.entries_ofList]
    rwa [List.map_map]
  have hseries : (settle backend q).1.series = answer := by
    rw [Settled.series, outcome_settle, ho]
  rw [Answers.of, Table.get?_of_mem (v := answer), Option.getD_some]
  rw [hentries]
  exact List.mem_map.mpr ⟨q, hq, by rw [hseries]⟩

theorem Backend.Answers.exists_query (h : backend.Answers series queries) {r : Resource}
    (hr : (r.query : Text) ∈ queries.map Prod.fst) :
    ∃ q ∈ queries, q.1 = r.query ∧ backend.outcome q.2 = .ok (series r) := by
  obtain ⟨q, hq, hname⟩ := List.mem_map.mp hr
  obtain ⟨r', hr', ho⟩ := h q hq
  obtain rfl : r = r' := Resource.query_inj (hname.symm.trans hr')
  exact ⟨q, hq, hname, ho⟩

/-- The answer to the query of a resource is under its name. -/
theorem Backend.Answers.of_query (h : backend.Answers series queries)
    (hn : (queries.map Prod.fst).Nodup) (metrics : Metrics) {r : Resource}
    (hr : (r.query : Text) ∈ queries.map Prod.fst) :
    (ask backend metrics queries).answers.of r.query = series r := by
  obtain ⟨q, hq, hname, ho⟩ := h.exists_query hr
  rw [← hname]
  exact of_ask hq hn metrics ho

/-- Queries of resources that do not fail are answered with what is under their names. -/
theorem Backend.answers_ask (hn : (queries.map Prod.fst).Nodup)
    (hr : ∀ q ∈ queries, ∃ x : Resource, q.1 = x.query)
    (ho : ∀ q ∈ queries, ∃ answer, backend.outcome q.2 = .ok answer) (metrics : Metrics) :
    backend.Answers (fun x => (ask backend metrics queries).answers.of x.query) queries := by
  intro q hq
  obtain ⟨x, hx⟩ := hr q hq
  obtain ⟨answer, ho⟩ := ho q hq
  refine ⟨x, hx, ?_⟩
  dsimp only
  rw [← hx, of_ask hq hn metrics ho, ho]

end

namespace ReportRequest

variable (r : ReportRequest)

theorem names_rateQueries (withTotal : Bool) : (r.rateQueries withTotal).map Prod.fst =
    (if withTotal then Resource.all else Resource.parts).map fun x => (x.query : Text) := by
  cases withTotal <;> rfl

theorem names_rateQueries_nodup (withTotal : Bool) :
    ((r.rateQueries withTotal).map Prod.fst).Nodup := by
  rw [names_rateQueries]
  cases withTotal <;> decide

theorem exists_resource {withTotal : Bool} {q : NamedQuery} (hq : q ∈ r.rateQueries withTotal) :
    ∃ x : Resource, q.1 = x.query :=
  exists_resource_of_names (r.names_rateQueries withTotal) hq

/-- The total comes on top of queries that are the same without it. -/
theorem rateQueries_without_total :
    r.rateQueries false =
      (r.rateQueries true).filter fun q => q.1 ≠ (Resource.total.query : Text) := by
  rfl

end ReportRequest

section
variable {r : ReportRequest} {window : Window} {backend : Backend}
  {series : Resource → List (Series Float)}

theorem outcome_reportClusterRates (hw : Window.resolve r.window r.offset r.now = .ok window)
    (ha : backend.Answers series (r.rateQueries false)) (metrics : Metrics) :
    ∃ table, (reportClusterRates backend metrics r).outcome = .ok table ∧
      ∀ x ∈ Resource.parts, ∀ clusterId,
        entryPoints table clusterId x = clusterPoints r.clusterId clusterId (series x) := by
  refine ⟨ratesByCluster (ask backend metrics (r.rateQueries false)).answers r.clusterId, ?_,
    fun x hx clusterId => ?_⟩
  · rw [reportClusterRates_of_window hw]
    exact outcome_of_not_anyFails _ _ _ _ _ ha.not_anyFails
  · rw [entryPoints_ratesByCluster _ _ _ hx]
    congr 1
    refine ha.of_query (r.names_rateQueries_nodup false) metrics ?_
    rw [r.names_rateQueries]
    exact List.mem_map_of_mem hx

theorem outcome_reportAverage (hw : Window.resolve r.window r.offset r.now = .ok window)
    (ha : backend.Answers series (r.rateQueries true)) (metrics : Metrics) :
    ∃ rates, (∀ x, rates.get x = clusterPoints r.clusterId r.clusterId (series x)) ∧
      (reportAverage backend metrics r).outcome =
        if clusterPoints r.clusterId r.clusterId (series .total) = [] then
          .error (.insufficient (.noTotal r.clusterId))
        else .ok rates := by
  have hof (x : Resource) :
      (ask backend metrics (r.rateQueries true)).answers.of x.query = series x := by
    refine ha.of_query (r.names_rateQueries_nodup true) metrics ?_
    rw [r.names_rateQueries]
    exact List.mem_map_of_mem (by cases x <;> decide)
  refine ⟨ratesOf (ask backend metrics (r.rateQueries true)).answers r.clusterId, ?_, ?_⟩
  · intro x
    rw [get_ratesOf, hof]
  · rw [reportAverage_of_window hw]
    refine (outcome_of_not_anyFails _ _ _ _ _ ha.not_anyFails).trans ?_
    rw [ratesWithTotal_cases]
    rw [hof]
    split_ifs <;> rfl

end

/-- On the same answers, an average is found wanting just if no series of the total that belongs to
the default cluster has a sample. If it is not, its costs of each kind are those in the entry of the
default cluster in the rates of all clusters, none where there is no such entry. Both ask for them
by the same queries. -/
theorem average_agrees_with_clusterRates {r : ReportRequest} {now' : Moment}
    {window window' : Window}
    (hw : Window.resolve r.window r.offset r.now = .ok window)
    (hw' : Window.resolve r.window r.offset now' = .ok window')
    {backend backend' : Backend} {series : Resource → List (Series Float)}
    (ha : backend.Answers series (r.rateQueries true))
    (ha' : backend'.Answers series (r.rateQueries false)) (metrics metrics' : Metrics) :
    let average := reportAverage backend metrics r
    let clusters := reportClusterRates backend' metrics' { r with now := now' }
    ((∃ e, average.outcome = .error (.insufficient e)) ↔
      ∀ s ∈ series .total, s.clusterId r.clusterId = r.clusterId → s.leading? = none) ∧
    ((∃ s ∈ series .total, s.clusterId r.clusterId = r.clusterId ∧ s.leading? ≠ none) →
      ∃ rates table, average.outcome = .ok rates ∧ clusters.outcome = .ok table ∧
        ∀ x ∈ Resource.parts, rates.get x = entryPoints table r.clusterId x) ∧
    clusters.queries =
      average.queries.filter (fun q => q.1 ≠ (Resource.total.query : Text)) ∧
    clusters.queries.map Prod.fst = Resource.parts.map fun x => (x.query : Text) := by
  intro average clusters
  obtain ⟨rates, hrates, ho⟩ := outcome_reportAverage hw ha metrics
  obtain ⟨table, ht, htable⟩ :=
    outcome_reportClusterRates (r := { r with now := now' }) hw' ha' metrics'
  have hq : average.queries = r.rateQueries true := by
    simp only [average, reportAverage_of_window hw]
    rfl
  have hq' : clusters.queries = r.rateQueries false := by
    simp only [clusters, @reportClusterRates_of_window { r with now := now' } _ hw']
    rfl
  rw [hq, hq', r.names_rateQueries]
  refine ⟨?total, ?agree, r.rateQueries_without_total, rfl⟩
  case total =>
    rw [ho, clusterPoints_eq_nil_iff.symm]
    split_ifs with h <;> simp [h]
  case agree =>
    rintro ⟨s, hs, hc, hl⟩
    have hne : clusterPoints r.clusterId r.clusterId (series .total) ≠ [] :=
      fun h => hl (clusterPoints_eq_nil_iff.mp h s hs hc)
    refine ⟨rates, table, by rw [ho, if_neg hne], ht, fun x hx => ?_⟩
    rw [hrates, htable x hx]

/-- A series of another cluster, one without a label and one without a sample: the average is there,
and it is the entry of the default cluster. -/
theorem average_agrees_with_clusterRates_unlabelled :
    let label (id : Text) : Text × Json := ("metric", .object [("cluster_id", .string id)])
    let value (x : Text) : Text × Json := ("value", .array [.integer 0, .string x])
    let body : Json := .object [("status", .string "success"),
      ("data", .object [("resultType", .string "vector"), ("result", .array [
        .object [label "east", value "2.5"], .object [value "7"], .object [label "main"]])])]
    let backend : Backend := fun _ => { body := .ok body }
    let r : ReportRequest := ⟨"1h", "", "main", "", .epoch⟩
    ∃ rates table, (reportAverage backend ∅ r).outcome = .ok rates ∧
      (reportClusterRates backend ∅ r).outcome = .ok table ∧
        ∀ x ∈ Resource.parts, rates.get x = entryPoints table "main" x := by
  intro label value body backend r
  have hr : (Window.resolve r.window r.offset r.now).isOk = true := by decide +kernel
  have hb : ∃ series, Prometheus.readAnswer body = .ok series ∧
      ∃ s ∈ series, s.clusterId "main" = "main" ∧ s.leading? ≠ none := by
    have hany : ((Prometheus.readAnswer body).toOption.map fun series => series.any fun s =>
        s.clusterId "main" = "main" && s.leading?.isSome) = some true := by decide +kernel
    cases hs : Prometheus.readAnswer body with
    | error e => simp [hs, Except.toOption] at hany
    | ok series =>
      simpa [hs, Except.toOption, Option.isSome_iff_ne_none] using hany
  obtain ⟨series, hs, htotal⟩ := hb
  have ha (withTotal : Bool) : backend.Answers (fun _ => series) (r.rateQueries withTotal) := by
    intro q hq
    obtain ⟨x, hx⟩ := r.exists_resource hq
    exact ⟨x, hx, by rw [Backend.outcome, readBody, hs]⟩
  cases hw : Window.resolve r.window r.offset r.now with
  | error e => rw [hw] at hr; cases hr
  | ok window =>
    exact (average_agrees_with_clusterRates hw hw (ha true) (ha false) ∅ ∅).2.1 htotal

end ClusterBilling
