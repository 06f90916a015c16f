import ClusterBilling.Proofs.Report.Agreement

/-!
What the rates of all clusters consist of: every series that has a sample is there once, under its
own cluster and its own resource. If a query fails there is no such report.
-/
namespace ClusterBilling
open Time

/-- The clusters that have a sample, in the order in which they first come, resource by resource;
under each of them the leading points of its own series, and no total. -/
structure RatesComposed {α : Type} (fallback : Text) (series : Resource → List (Series α))
    (table : Table (Rates α)) : Prop where
  nodup : table.keys.Nodup
  keys : table.keys = ((Resource.parts.flatMap fun x =>
    leadingEntries fallback (series x)).map Prod.fst).eraseDups
  points : ∀ clusterId rates, table.get? clusterId = some rates → ∀ x ∈ Resource.parts,
    rates.get x = clusterPoints fallback clusterId (series x)
  total : ∀ clusterId rates, table.get? clusterId = some rates → rates.total = []
  /-- Nothing is lost, and nothing comes twice. -/
  once : ∀ x ∈ Resource.parts,
    (table.entries.flatMap fun e => (e.2.get x).map (e.1, ·)).Perm
      (leadingEntries fallback (series x))

section
variable {α : Type} {answers : Answers α} {fallback : Text}

/-- The rates of a cluster that has a sample are those of its own series. -/
theorem RatesComposed.get?_eq {series : Resource → List (Series α)} {table : Table (Rates α)}
    (h : RatesComposed fallback series table) {clusterId : Text} (hc : clusterId ∈ table.keys) :
    let points x := clusterPoints fallback clusterId (series x)
    table.get? clusterId = some ⟨[], points .cpu, points .memory, points .storage⟩ := by
  obtain ⟨rates, hr⟩ := Option.isSome_iff_exists.mp ((Table.isSome_get?_iff ..).mpr hc)
  have hp (x : Resource) (hx : x ∈ Resource.parts) := h.points clusterId rates hr x hx
  have ht := h.total clusterId rates hr
  have hcpu := hp .cpu (by decide)
  have hmemory := hp .memory (by decide)
  have hstorage := hp .storage (by decide)
  cases rates
  cases ht
  cases hcpu
  cases hmemory
  cases hstorage
  exact hr

theorem get_of_ratesByCluster {clusterId : Text} {rates : Rates α}
    (h : (ratesByCluster answers fallback).get? clusterId = some rates) (x : Resource) :
    rates.get x = entryPoints (ratesByCluster answers fallback) clusterId x := by
  rw [entryPoints, h]
  rfl

theorem perm_ratesByCluster {x : Resource} (hx : x ∈ Resource.parts) :
    ((ratesByCluster answers fallback).entries.flatMap fun e => (e.2.get x).map (e.1, ·)).Perm
      (leadingEntries fallback (answers.of x.query)) := by
  let table := ratesByCluster answers fallback
  have hentries : (table.entries.flatMap fun e => (e.2.get x).map (e.1, ·)) =
      table.keys.flatMap fun k =>
        (leadingEntries fallback (answers.of x.query)).filter (·.1 = k) := by
    rw [Table.keys, List.flatMap_map]
    refine List.flatMap_congr fun e he => ?_
    rw [filter_leadingEntries, get_of_ratesByCluster (Table.get?_of_mem he),
      entryPoints_ratesByCluster answers fallback e.1 hx]
  rw [hentries]
  refine Table.flatMap_filter_perm Prod.fst table.nodup fun e he => ?_
  change e.1 ∈ (ratesByCluster answers fallback).keys
  rw [keys_ratesByCluster, List.mem_eraseDups]
  exact List.mem_map_of_mem (List.mem_flatMap.mpr ⟨x, hx, he⟩)

theorem ratesByCluster_composed (answers : Answers α) (fallback : Text) :
    RatesComposed fallback (fun x => answers.of x.query) (ratesByCluster answers fallback) where
  nodup := Table.nodup _
  keys := keys_ratesByCluster answers fallback
  points clusterId rates h x hx := by
    rw [get_of_ratesByCluster h, entryPoints_ratesByCluster answers fallback clusterId hx]
  total _ _ h := (get_of_ratesByCluster h .total).trans (entryPoints_ratesByCluster_total ..)
  once x hx := perm_ratesByCluster hx

end

section
variable {r : ReportRequest} {window : Window}

/-- If a query of the rates fails, they end with one fault for each that did, in the order in which
they ended. If none does, the rates are there and hold every sampled series once. -/
theorem clusterRates_complete (hw : Window.resolve r.window r.offset r.now = .ok window)
    (backend : Backend) (metrics : Metrics) :
    (AnyFails backend (r.rateQueries false) →
      ∃ faults, (reportClusterRates backend metrics r).outcome = .error (.batch faults) ∧
        TellsFailures backend (r.rateQueries false) faults) ∧
    (¬ AnyFails backend (r.rateQueries false) →
      ∃ series table, backend.Answers series (r.rateQueries false) ∧
        (reportClusterRates backend metrics r).outcome = .ok table ∧
        RatesComposed r.clusterId series table) := by
  have hn := r.names_rateQueries_nodup false
  rw [reportClusterRates_of_window hw]
  refine ⟨fun h => outcome_of_anyFails _ _ _ _ _ hn h, fun h => ?_⟩
  refine ⟨_, _, backend.answers_ask hn (fun q hq => r.exists_resource hq)
    (fun q hq => exists_ok_of_not_anyFails h hq) metrics, ?_, ratesByCluster_composed _ _⟩
  exact outcome_of_not_anyFails _ _ _ _ _ h

/-- One series with a label, one without and one that has no sample, for each of the resources. -/
theorem clusterRates_complete_unlabelled :
    let label (id : Text) : Text × Json := ("metric", .object [("cluster_id", .string id)])
    let value (x : Text) : Text × Json := ("value", .array [.integer 0, .string x])
    let body : Json := .object [("status", .string "success"),
      ("data", .object [("resultType", .string "vector"), ("result", .array [
        .object [label "east", value "2.5"], .object [value "7"], .object [label "west"]])])]
    let r : ReportRequest := ⟨"1h", "", "main", "", .epoch⟩
    ∃ table, (reportClusterRates (fun _ => { body := .ok body }) ∅ r).outcome = .ok table ∧
      table.keys = [.ofString "east", .ofString "main"] ∧
      table.get? "east" = some ⟨[], [(0, 2.5)], [(0, 2.5)], [(0, 2.5)]⟩ ∧
      table.get? "main" = some ⟨[], [(0, 7)], [(0, 7)], [(0, 7)]⟩ := by
  intro label value body r
  let backend : Backend := fun _ => { body := .ok body }
  let answer : List (Series Float) := [⟨.ofList [("cluster_id", "east")], [⟨0, 2.5⟩]⟩,
    ⟨∅, [⟨0, 7⟩]⟩, ⟨.ofList [("cluster_id", "west")], []⟩]
  have hs : Prometheus.readAnswer body = .ok answer := by rfl
  have ho (q : NamedQuery) : backend.outcome q.2 = .ok answer := by
    rw [Backend.outcome, readBody, hs]
  obtain ⟨window, hw⟩ : ∃ window, Window.resolve r.window r.offset r.now = .ok window :=
    exists_eq_ok (by decide +kernel)
  have hf : ¬ AnyFails backend (r.rateQueries false) := by
    rintro ⟨q, -, f, hf⟩
    rw [ho q] at hf
    cases hf
  obtain ⟨series, table, ha, ht, hc⟩ := (clusterRates_complete hw backend ∅).2 hf
  have hseries (x : Resource) (hx : x ∈ Resource.parts) : series x = answer := by
    have hq : (x.query : Text) ∈ (r.rateQueries false).map Prod.fst := by
      rw [r.names_rateQueries]
      exact List.mem_map_of_mem hx
    obtain ⟨q, -, -, hx⟩ := ha.exists_query hq
    exact Except.ok.inj (hx.symm.trans (ho q))
  have hk : table.keys = [.ofString "east", .ofString "main"] := by
    rw [hc.keys, List.flatMap_congr fun x hx => by rw [hseries x hx]]
    decide +kernel
  have hget (id : Text) (hid : id ∈ table.keys) :
      let points := clusterPoints "main" id answer
      table.get? id = some ⟨[], points, points, points⟩ := by
    rw [hc.get?_eq hid]
    simp only [hseries _ (show .cpu ∈ Resource.parts by decide),
      hseries _ (show .memory ∈ Resource.parts by decide),
      hseries _ (show .storage ∈ Resource.parts by decide)]
    rfl
  refine ⟨table, ht, hk, ?_, ?_⟩
  · rw [hget _ (by rw [hk]; decide)]
    decide +kernel
  · rw [hget _ (by rw [hk]; decide)]
    decide +kernel

end
end ClusterBilling
