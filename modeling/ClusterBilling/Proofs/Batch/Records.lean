import ClusterBilling.Proofs.Report.Failures

/-!
What the metrics of a batch say about it: one duration of each query, one error of each query that
failed, and nothing of any other query.
-/
namespace ClusterBilling
open Progress

namespace Metrics

/-- The samples of one name. -/
def samplesNamed (m : Metrics) (name : Text) : List MetricSample :=
  m.samples.filter fun s => s.name = name

def durationCountName : Text := durationName ++ "_count"

/-- How many durations of a query there are. -/
def durationCount (query : Text) (n : ℕ) : MetricSample :=
  ⟨durationCountName, [("query", query)], .ofNat n⟩

/-- How many errors of one kind a query has had. -/
def failureCount (query kind : Text) (n : ℕ) : MetricSample :=
  ⟨failureName, [("kind", kind), ("query", query)], .ofNat n⟩

/-- The samples record a batch of these queries, of which some failed. -/
structure Records (m : Metrics) (asked : List Text) (failed : List (Text × Fault)) : Prop where
  durations : (m.samplesNamed durationCountName).Perm
    (asked.map fun query => durationCount query 1)
  /-- Errors stand in the order in which the queries ended. -/
  failures : List.Forall₂
    (fun failure s => ∃ kind, CountedAs failure.2 kind ∧ s = failureCount failure.1 kind 1)
    failed (m.samplesNamed failureName)
  only : ∀ s ∈ m.samples, ∃ query ∈ asked, (.ofString "query", query) ∈ s.labels

theorem Records.samples_eq_nil {m : Metrics} {failed : List (Text × Fault)}
    (h : m.Records [] failed) : m.samples = [] := by
  refine List.eq_nil_iff_forall_not_mem.mpr fun s hs => ?_
  obtain ⟨_, hq, -⟩ := h.only s hs
  cases hq

section names

theorem bucketName_ne : (durationName ++ "_bucket" : Text) ≠ durationCountName := by
  decide +kernel

theorem sumName_ne : (durationName ++ "_sum" : Text) ≠ durationCountName := by
  decide +kernel

theorem failureName_ne : (failureName : Text) ≠ durationCountName := by
  decide +kernel

/-- The names of durations are not that of errors. -/
theorem name_histogramSamples {query : Text} {h : Histogram} {s : MetricSample}
    (hs : s ∈ histogramSamples query h) : s.name ≠ failureName := by
  unfold histogramSamples at hs
  simp only [List.mem_append, List.mem_map, List.mem_cons, List.not_mem_nil, or_false] at hs
  obtain ⟨_, -, rfl⟩ | rfl | rfl := hs
  · exact (by decide +kernel : (durationName ++ "_bucket" : Text) ≠ failureName)
  · exact (by decide +kernel : (durationName ++ "_count" : Text) ≠ failureName)
  · exact (by decide +kernel : (durationName ++ "_sum" : Text) ≠ failureName)

theorem name_failureSamples {m : Metrics} {s : MetricSample} (hs : s ∈ m.failureSamples) :
    s.name = failureName := by
  obtain ⟨_, -, rfl⟩ := List.mem_map.mp hs
  rfl

end names

/-- One sample of a histogram counts all of its durations. -/
theorem filter_histogramSamples (query : Text) (h : Histogram) :
    (histogramSamples query h).filter (fun s => s.name = durationCountName) =
      [durationCount query h.count] := by
  have hcount : (durationName ++ "_count" : Text) = durationCountName := rfl
  unfold histogramSamples
  rw [List.filter_append, List.filter_eq_nil_iff.mpr, List.nil_append]
  · simp [hcount, sumName_ne, durationCount]
  · intro s hs
    obtain ⟨_, -, rfl⟩ := List.mem_map.mp hs
    simpa using bucketName_ne

theorem samplesNamed_count (m : Metrics) :
    m.samplesNamed durationCountName =
      m.durations.entries.map fun e => durationCount e.1 e.2.count := by
  have hnone : m.failureSamples.filter (fun s => s.name = durationCountName) = [] := by
    rw [List.filter_eq_nil_iff]
    intro s hs
    rw [name_failureSamples hs]
    simpa using failureName_ne
  unfold samplesNamed samples durationSamples
  rw [List.filter_append, hnone, List.append_nil, List.filter_flatMap, List.map_eq_flatMap]
  exact List.flatMap_congr fun e _ => filter_histogramSamples e.1 e.2

theorem samplesNamed_failures (m : Metrics) : m.samplesNamed failureName = m.failureSamples := by
  have hnone : m.durationSamples.filter (fun s => s.name = .ofString failureName) = [] := by
    rw [List.filter_eq_nil_iff]
    intro s hs
    obtain ⟨e, -, hs⟩ := List.mem_flatMap.mp hs
    simpa using name_histogramSamples hs
  have hall :
      m.failureSamples.filter (fun s => s.name = .ofString failureName) = m.failureSamples :=
    List.filter_eq_self.mpr fun s hs => decide_eq_true (name_failureSamples hs)
  unfold samplesNamed samples
  rw [List.filter_append, hnone, hall, List.nil_append]

theorem labels_histogramSamples {query : Text} {h : Histogram} {s : MetricSample}
    (hs : s ∈ histogramSamples query h) : (.ofString "query", query) ∈ s.labels := by
  unfold histogramSamples at hs
  simp only [List.mem_append, List.mem_map, List.mem_cons, List.not_mem_nil, or_false] at hs
  obtain ⟨_, -, rfl⟩ | rfl | rfl := hs <;> simp

section
variable {m : Metrics} {asked : List Text} {failed : List (Text × Fault)}

/-- Metrics record a batch if one duration of each query and the failures have been counted. -/
theorem records_of_counted (hn : asked.Nodup)
    (hd : ∀ name, (m.durations.get? name).map Histogram.count =
      if name ∈ asked then some 1 else none)
    (hf : List.Forall₂ CountedOnce failed m.failures) (hs : ∀ x ∈ failed, x.1 ∈ asked) :
    m.Records asked failed where
  durations := by
    have hkeys : m.durations.keys.Perm asked := by
      refine (List.perm_ext_iff_of_nodup m.durations.nodup hn).mpr fun name => ?_
      change name ∈ m.durations.keys ↔ _
      rw [← Table.isSome_get?_iff, ← Option.isSome_map (f := Histogram.count), hd]
      split_ifs with h <;> simp [h]
    have hcounts : ∀ e ∈ m.durations.entries, e.2.count = 1 := by
      intro e he
      have hc := hd e.1
      rw [Table.get?_of_mem he, Option.map_some] at hc
      split_ifs at hc
      exact Option.some.inj hc
    have hentries : (m.durations.entries.map fun e => durationCount e.1 e.2.count) =
        m.durations.keys.map fun query => durationCount query 1 := by
      rw [Table.keys, List.map_map]
      exact List.map_congr_left fun e he => congrArg (durationCount e.1) (hcounts e he)
    rw [samplesNamed_count, hentries]
    exact hkeys.map _
  failures := by
    rw [samplesNamed_failures, failureSamples, List.forall₂_map_right_iff]
    refine hf.imp ?_
    intro failure counter h
    refine ⟨counter.1.kind, h.kind, ?_⟩
    obtain ⟨⟨query, kind⟩, n⟩ := counter
    obtain rfl : query = failure.1 := h.query
    obtain rfl : n = 1 := h.once
    rfl
  only := by
    intro s hs'
    rcases List.mem_append.mp hs' with h | h
    · obtain ⟨e, he, hse⟩ := List.mem_flatMap.mp h
      refine ⟨e.1, ?_, labels_histogramSamples hse⟩
      have hc := hd e.1
      rw [Table.get?_of_mem he, Option.map_some] at hc
      split_ifs at hc with hmem
      exact hmem
    · obtain ⟨counter, hc, rfl⟩ := List.mem_map.mp h
      refine ⟨counter.1.query, ?_, by simp⟩
      have hq : counter.1.query ∈ failed.map Prod.fst := by
        rw [← CountedOnce.queries hf]
        exact List.mem_map_of_mem hc
      obtain ⟨x, hx, he⟩ := List.mem_map.mp hq
      exact he ▸ hs x hx

end
end Metrics

section
variable (c : Prometheus.Client) {network : Prometheus.Network}

theorem elapsed_settle (hclock : ∀ r, (network r).elapsed.isNaN = false) (q : NamedQuery) :
    (settle (c.backend network) q).1.elapsed.isNaN = false := by
  change (c.backend network q.2).elapsed.isNaN = false
  unfold Prometheus.Client.backend
  split
  · exact (by decide : (0 : Float).isNaN = false)
  · exact hclock _

/-- The metrics of a batch that is put to a network, under a clock that works, record this batch. -/
theorem records_ask (hclock : ∀ r, (network r).elapsed.isNaN = false) {queries : List NamedQuery}
    (hn : (queries.map Prod.fst).Nodup) :
    (ask (c.backend network) ∅ queries).metrics.Records (queries.map Prod.fst)
      (endedFailures (c.backend network) queries) := by
  let rounds := queries.map (settle (c.backend network))
  let tasks := rounds.map Prod.fst
  obtain ⟨order, ho, he⟩ := exists_order (Batch.byRound_perm rounds)
  obtain ⟨p, hp, hr⟩ := @run_ended ∅ tasks order ho
  have hnames : ((ended tasks order).map Settled.name).Perm (queries.map Prod.fst) := by
    have hperm := (Batch.byRound_perm rounds).map Settled.name
    simpa only [← he, rounds, tasks, List.map_map, Function.comp_def, name_settle] using hperm
  have htask : ∀ s ∈ tasks, ∃ q ∈ queries, (settle (c.backend network) q).1 = s := by
    simp [tasks, rounds]
  have hstart : Accounts (ended tasks []) (start ∅ tasks) := start_accounts tasks
  have ha : Accounts (ended tasks order) p := by
    refine hstart.run (hnames.nodup_iff.mpr hn) ?_ ?_ hp
    · intro s hs
      obtain ⟨q, -, rfl⟩ := htask s hs
      exact elapsed_settle c hclock q
    · intro s hs
      obtain ⟨q, -, rfl⟩ := htask s hs
      exact c.settle_origins network q
  have hmetrics : (ask (c.backend network) ∅ queries).metrics = p.metrics := by
    rw [hr.metrics, he, ask_eq]
    rfl
  have hfailures : endedFailures (c.backend network) queries = failures (ended tasks order) := by
    rw [he]
    rfl
  rw [hmetrics, hfailures]
  refine Metrics.records_of_counted hn ?_ ha.counters ?_
  · intro name
    simp only [ha.durations, hnames.mem_iff]
  · intro x hx
    exact hnames.subset ((failures_names_sublist _).subset (List.mem_map_of_mem hx))

end
end ClusterBilling
