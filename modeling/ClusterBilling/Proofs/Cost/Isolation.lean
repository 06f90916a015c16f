import ClusterBilling.Proofs.Cost.Hours

/-!
The bill of a cluster depends on the series of that cluster alone, and on the minutes that were
observed, which all clusters share.
-/
namespace ClusterBilling
variable {α : Type}

namespace Series

/-- The same text under every label, in whatever order the labels stand, and the same samples. -/
structure Alike (s t : Series α) : Prop where
  label : ∀ name, s.labels.get? name = t.labels.get? name
  samples : s.samples = t.samples

theorem Alike.refl (s : Series α) : s.Alike s := ⟨fun _ => rfl, rfl⟩

theorem Alike.label_eq {s t : Series α} (h : s.Alike t) (name default : Text) :
    s.label name default = t.label name default := by
  rw [Series.label, Series.label, h.label]

theorem Alike.leading {s t : Series α} (h : s.Alike t) : s.leading? = t.leading? := by
  rw [leading?, leading?, h.samples]

end Series

/-- The series that belong to a cluster, in their order. -/
def attributed (fallback clusterId : Text) (series : List (Series α)) : List (Series α) :=
  series.filter (·.clusterId fallback = clusterId)

/-- The queries whose series are billed to the clusters that they belong to. -/
def attributedQueries : List Text :=
  ["total_gpu", "total_cpu", "total_ram", "total_storage", "cpu_mode_pct", "ram_system_pct"]

/-- Two batches that hold the same for one cluster, whatever they hold for others. -/
structure AgreeOn (fallback clusterId : Text) (a b : Answers α) : Prop where
  minutes : (a.of "data_count").head?.bind Series.leading? =
    (b.of "data_count").head?.bind Series.leading?
  series : ∀ q ∈ attributedQueries,
    List.Forall₂ Series.Alike (attributed fallback clusterId (a.of q))
      (attributed fallback clusterId (b.of q))

theorem AgreeOn.of_eq {fallback clusterId : Text} {a b : Answers α}
    (minutes : a.of "data_count" = b.of "data_count")
    (series : ∀ q ∈ attributedQueries,
      attributed fallback clusterId (a.of q) = attributed fallback clusterId (b.of q)) :
    AgreeOn fallback clusterId a b where
  minutes := by rw [minutes]
  series q hq := by
    rw [series q hq]
    exact List.forall₂_same.mpr fun s _ => .refl s

theorem foldl_alike {β : Type} {f : β → Series α → β}
    (hf : ∀ b s t, Series.Alike s t → f b s = f b t) {l l' : List (Series α)}
    (h : List.Forall₂ Series.Alike l l') (b : β) : l.foldl f b = l'.foldl f b := by
  induction h generalizing b with
  | nil => rfl
  | cons hst _ ih => rw [List.foldl_cons, List.foldl_cons, hf _ _ _ hst, ih]

theorem Category.query_mem (c : Category) : (c.query : Text) ∈ attributedQueries := by
  cases c <;> decide

variable [Arithmetic α]

theorem Tally.addSeries_alike (t : Tally α) (c : Category) (multiplier : α) {s s' : Series α}
    (h : s.Alike s') : t.addSeries c multiplier s = t.addSeries c multiplier s' := by
  rw [addSeries, addSeries, h.leading]

theorem Breakdown.addSeries_alike (b : Breakdown α) (mode : Mode) {s s' : Series α}
    (h : s.Alike s') : b.addSeries mode s = b.addSeries mode s' := by
  rw [addSeries, addSeries, h.leading]

section
variable {fallback clusterId : Text} {a b : Answers α} {discounts : Discounts α}

/-- One category changes the tally of a cluster by the series of this cluster alone. -/
theorem get?_addCategory (answers : Answers α) (t : Table (Tally α)) (c : Category) :
    (addCategory answers fallback discounts t c).get? clusterId =
      (attributed fallback clusterId (answers.of c.query)).foldl
        (fun t? s => some ((t?.getD {}).addSeries c (discounts.multiplier c) s))
        (t.get? clusterId) :=
  Table.get?_foldl_alter (Series.clusterId · fallback) _ _ t clusterId

theorem AgreeOn.get?_addCategory (h : AgreeOn fallback clusterId a b) {t t' : Table (Tally α)}
    (ht : t.get? clusterId = t'.get? clusterId) (c : Category) :
    (addCategory a fallback discounts t c).get? clusterId =
      (addCategory b fallback discounts t' c).get? clusterId := by
  rw [ClusterBilling.get?_addCategory, ClusterBilling.get?_addCategory, ht]
  apply foldl_alike _ (h.series _ c.query_mem)
  intro t? s s' hs
  rw [Tally.addSeries_alike _ _ _ hs]

theorem AgreeOn.get?_tallies (h : AgreeOn fallback clusterId a b) :
    (tallies a fallback discounts).get? clusterId =
      (tallies b fallback discounts).get? clusterId := by
  have hcs (cs : List Category) (t t' : Table (Tally α))
      (ht : t.get? clusterId = t'.get? clusterId) :
      (cs.foldl (addCategory a fallback discounts) t).get? clusterId =
        (cs.foldl (addCategory b fallback discounts) t').get? clusterId := by
    induction cs generalizing t t' with
    | nil => exact ht
    | cons c cs ih => exact ih _ _ (h.get?_addCategory ht c)
  exact hcs Category.all ∅ ∅ rfl

/-- The shares of a cluster come from the series of this cluster alone. -/
theorem get?_byCluster (mode : Series α → Mode) (series : List (Series α)) :
    (Breakdown.byCluster mode series fallback).get? clusterId =
      (attributed fallback clusterId series).foldl
        (fun b? s => some ((b?.getD .zero).addSeries (mode s) s)) none :=
  Table.get?_foldl_alter (Series.clusterId · fallback) _ _ ∅ clusterId

theorem AgreeOn.get?_byCluster (h : AgreeOn fallback clusterId a b) {mode : Series α → Mode}
    (hm : ∀ s t, Series.Alike s t → mode s = mode t) {q : Text} (hq : q ∈ attributedQueries) :
    (Breakdown.byCluster mode (a.of q) fallback).get? clusterId =
      (Breakdown.byCluster mode (b.of q) fallback).get? clusterId := by
  rw [ClusterBilling.get?_byCluster, ClusterBilling.get?_byCluster]
  apply foldl_alike _ (h.series _ hq)
  intro b? s s' hs
  rw [hm s s' hs, Breakdown.addSeries_alike _ _ hs]

theorem observedMinutes?_eq (dataCount : List (Series α)) : observedMinutes? dataCount =
    (dataCount.head?.bind Series.leading?).bind fun sample =>
      if Arithmetic.isPositive sample.value then some sample.value else none := by
  cases dataCount with
  | nil => rfl
  | cons s _ =>
    rw [observedMinutes?, List.head?_cons, Option.bind_some]
    cases s.leading? <;> rfl

variable {start finish : Time.Moment}

theorem AgreeOn.dataMinutes?_eq (h : AgreeOn fallback clusterId a b) :
    dataMinutes? (a.of "data_count") start finish =
      dataMinutes? (b.of "data_count") start finish := by
  rw [dataMinutes?, dataMinutes?, observedMinutes?_eq, observedMinutes?_eq, h.minutes]

theorem AgreeOn.billCluster_eq (h : AgreeOn fallback clusterId a b) (hours : α) (tally : Tally α) :
    billCluster a start finish fallback hours clusterId tally =
      billCluster b start finish fallback hours clusterId tally := by
  unfold billCluster cpuBreakdowns ramBreakdowns
  rw [h.get?_byCluster (fun s t hst => by rw [hst.label_eq]) (by decide),
    h.get?_byCluster (fun _ _ _ => rfl) (by decide)]

/-- Batches bill a cluster alike if it has the same minutes, the same costs and the same shares in
both. -/
theorem get?_bills_congr {ta tb : Table (Bill α)}
    (hm : dataMinutes? (a.of "data_count") start finish =
      dataMinutes? (b.of "data_count") start finish)
    (ht : (tallies a fallback discounts).get? clusterId =
      (tallies b fallback discounts).get? clusterId)
    (hc : ∀ hours tally, billCluster a start finish fallback hours clusterId tally =
      billCluster b start finish fallback hours clusterId tally)
    (ha : bills a start finish fallback discounts = .ok ta)
    (hb : bills b start finish fallback discounts = .ok tb) :
    ta.get? clusterId = tb.get? clusterId := by
  cases hmb : dataMinutes? (b.of "data_count") start finish with
  | none =>
    rw [bills, hmb] at hb
    cases hb
  | some minutes =>
    rw [bills_eq_mapM (hm.trans hmb)] at ha
    rw [bills_eq_mapM hmb] at hb
    rw [Table.get?_of_mapM ha, Table.get?_of_mapM hb, ht]
    simp only [hc]

theorem AgreeOn.get?_bills (h : AgreeOn fallback clusterId a b) {ta tb : Table (Bill α)}
    (ha : bills a start finish fallback discounts = .ok ta)
    (hb : bills b start finish fallback discounts = .ok tb) :
    ta.get? clusterId = tb.get? clusterId :=
  get?_bills_congr h.dataMinutes?_eq h.get?_tallies h.billCluster_eq ha hb

end

section
variable {start finish : Time.Moment}

/-- Batches that agree on one cluster bill it alike, or both leave it out. -/
theorem bills_isolated (h : start.Before finish) {fallback clusterId : Text}
    (discounts : Discounts Float) {a b : Answers Float} (hab : AgreeOn fallback clusterId a b) :
    ∃ ta tb, bills a start finish fallback discounts = .ok ta ∧
      bills b start finish fallback discounts = .ok tb ∧
      ta.get? clusterId = tb.get? clusterId := by
  obtain ⟨ta, ha⟩ := bills_ok h a fallback discounts
  obtain ⟨tb, hb⟩ := bills_ok h b fallback discounts
  exact ⟨ta, tb, ha, hb, hab.get?_bills ha hb⟩

/-- A cluster without a label, beside a cluster whose series differ and stand elsewhere. -/
theorem bills_isolated_fallback :
    ∃ ta tb : Table (Bill Float),
      bills (.ofList [("total_cpu", [⟨∅, [⟨0, 2.5⟩]⟩,
          ⟨.ofList [("cluster_id", "east")], [⟨0, 4⟩]⟩])])
        .epoch ⟨719163 * Time.day, some 0, by decide⟩ "west" ⟨0.25, 0.5⟩ = .ok ta ∧
      bills (.ofList [("total_cpu", [⟨.ofList [("cluster_id", "east")], []⟩, ⟨∅, [⟨0, 2.5⟩]⟩]),
          ("ram_other_pct", [⟨∅, [⟨0, 1⟩]⟩])])
        .epoch ⟨719163 * Time.day, some 0, by decide⟩ "west" ⟨0.25, 0.5⟩ = .ok tb ∧
      ta.get? "west" = tb.get? "west" := by
  apply bills_isolated ⟨86400000000, by decide, by decide⟩
  apply AgreeOn.of_eq
  · rfl
  · intro q hq
    fin_cases hq <;> rfl

end
end ClusterBilling
