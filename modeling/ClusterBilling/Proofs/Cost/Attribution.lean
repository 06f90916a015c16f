import ClusterBilling.Proofs.Cost.Composition
import ClusterBilling.Proofs.Cost.Rates

/-!
Series that name no cluster count as if they named the default one. Costs, shares and points find
the cluster of a series in the same way, so that it has one entry in each of them.
-/
namespace ClusterBilling
variable {α : Type}

namespace Series

/-- The series with the default cluster on its label, if it names none. -/
def withCluster (fallback : Text) (s : Series α) : Series α :=
  if (s.label "cluster_id" "").isEmpty then
    { s with labels := s.labels.insert "cluster_id" fallback }
  else s

/-- The label of the cluster is missing, empty or that of the default one. -/
def IsDefault (fallback : Text) (s : Series α) : Prop :=
  ∀ id, s.labels.get? "cluster_id" = some id → id = "" ∨ id = fallback

variable (fallback : Text) (s : Series α)

theorem leading_withCluster : (s.withCluster fallback).leading? = s.leading? := by
  unfold withCluster leading?
  split_ifs <;> rfl

theorem label_withCluster {name : Text} (h : name ≠ "cluster_id") (default : Text) :
    (s.withCluster fallback).label name default = s.label name default := by
  unfold withCluster
  split_ifs
  · rw [label, Table.get?_insert, if_neg h]
    rfl
  · rfl

/-- An empty default stays a missing label, and is the cluster all the same. -/
theorem clusterId_withCluster :
    (s.withCluster fallback).clusterId fallback = s.clusterId fallback := by
  unfold withCluster
  split_ifs with h
  · have hlabel : Series.label { s with labels := s.labels.insert "cluster_id" fallback }
        "cluster_id" "" = fallback := by
      rw [label, Table.get?_insert, if_pos rfl, Option.getD_some]
    simp only [clusterId, hlabel, h, if_true, ite_self]
  · rfl

theorem clusterId_eq_fallback_iff : s.clusterId fallback = fallback ↔ s.IsDefault fallback := by
  have hempty (id : Text) : id.isEmpty = true ↔ id = "" := by
    obtain ⟨points⟩ := id
    simp [Text.isEmpty, Text.ofString, Text.ofChars]
  unfold clusterId label IsDefault
  cases s.labels.get? "cluster_id" with
  | none =>
    refine iff_of_true rfl fun id h => ?_
    cases h
  | some id => by_cases h : id = "" <;> simp [hempty, h]

instance : Decidable (s.IsDefault fallback) :=
  decidable_of_iff _ (clusterId_eq_fallback_iff fallback s)

end Series

namespace Answers

/-- The batch with the default cluster on every series that names none. -/
def withCluster (fallback : Text) (answers : Answers α) : Answers α :=
  answers.map (·.map (Series.withCluster fallback))

theorem of_withCluster (fallback : Text) (answers : Answers α) (name : Text) :
    (answers.withCluster fallback).of name =
      (answers.of name).map (Series.withCluster fallback) := by
  rw [of, of, withCluster, Table.get?_map]
  cases answers.get? name <;> rfl

end Answers

/-- What comes from items that each change the entry of the cluster of their series: entries in the
order in which the clusters first come, and one for all series of the default cluster. -/
structure MergesDefault {β γ : Type} (fallback : Text) (items : List β) (series : β → Series α)
    (change : β → Option γ → γ) (table : Table γ) : Prop where
  keys : table.keys = (items.map fun x => (series x).clusterId fallback).eraseDups
  default : table.get? fallback =
    (items.filter fun x => (series x).IsDefault fallback).foldl
      (fun v? x => some (change x v?)) none

theorem mergesDefault_foldl_alter {β γ : Type} (fallback : Text) (items : List β)
    (series : β → Series α) (change : β → Option γ → γ) :
    MergesDefault fallback items series change
      (items.foldl (fun t x => t.alter ((series x).clusterId fallback) (change x)) ∅) where
  keys := Table.keys_foldl_alter (fun x => (series x).clusterId fallback) change items ∅
  default := by
    rw [Table.get?_foldl_alter (fun x => (series x).clusterId fallback)]
    simp only [Series.clusterId_eq_fallback_iff]
    rfl

section
variable (series : List (Series α)) (fallback : Text)

theorem leadingPoints_withCluster :
    leadingPoints (series.map (Series.withCluster fallback)) fallback =
      leadingPoints series fallback := by
  unfold leadingPoints
  rw [List.foldl_map]
  simp only [Series.leading_withCluster, Series.clusterId_withCluster]

/-- Only series with a sample have points, each the leading one. -/
theorem leadingPoints_merges :
    MergesDefault fallback
      (series.filterMap fun s => s.leading?.map fun sample => (s, sample)) Prod.fst
      (fun x ps? => ps?.getD [] ++ [x.2.point]) (leadingPoints series fallback) := by
  have hfold : leadingPoints series fallback =
      (series.filterMap fun s => s.leading?.map fun sample => (s, sample)).foldl
        (fun table x => table.alter (x.1.clusterId fallback) fun ps? =>
          ps?.getD [] ++ [x.2.point]) ∅ := by
    rw [List.foldl_filterMap, leadingPoints]
    congr 1
    funext table s
    cases s.leading? <;> rfl
  rw [hfold]
  exact mergesDefault_foldl_alter fallback _ Prod.fst _

variable [Arithmetic α]

theorem byCluster_withCluster {mode : Series α → Mode}
    (hm : ∀ s, mode (s.withCluster fallback) = mode s) :
    Breakdown.byCluster mode (series.map (Series.withCluster fallback)) fallback =
      Breakdown.byCluster mode series fallback := by
  have hadd (b : Breakdown α) (s : Series α) :
      b.addSeries (mode s) (s.withCluster fallback) = b.addSeries (mode s) s := by
    rw [Breakdown.addSeries, Breakdown.addSeries, Series.leading_withCluster]
  unfold Breakdown.byCluster
  rw [List.foldl_map]
  simp only [Series.clusterId_withCluster, hm, hadd]

theorem cpuBreakdowns_withCluster :
    cpuBreakdowns (series.map (Series.withCluster fallback)) fallback =
      cpuBreakdowns series fallback := by
  apply byCluster_withCluster
  intro s
  rw [Series.label_withCluster fallback s (by decide)]

theorem ramBreakdowns_withCluster :
    ramBreakdowns (series.map (Series.withCluster fallback)) fallback =
      ramBreakdowns series fallback :=
  byCluster_withCluster series fallback fun _ => rfl

end

section
variable [Arithmetic α] (answers : Answers α) (fallback : Text) (discounts : Discounts α)

theorem addCategory_withCluster (table : Table (Tally α)) (c : Category) :
    addCategory (answers.withCluster fallback) fallback discounts table c =
      addCategory answers fallback discounts table c := by
  have hadd (t : Tally α) (s : Series α) (multiplier : α) :
      t.addSeries c multiplier (s.withCluster fallback) = t.addSeries c multiplier s := by
    rw [Tally.addSeries, Tally.addSeries, Series.leading_withCluster]
  unfold addCategory
  rw [Answers.of_withCluster, List.foldl_map]
  simp only [Series.clusterId_withCluster, hadd]

theorem tallies_withCluster :
    tallies (answers.withCluster fallback) fallback discounts =
      tallies answers fallback discounts := by
  have hpass : addCategory (answers.withCluster fallback) fallback discounts =
      addCategory answers fallback discounts := by
    funext table c
    exact addCategory_withCluster answers fallback discounts table c
  rw [tallies, hpass, tallies]

/-- The minutes that were observed have no cluster. -/
theorem observedMinutes_withCluster (name : Text) :
    observedMinutes? ((answers.withCluster fallback).of name) =
      observedMinutes? (answers.of name) := by
  have hhead : ((answers.of name).map (Series.withCluster fallback)).head?.bind Series.leading? =
      (answers.of name).head?.bind Series.leading? := by
    cases answers.of name with
    | nil => rfl
    | cons s _ => exact Series.leading_withCluster fallback s
  rw [Answers.of_withCluster, observedMinutes?_eq, observedMinutes?_eq, hhead]

theorem bills_withCluster (start finish : Time.Moment) :
    bills (answers.withCluster fallback) start finish fallback discounts =
      bills answers start finish fallback discounts := by
  have hminutes : dataMinutes? ((answers.withCluster fallback).of "data_count") start finish =
      dataMinutes? (answers.of "data_count") start finish := by
    rw [dataMinutes?, dataMinutes?, observedMinutes_withCluster]
  have hcluster : billCluster (answers.withCluster fallback) start finish fallback =
      billCluster answers start finish fallback := by
    funext hours clusterId tally
    unfold billCluster
    rw [Answers.of_withCluster, Answers.of_withCluster, cpuBreakdowns_withCluster,
      ramBreakdowns_withCluster]
  unfold bills
  rw [hminutes, hcluster, tallies_withCluster]

/-- A cluster has a bill just if it has a tally, and bills stand in the order of the tallies. -/
theorem keys_bills {start finish : Time.Moment} {table : Table (Bill α)}
    (h : bills answers start finish fallback discounts = .ok table) :
    table.keys = (tallies answers fallback discounts).keys := by
  unfold bills at h
  split at h
  · cases h
  · exact map_fst_of_mapEntries (Table.mapM_eq_ok h)

end

/-- To name the default cluster on the series that name none changes no cost, bill, share or point.
All series of the default cluster, whether they name it or not, make one entry of each. -/
theorem attribution_invariant [Arithmetic α] (answers : Answers α) (fallback : Text) :
    (∀ discounts, tallies (answers.withCluster fallback) fallback discounts =
        tallies answers fallback discounts ∧
      MergesDefault fallback (costSeries answers) Prod.snd
        (fun x t? => (t?.getD {}).addCost discounts x) (tallies answers fallback discounts)) ∧
    (∀ discounts start finish,
      bills (answers.withCluster fallback) start finish fallback discounts =
        bills answers start finish fallback discounts ∧
      ∀ table, bills answers start finish fallback discounts = .ok table →
        table.keys = (tallies answers fallback discounts).keys) ∧
    (∀ query, cpuBreakdowns ((answers.withCluster fallback).of query) fallback =
        cpuBreakdowns (answers.of query) fallback ∧
      MergesDefault fallback (answers.of query) id
        (fun s b? => (b?.getD .zero).addSeries (.ofLabel (s.label "mode" "")) s)
        (cpuBreakdowns (answers.of query) fallback)) ∧
    (∀ query, ramBreakdowns ((answers.withCluster fallback).of query) fallback =
        ramBreakdowns (answers.of query) fallback ∧
      MergesDefault fallback (answers.of query) id
        (fun s b? => (b?.getD .zero).addSeries .system s)
        (ramBreakdowns (answers.of query) fallback)) ∧
    (∀ query, leadingPoints ((answers.withCluster fallback).of query) fallback =
        leadingPoints (answers.of query) fallback ∧
      MergesDefault fallback
        ((answers.of query).filterMap fun s => s.leading?.map fun sample => (s, sample)) Prod.fst
        (fun x ps? => ps?.getD [] ++ [x.2.point]) (leadingPoints (answers.of query) fallback)) := by
  refine ⟨?_, ?_, ?_, ?_, ?_⟩
  · intro discounts
    constructor
    · exact tallies_withCluster answers fallback discounts
    · rw [tallies_eq_foldl]
      exact mergesDefault_foldl_alter fallback (costSeries answers) Prod.snd _
  · intro discounts start finish
    constructor
    · exact bills_withCluster answers fallback discounts start finish
    · intro table h
      exact keys_bills answers fallback discounts h
  · intro query
    constructor
    · rw [Answers.of_withCluster, cpuBreakdowns_withCluster]
    · exact mergesDefault_foldl_alter fallback (answers.of query) id _
  · intro query
    constructor
    · rw [Answers.of_withCluster, ramBreakdowns_withCluster]
    · exact mergesDefault_foldl_alter fallback (answers.of query) id _
  · intro query
    constructor
    · rw [Answers.of_withCluster, leadingPoints_withCluster]
    · exact leadingPoints_merges (answers.of query) fallback

end ClusterBilling
