import ClusterBilling.Proofs.Cost.Composition
import ClusterBilling.Proofs.Cost.Exact

/-!
Conservation of costs where nothing is rounded: the total of a cluster is that of its categories,
and the totals of all clusters are what all series cost together, in whatever order they come.
-/
namespace ClusterBilling

/-- What a series costs: nothing without samples. -/
def Series.cost (s : Series ℚ) (multiplier : ℚ) : ℚ :=
  (s.leading?.map fun sample => sample.value * multiplier).getD 0

/-- The total is the sum of the categories, and it is there as soon as one of them is. -/
structure Tally.Balanced (t : Tally ℚ) : Prop where
  total : t.total.getD 0 = t.getD .gpu + t.getD .cpu + t.getD .ram + t.getD .storage
  isSome : t.total.isSome ↔ ∃ c, (t.get? c).isSome

namespace Tally

theorem getD_plus (sum? : Option ℚ) (x : ℚ) : (plus sum? x).getD 0 = sum?.getD 0 + x := by
  cases sum? <;> rfl

theorem balanced_empty : Balanced {} where
  total := by decide +kernel
  isSome := by
    have hc (c : Category) : (({} : Tally ℚ).get? c).isSome = false := by cases c <;> rfl
    simp [hc]

theorem Balanced.add {t : Tally ℚ} (h : t.Balanced) (c : Category) (cost : ℚ) :
    (t.add c cost).Balanced where
  total := by
    rw [total_add, getD_plus, h.total]
    simp only [getD_add]
    cases c <;> simp only [reduceCtorEq, if_true, if_false] <;> ring
  isSome := by
    have hc : ((t.add c cost).get? c).isSome := by
      rw [get?_add, if_pos rfl]
      rfl
    rw [total_add]
    exact ⟨fun _ => ⟨c, hc⟩, fun _ => rfl⟩

theorem Balanced.addCost {t : Tally ℚ} (h : t.Balanced) (discounts : Discounts ℚ)
    (x : Category × Series ℚ) : (t.addCost discounts x).Balanced := by
  unfold Tally.addCost Tally.addSeries
  split
  · exact h.add x.1 _
  · exact h

theorem total_addCost (discounts : Discounts ℚ) (t : Tally ℚ) (x : Category × Series ℚ) :
    (t.addCost discounts x).total.getD 0 =
      t.total.getD 0 + x.2.cost (discounts.multiplier x.1) := by
  unfold Tally.addCost Tally.addSeries Series.cost
  cases x.2.leading? with
  | none => exact (add_zero _).symm
  | some sample =>
    rw [Option.map_some, Option.getD_some, ← getD_plus]
    exact congrArg (Option.getD · 0) (total_add t x.1 _)

/-- Exact costs can be added in any order. -/
theorem add_comm_add (t : Tally ℚ) (c c' : Category) (x y : ℚ) :
    (t.add c x).add c' y = (t.add c' y).add c x := by
  cases c <;> cases c' <;> simp [add, plus, add_right_comm]

theorem addCost_comm_addCost (discounts : Discounts ℚ) (t : Tally ℚ) (x y : Category × Series ℚ) :
    (t.addCost discounts x).addCost discounts y = (t.addCost discounts y).addCost discounts x := by
  unfold addCost addSeries
  cases x.2.leading? with
  | none => rfl
  | some _ =>
    cases y.2.leading? with
    | none => rfl
    | some _ => exact add_comm_add ..

end Tally

/-- What the series of all categories cost together. -/
def totalCost (answers : Answers ℚ) (discounts : Discounts ℚ) : ℚ :=
  (Category.all.map fun c =>
    (((answers.of c.query).filterMap Series.leading?).map fun sample =>
      sample.value * discounts.multiplier c).sum).sum

/-- Batches with the same series of costs, in whatever order within a category, and the same
answers to the other queries that bills read. -/
structure SameCosts (a b : Answers ℚ) : Prop where
  costs : ∀ c : Category, (a.of c.query).Perm (b.of c.query)
  others : ∀ q ∈ ["data_count", "cpu_mode_pct", "ram_system_pct"], a.of q = b.of q

section
variable {fallback : Text} {discounts : Discounts ℚ} {answers : Answers ℚ}

theorem sum_cost (multiplier : ℚ) (series : List (Series ℚ)) :
    (series.map fun s => s.cost multiplier).sum =
      ((series.filterMap Series.leading?).map fun sample => sample.value * multiplier).sum := by
  induction series with
  | nil => rfl
  | cons s series ih =>
    rw [List.map_cons, List.sum_cons, ih, Series.cost]
    cases hs : s.leading? with
    | none => simp [hs]
    | some sample => simp [hs]

theorem sum_costSeries (answers : Answers ℚ) (discounts : Discounts ℚ) :
    ((costSeries answers).map fun x => x.2.cost (discounts.multiplier x.1)).sum =
      totalCost answers discounts := by
  unfold costSeries totalCost
  rw [List.flatMap_def, List.map_flatten, List.sum_flatten]
  simp only [List.map_map, Function.comp_def, sum_cost]

/-- Every series is added to just one tally. -/
theorem sum_tallies (answers : Answers ℚ) (fallback : Text) (discounts : Discounts ℚ) :
    ((tallies answers fallback discounts).entries.map fun e => e.2.total.getD 0).sum =
      totalCost answers discounts := by
  have hf (x : Category × Series ℚ) (t? : Option (Tally ℚ)) :
      ((t?.getD {}).addCost discounts x).total.getD 0 =
        (t?.map fun t => t.total.getD 0).getD 0 + x.2.cost (discounts.multiplier x.1) := by
    rw [Tally.total_addCost]
    cases t? <;> rfl
  rw [tallies_eq_foldl, Table.sum_foldl_alter (fun t : Tally ℚ => t.total.getD 0) _ hf,
    sum_costSeries]
  exact zero_add _

theorem balanced_of_get? {clusterId : Text} {tally : Tally ℚ}
    (ht : (tallies answers fallback discounts).get? clusterId = some tally) : tally.Balanced := by
  have hd := foldl_some_getD (Tally.addCost discounts) {}
    ((costSeries answers).filter fun x => x.2.clusterId fallback = clusterId) none
  rw [← get?_tallies, ht, Option.getD_some] at hd
  rw [hd]
  exact List.foldlRecOn _ _ Tally.balanced_empty fun t h x _ => h.addCost discounts x

theorem SameCosts.costSeries {a b : Answers ℚ} (h : SameCosts a b) :
    (costSeries a).Perm (costSeries b) :=
  List.Perm.flatMap_left _ fun c _ => (h.costs c).map _

theorem SameCosts.get?_tallies {a b : Answers ℚ} (h : SameCosts a b) (clusterId : Text) :
    (tallies a fallback discounts).get? clusterId =
      (tallies b fallback discounts).get? clusterId := by
  rw [ClusterBilling.get?_tallies, ClusterBilling.get?_tallies]
  have hc : RightCommutative fun (t? : Option (Tally ℚ)) (x : Category × Series ℚ) =>
      some ((t?.getD {}).addCost discounts x) :=
    ⟨fun _ x y => congrArg some (Tally.addCost_comm_addCost discounts _ x y)⟩
  exact (h.costSeries.filter _).foldl_eq none

end

section
variable {start finish : Time.Moment} {fallback : Text} {discounts : Discounts ℚ}

/-- The total of a bill is computed anew from the categories, and comes to that of the tally. -/
theorem total_billOver {answers : Answers ℚ} {hours : ℚ} {clusterId : Text} {tally : Tally ℚ}
    (ht : (tallies answers fallback discounts).get? clusterId = some tally) :
    (billOver answers fallback discounts start finish hours clusterId).cumulative.total =
      tally.total.getD 0 := by
  have hc (c : Category) :
      cumulativeCost answers fallback discounts clusterId c = tally.getD c := by
    rw [← getD_tallies, ht, Option.getD_some]
  -- a bill adds up processors before graphics processors, the tally the other way round
  rw [(balanced_of_get? ht).total, add_comm (tally.getD .gpu)]
  simp only [← hc]
  rfl

/-- Exact bills exist for every window in which time passes. -/
theorem bills_exact (h : start.Before finish) (answers : Answers ℚ) (fallback : Text)
    (discounts : Discounts ℚ) :
    ∃ table hours, bills answers start finish fallback discounts = .ok table ∧
      table.entries = (billedClusters answers fallback).map fun clusterId =>
        (clusterId, billOver answers fallback discounts start finish hours clusterId) := by
  obtain ⟨minutes, hours, hm, hh, -⟩ := dataHours_exact h (answers.of "data_count")
  obtain ⟨table, ht, he⟩ := bills_of_hours answers fallback discounts hm hh
  exact ⟨table, hours, ht, he⟩

theorem SameCosts.get?_bills {a b : Answers ℚ} (h : SameCosts a b) {ta tb : Table (Bill ℚ)}
    (ha : bills a start finish fallback discounts = .ok ta)
    (hb : bills b start finish fallback discounts = .ok tb) (clusterId : Text) :
    ta.get? clusterId = tb.get? clusterId := by
  have hcount : a.of "data_count" = b.of "data_count" := h.others _ (by simp)
  have hcpu : a.of "cpu_mode_pct" = b.of "cpu_mode_pct" := h.others _ (by simp)
  have hram : a.of "ram_system_pct" = b.of "ram_system_pct" := h.others _ (by simp)
  refine get?_bills_congr (by rw [hcount]) (h.get?_tallies clusterId) (fun hours tally => ?_) ha hb
  rw [billCluster, billCluster, hcpu, hram]

/-- Where nothing is rounded, the bills of a window in which time passes share out what all series
cost: none is lost and none counts twice, and no order of the series within a category matters. -/
theorem costs_conserved (h : start.Before finish) (answers : Answers ℚ) (fallback : Text)
    (discounts : Discounts ℚ) :
    ∃ table, bills answers start finish fallback discounts = .ok table ∧
      table.keys = (tallies answers fallback discounts).keys ∧
      (∀ clusterId ∈ table.keys, ∃ tally bill,
        (tallies answers fallback discounts).get? clusterId = some tally ∧ tally.Balanced ∧
        table.get? clusterId = some bill ∧ bill.cumulative.total = tally.total.getD 0) ∧
      (table.entries.map fun e => e.2.cumulative.total).sum = totalCost answers discounts ∧
      ∀ reordered, SameCosts reordered answers →
        ∃ table', bills reordered start finish fallback discounts = .ok table' ∧
          ∀ clusterId, table'.get? clusterId = table.get? clusterId ∧
            (tallies reordered fallback discounts).get? clusterId =
              (tallies answers fallback discounts).get? clusterId := by
  obtain ⟨table, hours, ht, he⟩ := bills_exact h answers fallback discounts
  have hk : table.keys = (tallies answers fallback discounts).keys := by
    rw [keys_tallies, Table.keys_of_entries_eq he]
  refine ⟨table, ht, hk, fun clusterId hc => ?_, ?_, fun reordered hr => ?_⟩
  · have hs := (Table.isSome_get?_iff ..).mpr (hk ▸ hc)
    obtain ⟨tally, htally⟩ := Option.isSome_iff_exists.mp hs
    rw [hk, keys_tallies] at hc
    rw [Table.get?_of_entries_eq he, if_pos hc]
    exact ⟨tally, _, htally, balanced_of_get? htally, rfl, total_billOver htally⟩
  · rw [← sum_tallies answers fallback discounts, he, ← keys_tallies answers fallback discounts,
      Table.keys, List.map_map, List.map_map]
    congr 1
    apply List.map_congr_left
    intro e hmem
    exact total_billOver (Table.get?_of_mem hmem)
  · obtain ⟨table', -, ht', -⟩ := bills_exact h reordered fallback discounts
    exact ⟨table', ht', fun clusterId =>
      ⟨hr.get?_bills ht' ht clusterId, hr.get?_tallies clusterId⟩⟩

/-- Two clusters over two categories, billed again with their series the other way round. -/
theorem costs_conserved_two_clusters :
    let east : Series ℚ := ⟨.ofList [("cluster_id", "east")], [⟨0, 5 / 2⟩]⟩
    let west : Series ℚ := ⟨∅, [⟨0, 4⟩, ⟨60, 9⟩]⟩
    let answers : Answers ℚ := .ofList [("total_cpu", [east, west]), ("total_storage", [west])]
    let reordered : Answers ℚ := .ofList [("total_cpu", [west, east]), ("total_storage", [west])]
    let finish : Time.Moment := ⟨719163 * Time.day, some 0, by decide⟩
    ∃ table table', bills answers .epoch finish "west" ⟨1 / 5, 1 / 2⟩ = .ok table ∧
      (table.entries.map fun e => e.2.cumulative.total).sum = 33 / 5 ∧
      SameCosts reordered answers ∧
      bills reordered .epoch finish "west" ⟨1 / 5, 1 / 2⟩ = .ok table' ∧
      ∀ clusterId, table'.get? clusterId = table.get? clusterId := by
  intro east west answers reordered finish
  obtain ⟨table, ht, -, -, hsum, hr⟩ :=
    @costs_conserved .epoch finish ⟨86400000000, by decide, by decide⟩ answers "west"
      ⟨1 / 5, 1 / 2⟩
  have hsame : SameCosts reordered answers :=
    { costs := fun c => match c with
        | .cpu => .swap east west []
        | .gpu | .ram | .storage => .refl _
      others := fun q hq => by fin_cases hq <;> rfl }
  obtain ⟨table', ht', hk⟩ := hr reordered hsame
  have hcost : totalCost answers ⟨1 / 5, 1 / 2⟩ = 33 / 5 := by decide +kernel
  exact ⟨table, table', ht, hsum.trans hcost, hsame, ht', fun clusterId => (hk clusterId).1⟩

end
end ClusterBilling
