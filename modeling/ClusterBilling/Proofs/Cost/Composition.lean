import ClusterBilling.Proofs.Cost.Isolation

/-!
What the bills of a batch consist of: which clusters have one, in which order, and how each number
of a bill comes from the series that belong to its cluster.
-/
namespace ClusterBilling
variable {α : Type}

/-- The cost of one category. -/
def Charges.get (charges : Charges α) : Category → α
  | .gpu => charges.gpu
  | .cpu => charges.cpu
  | .ram => charges.ram
  | .storage => charges.storage

/-- The series that have costs, each under its category, in the order in which they are billed. -/
def costSeries (answers : Answers α) : List (Category × Series α) :=
  Category.all.flatMap fun c => (answers.of c.query).map (c, ·)

/-- The clusters of these series, in the order in which they first come. -/
def billedClusters (answers : Answers α) (fallback : Text) : List Text :=
  ((costSeries answers).map fun x => x.2.clusterId fallback).eraseDups

theorem foldl_some_getD {β γ : Type} (f : β → γ → β) (b : β) (items : List γ) (b? : Option β) :
    (items.foldl (fun b? x => some (f (b?.getD b) x)) b?).getD b = items.foldl f (b?.getD b) := by
  induction items generalizing b? with
  | nil => rfl
  | cons x xs ih => rw [List.foldl_cons, ih, List.foldl_cons, Option.getD_some]

variable [Arithmetic α]

/-- Charges are their four costs, if the total is the sum of these. -/
theorem Charges.eq_charges {charges : Charges α} {cost : Category → α}
    (h : ∀ c, charges.get c = cost c)
    (ht : charges.total = charges.cpu + charges.gpu + charges.ram + charges.storage) :
    charges = Bill.charges (cost .cpu) (cost .gpu) (cost .ram) (cost .storage) := by
  obtain rfl : charges.get = cost := funext h
  rw [Bill.charges, get, get, get, get, ← ht]

/-- What a category costs a cluster: the leading values of its series, less the discounts, added
from left to right. -/
def cumulativeCost (answers : Answers α) (fallback : Text) (discounts : Discounts α)
    (clusterId : Text) (c : Category) : α :=
  ((attributed fallback clusterId (answers.of c.query)).filterMap Series.leading?).foldl
    (fun sum sample => sum + sample.value * discounts.multiplier c) (Arithmetic.ofNat 0)

namespace Tally

/-- Add a series of costs, less the discounts on its category. -/
def addCost (discounts : Discounts α) (t : Tally α) (x : Category × Series α) : Tally α :=
  t.addSeries x.1 (discounts.multiplier x.1) x.2

theorem getD_add (t : Tally α) (c c' : Category) (cost : α) :
    (t.add c cost).getD c' = if c' = c then t.getD c + cost else t.getD c' := by
  unfold getD
  rw [get?_add]
  split_ifs <;> rfl

theorem getD_foldl_addSeries (c c' : Category) (multiplier : α) (series : List (Series α))
    (t : Tally α) :
    (series.foldl (fun t s => t.addSeries c multiplier s) t).getD c' =
      if c' = c then
        (series.filterMap Series.leading?).foldl (fun sum sample => sum + sample.value * multiplier)
          (t.getD c)
      else t.getD c' := by
  induction series generalizing t with
  | nil =>
    split_ifs with hc
    · rw [hc]
      rfl
    · rfl
  | cons s series ih =>
    rw [List.foldl_cons, ih, addSeries]
    cases hs : s.leading? with
    | none => rw [List.filterMap_cons_none hs]
    | some sample =>
      rw [List.filterMap_cons_some hs, List.foldl_cons, getD_add, getD_add, if_pos rfl]
      split_ifs <;> rfl

end Tally

section
variable (answers : Answers α) (fallback : Text) (discounts : Discounts α)

/-- The tallies of a batch are one fold over the series that have costs. -/
theorem tallies_eq_foldl :
    tallies answers fallback discounts =
      (costSeries answers).foldl
        (fun table x => table.alter (x.2.clusterId fallback) fun t? =>
          (t?.getD {}).addCost discounts x)
        ∅ := by
  rw [costSeries, List.foldl_flatMap]
  simp only [List.foldl_map]
  rfl

/-- A tally is one fold over the series that belong to its cluster. -/
theorem get?_tallies (clusterId : Text) :
    (tallies answers fallback discounts).get? clusterId =
      ((costSeries answers).filter fun x => x.2.clusterId fallback = clusterId).foldl
        (fun t? x => some ((t?.getD {}).addCost discounts x)) none := by
  rw [tallies_eq_foldl]
  exact Table.get?_foldl_alter (fun x : Category × Series α => x.2.clusterId fallback) _ _ ∅ _

theorem keys_tallies :
    (tallies answers fallback discounts).keys = billedClusters answers fallback := by
  rw [tallies_eq_foldl,
    Table.keys_foldl_alter (fun x : Category × Series α => x.2.clusterId fallback)]
  rfl

theorem getD_addCategory (clusterId : Text) (table : Table (Tally α)) (c c' : Category) :
    (((addCategory answers fallback discounts table c).get? clusterId).getD {}).getD c' =
      if c' = c then
        ((attributed fallback clusterId (answers.of c.query)).filterMap Series.leading?).foldl
          (fun sum sample => sum + sample.value * discounts.multiplier c)
          (((table.get? clusterId).getD {}).getD c)
      else ((table.get? clusterId).getD {}).getD c' := by
  rw [get?_addCategory, foldl_some_getD (Tally.addSeries · c (discounts.multiplier c) ·),
    Tally.getD_foldl_addSeries]

theorem getD_tallies (clusterId : Text) (c : Category) :
    (((tallies answers fallback discounts).get? clusterId).getD {}).getD c =
      cumulativeCost answers fallback discounts clusterId c := by
  have h0 : (((∅ : Table (Tally α)).get? clusterId).getD {}).getD c = Arithmetic.ofNat 0 := by
    cases c <;> rfl
  rw [cumulativeCost, ← h0]
  -- of the four passes over the batch, only the one of this category changes its cost
  simp only [tallies, Category.all, List.foldl_cons, List.foldl_nil, getD_addCategory]
  cases c <;> rfl

variable (start finish : Time.Moment) (hours : α)

/-- The bill of a cluster, once it is known how many hours it divides by. -/
def billOver (clusterId : Text) : Bill α :=
  let cost := cumulativeCost answers fallback discounts clusterId
  let rate c := monthlyRate hours (cost c)
  { start := start
    finish := finish
    cumulative := Bill.charges (cost .cpu) (cost .gpu) (cost .ram) (cost .storage)
    monthly := Bill.charges (rate .cpu) (rate .gpu) (rate .ram) (rate .storage)
    cpuBreakdown? := (cpuBreakdowns (answers.of "cpu_mode_pct") fallback).get? clusterId
    ramBreakdown? := (ramBreakdowns (answers.of "ram_system_pct") fallback).get? clusterId }

variable {start finish hours}

theorem billCluster_tallies {dataHours : α} (hh : billedHours start finish dataHours = .ok hours)
    {clusterId : Text} {tally : Tally α}
    (ht : (clusterId, tally) ∈ (tallies answers fallback discounts).entries) :
    billCluster answers start finish fallback dataHours clusterId tally =
      .ok (billOver answers fallback discounts start finish hours clusterId) := by
  have hc (c : Category) :
      tally.getD c = cumulativeCost answers fallback discounts clusterId c := by
    rw [← getD_tallies, Table.get?_of_mem ht, Option.getD_some]
  unfold billCluster Bill.ofCosts billOver
  simp only [hh, hc]

/-- Once the hours are known, the bills are those of the clusters that have costs. -/
theorem bills_of_hours {minutes : α}
    (hm : dataMinutes? (answers.of "data_count") start finish = some minutes)
    (hh : billedHours start finish (minutes / Arithmetic.ofNat minutesPerHour) = .ok hours) :
    ∃ table, bills answers start finish fallback discounts = .ok table ∧
      table.entries = (billedClusters answers fallback).map fun clusterId =>
        (clusterId, billOver answers fallback discounts start finish hours clusterId) := by
  rw [bills_eq_mapM hm, ← keys_tallies answers fallback discounts]
  exact Table.mapM_eq_ok_of_forall fun _ ht => billCluster_tallies answers fallback discounts hh ht

/-- Under any two pairs of discounts the same clusters are billed in the same order. -/
theorem bills_of_hours_both {minutes : α}
    (hm : dataMinutes? (answers.of "data_count") start finish = some minutes)
    (hh : billedHours start finish (minutes / Arithmetic.ofNat minutesPerHour) = .ok hours)
    (d d' : Discounts α) :
    ∃ t t', bills answers start finish fallback d = .ok t ∧
      bills answers start finish fallback d' = .ok t' ∧ t.keys = t'.keys ∧
      ∀ clusterId ∈ t.keys,
        t.get? clusterId = some (billOver answers fallback d start finish hours clusterId) ∧
        t'.get? clusterId = some (billOver answers fallback d' start finish hours clusterId) := by
  obtain ⟨t, ht, he⟩ := bills_of_hours answers fallback d hm hh
  obtain ⟨t', ht', he'⟩ := bills_of_hours answers fallback d' hm hh
  have hk : t.keys = billedClusters answers fallback := Table.keys_of_entries_eq he
  have hk' : t'.keys = billedClusters answers fallback := Table.keys_of_entries_eq he'
  refine ⟨t, t', ht, ht', hk.trans hk'.symm, ?_⟩
  intro clusterId hc
  rw [hk] at hc
  rw [Table.get?_of_entries_eq he, Table.get?_of_entries_eq he', if_pos hc, if_pos hc]
  exact ⟨rfl, rfl⟩

theorem isSome_byCluster_iff (mode : Series α → Mode) (series : List (Series α))
    (clusterId : Text) :
    ((Breakdown.byCluster mode series fallback).get? clusterId).isSome ↔
      ∃ s ∈ series, s.clusterId fallback = clusterId := by
  rw [Table.isSome_get?_iff, Breakdown.byCluster,
    Table.keys_foldl_alter (Series.clusterId · fallback), List.mem_eraseDups]
  exact List.mem_map

end

/-- What the bill of a cluster over some hours consists of. -/
structure Bill.Composed (answers : Answers Float) (start finish : Time.Moment) (fallback : Text)
    (discounts : Discounts Float) (hours : Float) (clusterId : Text) (b : Bill Float) : Prop where
  start : b.start = start
  finish : b.finish = finish
  cumulative : ∀ c, b.cumulative.get c = cumulativeCost answers fallback discounts clusterId c
  monthly : ∀ c, b.monthly.get c = b.cumulative.get c / hours * 730
  cumulativeTotal : b.cumulative.total =
    b.cumulative.cpu + b.cumulative.gpu + b.cumulative.ram + b.cumulative.storage
  monthlyTotal : b.monthly.total =
    b.monthly.cpu + b.monthly.gpu + b.monthly.ram + b.monthly.storage
  cpuBreakdown : b.cpuBreakdown?.isSome ↔
    ∃ s ∈ answers.of "cpu_mode_pct", s.clusterId fallback = clusterId
  ramBreakdown : b.ramBreakdown?.isSome ↔
    ∃ s ∈ answers.of "ram_system_pct", s.clusterId fallback = clusterId

section
variable {start finish : Time.Moment}

theorem billOver_composed (answers : Answers Float) (fallback : Text) (discounts : Discounts Float)
    (hours : Float) (clusterId : Text) :
    (billOver answers fallback discounts start finish hours clusterId).Composed answers start finish
      fallback discounts hours clusterId where
  start := rfl
  finish := rfl
  cumulative c := by cases c <;> rfl
  monthly c := by cases c <;> rfl
  cumulativeTotal := rfl
  monthlyTotal := rfl
  cpuBreakdown := isSome_byCluster_iff fallback _ _ clusterId
  ramBreakdown := isSome_byCluster_iff fallback _ _ clusterId

/-- A window in which time passes has one bill for each cluster with a cost series, in the order in
which they first come, and all of them divide by the same hours. -/
theorem bills_composed (h : start.Before finish) (answers : Answers Float) (fallback : Text)
    (discounts : Discounts Float) :
    ∃ table minutes hours, bills answers start finish fallback discounts = .ok table ∧
      dataMinutes? (answers.of "data_count") start finish = some minutes ∧
      billedHours start finish (minutes / 60) = .ok hours ∧
      table.keys.Nodup ∧ table.keys = billedClusters answers fallback ∧
      ∀ clusterId ∈ table.keys, ∃ bill, table.get? clusterId = some bill ∧
        bill.Composed answers start finish fallback discounts hours clusterId := by
  obtain ⟨minutes, hours, hm, hh⟩ := dataHours_billed h (answers.of "data_count")
  obtain ⟨table, ht, he⟩ := bills_of_hours answers fallback discounts hm hh
  have hk := Table.keys_of_entries_eq he
  refine ⟨table, minutes, hours, ht, hm, hh, table.nodup, hk, fun clusterId hc => ?_⟩
  rw [hk] at hc
  rw [Table.get?_of_entries_eq he, if_pos hc]
  exact ⟨_, rfl, billOver_composed answers fallback discounts hours clusterId⟩

/-- Three clusters, one of them by default and one without samples. The last one has two series of
memory, whose leading samples are added. -/
theorem bills_composed_three_clusters :
    let east : Table Text := .ofList [("cluster_id", "east")]
    let west : Table Text := .ofList [("cluster_id", "west")]
    let answers : Answers Float := .ofList [("data_count", [⟨∅, [⟨0, 7680⟩]⟩]),
      ("total_cpu", [⟨∅, [⟨0, 2.5⟩]⟩, ⟨east, [⟨0, 4⟩]⟩]),
      ("total_gpu", [⟨west, []⟩, ⟨∅, [⟨0, 1⟩]⟩]),
      ("total_ram", [⟨east, [⟨0, 8⟩, ⟨60, 9⟩]⟩, ⟨east, [⟨0, 2⟩]⟩]),
      ("total_storage", [⟨east, [⟨0, 3⟩]⟩]), ("cpu_mode_pct", [⟨east, []⟩])]
    let finish : Time.Moment := ⟨719163 * Time.day, some 0, by decide⟩
    ∃ table minutes hours, bills answers .epoch finish "main" ⟨0.25, 0.5⟩ = .ok table ∧
      dataMinutes? (answers.of "data_count") .epoch finish = some minutes ∧
      billedHours .epoch finish (minutes / 60) = .ok hours ∧
      table.keys = [.ofString "west", .ofString "main", .ofString "east"] ∧
      (∀ clusterId ∈ table.keys, ∃ bill, table.get? clusterId = some bill ∧
        bill.Composed answers .epoch finish "main" ⟨0.25, 0.5⟩ hours clusterId) ∧
      minutes = 7680 ∧ hours = 128 ∧
      ∃ bill, table.get? "east" = some bill ∧
        bill.cumulative = ⟨1.5, 0, 3.75, 3, 8.25⟩ ∧
        bill.monthly = ⟨8.5546875, 0, 21.38671875, 17.109375, 47.05078125⟩ ∧
        bill.cpuBreakdown?.isSome ∧ ¬ bill.ramBreakdown?.isSome := by
  intro east west answers finish
  obtain ⟨table, minutes, hours, ht, hm, hh, -, hk, hb⟩ :=
    @bills_composed .epoch finish ⟨86400000000, by decide, by decide⟩ answers "main" ⟨0.25, 0.5⟩
  refine ⟨table, minutes, hours, ht, hm, hh, hk, hb, ?_⟩
  obtain rfl : 7680 = minutes := Option.some.inj (.trans (by decide +kernel) hm)
  obtain rfl : 128 = hours := Except.ok.inj (.trans (by rfl) hh)
  obtain ⟨bill, hget, h⟩ := hb "east" (by rw [hk]; decide)
  have hcosts : bill.cumulative = ⟨1.5, 0, 3.75, 3, 8.25⟩ := by
    rw [Charges.eq_charges h.cumulative h.cumulativeTotal]
    decide +kernel
  refine ⟨rfl, rfl, bill, hget, hcosts, ?_, ?_, ?_⟩
  · rw [Charges.eq_charges h.monthly h.monthlyTotal, hcosts]
    decide +kernel
  · exact h.cpuBreakdown.mpr ⟨⟨east, []⟩, .head _, by decide⟩
  · rw [h.ramBreakdown]
    rintro ⟨s, hs, -⟩
    cases hs

end
end ClusterBilling
