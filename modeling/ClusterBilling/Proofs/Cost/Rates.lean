import ClusterBilling.Proofs.Cost.Isolation
import ClusterBilling.Report.Basic

/-!
The rates of one cluster, whether they are looked up in a report on all clusters or gathered for
this cluster alone: the leading points of the series that belong to it.
-/
namespace ClusterBilling
variable {α : Type}

/-- The leading points of the series that belong to a cluster, in their order. -/
def clusterPoints (fallback clusterId : Text) (series : List (Series α)) : List (Point α) :=
  ((attributed fallback clusterId series).filterMap Series.leading?).map Sample.point

theorem clusterPoints_eq_nil_iff {fallback clusterId : Text} {series : List (Series α)} :
    clusterPoints fallback clusterId series = [] ↔
      ∀ s ∈ series, s.clusterId fallback = clusterId → s.leading? = none := by
  simp [clusterPoints, attributed]

theorem foldl_some_append {β : Type} (xs : List β) (ys? : Option (List β)) (h : xs ≠ []) :
    xs.foldl (fun ys? x => some (ys?.getD [] ++ [x])) ys? = some (ys?.getD [] ++ xs) := by
  induction xs generalizing ys? with
  | nil => exact absurd rfl h
  | cons x xs ih =>
    rw [List.foldl_cons]
    cases xs with
    | nil => rfl
    | cons x' xs => rw [ih _ (List.cons_ne_nil x' xs)]; simp

/-- The leading point of each series that has one, under the cluster of the series. -/
def leadingEntries (fallback : Text) (series : List (Series α)) : List (Text × Point α) :=
  series.filterMap fun s => s.leading?.map fun sample => (s.clusterId fallback, sample.point)

theorem filter_leadingEntries (fallback clusterId : Text) (series : List (Series α)) :
    (leadingEntries fallback series).filter (·.1 = clusterId) =
      (clusterPoints fallback clusterId series).map (clusterId, ·) := by
  unfold leadingEntries clusterPoints attributed
  induction series with
  | nil => rfl
  | cons s series ih =>
    by_cases hc : s.clusterId fallback = clusterId <;> cases hs : s.leading? <;> simp [hc, hs, ih]

/-- Series without samples leave no trace. -/
theorem leadingPoints_eq_foldl (series : List (Series α)) (fallback : Text) :
    leadingPoints series fallback =
      (leadingEntries fallback series).foldl
        (fun table x => table.alter x.1 fun ps? => ps?.getD [] ++ [x.2]) ∅ := by
  rw [leadingEntries, List.foldl_filterMap, leadingPoints]
  congr 1
  funext table s
  cases s.leading? <;> rfl

theorem keys_leadingPoints (series : List (Series α)) (fallback : Text) :
    (leadingPoints series fallback).keys =
      ((leadingEntries fallback series).map Prod.fst).eraseDups := by
  rw [leadingPoints_eq_foldl, Table.keys_foldl_alter Prod.fst fun x ps? => ps?.getD [] ++ [x.2]]
  rfl

theorem get?_leadingPoints (series : List (Series α)) (fallback clusterId : Text) :
    (leadingPoints series fallback).get? clusterId =
      if clusterPoints fallback clusterId series = [] then none
      else some (clusterPoints fallback clusterId series) := by
  have hpoints : ((leadingEntries fallback series).filter (·.1 = clusterId)).map Prod.snd =
      clusterPoints fallback clusterId series := by
    rw [filter_leadingEntries, List.map_map]
    exact List.map_id _
  rw [leadingPoints_eq_foldl,
    Table.get?_foldl_alter Prod.fst (fun x ps? => ps?.getD [] ++ [x.2]),
    ← List.foldl_map (f := Prod.snd) (g := fun ps? x => some (Option.getD ps? [] ++ [x])),
    hpoints]
  split_ifs with h
  · rw [h]
    rfl
  · rw [foldl_some_append _ _ h]
    rfl

theorem getD_leadingPoints (series : List (Series α)) (fallback clusterId : Text) :
    ((leadingPoints series fallback).get? clusterId).getD [] =
      clusterPoints fallback clusterId series := by
  rw [get?_leadingPoints]
  split_ifs with h
  · exact h.symm
  · rfl

section
variable (answers : Answers α) (fallback clusterId : Text)

theorem get?_addResource (rates : Table (Rates α)) (r : Resource) :
    (addResource answers fallback rates r).get? clusterId =
      match (leadingPoints (answers.of r.query) fallback).get? clusterId with
      | none => rates.get? clusterId
      | some points => some (((rates.get? clusterId).getD {}).set r points) := by
  unfold addResource
  refine (Table.get?_foldl_alter Prod.fst (fun x old? => (old?.getD {}).set r x.2) _ rates
    _).trans ?_
  rw [Table.filter_entries]
  cases (leadingPoints (answers.of r.query) fallback).get? clusterId <;> rfl

theorem keys_addResource (rates : Table (Rates α)) (r : Resource) :
    (addResource answers fallback rates r).keys =
      (rates.keys ++ (leadingEntries fallback (answers.of r.query)).map Prod.fst).eraseDups := by
  unfold addResource
  refine (Table.keys_foldl_alter Prod.fst
    (fun x (old? : Option (Rates α)) => (old?.getD {}).set r x.2) _ rates).trans ?_
  have hk : (leadingPoints (answers.of r.query) fallback).entries.map Prod.fst =
      ((leadingEntries fallback (answers.of r.query)).map Prod.fst).eraseDups :=
    keys_leadingPoints _ _
  rw [hk]
  exact Table.eraseDups_append_right _ _

/-- The clusters stand in the order in which they first come, resource by resource. -/
theorem keys_ratesByCluster :
    (ratesByCluster answers fallback).keys = ((Resource.parts.flatMap fun r =>
      leadingEntries fallback (answers.of r.query)).map Prod.fst).eraseDups := by
  have hfold (rs : List Resource) (rates : Table (Rates α)) :
      (rs.foldl (addResource answers fallback) rates).keys = (rates.keys ++
        (rs.flatMap fun r => leadingEntries fallback (answers.of r.query)).map
          Prod.fst).eraseDups := by
    induction rs generalizing rates with
    | nil =>
      rw [List.foldl_nil, List.flatMap_nil, List.map_nil, List.append_nil]
      exact (Table.eraseDups_of_nodup rates.nodup).symm
    | cons r rs ih =>
      rw [List.foldl_cons, ih, keys_addResource, Table.eraseDups_append_left,
        List.flatMap_cons, List.map_append, List.append_assoc]
  exact hfold Resource.parts ∅

/-- The points of a resource in the entry of a cluster, none if there is no entry. -/
def entryPoints (rates : Table (Rates α)) (clusterId : Text) (r : Resource) : List (Point α) :=
  ((rates.get? clusterId).map (·.get r)).getD []

/-- Taking up one resource leaves the others of every entry as they are. -/
theorem entryPoints_addResource (rates : Table (Rates α)) (r r' : Resource) :
    entryPoints (addResource answers fallback rates r) clusterId r' =
      if r' = r ∧ clusterPoints fallback clusterId (answers.of r.query) ≠ [] then
        clusterPoints fallback clusterId (answers.of r.query)
      else entryPoints rates clusterId r' := by
  unfold entryPoints
  rw [get?_addResource, get?_leadingPoints]
  by_cases h : clusterPoints fallback clusterId (answers.of r.query) = []
  · simp [h]
  · simp only [h, if_false, Option.map_some, Option.getD_some, Rates.get_set, ne_eq,
      not_false_eq_true, and_true]
    split_ifs
    · rfl
    · cases rates.get? clusterId with
      | none => cases r' <;> rfl
      | some old => rfl

/-- The entry of a cluster in the rates of all clusters holds its own points of each resource. -/
theorem entryPoints_ratesByCluster {r : Resource} (hr : r ∈ Resource.parts) :
    entryPoints (ratesByCluster answers fallback) clusterId r =
      clusterPoints fallback clusterId (answers.of r.query) := by
  have h0 : entryPoints (∅ : Table (Rates α)) clusterId r = [] := rfl
  simp only [ratesByCluster, Resource.parts, List.foldl_cons, List.foldl_nil,
    entryPoints_addResource]
  cases r with
  | total => exact absurd hr (by decide)
  | _ => simp [h0]

theorem entryPoints_ratesByCluster_total :
    entryPoints (ratesByCluster answers fallback) clusterId .total = [] := by
  have h0 : entryPoints (∅ : Table (Rates α)) clusterId .total = [] := rfl
  simp only [ratesByCluster, Resource.parts, List.foldl_cons, List.foldl_nil,
    entryPoints_addResource]
  simp [h0]

/-- So do the rates that are gathered for one cluster. -/
theorem get_ratesOf (r : Resource) :
    (ratesOf answers clusterId).get r = clusterPoints clusterId clusterId (answers.of r.query) := by
  simp only [ratesOf, Resource.all, List.foldl_cons, List.foldl_nil, Rates.get_set,
    getD_leadingPoints]
  cases r <;> rfl

end

/-- A cluster has no total just if no series of the total that belongs to it has a sample. -/
theorem ratesWithTotal_cases (answers : Answers Float) (clusterId : Text) :
    ratesWithTotal clusterId answers =
      if clusterPoints clusterId clusterId (answers.of Resource.total.query) = [] then
        .error (.noTotal clusterId)
      else .ok (ratesOf answers clusterId) := by
  have ht := get_ratesOf answers clusterId .total
  rw [← ht]
  unfold ratesWithTotal
  simp only [List.isEmpty_iff]
  rfl

end ClusterBilling
