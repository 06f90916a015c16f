import ClusterBilling.Proofs.Cost.Composition
import ClusterBilling.Proofs.Json.RoundTrip
import ClusterBilling.Report.Document

/-!
The documents of reports: how deep they are nested, when their numbers are finite, and when they are
read back as they were written. Only bills hold numbers that may not be finite, and only the names
of clusters may hold halves of characters.
-/
namespace ClusterBilling
open Json

/-- Every share is finite. -/
def Breakdown.Finite (b : Breakdown Float) : Prop := ∀ mode, (b.get mode).isFinite

namespace Breakdown
variable (b : Breakdown Float) (b? : Option (Breakdown Float))

theorem finite_toJson_iff : b.toJson.Finite ↔ b.Finite := by
  have hmodes : b.Finite ↔ b.idle.isFinite ∧ b.other.isFinite ∧ b.system.isFinite ∧
      b.user.isFinite :=
    ⟨fun h => ⟨h .idle, h .other, h .system, h .user⟩,
      fun h mode => by cases mode <;> simp [get, h]⟩
  rw [hmodes, toJson]
  simp [finite_object_iff, finite_float_iff]

theorem finite_orNull_iff : (breakdownOrNull b?).Finite ↔ ∀ b ∈ b?, b.Finite := by
  cases b? with
  | none => exact ⟨nofun, fun _ => .null⟩
  | some b =>
    refine (finite_toJson_iff b).trans ⟨fun h b' hb => ?_, fun h => h b rfl⟩
    exact Option.some.inj hb ▸ h

theorem within_orNull : Within 1 (breakdownOrNull b?) := by
  cases b? with
  | none => exact .null
  | some b =>
    refine .object ?_
    simp only [List.forall_mem_cons]
    exact ⟨.float _, .float _, .float _, .float _, nofun⟩

theorem faithful_orNull : (breakdownOrNull b?).Faithful := by
  cases b? with
  | none => exact .null
  | some b =>
    refine .object (by simp [Text.ofString_inj]) (by simp [Text.unpaired_ofString]) ?_
    simp only [List.forall_mem_cons]
    exact ⟨.float _, .float _, .float _, .float _, nofun⟩

end Breakdown

/-- The total is the sum of the parts. -/
def Charges.Summed (c : Charges Float) : Prop := c.total = c.cpu + c.gpu + c.ram + c.storage

/-- Parts are finite if their sum is. -/
theorem Charges.Summed.finite {c : Charges Float} (h : c.Summed) (ht : c.total.isFinite) :
    c.cpu.isFinite ∧ c.gpu.isFinite ∧ c.ram.isFinite ∧ c.storage.isFinite := by
  rw [h] at ht
  obtain ⟨ht, hstorage⟩ := Decimal.isFinite_of_add ht
  obtain ⟨ht, hram⟩ := Decimal.isFinite_of_add ht
  obtain ⟨hcpu, hgpu⟩ := Decimal.isFinite_of_add ht
  exact ⟨hcpu, hgpu, hram, hstorage⟩

/-- Both totals are finite, and so is every share. -/
structure Bill.Finite (b : Bill Float) : Prop where
  cumulative : b.cumulative.total.isFinite
  monthly : b.monthly.total.isFinite
  cpuShares : ∀ shares ∈ b.cpuBreakdown?, shares.Finite
  ramShares : ∀ shares ∈ b.ramBreakdown?, shares.Finite

namespace Bill
variable (b : Bill Float)

theorem finite_toJson_iff {b : Bill Float} (hc : b.cumulative.Summed) (hm : b.monthly.Summed) :
    b.toJson.Finite ↔ b.Finite := by
  rw [toJson]
  simp only [finite_object_iff, finite_float_iff, Breakdown.finite_orNull_iff,
    List.forall_mem_cons]
  constructor
  · rintro ⟨-, -, -, -, hcpu, -, -, -, -, hram, -, -, hcumulative, hmonthly, -⟩
    exact ⟨hcumulative, hmonthly, hcpu, hram⟩
  · intro h
    obtain ⟨hcpu, hgpu, hram, hstorage⟩ := hc.finite h.cumulative
    obtain ⟨hcpu', hgpu', hram', hstorage'⟩ := hm.finite h.monthly
    exact ⟨.string _, .string _, hcpu, hcpu', h.cpuShares, hgpu, hgpu', hram, hram', h.ramShares,
      hstorage, hstorage', h.cumulative, h.monthly, nofun⟩

theorem within_toJson : Within 2 b.toJson := by
  refine .object ?_
  simp only [List.forall_mem_cons]
  exact ⟨.string _, .string _, .float _, .float _, Breakdown.within_orNull _, .float _, .float _,
    .float _, .float _, Breakdown.within_orNull _, .float _, .float _, .float _, .float _, nofun⟩

theorem faithful_toJson : b.toJson.Faithful := by
  refine .object (by simp [Text.ofString_inj]) (by simp [Text.unpaired_ofString]) ?_
  simp only [List.forall_mem_cons]
  exact ⟨.string (Text.unpaired_ofString _), .string (Text.unpaired_ofString _), .float _, .float _,
    Breakdown.faithful_orNull _, .float _, .float _, .float _, .float _,
    Breakdown.faithful_orNull _, .float _, .float _, .float _, .float _, nofun⟩

end Bill

section costs
variable {answers : Answers Float} {fallback : Text} {discounts : Discounts Float}
  {start finish : Time.Moment} {table : Table (Bill Float)} {s : Series Float}
  {sample : Sample Float}

theorem isFinite_of_foldl {multiplier : Float} {samples : List (Sample Float)} {sum : Float}
    (h : (samples.foldl (fun sum x => sum + x.value * multiplier) sum).isFinite) :
    sum.isFinite ∧ ∀ x ∈ samples, x.value.isFinite := by
  induction samples generalizing sum with
  | nil => exact ⟨h, nofun⟩
  | cons x samples ih =>
    obtain ⟨hsum, hsamples⟩ := ih h
    obtain ⟨hsum, hx⟩ := Decimal.isFinite_of_add hsum
    exact ⟨hsum, List.forall_mem_cons.mpr ⟨(Decimal.isFinite_of_mul hx).1, hsamples⟩⟩

/-- A cost is finite only if every sample is that goes into it. -/
theorem isFinite_of_cumulativeCost {c : Category} (hs : s ∈ answers.of c.query)
    (hl : s.leading? = some sample)
    (h : (cumulativeCost answers fallback discounts (s.clusterId fallback) c).isFinite) :
    sample.value.isFinite :=
  (isFinite_of_foldl h).2 sample
    (List.mem_filterMap.mpr ⟨s, List.mem_filter.mpr ⟨hs, decide_eq_true rfl⟩, hl⟩)

theorem Bill.Finite.cumulative_get {b : Bill Float} (h : b.Finite) (hs : b.cumulative.Summed)
    (c : Category) : (b.cumulative.get c).isFinite := by
  obtain ⟨hcpu, hgpu, hram, hstorage⟩ := hs.finite h.cumulative
  cases c
  · exact hgpu
  · exact hcpu
  · exact hram
  · exact hstorage

/-- Bills have sums as their totals. -/
theorem summed_billOver (answers : Answers Float) (fallback : Text) (discounts : Discounts Float)
    (hours : Float) (clusterId : Text) :
    let b := billOver answers fallback discounts start finish hours clusterId
    b.cumulative.Summed ∧ b.monthly.Summed := ⟨rfl, rfl⟩

/-- The entries of bills that were made: one for each cluster, all over the same hours. -/
theorem entries_bills (h : start.Before finish)
    (ht : bills answers start finish fallback discounts = .ok table) :
    ∃ hours, table.entries = (billedClusters answers fallback).map fun clusterId =>
      (clusterId, billOver answers fallback discounts start finish hours clusterId) := by
  obtain ⟨minutes, hours, hm, hh⟩ := dataHours_billed h (answers.of "data_count")
  obtain ⟨table', ht', he⟩ := bills_of_hours answers fallback discounts hm hh
  obtain rfl : table' = table := Except.ok.inj (ht'.symm.trans ht)
  exact ⟨hours, he⟩

theorem mem_billedClusters {c : Category} (hs : s ∈ answers.of c.query) :
    s.clusterId fallback ∈ billedClusters answers fallback := by
  rw [billedClusters, List.mem_eraseDups]
  refine List.mem_map.mpr ⟨(c, s), ?_, rfl⟩
  exact List.mem_flatMap.mpr ⟨c, by cases c <;> decide, List.mem_map_of_mem hs⟩

/-- One sample of a cost that is not finite leaves a bill that is not. -/
theorem exists_not_finite (h : start.Before finish)
    (ht : bills answers start finish fallback discounts = .ok table) {c : Category}
    (hs : s ∈ answers.of c.query) (hl : s.leading? = some sample) (hn : ¬ sample.value.isFinite) :
    ∃ e ∈ table.entries, ¬ e.2.Finite := by
  obtain ⟨hours, he⟩ := entries_bills h ht
  refine ⟨_, he ▸ List.mem_map_of_mem (mem_billedClusters hs), fun hf => hn ?_⟩
  have hcost := hf.cumulative_get (summed_billOver _ _ _ _ _).1 c
  rw [(billOver_composed ..).cumulative] at hcost
  exact isFinite_of_cumulativeCost hs hl hcost

end costs

section points
variable (points : List (Point Float))

theorem finite_pointsToJson : (pointsToJson points).Finite := by
  refine .array (List.forall_mem_map.mpr fun p _ => .array ?_)
  simp only [List.forall_mem_cons]
  exact ⟨.string _, .string _, nofun⟩

theorem within_pointsToJson : Within 2 (pointsToJson points) := by
  refine .array (List.forall_mem_map.mpr fun p _ => .array ?_)
  simp only [List.forall_mem_cons]
  exact ⟨.string _, .string _, nofun⟩

theorem faithful_pointsToJson : (pointsToJson points).Faithful := by
  refine .array (List.forall_mem_map.mpr fun p _ => .array ?_)
  simp only [List.forall_mem_cons]
  exact ⟨.string (Text.unpaired_ofString _), .string (Text.unpaired_ofString _), nofun⟩

end points

namespace Rates
variable (r : Rates Float)

/-- Rates are written as text, whatever numbers they are. -/
theorem finite_toJson : r.toJson.Finite := by
  refine .object ?_
  simp only [List.forall_mem_cons]
  exact ⟨finite_pointsToJson _, finite_pointsToJson _, finite_pointsToJson _,
    finite_pointsToJson _, nofun⟩

theorem within_toJson : Within 3 r.toJson := by
  refine .object ?_
  simp only [List.forall_mem_cons]
  exact ⟨within_pointsToJson _, within_pointsToJson _, within_pointsToJson _,
    within_pointsToJson _, nofun⟩

theorem faithful_toJson : r.toJson.Faithful := by
  refine .object (by simp [Text.ofString_inj]) (by simp [Text.unpaired_ofString]) ?_
  simp only [List.forall_mem_cons]
  exact ⟨faithful_pointsToJson _, faithful_pointsToJson _, faithful_pointsToJson _,
    faithful_pointsToJson _, nofun⟩

end Rates

namespace Table
variable {α : Type} {report : α → Json} {n : ℕ}

theorem within_toJson (h : ∀ x, Within n (report x)) (t : Table α) :
    Within (n + 1) (t.toJson report) :=
  .object (List.forall_mem_map.mpr fun e _ => h e.2)

theorem finite_toJson_iff (t : Table α) :
    (t.toJson report).Finite ↔ ∀ e ∈ t.entries, (report e.2).Finite := by
  rw [Table.toJson, finite_object_iff, List.forall_mem_map]

/-- Only the names of a table may be changed by writing and reading it. -/
theorem faithful_toJson_iff (h : ∀ x, (report x).Faithful) (t : Table α) :
    (t.toJson report).Faithful ↔ ∀ k ∈ t.keys, k.Unpaired := by
  rw [Table.toJson, keys, List.forall_mem_map]
  constructor
  · intro hf
    cases hf with
    | object _ hu _ => exact fun e he => hu _ (List.mem_map_of_mem he)
  · intro hu
    refine .object ?_ (List.forall_mem_map.mpr hu) (List.forall_mem_map.mpr fun e _ => h e.2)
    rw [List.map_map]
    exact t.nodup

end Table
end ClusterBilling
