import ClusterBilling.Proofs.Cost.Conservation

/-!
Higher discounts never make anything dearer, and never make it cheaper than free. Costs are exact
here, and discounts are fractions between zero and one.
-/
namespace ClusterBilling

/-- No series that is billed starts with a negative cost. -/
def Answers.NonnegativeCosts (answers : Answers ℚ) : Prop :=
  ∀ c : Category, ∀ s ∈ answers.of c.query, ∀ sample, s.leading? = some sample → 0 ≤ sample.value

/-- Two pairs of fractions, neither of them lower in the second one. -/
structure Discounts.RaisedTo (d d' : Discounts ℚ) : Prop where
  standard_nonneg : 0 ≤ d.standard
  standard_le : d.standard ≤ d'.standard
  standard_le_one : d'.standard ≤ 1
  negotiated_nonneg : 0 ≤ d.negotiated
  negotiated_le : d.negotiated ≤ d'.negotiated
  negotiated_le_one : d'.negotiated ≤ 1

/-- No charge is above the other one of its kind, nor below zero. -/
structure Charges.Within (low high : Charges ℚ) : Prop where
  category : ∀ c, 0 ≤ low.get c ∧ low.get c ≤ high.get c
  total : 0 ≤ low.total ∧ low.total ≤ high.total

section
variable {d d' : Discounts ℚ}

theorem Discounts.RaisedTo.remaining (h : d.RaisedTo d') (policy : DiscountPolicy) :
    0 ≤ d'.remaining policy ∧ d'.remaining policy ≤ d.remaining policy := by
  have hs' : 0 ≤ 1 - d'.standard := sub_nonneg.mpr h.standard_le_one
  have hn' : 0 ≤ 1 - d'.negotiated := sub_nonneg.mpr h.negotiated_le_one
  have hs : 1 - d'.standard ≤ 1 - d.standard := sub_le_sub_left h.standard_le 1
  have hn : 1 - d'.negotiated ≤ 1 - d.negotiated := sub_le_sub_left h.negotiated_le 1
  cases policy with
  | both =>
    simp only [Discounts.remaining, Arithmetic.ofNat_rat, Nat.cast_one]
    constructor
    · exact mul_nonneg hs' hn'
    · exact mul_le_mul hs hn hn' (hs'.trans hs)
  | negotiatedOnly =>
    simp only [Discounts.remaining, Arithmetic.ofNat_rat, Nat.cast_one]
    exact ⟨hn', hn⟩
  | none =>
    simp only [Discounts.remaining, Arithmetic.ofNat_rat, Nat.cast_one]
    exact ⟨zero_le_one, le_rfl⟩

/-- Adding up prices keeps the order that their sums and factors had before. -/
theorem foldl_price_mono {samples : List (Sample ℚ)} (hv : ∀ x ∈ samples, 0 ≤ x.value)
    {factor factor' : ℚ} (hf' : 0 ≤ factor') (hf : factor' ≤ factor) {sum sum' : ℚ}
    (hs' : 0 ≤ sum') (hs : sum' ≤ sum) :
    0 ≤ samples.foldl (fun sum x => sum + x.value * factor') sum' ∧
      samples.foldl (fun sum x => sum + x.value * factor') sum' ≤
        samples.foldl (fun sum x => sum + x.value * factor) sum := by
  induction samples generalizing sum sum' with
  | nil => exact ⟨hs', hs⟩
  | cons x samples ih =>
    obtain ⟨hx, hrest⟩ := List.forall_mem_cons.mp hv
    have hprice' : 0 ≤ x.value * factor' := mul_nonneg hx hf'
    have hprice : x.value * factor' ≤ x.value * factor := mul_le_mul_of_nonneg_left hf hx
    exact ih hrest (add_nonneg hs' hprice') (add_le_add hs hprice)

theorem cumulativeCost_mono {answers : Answers ℚ} (ha : answers.NonnegativeCosts)
    (hd : d.RaisedTo d') (fallback clusterId : Text) (c : Category) :
    0 ≤ cumulativeCost answers fallback d' clusterId c ∧
      cumulativeCost answers fallback d' clusterId c ≤
        cumulativeCost answers fallback d clusterId c := by
  obtain ⟨hnonneg, hle⟩ := hd.remaining c.policy
  refine foldl_price_mono ?_ hnonneg hle le_rfl le_rfl
  intro x hx
  obtain ⟨s, hs, hlead⟩ := List.mem_filterMap.mp hx
  exact ha c s (List.mem_of_mem_filter hs) x hlead

theorem monthlyRate_mono {hours cost cost' : ℚ} (hh : 0 < hours)
    (hc : 0 ≤ cost' ∧ cost' ≤ cost) :
    0 ≤ monthlyRate hours cost' ∧ monthlyRate hours cost' ≤ monthlyRate hours cost := by
  have hmonth : (0 : ℚ) ≤ Arithmetic.ofNat hoursPerMonth := by
    simp only [Arithmetic.ofNat_rat, Nat.cast_nonneg]
  have hrate' : 0 ≤ cost' / hours := div_nonneg hc.1 hh.le
  have hrate : cost' / hours ≤ cost / hours := div_le_div_of_nonneg_right hc.2 hh.le
  exact ⟨mul_nonneg hrate' hmonth, mul_le_mul_of_nonneg_right hrate hmonth⟩

theorem Bill.charges_within {cost cost' : Category → ℚ}
    (h : ∀ c, 0 ≤ cost' c ∧ cost' c ≤ cost c) :
    (charges (cost' .cpu) (cost' .gpu) (cost' .ram) (cost' .storage)).Within
      (charges (cost .cpu) (cost .gpu) (cost .ram) (cost .storage)) where
  category c := by cases c <;> exact h _
  total := by
    obtain ⟨hcpu', hcpu⟩ := h .cpu
    obtain ⟨hgpu', hgpu⟩ := h .gpu
    obtain ⟨hram', hram⟩ := h .ram
    obtain ⟨hstorage', hstorage⟩ := h .storage
    simp only [charges]
    constructor
    · positivity
    · gcongr

/-- In a window in which time passes, raising a discount leaves the clusters and their order as they
are, and every charge of their bills between zero and what it was. -/
theorem raised_discounts_save {start finish : Time.Moment} (h : start.Before finish)
    {answers : Answers ℚ} (ha : answers.NonnegativeCosts) (fallback : Text)
    (hd : d.RaisedTo d') :
    ∃ table table', bills answers start finish fallback d = .ok table ∧
      bills answers start finish fallback d' = .ok table' ∧ table'.keys = table.keys ∧
      ∀ clusterId ∈ table.keys, ∃ bill bill', table.get? clusterId = some bill ∧
        table'.get? clusterId = some bill' ∧ bill'.cumulative.Within bill.cumulative ∧
        bill'.monthly.Within bill.monthly := by
  obtain ⟨minutes, hours, hm, hh, hpos⟩ := dataHours_exact h (answers.of "data_count")
  obtain ⟨table, table', ht, ht', hk, hbills⟩ := bills_of_hours_both answers fallback hm hh d d'
  refine ⟨table, table', ht, ht', hk.symm, ?_⟩
  intro clusterId hc
  obtain ⟨hb, hb'⟩ := hbills clusterId hc
  have hcost := cumulativeCost_mono ha hd fallback clusterId
  refine ⟨_, _, hb, hb', ?_, ?_⟩
  · exact Bill.charges_within hcost
  · exact Bill.charges_within fun c => monthlyRate_mono hpos (hcost c)

/-- Half and a fifth off what two clusters cost, against no discount. -/
theorem raised_discounts_save_two_clusters :
    let answers : Answers ℚ := .ofList [("data_count", [⟨∅, [⟨0, -60⟩]⟩]),
      ("total_cpu", [⟨.ofList [("cluster_id", "east")], [⟨0, 5 / 2⟩]⟩, ⟨∅, [⟨0, 4⟩, ⟨60, -9⟩]⟩]),
      ("total_gpu", [⟨∅, [⟨0, 1 / 3⟩]⟩])]
    let finish : Time.Moment := ⟨719163 * Time.day, some 0, by decide⟩
    ∃ table table', bills answers .epoch finish "west" ⟨0, 0⟩ = .ok table ∧
      bills answers .epoch finish "west" ⟨1 / 5, 1 / 2⟩ = .ok table' ∧
      ∀ clusterId ∈ table.keys, ∃ bill bill', table.get? clusterId = some bill ∧
        table'.get? clusterId = some bill' ∧ bill'.cumulative.Within bill.cumulative ∧
        bill'.monthly.Within bill.monthly := by
  intro answers finish
  have ha : answers.NonnegativeCosts := by
    have hall : ∀ c ∈ Category.all, ∀ s ∈ answers.of c.query, ∀ x ∈ s.leading?, 0 ≤ x.value := by
      decide +kernel
    intro c s hs x hx
    exact hall c (by cases c <;> decide) s hs x hx
  obtain ⟨table, table', ht, ht', -, hb⟩ :=
    @raised_discounts_save ⟨0, 0⟩ ⟨1 / 5, 1 / 2⟩ .epoch finish ⟨86400000000, by decide, by decide⟩
      answers ha "west"
      { standard_nonneg := by norm_num
        standard_le := by norm_num
        standard_le_one := by norm_num
        negotiated_nonneg := by norm_num
        negotiated_le := by norm_num
        negotiated_le_one := by norm_num }
  exact ⟨table, table', ht, ht', hb⟩

end
end ClusterBilling
