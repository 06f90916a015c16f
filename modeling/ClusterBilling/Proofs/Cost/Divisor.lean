import ClusterBilling.Proofs.Cost.Composition

/-!
The hours that bills divide by, between any two moments in UTC. Bills are refused just if something
is to be billed over hours that are not above zero, and for nothing else.
-/
namespace ClusterBilling
open Decimal Time Float.Model.UnpackedFloat

/-- The hours that were observed: those of the leading value of the first series, unless the value
is not above zero, or too close to zero to have hours above it. -/
def observedHours? (dataCount : List (Series Float)) : Option Float :=
  (dataCount.head?.bind Series.leading?).bind fun sample =>
    if 0 < sample.value ∧ (sample.value / 60 == 0) = false then some (sample.value / 60) else none

/-- The hours that bills divide by: observed, or else from one end of the window to the other,
by way of its minutes or not. -/
structure ResolvedHours (dataCount : List (Series Float)) (start finish : Moment) (hours : Float) :
    Prop where
  observed : ∀ h, observedHours? dataCount = some h → hours = h
  window : observedHours? dataCount = none →
    ∃ w, hoursBetween? start finish = some w ∧ (hours = w ∨ hours = w * 60 / 60)

namespace ResolvedHours
variable {dataCount : List (Series Float)} {start finish : Moment} {hours w : Float}

theorem of_observed (h : observedHours? dataCount = some hours) :
    ResolvedHours dataCount start finish hours where
  observed _ h' := Option.some.inj (h.symm.trans h')
  window h' := nomatch h.symm.trans h'

theorem of_window (h : observedHours? dataCount = none) (hw : hoursBetween? start finish = some w)
    (hh : hours = w ∨ hours = w * 60 / 60) : ResolvedHours dataCount start finish hours where
  observed _ h' := nomatch h.symm.trans h'
  window _ := ⟨w, hw, hh⟩

end ResolvedHours

/-! ### The hours of a window -/

theorem secondsOfMicros_neg {n : ℤ} (hn : 0 < n) : secondsOfMicros (-n) = -secondsOfMicros n := by
  unfold secondsOfMicros nearestFloat
  have h : (-n).natAbs = n.natAbs := Int.natAbs_neg n
  simp only [h, Int.neg_neg_iff_pos.mpr hn, not_lt.mpr hn.le, decide_true, decide_false, if_true,
    Bool.false_eq_true, if_false]

theorem secondsOfMicros_negative {n : ℤ} (hn : n < 0) : OnSide .negative (secondsOfMicros n) := by
  have hpos : 0 < -n := neg_pos.mpr hn
  rw [← neg_neg n, secondsOfMicros_neg hpos]
  exact (secondsOfMicros_reaches hpos).onSide.neg

section
variable {start finish : Moment}

theorem hoursBetween_of_utc (hs : start.offset? = some 0) (hf : finish.offset? = some 0) :
    ∃ w : Float, hoursBetween? start finish = some w ∧
      (start.clock < finish.clock ∧ OnSide .positive w ∧ 0 < w ∨
        start.clock = finish.clock ∧ w = 0 ∨ finish.clock < start.clock ∧ OnSide .negative w) := by
  have hw : hoursBetween? start finish =
      some (secondsOfMicros (finish.clock - start.clock) / Float.ofNat 3600) := by
    rw [hoursBetween?, Moment.micros?_of_utc hs hf]
    rfl
  rcases lt_trichotomy start.clock finish.clock with h | h | h
  · obtain ⟨w, hw, hr⟩ := hoursBetween_reaches ((Moment.before_iff_of_utc hs hf).mpr h)
    exact ⟨w, hw, .inl ⟨h, hr.onSide, hr.pos⟩⟩
  · refine ⟨_, hw, .inr (.inl ⟨h, ?_⟩)⟩
    rw [h, sub_self]
    rfl
  · refine ⟨_, hw, .inr (.inr ⟨h, ?_⟩)⟩
    exact (secondsOfMicros_negative (by omega)).div_hour

/-- The hours of a window are above zero just if time passes in it, and no rounding on the way
through its minutes changes that. -/
theorem windowHours_pos_iff {w : Float} (hs : start.offset? = some 0)
    (hf : finish.offset? = some 0) (hw : hoursBetween? start finish = some w) :
    (∃ s, OnSide s w) ∧ (0 < w ↔ start.clock < finish.clock) ∧
      ((w * 60 / 60 == 0) = false → (0 < w * 60 / 60 ↔ start.clock < finish.clock)) := by
  obtain ⟨w', hw', hcases⟩ := hoursBetween_of_utc hs hf
  obtain rfl : w' = w := Option.some.inj (hw'.symm.trans hw)
  rcases hcases with ⟨h, hw, hpos⟩ | ⟨h, rfl⟩ | ⟨h, hw⟩
  · exact ⟨⟨_, hw⟩, iff_of_true hpos h, fun h0 => iff_of_true (hw.mul_sixty.div_sixty.pos h0) h⟩
  · exact ⟨⟨.positive, .zero⟩, iff_of_false (by decide) h.not_lt, fun h0 => absurd h0 (by decide)⟩
  · exact ⟨⟨_, hw⟩, iff_of_false hw.not_pos h.not_gt,
      fun _ => iff_of_false hw.mul_sixty.div_sixty.not_pos h.not_gt⟩

/-! ### The hours of a bill -/

theorem observedHours?_eq (dataCount : List (Series Float)) :
    observedHours? dataCount = (observedMinutes? dataCount).bind fun minutes =>
      if (minutes / 60 == 0) = false then some (minutes / 60) else none := by
  rw [observedHours?, observedMinutes?_eq]
  cases dataCount.head?.bind Series.leading? with
  | none => rfl
  | some sample =>
    have hp : Arithmetic.isPositive sample.value = decide (0 < sample.value) := rfl
    simp only [Option.bind_some, hp, decide_eq_true_eq]
    by_cases h : 0 < sample.value
    · rw [if_pos h, Option.bind_some]
      exact if_congr (and_iff_right h) rfl rfl
    · rw [if_neg h, if_neg fun hc => h hc.1]
      rfl

/-- Hours that come from the data, or from the window where those are zero. -/
theorem billedHours_of_onSide {dataHours hours w : Float} {s : Float.Model.UnpackedFloat.Sign}
    (hw : hoursBetween? start finish = some w)
    (hh : (if dataHours == 0 then w else dataHours) = hours) (h : OnSide s hours) :
    billedHours start finish dataHours =
      if 0 < hours then .ok hours else .error (.noHours start finish hours) := by
  have hn : Arithmetic.isNonpositive hours = decide (¬ 0 < hours) :=
    decide_eq_decide.mpr h.nonpositive_iff
  have hh : (if Arithmetic.isZero dataHours then hoursBetween? start finish else some dataHours) =
      some hours := by
    rw [hw, ← hh]
    exact (apply_ite some _ _ _).symm
  unfold billedHours
  simp only [hh, hn, decide_not, Bool.not_eq_true', decide_eq_false_iff_not]
  exact ite_not _ _ _

/-- What the hours of a batch come from, when they are above zero, and when they are refused. -/
theorem exists_resolvedHours (hs : start.offset? = some 0) (hf : finish.offset? = some 0)
    (dataCount : List (Series Float)) :
    ∃ minutes hours, dataMinutes? dataCount start finish = some minutes ∧
      ResolvedHours dataCount start finish hours ∧
      (0 < hours ↔ (observedHours? dataCount).isSome ∨ start.clock < finish.clock) ∧
      billedHours start finish (minutes / 60) =
        if 0 < hours then .ok hours else .error (.noHours start finish hours) := by
  obtain ⟨w, hw, -⟩ := hoursBetween_of_utc hs hf
  obtain ⟨⟨s, hside⟩, hpos, hpos'⟩ := windowHours_pos_iff hs hf hw
  have ho := observedHours?_eq dataCount
  have hnone (h : observedHours? dataCount = none) :
      (observedHours? dataCount).isSome ∨ start.clock < finish.clock ↔
        start.clock < finish.clock := by
    simp [h]
  unfold dataMinutes?
  cases hobs : observedMinutes? dataCount with
  | some minutes =>
    rw [hobs, Option.bind_some] at ho
    have hm : 0 < minutes := of_decide_eq_true (isPositive_of_observedMinutes hobs)
    have hd := (onSide_of_pos hm).div_sixty
    cases hz : minutes / 60 == 0 with
    | true =>
      rw [hz, if_neg (by decide)] at ho
      exact ⟨minutes, w, rfl, .of_window ho hw (.inl rfl), hpos.trans (hnone ho).symm,
        billedHours_of_onSide hw (if_pos hz) hside⟩
    | false =>
      rw [hz, if_pos rfl] at ho
      refine ⟨minutes, minutes / 60, rfl, .of_observed ho, ?_,
        billedHours_of_onSide hw (if_neg (by simp [hz])) hd⟩
      exact iff_of_true (hd.pos hz) (.inl (by rw [ho]; rfl))
  | none =>
    rw [hobs, Option.bind_none] at ho
    rw [hw]
    cases hz : w * 60 / 60 == 0 with
    | true =>
      exact ⟨w * 60, w, rfl, .of_window ho hw (.inl rfl), hpos.trans (hnone ho).symm,
        billedHours_of_onSide hw (if_pos hz) hside⟩
    | false =>
      exact ⟨w * 60, w * 60 / 60, rfl, .of_window ho hw (.inr rfl),
        (hpos' hz).trans (hnone ho).symm,
        billedHours_of_onSide hw (if_neg (by simp [hz])) hside.mul_sixty.div_sixty⟩

/-! ### Bills -/

theorem billedClusters_eq_nil_iff {answers : Answers Float} {fallback : Text} :
    billedClusters answers fallback = [] ↔ ∀ c : Category, answers.of c.query = [] := by
  have hall (c : Category) : c ∈ Category.all := by cases c <;> decide
  have hcost : costSeries answers = [] ↔ ∀ c : Category, answers.of c.query = [] := by
    simp only [costSeries, List.flatMap_eq_nil_iff, List.map_eq_nil_iff, hall, true_imp_iff]
  rw [← hcost]
  simp only [billedClusters, List.eq_nil_iff_forall_not_mem, List.mem_eraseDups, List.mem_map,
    not_exists, not_and]
  exact ⟨fun h x hx => h _ x hx rfl, fun h _ x hx _ => h x hx⟩

theorem bills_refused {minutes : Float} {e : BillingError Float} {answers : Answers Float}
    {fallback : Text} {discounts : Discounts Float}
    (hm : dataMinutes? (answers.of "data_count") start finish = some minutes)
    (hh : billedHours start finish (minutes / 60) = .error e) :
    bills answers start finish fallback discounts =
      if billedClusters answers fallback = [] then .ok ∅ else .error e := by
  rw [bills_eq_mapM hm, ← keys_tallies answers fallback discounts]
  apply Table.mapM_of_error
  intro clusterId tally
  unfold billCluster Bill.ofCosts
  have hh : billedHours start finish (minutes / Arithmetic.ofNat minutesPerHour) = .error e := hh
  rw [hh]

/-- Between any two moments in UTC, bills are refused just if a cost query has a series and the
hours are not above zero. Whatever is billed divides by the same hours, above zero. -/
theorem bills_divide_by_positive_hours (hs : start.offset? = some 0)
    (hf : finish.offset? = some 0) (answers : Answers Float) (fallback : Text)
    (discounts : Discounts Float) :
    ∃ hours, ResolvedHours (answers.of "data_count") start finish hours ∧
      (0 < hours ↔ (observedHours? (answers.of "data_count")).isSome ∨
        start.clock < finish.clock) ∧
      (∀ e, bills answers start finish fallback discounts = .error e ↔
        (∃ c : Category, answers.of c.query ≠ []) ∧ ¬ 0 < hours ∧
          e = .noHours start finish hours) ∧
      ∀ table, bills answers start finish fallback discounts = .ok table →
        ∀ clusterId bill, (clusterId, bill) ∈ table.entries →
          0 < hours ∧ hours.isNaN = false ∧
            ∀ c, bill.monthly.get c = bill.cumulative.get c / hours * 730 := by
  obtain ⟨minutes, hours, hm, hr, hpos, hb⟩ := exists_resolvedHours hs hf (answers.of "data_count")
  refine ⟨hours, hr, hpos, ?_⟩
  by_cases h : 0 < hours
  · rw [if_pos h] at hb
    obtain ⟨table, ht, he⟩ := bills_of_hours answers fallback discounts hm hb
    rw [ht]
    refine ⟨fun e => iff_of_false (fun hc => nomatch hc) fun hc => hc.2.1 h, ?_⟩
    rintro _ ⟨⟩ clusterId bill hmem
    rw [he] at hmem
    obtain ⟨id, -, heq⟩ := List.mem_map.mp hmem
    obtain ⟨rfl, rfl⟩ := Prod.mk.inj heq
    exact ⟨h, isNaN_of_pos h, (billOver_composed answers fallback discounts hours id).monthly⟩
  · rw [if_neg h] at hb
    rw [bills_refused hm hb]
    by_cases hc : billedClusters answers fallback = []
    · rw [if_pos hc]
      refine ⟨fun e => iff_of_false (fun he => nomatch he) ?_, ?_⟩
      · rintro ⟨⟨c, hne⟩, -⟩
        exact hne (billedClusters_eq_nil_iff.mp hc c)
      · rintro _ ⟨⟩ clusterId bill hmem
        cases hmem
    · rw [if_neg hc]
      have hne : ∃ c : Category, answers.of c.query ≠ [] :=
        not_forall.mp (billedClusters_eq_nil_iff.not.mp hc)
      refine ⟨fun e => ⟨?_, fun he => he.2.2 ▸ rfl⟩, fun table ht => nomatch ht⟩
      rintro ⟨⟩
      exact ⟨hne, h, rfl⟩

/-- A window that ends before it starts: refused, unless minutes were observed. -/
theorem bills_divide_by_positive_hours_reversed :
    let later : Moment := ⟨719163 * Time.day, some 0, by decide⟩
    let costs : Answers Float := .ofList [("total_cpu", [⟨∅, [⟨0, 2.5⟩]⟩])]
    let counted : Answers Float :=
      .ofList [("total_cpu", [⟨∅, [⟨0, 2.5⟩]⟩]), ("data_count", [⟨∅, [⟨0, 120⟩]⟩])]
    (∃ hours, bills costs later .epoch "main" ⟨0.25, 0.5⟩ = .error (.noHours later .epoch hours)) ∧
      ResolvedHours (counted.of "data_count") later .epoch 2 ∧
      ∀ e, bills counted later .epoch "main" ⟨0.25, 0.5⟩ ≠ .error e := by
  intro later costs counted
  refine ⟨?refused, ?billed⟩
  case refused =>
    obtain ⟨hours, -, hpos, he, -⟩ :=
      @bills_divide_by_positive_hours later .epoch rfl rfl costs "main" ⟨0.25, 0.5⟩
    have hnot : ¬ 0 < hours := by
      rw [hpos]
      decide
    exact ⟨hours, (he _).mpr ⟨⟨.cpu, List.cons_ne_nil _ _⟩, hnot, rfl⟩⟩
  case billed =>
    obtain ⟨hours, hr, hpos, he, -⟩ :=
      @bills_divide_by_positive_hours later .epoch rfl rfl counted "main" ⟨0.25, 0.5⟩
    have ho : observedHours? (counted.of "data_count") = some 2 := by rfl
    obtain rfl := hr.observed 2 ho
    exact ⟨hr, fun e hc => ((he e).mp hc).2.1 (hpos.mpr (.inl (by rw [ho]; rfl)))⟩

end
end ClusterBilling
