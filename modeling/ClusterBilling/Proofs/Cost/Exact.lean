import ClusterBilling.Proofs.Cost.Hours

/-! Bills without rounding: costs and hours as rational numbers. -/
namespace ClusterBilling

/-- Exact arithmetic, in which every operation gives just what it says. -/
instance : Arithmetic ℚ where
  ofNat n := n
  ofMicros n := n / 1000000
  isZero x := x = 0
  isPositive x := 0 < x
  isNonpositive x := x ≤ 0

namespace Arithmetic

@[simp] theorem ofNat_rat (n : ℕ) : (ofNat n : ℚ) = n := rfl

@[simp] theorem isZero_rat (x : ℚ) : isZero x = decide (x = 0) := rfl

@[simp] theorem isPositive_rat (x : ℚ) : isPositive x = decide (0 < x) := rfl

@[simp] theorem isNonpositive_rat (x : ℚ) : isNonpositive x = decide (x ≤ 0) := rfl

end Arithmetic

section
variable {start finish : Time.Moment}

theorem hoursBetween_pos (h : start.Before finish) :
    ∃ hours : ℚ, hoursBetween? start finish = some hours ∧ 0 < hours := by
  obtain ⟨n, hn, hpos⟩ := h
  have hq : (0 : ℚ) < n := by exact_mod_cast hpos
  refine ⟨n / 1000000 / (3600 : ℕ), ?_, by positivity⟩
  rw [hoursBetween?, hn]
  rfl

theorem dataMinutes_pos (h : start.Before finish) (dataCount : List (Series ℚ)) :
    ∃ minutes, dataMinutes? dataCount start finish = some minutes ∧ 0 < minutes := by
  obtain ⟨hours, hh, hpos⟩ := hoursBetween_pos h
  unfold dataMinutes?
  cases ho : observedMinutes? dataCount with
  | none =>
    rw [hh]
    exact ⟨hours * (60 : ℕ), rfl, by positivity⟩
  | some minutes => exact ⟨minutes, rfl, of_decide_eq_true (isPositive_of_observedMinutes ho)⟩

/-- Exact hours are always those of the data. -/
theorem billedHours_of_pos {hours : ℚ} (h : 0 < hours) :
    billedHours start finish hours = .ok hours := by
  unfold billedHours
  simp [h.ne', h]

/-- The hours of the data are there and positive, whatever was answered. -/
theorem dataHours_exact (h : start.Before finish) (dataCount : List (Series ℚ)) :
    ∃ minutes hours, dataMinutes? dataCount start finish = some minutes ∧
      billedHours start finish (minutes / Arithmetic.ofNat minutesPerHour) = .ok hours ∧
      0 < hours := by
  obtain ⟨minutes, hm, hpos⟩ := dataMinutes_pos h dataCount
  have hh : 0 < minutes / Arithmetic.ofNat minutesPerHour :=
    div_pos hpos (by norm_num [minutesPerHour])
  exact ⟨minutes, _, hm, billedHours_of_pos hh, hh⟩

end
end ClusterBilling
