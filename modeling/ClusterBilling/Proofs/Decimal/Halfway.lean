import ClusterBilling.Proofs.Decimal.Packing

/-!
How far rounding moves a number: by at most half a unit of its last place. What was exact stays so.
-/
namespace ClusterBilling.Decimal
open Float.Model Float.Model.UnpackedFloat

/-- The mantissa and its two residual bits, in halves of a unit, stand for the exact number `x`. -/
def StandsFor (em : ExtendedMantissa) (x : ℚ) : Prop :=
  if em.stickyBit then
    (em.roundBit.toNat : ℚ) < 2 * (x - em.mantissa) ∧
      2 * (x - em.mantissa) < em.roundBit.toNat + 1
  else 2 * (x - em.mantissa) = em.roundBit.toNat

theorem StandsFor.shiftRightOne {em : ExtendedMantissa} {x : ℚ} (h : StandsFor em x) :
    StandsFor em.shiftRightOne (x / 2) := by
  obtain ⟨m, r, s⟩ := em
  have hm : (m : ℚ) = 2 * (m / 2 : ℕ) + (m % 2 : ℕ) := by
    exact_mod_cast (Nat.div_add_mod m 2).symm
  have hbit : ((m % 2 != 0).toNat : ℚ) = (m % 2 : ℕ) := by
    rcases Nat.mod_two_eq_zero_or_one m with h2 | h2 <;> simp [h2]
  unfold StandsFor ExtendedMantissa.shiftRightOne at *
  simp only [hbit] at *
  cases r <;> cases s <;> simp at h ⊢
  · linarith
  · constructor <;> linarith
  · constructor <;> linarith
  · constructor <;> linarith

theorem StandsFor.shiftRight {em : ExtendedMantissa} {x : ℚ} (h : StandsFor em x) (n : ℕ) :
    StandsFor (em >>> n) (x / 2 ^ n) := by
  change StandsFor (n.repeat ExtendedMantissa.shiftRightOne em) _
  induction n with
  | zero => simpa [Nat.repeat] using h
  | succ n ih =>
    rw [Nat.repeat, pow_succ, ← div_div]
    exact ih.shiftRightOne

/-- A mantissa is rounded by its residual bits to one of the nearest integers. -/
theorem StandsFor.rounded {em : ExtendedMantissa} {x : ℚ} (h : StandsFor em x) :
    |(em.roundedMantissa : ℚ) - x| ≤ 1 / 2 := by
  obtain ⟨m, r, s⟩ := em
  have hodd : ((m % 2 : ℕ) : ℚ) ≤ 1 := by exact_mod_cast Nat.lt_succ_iff.mp (Nat.mod_lt m two_pos)
  have hodd' : (0 : ℚ) ≤ (m % 2 : ℕ) := Nat.cast_nonneg _
  unfold StandsFor at h
  cases r <;> cases s <;>
    simp [ExtendedMantissa.roundedMantissa, ExtendedMantissa.accuracy,
      Accuracy.roundToNearestEven] at h ⊢ <;> rw [abs_le] <;> constructor <;> linarith

/-- A remainder tells all that rounding wants to know of a quotient. -/
theorem standsFor_quotient (m : ℕ) {n : ℕ} (hn : 0 < n) :
    StandsFor (.ofMantissaAndAccuracy (m / n) (accuracyOfFraction (m % n) n)) (m / n : ℚ) := by
  have hq : (0 : ℚ) < n := by exact_mod_cast hn
  have hlt : ((m % n : ℕ) : ℚ) < n := by exact_mod_cast Nat.mod_lt m hn
  have hx : 2 * ((m / n : ℚ) - (m / n : ℕ)) = 2 * (m % n : ℕ) / n := by
    have hm : (m : ℚ) = n * (m / n : ℕ) + (m % n : ℕ) := by
      exact_mod_cast (Nat.div_add_mod m n).symm
    field_simp
    linarith
  unfold accuracyOfFraction
  split_ifs with h0
  · simp [StandsFor, ExtendedMantissa.ofMantissaAndAccuracy, hx, h0]
  · have hpos : (0 : ℚ) < (m % n : ℕ) := by exact_mod_cast Nat.pos_of_ne_zero h0
    rcases hc : compare (2 * (m % n)) n with _ | _ | _ <;>
      simp only [StandsFor, ExtendedMantissa.ofMantissaAndAccuracy, hx, if_true,
        Bool.false_eq_true, if_false, Bool.toNat_true, Bool.toNat_false, Nat.cast_zero,
        Nat.cast_one, zero_add]
    · have hc : 2 * ((m % n : ℕ) : ℚ) < n := by exact_mod_cast Nat.compare_eq_lt.mp hc
      exact ⟨by positivity, (div_lt_one hq).mpr hc⟩
    · have hc : 2 * ((m % n : ℕ) : ℚ) = n := by exact_mod_cast Nat.compare_eq_eq.mp hc
      exact (div_eq_one_iff_eq hq.ne').mpr hc
    · have hc : (n : ℚ) < 2 * (m % n : ℕ) := by exact_mod_cast Nat.compare_eq_gt.mp hc
      refine ⟨(one_lt_div hq).mpr hc, (div_lt_iff₀ hq).mpr ?_⟩
      linarith

/-- A canonical number nearest to `q`, or one of two that are equally near. -/
structure Near (q : ℚ) (m : ℕ) (e : ℤ) : Prop where
  canonical : Canonical m e
  halfway : |(m : ℚ) * 2 ^ e - q| ≤ 2 ^ (e - 1)

section
variable {m : ℕ} {e : ℤ} {acc : Accuracy}

/-- A carry changes the form of a rounded number, not its value. -/
theorem roundWithAccuracy_value {m' : ℕ} {e' : ℤ} {h : 0 < m'} (hm : 0 < m)
    (he : e ≤ max (m.log2 + 1 + e - 53) (-1074)) (hlo : -1074 ≤ m.log2 + e)
    (hr : roundWithAccuracy .binary64 .positive m e acc = .finite .positive m' e' h) :
    (m' : ℚ) * 2 ^ e' = roundedBits m e acc * 2 ^ (e + droppedBits m e) := by
  have hs := droppedBits_le_log2 hlo
  obtain ⟨hpos, hlog⟩ := log2_le_roundedBits hm hs acc
  have hle := roundedBits_le_two_pow hm hs acc
  have ht : -1074 ≤ e + droppedBits m e := by
    unfold droppedBits
    omega
  have hd := droppedBits_carry hle ht
  have hs' : droppedBits (roundedBits m e acc) (e + droppedBits m e) ≤
      (roundedBits m e acc).log2 := droppedBits_le_log2 (by omega)
  have hf := hr.symm.trans (roundWithAccuracy_of_pos rfl rfl (shifted_pos hpos hs'))
  generalize roundedBits m e acc = r at *
  generalize e + droppedBits m e = t at *
  obtain ⟨-, rfl, rfl⟩ := UnpackedFloat.finite.inj hf
  split_ifs at hd with hc
  · have h1 : droppedBits r t = 1 := by exact_mod_cast hd
    rw [h1, hc, zpow_add₀ two_ne_zero]
    norm_num
    ring
  · have h0 : droppedBits r t = 0 := by exact_mod_cast hd
    rw [h0]
    simp

/-- A number is rounded to a canonical one, from which it differs by at most half a unit of the last
place. -/
theorem roundWithAccuracy_near {q : ℚ} (hq : StandsFor (.ofMantissaAndAccuracy m acc) (q / 2 ^ e))
    (hm : 0 < m) (he : e ≤ max (m.log2 + 1 + e - 53) (-1074)) (hlo : -1074 ≤ m.log2 + e) :
    ∃ m' e' h, roundWithAccuracy .binary64 .positive m e acc = .finite .positive m' e' h ∧
      Near q m' e' := by
  obtain ⟨m', e', h, hr, hc, -, he'⟩ := roundWithAccuracy_eq hm he hlo acc
  refine ⟨m', e', h, hr, hc, ?_⟩
  rw [roundWithAccuracy_value hm he hlo hr]
  have hle : e + droppedBits m e ≤ e' := by
    unfold droppedBits
    split_ifs at he' <;> omega
  have hnear : |(roundedBits m e acc : ℚ) - q / 2 ^ (e + droppedBits m e)| ≤ 1 / 2 := by
    rw [zpow_add₀ two_ne_zero, ← div_div, zpow_natCast]
    exact (hq.shiftRight (droppedBits m e)).rounded
  generalize e + (droppedBits m e : ℤ) = t at *
  have hpow : (0 : ℚ) < 2 ^ t := by positivity
  calc |(roundedBits m e acc : ℚ) * 2 ^ t - q|
      = |(roundedBits m e acc : ℚ) - q / 2 ^ t| * 2 ^ t := by
        rw [← abs_of_pos hpow, ← abs_mul, abs_of_pos hpow, sub_mul, div_mul_cancel₀ _ hpow.ne']
    _ ≤ 1 / 2 * 2 ^ t := by gcongr
    _ = 2 ^ (t - 1) := by rw [zpow_sub_one₀ two_ne_zero]; ring
    _ ≤ 2 ^ (e' - 1) := zpow_le_zpow_right₀ one_le_two (by omega)

/-- A number rounded to few bits is not far from what it was. -/
theorem Near.lt_two_pow {q : ℚ} (h : Near q m e) {k : ℕ} (hk : q < 2 ^ k) :
    e + 52 ≤ k ∨ e = -1074 := by
  refine h.canonical.normal_or_least.imp_left fun hm => ?_
  by_contra hlt
  have hm : (2 ^ 52 : ℚ) ≤ m := by exact_mod_cast hm
  have hpow : (2 : ℚ) ^ k ≤ 2 ^ (e + 51) := by
    rw [← zpow_natCast]
    exact zpow_le_zpow_right₀ one_le_two (by omega)
  have he : (0 : ℚ) < 2 ^ (e - 1) := by positivity
  have h2 : (2 : ℚ) ^ e = 2 * 2 ^ (e - 1) := by rw [zpow_sub_one₀ two_ne_zero]; ring
  have h51 : (2 : ℚ) ^ (e + 51) = 2 ^ 52 * 2 ^ (e - 1) := by
    rw [← zpow_natCast, ← zpow_add₀ two_ne_zero]
    congr 1
    push_cast
    ring
  have hle := (abs_le.mp h.halfway).2
  rw [h2] at hle
  rw [h51] at hpow
  nlinarith

/-- An integer of at most 52 bits is not rounded. -/
theorem Near.eq_integer {k : ℕ} (h : Near k m e) (hk : k < 2 ^ 52) : (m : ℚ) * 2 ^ e = k := by
  have hk' : (k : ℚ) < 2 ^ 52 := by exact_mod_cast hk
  have he : e ≤ 0 := by rcases h.lt_two_pow hk' with h | h <;> omega
  obtain ⟨s, rfl⟩ : ∃ s : ℕ, e = -s := ⟨(-e).toNat, by omega⟩
  have hpow : (0 : ℚ) < 2 ^ s := by positivity
  have hhalf := h.halfway
  rw [zpow_sub_one₀ two_ne_zero, zpow_neg, zpow_natCast] at *
  -- in units of the last place both sides are integers, less than one apart
  have hint : |((m : ℤ) - k * 2 ^ s : ℤ)| < 1 := by
    have hlt : |(m : ℚ) - k * 2 ^ s| < 1 := by
      calc |(m : ℚ) - k * 2 ^ s| = |(m : ℚ) * (2 ^ s)⁻¹ - k| * 2 ^ s := by
            rw [← abs_of_pos hpow, ← abs_mul, abs_of_pos hpow, sub_mul,
              inv_mul_cancel_right₀ hpow.ne']
        _ ≤ (2 ^ s)⁻¹ * 2⁻¹ * 2 ^ s := by gcongr
        _ < 1 := by rw [mul_right_comm, inv_mul_cancel₀ hpow.ne']; norm_num
    exact_mod_cast hlt
  have heq : (m : ℤ) = k * 2 ^ s := by
    have := abs_lt.mp hint
    omega
  have heq : (m : ℚ) = k * 2 ^ s := by exact_mod_cast heq
  rw [heq, mul_inv_cancel_right₀ hpow.ne']

end

/-- The quotient of two numbers that are not too small is rounded to a nearest one. -/
theorem div_near {m₁ m₂ : ℕ} {e₁ e₂ : ℤ} (hm₁ : 0 < m₁) (hm₂ : 0 < m₂)
    (hlo : -1073 ≤ m₁.log2 + e₁ - (m₂.log2 + e₂)) :
    ∃ m e h, div .binary64 (.finite .positive m₁ e₁ hm₁) (.finite .positive m₂ e₂ hm₂) =
      .finite .positive m e h ∧ Near (m₁ * 2 ^ e₁ / (m₂ * 2 ^ e₂)) m e := by
  let t := min (e₁ - e₂) (max ((m₁.log2 + 1 + e₁) - (m₂.log2 + 1 + e₂) - 53) (-1074))
  let s := (e₁ - e₂ - t).toNat
  have hs := log2_shiftLeft hm₁ s
  have hst : t = e₁ - e₂ - s := by omega
  obtain ⟨hpos, hlog⟩ := le_log2_div (m := m₁ <<< s) hm₂ (by omega)
  have hq : (m₁ * 2 ^ e₁ / (m₂ * 2 ^ e₂) : ℚ) / 2 ^ t = (m₁ <<< s : ℕ) / (m₂ : ℚ) := by
    rw [hst, zpow_sub₀ two_ne_zero, zpow_sub₀ two_ne_zero, zpow_natCast, Nat.shiftLeft_eq]
    push_cast
    field_simp
  change ∃ m e h, roundWithAccuracy .binary64 .positive (m₁ <<< s / m₂) t _ = _ ∧ _
  exact roundWithAccuracy_near (hq ▸ standsFor_quotient _ hm₂) hpos (by omega) (by omega)

/-- An integer of at most 53 bits is a floating-point number. -/
theorem toFloat_exact {n : UInt64} (hn : 0 < n.toNat) (h53 : n.toNat < 2 ^ 53) : ∃ m e h,
    n.toFloat.toModel.unpack = .finite .positive m e h ∧ (m : ℚ) * 2 ^ e = n.toNat ∧
      0 ≤ m.log2 + e := by
  have hlog : n.toNat.log2 ≤ 52 := Nat.le_of_lt_succ ((Nat.log2_lt hn.ne').mpr h53)
  obtain ⟨s, hs, hround⟩ := round_eq n.toNat 0
  have hlogs := log2_shiftLeft hn s
  have hpos : 0 < n.toNat <<< s := by simp [hn]
  obtain ⟨m, e, h, hr, hc, hlo, he⟩ :=
    roundWithAccuracy_eq (e := 0 - s) hpos (by omega) (by omega) .exact
  have hd : droppedBits (n.toNat <<< s) (0 - s) = 0 := by
    unfold droppedBits
    omega
  have hbits : roundedBits (n.toNat <<< s) (0 - s) .exact = n.toNat <<< s := by
    change (ExtendedMantissa.mk (n.toNat <<< s) false false >>>
      droppedBits (n.toNat <<< s) (0 - s)).roundedMantissa = _
    rw [hd]
    rfl
  refine ⟨m, e, h, ?_, ?_, by omega⟩
  · change unpack .binary64 (pack .binary64 (normalize .binary64 (n.toNat : ℤ) 0 .positive)) = _
    rw [UnpackedFloat.normalize, Int.compare_eq_gt.mpr (by exact_mod_cast hn)]
    simp only [Int.toNat_natCast]
    rw [hround, hr, unpack_pack_canonical h hc (by split_ifs at he <;> omega)]
  · rw [roundWithAccuracy_value hpos (by omega) (by omega) hr, hbits, hd, Nat.shiftLeft_eq,
      zero_sub, Nat.cast_zero, add_zero, zpow_neg, zpow_natCast]
    push_cast
    exact mul_inv_cancel_right₀ (by positivity) _

end ClusterBilling.Decimal
