import ClusterBilling.Decimal.Numeral
import ClusterBilling.Proofs.Decimal.Readings
import ClusterBilling.Proofs.Decimal.Significant

/-!
Decimal numbers become the nearest floating-point numbers, by whatever way they are computed.
-/
namespace ClusterBilling.Decimal
open Float.Model Float.Model.UnpackedFloat

section bounds
variable {q : ℚ}

theorem floor_le_nearestInteger (q : ℚ) : ⌊q⌋ ≤ nearestInteger q := by
  change q.floor ≤ nearestInteger q
  unfold nearestInteger
  dsimp only
  split_ifs <;> omega

/-- Above the subnormal numbers rounding keeps the leading bit. -/
theorem two_pow_leadingBit_le (hq : 0 < q) (h : -1022 ≤ leadingBit q) :
    (2 : ℚ) ^ leadingBit q ≤ nearestInteger (q / 2 ^ lastPlace q) * 2 ^ lastPlace q := by
  have hlast : lastPlace q = leadingBit q - 52 := by
    unfold lastPlace
    omega
  have hpow : (0 : ℚ) < 2 ^ lastPlace q := by positivity
  have hfloor : (2 ^ 52 : ℤ) ≤ ⌊q / 2 ^ lastPlace q⌋ := by
    refine Int.le_floor.mpr ?_
    rw [le_div_iff₀ hpow, hlast, zpow_sub₀ two_ne_zero]
    push_cast
    refine le_trans (le_of_eq ?_) (leadingBit_bounds hq).1
    field_simp
  have hbig : (2 ^ 52 : ℚ) ≤ nearestInteger (q / 2 ^ lastPlace q) := by
    exact_mod_cast hfloor.trans (floor_le_nearestInteger _)
  calc (2 : ℚ) ^ leadingBit q = 2 ^ 52 * 2 ^ lastPlace q := by
        rw [hlast, zpow_sub₀ two_ne_zero]
        field_simp
    _ ≤ _ := by gcongr

theorem of_nearest_eq_some {v : ℚ} (h : nearest q = some v) :
    v = nearestInteger (q / 2 ^ lastPlace q) * 2 ^ lastPlace q ∧ v < 2 ^ (1024 : ℤ) := by
  unfold nearest at h
  dsimp only at h
  split_ifs at h with hlt
  rw [← Option.some.inj h, spacing_eq] at *
  exact ⟨rfl, hlt⟩

theorem nonneg_of_nearest {v : ℚ} (h : 0 ≤ q) (hv : nearest q = some v) : 0 ≤ v := by
  have hpow : (0 : ℚ) < 2 ^ lastPlace q := by positivity
  have hfloor : 0 ≤ ⌊q / 2 ^ lastPlace q⌋ := Int.floor_nonneg.mpr (by positivity)
  have hint : (0 : ℚ) ≤ nearestInteger (q / 2 ^ lastPlace q) := by
    exact_mod_cast hfloor.trans (floor_le_nearestInteger _)
  rw [(of_nearest_eq_some hv).1]
  positivity

/-- A number that is not below a power of two is not rounded below it. -/
theorem two_pow_le_nearest {k : ℤ} {v : ℚ} (hk : -1022 ≤ k) (h : (2 : ℚ) ^ k ≤ q)
    (hv : nearest q = some v) : (2 : ℚ) ^ k ≤ v := by
  have hq : 0 < q := (zpow_pos two_pos k).trans_le h
  have hlead : k ≤ leadingBit q := by
    have := (zpow_lt_zpow_iff_right₀ one_lt_two).mp (h.trans_lt (leadingBit_bounds hq).2)
    omega
  calc (2 : ℚ) ^ k ≤ 2 ^ leadingBit q := zpow_le_zpow_right₀ one_le_two hlead
    _ ≤ nearestInteger (q / 2 ^ lastPlace q) * 2 ^ lastPlace q :=
        two_pow_leadingBit_le hq (hk.trans hlead)
    _ = v := (of_nearest_eq_some hv).1.symm

/-- Beyond the finite numbers there is none that is nearest. -/
theorem nearest_eq_none (h : (2 : ℚ) ^ (1024 : ℤ) ≤ q) : nearest q = none := by
  rw [Option.eq_none_iff_forall_ne_some]
  intro v hv
  exact absurd (two_pow_le_nearest (by norm_num) h hv) (not_le.mpr (of_nearest_eq_some hv).2)

/-- Below half of the least number there is only zero. -/
theorem nearest_eq_zero (h0 : 0 < q) (h : q < 2 ^ (-1075 : ℤ)) : nearest q = some 0 := by
  have hlead := leadingBit_lt h0 h
  have hlast : lastPlace q = -1074 := by
    unfold lastPlace
    omega
  have hpow : (0 : ℚ) < 2 ^ (-1074 : ℤ) := by positivity
  have hhalf : (2 : ℚ) ^ (-1075 : ℤ) = 1 / 2 * 2 ^ (-1074 : ℤ) := by
    rw [show (-1075 : ℤ) = -1 + -1074 by norm_num, zpow_add₀ two_ne_zero]
    norm_num
  have hint : nearestInteger (q / 2 ^ (-1074 : ℤ)) = 0 := by
    apply nearestInteger_of_near
    rw [if_pos (by norm_num)]
    rw [Int.cast_zero, zero_sub, zero_add, div_le_iff₀ hpow, ← hhalf]
    exact ⟨le_trans (by norm_num) (div_nonneg h0.le hpow.le), h.le⟩
  have hfinite : ((0 : ℤ) : ℚ) * 2 ^ (-1074 : ℤ) < 2 ^ (1024 : ℤ) := by
    rw [Int.cast_zero, zero_mul]
    positivity
  simp only [nearest, spacing_eq, hlast, hint, if_pos hfinite]
  simp

end bounds

section powers

/-- The number `n`, with its leading bit set. -/
def isNormal (n : ℕ) : UnpackedFloat → Bool
  | .finite .positive m e _ =>
    2 ^ 52 ≤ m && m < 2 ^ 53 && -52 ≤ e && e ≤ 971 && m * 2 ^ e.toNat = n * 2 ^ (-e).toNat
  | _ => false

theorem represents_of_isNormal {u : UnpackedFloat} {n : ℕ} (h : isNormal n u = true) :
    Represents u (some n) := by
  unfold isNormal at h
  split at h
  · next m e hm =>
    simp only [Bool.and_eq_true, decide_eq_true_eq] at h
    obtain ⟨⟨⟨⟨hlow, hhigh⟩, he⟩, he'⟩, hn⟩ := h
    refine .inr ⟨m, e, hm, rfl, ⟨hhigh, by omega, .inl hlow⟩, he', ?_⟩
    have hn : (m : ℚ) * 2 ^ e.toNat = n * 2 ^ (-e).toNat := by exact_mod_cast hn
    obtain ⟨i, j, hi, hj, hij⟩ : ∃ i j : ℕ, i = e.toNat ∧ j = (-e).toNat ∧ e = i - j :=
      ⟨_, _, rfl, rfl, by omega⟩
    rw [← hi, ← hj] at hn
    rw [hij, zpow_sub₀ two_ne_zero, zpow_natCast, zpow_natCast, mul_div_assoc', hn]
    field_simp
  · cases h

theorem hasValue_powerOfTen {k : ℕ} (hk : k < 23) :
    HasValue (getElem Float.exactlyRepresentablePowersOfTen k hk) (some (10 ^ k : ℕ)) := by
  have hall : ∀ i : Fin 23, isNormal (10 ^ i.val)
      (getElem Float.exactlyRepresentablePowersOfTen i.val i.isLt).toModel.unpack = true := by
    decide +kernel
  exact represents_of_isNormal (hall ⟨k, hk⟩)

/-- Integers of at most 53 bits are floating-point numbers. -/
theorem nearest_natCast {n : ℕ} (h : n < 2 ^ 53) : nearest n = some (n : ℚ) := by
  rcases Nat.eq_zero_or_pos n with rfl | hn
  · exact_mod_cast nearest_zero
  · have hlog : n.log2 ≤ 52 := Nat.le_of_lt_succ ((Nat.log2_lt hn.ne').mpr h)
    have hshift := log2_shiftLeft hn (52 - n.log2)
    have hpos : 0 < n <<< (52 - n.log2) := by simp [hn]
    have hvalue := shiftLeft_value n 0 (52 - n.log2)
    rw [zpow_zero, mul_one] at hvalue
    rw [← hvalue]
    refine nearest_canonical ⟨?_, by omega, .inl ?_⟩ hpos (by omega)
    · exact (Nat.log2_lt hpos.ne').mp (by omega)
    · exact (Nat.le_log2 hpos.ne').mp (by omega)

theorem hasValue_toFloat {n : UInt64} (h : n.toNat < 2 ^ 53) :
    HasValue n.toFloat (some n.toNat) := by
  change Represents (unpack .binary64 (pack .binary64
    (normalize .binary64 (n.toNat : ℤ) 0 .positive))) _
  rcases Nat.eq_zero_or_pos n.toNat with h0 | hn
  · rw [h0]
    exact .inl ⟨rfl, Nat.cast_zero⟩
  · rw [← nearest_natCast h]
    simpa using represents_normalize hn 0 .positive

end powers

section scientific
variable {d : ℕ} {p : ℤ}

/-- Digits and a power of ten are rounded together. -/
theorem represents_ofScientific (hd : 0 < d) (hhigh : p ≤ 2048) (hlow : -(2048 + d.log2) ≤ p) :
    Represents (unpack .binary64 (pack .binary64 (.ofScientific .binary64 d p)))
      (nearest (d * 10 ^ p)) := by
  have hbits : (2 : ℤ) ^ Format.binary64.exponentBits = 2048 := by norm_num
  unfold UnpackedFloat.ofScientific
  rw [hbits, dif_neg hd.ne', if_neg (by omega), if_neg (by omega)]
  split_ifs with hp
  · obtain ⟨k, rfl⟩ := Int.eq_ofNat_of_zero_le hp
    have hpos : 0 < d <<< 53 * 10 ^ k := by simp [hd]
    have hlog : 53 ≤ (d <<< 53 * 10 ^ k).log2 := by
      rw [Nat.le_log2 hpos.ne', Nat.shiftLeft_eq]
      calc 2 ^ 53 ≤ d * 2 ^ 53 := Nat.le_mul_of_pos_left _ hd
        _ ≤ d * 2 ^ 53 * 10 ^ k := Nat.le_mul_of_pos_right _ (by positivity)
    have hvalue : (d * 10 ^ (k : ℤ) : ℚ) = ((d <<< 53 * 10 ^ k : ℕ) : ℚ) * 2 ^ (-53 + 0 : ℤ) := by
      rw [Nat.shiftLeft_eq, zpow_natCast]
      push_cast
      norm_num
      ring
    rw [hvalue]
    change Represents (unpack .binary64 (pack .binary64
      (roundWithAccuracy .binary64 .positive (d <<< 53 * 10 ^ k) (-53 + 0) .exact))) _
    exact represents_exact hpos (by omega)
  · have hvalue : (d * 10 ^ p : ℚ) =
        d * 2 ^ (0 : ℤ) / (((10 ^ (-p).toNat : ℕ) : ℚ) * 2 ^ (0 : ℤ)) := by
      obtain ⟨k, hk, hp⟩ : ∃ k : ℕ, k = (-p).toNat ∧ p = -k := ⟨_, rfl, by omega⟩
      rw [← hk, hp, zpow_neg, zpow_natCast]
      push_cast
      field_simp
    rw [hvalue]
    exact represents_div hd _

/-- Few digits are multiplied or divided by a power of ten, which is exact. -/
theorem hasValue_ofScientific (hd : 0 < d) (hhigh : p ≤ 2048) (hlow : -(2048 + d.log2) ≤ p) :
    HasValue (Float.ofScientific d (p < 0) p.natAbs) (nearest (d * 10 ^ p)) := by
  unfold Float.ofScientific
  by_cases h : d < 2 ^ 53 ∧ p.natAbs ≤ 22
  · have hd64 : d.toUInt64.toNat = d := by
      rw [Nat.toUInt64, UInt64.toNat_ofNat', Nat.mod_eq_of_lt]
      omega
    have hx : HasValue d.toUInt64.toFloat (some d) := by
      have := hasValue_toFloat (n := d.toUInt64) (by omega)
      rwa [hd64] at this
    have hy := hasValue_powerOfTen (k := p.natAbs) (by omega)
    rw [dif_pos h]
    split_ifs with hp
    · have hvalue : (d * 10 ^ p : ℚ) = d / ((10 ^ p.natAbs : ℕ) : ℚ) := by
        have hneg : p = -(p.natAbs : ℤ) := by
          rw [decide_eq_true_eq] at hp
          omega
        rw [hneg, zpow_neg, zpow_natCast, Int.natAbs_neg, Int.natAbs_natCast, div_eq_mul_inv]
        push_cast
        rfl
      rw [hvalue]
      exact hasValue_div hx hy (by positivity)
    · have hvalue : (d * 10 ^ p : ℚ) = d * ((10 ^ p.natAbs : ℕ) : ℚ) := by
        have hnonneg : p = p.natAbs := by
          rw [decide_eq_true_eq] at hp
          omega
        rw [hnonneg, zpow_natCast, Int.natAbs_natCast]
        push_cast
        rfl
      rw [hvalue]
      exact hasValue_mul hx hy
  · rw [dif_neg h]
    have hpower : (if decide (p < 0) = true then Int.negOfNat p.natAbs else Int.ofNat p.natAbs) =
        p := by
      split_ifs with hp <;> rw [decide_eq_true_eq] at hp
      · rw [Int.negOfNat_eq, Int.ofNat_eq_natCast]
        omega
      · rw [Int.ofNat_eq_natCast]
        omega
    simp only [hpower]
    exact represents_ofScientific hd hhigh hlow

end scientific

section nearestFloat
variable {d : ℕ} {p : ℤ}

theorem two_pow_le_ten_pow {i j : ℕ} (h : 2 ^ i ≤ 10 ^ j) : (2 : ℚ) ^ (i : ℤ) ≤ 10 ^ (j : ℤ) := by
  rw [zpow_natCast, zpow_natCast]
  exact_mod_cast h

theorem digits_bounds (hd : 0 < d) : (10 : ℚ) ^ (p + (digitChars d).length - 1) ≤ d * 10 ^ p ∧
    (d : ℚ) * 10 ^ p < 10 ^ (p + (digitChars d).length) := by
  have hlow : (10 : ℚ) ^ Nat.log 10 d ≤ d := by exact_mod_cast Nat.pow_log_le_self 10 hd.ne'
  have hhigh : (d : ℚ) < 10 ^ (Nat.log 10 d + 1) := by
    exact_mod_cast Nat.lt_pow_succ_log_self (by norm_num) d
  have hsplit (k : ℕ) : (10 : ℚ) ^ (p + k) = 10 ^ k * 10 ^ p := by
    rw [zpow_add₀ (by norm_num), zpow_natCast, mul_comm]
  rw [length_digitChars hd]
  constructor
  · rw [show p + ((Nat.log 10 d + 1 : ℕ) : ℤ) - 1 = p + (Nat.log 10 d : ℕ) by push_cast; ring,
      hsplit]
    gcongr
  · rw [hsplit]
    gcongr

theorem log10_le_log2 (d : ℕ) : Nat.log 10 d ≤ d.log2 := by
  rw [Nat.log2_eq_log_two]
  exact Nat.log_anti_left (by norm_num) (by norm_num)

/-- Any digits and any power of ten make the number that is nearest to them. -/
theorem hasValue_nearestFloat (d : ℕ) (p : ℤ) :
    HasValue (nearestFloat false d p) (nearest (d * 10 ^ p)) := by
  unfold nearestFloat
  simp only [Bool.false_eq_true, if_false]
  split_ifs with h0 hhigh hlow
  · rw [h0, Nat.cast_zero, zero_mul, nearest_zero]
    exact .inl ⟨rfl, rfl⟩
  · have hlarge : (2 : ℚ) ^ (1024 : ℤ) ≤ d * 10 ^ p := by
      calc (2 : ℚ) ^ (1024 : ℤ) ≤ 10 ^ (310 : ℤ) :=
            @two_pow_le_ten_pow 1024 310 (by decide +kernel)
        _ ≤ 10 ^ (p + (digitChars d).length - 1) :=
            zpow_le_zpow_right₀ (by norm_num) (by omega)
        _ ≤ d * 10 ^ p := (digits_bounds (Nat.pos_of_ne_zero h0)).1
    rw [nearest_eq_none hlarge]
    rfl
  · have hpos := Nat.pos_of_ne_zero h0
    have hsmall : (d * 10 ^ p : ℚ) < 2 ^ (-1075 : ℤ) := by
      calc (d * 10 ^ p : ℚ) < 10 ^ (p + (digitChars d).length) := (digits_bounds hpos).2
        _ ≤ 10 ^ (-(331 : ℕ) : ℤ) := zpow_le_zpow_right₀ (by norm_num) (by push_cast; omega)
        _ ≤ 2 ^ (-(1075 : ℕ) : ℤ) := by
          rw [zpow_neg, zpow_neg]
          gcongr
          exact two_pow_le_ten_pow (by decide +kernel)
    rw [nearest_eq_zero (by positivity) hsmall]
    exact .inl ⟨rfl, rfl⟩
  · have hpos := Nat.pos_of_ne_zero h0
    have hlog := log10_le_log2 d
    rw [length_digitChars hpos] at hhigh hlow
    push_cast at hhigh hlow
    exact hasValue_ofScientific hpos (by omega) (by omega)

end nearestFloat
end ClusterBilling.Decimal
