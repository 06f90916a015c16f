import ClusterBilling.Proofs.Decimal.Denotation

/-!
What is left of a number that is written with six places, or with six significant digits. Of an
integer the leading digits remain, the last of them rounded.
-/
namespace ClusterBilling.Decimal
open Text

theorem Binary.fraction_value (b : Binary) :
    (b.fraction.1 : ℚ) / b.fraction.2 = b.mantissa * 2 ^ b.exponent := by
  unfold fraction
  rw [Nat.shiftLeft_eq, Nat.one_shiftLeft]
  push_cast
  rw [mul_div_assoc, ← zpow_natCast, ← zpow_natCast, ← zpow_sub₀ two_ne_zero]
  congr 2
  omega

/-- What is nearer to an integer than to any other is rounded to it. -/
theorem roundDiv_eq_of_near {num den t : ℕ} (hden : 0 < den)
    (h : |(num : ℚ) / den - t| < 1 / 2) : roundDiv num den = t := by
  have hq : (0 : ℚ) < den := by exact_mod_cast hden
  have hhi : (2 * num : ℚ) ≤ (2 * roundDiv num den + 1) * den := by
    exact_mod_cast (roundDiv_near hden).1
  have hlo : (2 * roundDiv num den * den : ℚ) ≤ 2 * num + den := by
    exact_mod_cast (roundDiv_near hden).2
  obtain ⟨h1, h2⟩ := abs_lt.mp h
  have hx : (num : ℚ) = num / den * den := (div_mul_cancel₀ _ hq.ne').symm
  generalize (num : ℚ) / den = x at *
  rw [hx] at hhi hlo
  have hlt : (roundDiv num den : ℚ) < t + 1 := by nlinarith
  have hgt : (t : ℚ) < roundDiv num den + 1 := by nlinarith
  have hlt : roundDiv num den < t + 1 := by exact_mod_cast hlt
  have hgt : t < roundDiv num den + 1 := by exact_mod_cast hgt
  omega

theorem roundDiv_mul_right (num : ℕ) {den c : ℕ} (hc : 0 < c) :
    roundDiv (num * c) (den * c) = roundDiv num den := by
  simp only [roundDiv, Nat.mul_div_mul_right _ _ hc, Nat.mul_mod_mul_right, ← mul_assoc]
  simp only [Nat.mul_lt_mul_right hc]

section places

theorem isNumeral_placesChars {places : ℕ} (hp : 0 < places) (count : ℕ) :
    IsNumeral (placesChars places count) (count / 10 ^ places) := by
  have hd : ∀ c ∈ digitChars count, c.isDigit := fun c => isDigit_digitChars
  have hval := digitsValue_digitChars count
  unfold placesChars
  generalize digitChars count = ds at *
  let padded := List.replicate (places + 1 - ds.length) '0' ++ ds
  have hlen : places < padded.length := by
    simp only [padded, List.length_append, List.length_replicate]
    omega
  have hd' : ∀ c ∈ padded, c.isDigit := by
    intro c hc
    rcases List.mem_append.mp hc with hc | hc
    · rw [(List.mem_replicate.mp hc).2]
      rfl
    · exact hd c hc
  have hval' : digitsValue padded = count := by
    rw [digitsValue_append, digitsValue_replicate_zero, zero_mul, zero_add, hval]
  change IsNumeral (padded.take (padded.length - places) ++ '.' ::
    padded.drop (padded.length - places)) _
  generalize padded = padded at *
  refine .mk (padded.take (padded.length - places)) (padded.drop (padded.length - places)) [] ?_ ?_
    ?_ isExponent_nil ?_
  · have hdrop : (padded.drop (padded.length - places)).isEmpty = false := by
      rw [List.isEmpty_eq_false_iff, ← List.length_pos_iff, List.length_drop]
      omega
    rw [numeral, hdrop]
    simp
  · rwa [List.take_append_drop]
  · rw [← List.length_pos_iff, List.length_take]
    omega
  · rw [List.take_append_drop, List.length_drop, hval', zero_sub, zpow_neg, zpow_natCast,
      div_eq_mul_inv]
    congr 3
    omega

/-- A number with six places is the nearest multiple of a millionth. -/
theorem denotes_fixed {places : ℕ} (hp : 0 < places) (b : Binary) :
    Denotes (b.fixed places).toList (if b.negative then
      -(roundDiv (b.fraction.1 * 10 ^ places) b.fraction.2 / 10 ^ places : ℚ) else
      roundDiv (b.fraction.1 * 10 ^ places) b.fraction.2 / 10 ^ places) := by
  unfold Binary.fixed
  dsimp only
  rw [String.toList_ofList]
  exact (isNumeral_placesChars hp _).denotes b.negative

end places

section significant

theorem length_digitChars {n : ℕ} (hn : 0 < n) : (digitChars n).length = Nat.log 10 n + 1 := by
  have hle (k : ℕ) : (digitChars n).length ≤ k + 1 ↔ Nat.log 10 n ≤ k := by
    rw [digitChars, Nat.length_toDigits_le_iff (by norm_num) (by omega), ← Nat.lt_succ_iff,
      Nat.log_lt_iff_lt_pow (by norm_num) hn.ne']
  have h1 := (hle (Nat.log 10 n)).mpr le_rfl
  have hpos : 0 < (digitChars n).length := Nat.length_toDigits_pos
  have h2 := (hle ((digitChars n).length - 1)).mp (by omega)
  omega

/-- The leading digit of an integer that is given as a quotient. -/
theorem leadingPower_integer {n den : ℕ} (hn : 0 < n) (hden : 0 < den) :
    leadingPower (n * den) den = Nat.log 10 n := by
  have hlo : Nat.log 10 n + Nat.log 10 den ≤ Nat.log 10 (n * den) := by
    rw [Nat.le_log_iff_pow_le (by norm_num) (Nat.mul_pos hn hden).ne', pow_add]
    exact Nat.mul_le_mul (Nat.pow_log_le_self 10 hn.ne') (Nat.pow_log_le_self 10 hden.ne')
  have hhi : Nat.log 10 (n * den) < Nat.log 10 n + Nat.log 10 den + 2 := by
    rw [Nat.log_lt_iff_lt_pow (by norm_num) (Nat.mul_pos hn hden).ne',
      show Nat.log 10 n + Nat.log 10 den + 2 = (Nat.log 10 n + 1) + (Nat.log 10 den + 1) by omega,
      pow_add]
    exact Nat.mul_lt_mul'' (Nat.lt_pow_succ_log_self (by norm_num) n)
      (Nat.lt_pow_succ_log_self (by norm_num) den)
  unfold leadingPower
  rw [length_digitChars (Nat.mul_pos hn hden), length_digitChars hden]
  obtain ⟨k, hk⟩ := Nat.exists_eq_add_of_le' (show Nat.log 10 den ≤ Nat.log 10 (n * den) by omega)
  have he : ((Nat.log 10 (n * den) + 1 : ℕ) : ℤ) - (Nat.log 10 den + 1 : ℕ) = k := by omega
  have hcond : den * Nat.pow 10 (k : ℤ).toNat ≤ n * den * Nat.pow 10 (-(k : ℤ)).toNat ↔
      k ≤ Nat.log 10 n := by
    have hzero : (-(k : ℤ)).toNat = 0 := by omega
    rw [hzero, Int.toNat_natCast, Nat.le_log_iff_pow_le (by norm_num) hn.ne', mul_comm den]
    simp only [Nat.pow_eq, pow_zero, mul_one]
    exact Nat.mul_le_mul_right_iff hden
  rw [he]
  simp only [hcond]
  split_ifs <;> omega

/-- Trailing zeros count as much in the exponent. -/
theorem Scaled.value_trim (s : Scaled) (fuel : ℕ) : (s.trim fuel).value = s.value := by
  induction fuel generalizing s with
  | zero => rfl
  | succ fuel ih =>
    rw [trim]
    split_ifs with h
    · have hdigits : ((s.digits / 10 : ℕ) : ℚ) * 10 = s.digits := by
        exact_mod_cast Nat.div_mul_cancel (Nat.dvd_of_mod_eq_zero h.2)
      have hvalue : ((s.digits / 10 : ℕ) : ℚ) * 10 ^ (s.exponent + 1) =
          s.digits * 10 ^ s.exponent := by
        rw [zpow_add_one₀ (by norm_num), mul_comm _ (10 : ℚ), ← mul_assoc, hdigits]
      rw [ih, value, value, hvalue]
    · rfl

/-- An integer with so many significant digits: the others are zero. -/
def roundToDigits (places n : ℕ) : ℕ :=
  let unit := 10 ^ (Nat.log 10 n + 1 - places)
  roundDiv n unit * unit

/-- An integer keeps its value just if no digit is lost but zeros. -/
theorem roundToDigits_eq_iff (places n : ℕ) :
    roundToDigits places n = n ↔ 10 ^ (Nat.log 10 n + 1 - places) ∣ n := by
  have hpos : 0 < 10 ^ (Nat.log 10 n + 1 - places) := by positivity
  constructor
  · intro h
    exact ⟨_, h.symm.trans (mul_comm _ _)⟩
  · intro h
    rw [roundToDigits, roundDiv_of_dvd hpos h, Nat.div_mul_cancel h]

/-- The digits of a positive number, none of them a zero at the end. -/
structure Scaled.IsTrimmed (s : Scaled) (v : ℚ) : Prop where
  positive : s.negative = false
  value : s.value = v
  last : s.digits % 10 ≠ 0

theorem Scaled.negative_trim (s : Scaled) (fuel : ℕ) : (s.trim fuel).negative = s.negative := by
  induction fuel generalizing s with
  | zero => rfl
  | succ fuel ih =>
    rw [trim]
    split_ifs
    · rw [ih]
    · rfl

/-- As many steps as there are digits after the first remove all zeros. -/
theorem Scaled.last_trim {s : Scaled} {fuel : ℕ} (h0 : 0 < s.digits)
    (hlt : s.digits < 10 ^ (fuel + 1)) : (s.trim fuel).digits % 10 ≠ 0 := by
  induction fuel generalizing s with
  | zero =>
    rw [trim]
    omega
  | succ fuel ih =>
    rw [trim]
    split_ifs with h
    · refine ih ?_ ?_
      · change 0 < s.digits / 10
        omega
      · change s.digits / 10 < 10 ^ (fuel + 1)
        rw [pow_succ] at hlt
        omega
    · exact fun h10 => h ⟨h0.ne', h10⟩

/-- Digits that end in a zero have a lower exponent than those that do not. -/
theorem exponent_le_of_last {d d' : ℕ} {e e' : ℤ} (h : (d : ℚ) * 10 ^ e = d' * 10 ^ e')
    (hd : d % 10 ≠ 0) : e' ≤ e := by
  by_contra hlt
  obtain ⟨k, rfl⟩ : ∃ k : ℕ, e' = e + (k + 1 : ℕ) := ⟨(e' - e - 1).toNat, by omega⟩
  have hpow : (10 : ℚ) ^ e ≠ 0 := by positivity
  have hq : (d : ℚ) = d' * 10 ^ (k + 1) := by
    rw [zpow_add₀ (by norm_num), zpow_natCast, mul_left_comm, mul_comm] at h
    exact mul_left_cancel₀ hpow h
  have hn : d = d' * 10 ^ k * 10 := by
    rw [mul_assoc, ← pow_succ]
    exact_mod_cast hq
  exact hd (by rw [hn, Nat.mul_mod_left])

/-- No other such digits stand for the same number. -/
theorem Scaled.IsTrimmed.unique {s t : Scaled} {v : ℚ} (hs : s.IsTrimmed v) (ht : t.IsTrimmed v) :
    s = t := by
  obtain ⟨b, d, e⟩ := s
  obtain ⟨b', d', e'⟩ := t
  obtain ⟨rfl, hv, hl⟩ := hs
  obtain ⟨rfl, hv', hl'⟩ := ht
  have h : (d : ℚ) * 10 ^ e = d' * 10 ^ e' := by
    simpa [Scaled.value] using hv.trans hv'.symm
  obtain rfl : e = e' := le_antisymm (exponent_le_of_last h.symm hl') (exponent_le_of_last h hl)
  have hd : (d : ℚ) = d' := mul_right_cancel₀ (by positivity) h
  obtain rfl : d = d' := by exact_mod_cast hd
  rfl

theorem Scaled.trim_isTrimmed {d : ℕ} {e : ℤ} {fuel : ℕ} {v : ℚ} (h0 : 0 < d)
    (hlt : d < 10 ^ (fuel + 1)) (hv : (d : ℚ) * 10 ^ e = v) :
    (Scaled.trim ⟨false, d, e⟩ fuel).IsTrimmed v where
  positive := negative_trim _ fuel
  value := (value_trim _ fuel).trans hv
  last := last_trim h0 hlt

/-- As many digits as are left of an integer, or one more after a carry. -/
theorem roundDiv_digits {places n : ℕ} (hp : 0 < places) (hle : places ≤ Nat.log 10 n + 1)
    (hn : 0 < n) : 0 < roundDiv n (10 ^ (Nat.log 10 n + 1 - places)) ∧
      roundDiv n (10 ^ (Nat.log 10 n + 1 - places)) < 10 ^ (places + 1) := by
  have hlow : 10 ^ (Nat.log 10 n + 1 - places) ≤ n :=
    (Nat.pow_le_pow_right (by norm_num) (by omega)).trans (Nat.pow_log_le_self 10 hn.ne')
  have hhigh : n < 10 ^ places * 10 ^ (Nat.log 10 n + 1 - places) := by
    rw [← pow_add, Nat.add_sub_cancel' hle]
    exact Nat.lt_pow_succ_log_self (by norm_num) n
  have hunit : 0 < 10 ^ (Nat.log 10 n + 1 - places) := by positivity
  obtain ⟨h1, h2⟩ := @roundDiv_near n _ hunit
  generalize 10 ^ (Nat.log 10 n + 1 - places) = unit at *
  generalize roundDiv n unit = digits at *
  constructor
  · by_contra h0
    obtain rfl : digits = 0 := by omega
    omega
  · have hmul : 2 * digits * unit < (2 * 10 ^ places + 1) * unit := by linarith
    have hlt := Nat.lt_of_mul_lt_mul_right hmul
    have hpow : 0 < 10 ^ places := by positivity
    rw [pow_succ]
    omega

theorem significant_isTrimmed {b : Binary} {places n : ℕ} (hp : 0 < places) (hm : 0 < b.mantissa)
    (hn : 0 < n) (hneg : b.negative = false) (hb : (b.mantissa : ℚ) * 2 ^ b.exponent = n) :
    (b.significant places).IsTrimmed (roundToDigits places n) := by
  have hden := b.fraction_snd_pos
  have hnum : b.fraction.1 = n * b.fraction.2 := by
    have hq : (b.fraction.1 : ℚ) / b.fraction.2 = n := b.fraction_value.trans hb
    rw [div_eq_iff (by exact_mod_cast hden.ne')] at hq
    exact_mod_cast hq
  unfold Binary.significant
  rw [if_neg hm.ne']
  dsimp only
  rw [hnum, leadingPower_integer hn hden, hneg]
  simp only [Nat.pow_eq]
  generalize b.fraction.2 = den at *
  -- digits are lost where the integer has more of them than are written
  rcases le_total places (Nat.log 10 n + 1) with h | h
  · obtain ⟨k, hk⟩ := Nat.exists_eq_add_of_le h
    have hpower : (Nat.log 10 n : ℤ) + 1 - places = k := by omega
    have hunit : Nat.log 10 n + 1 - places = k := by omega
    have hneg : (-(k : ℤ)).toNat = 0 := by omega
    obtain ⟨h0, hlt⟩ := roundDiv_digits hp h hn
    rw [hunit] at h0 hlt
    rw [hpower, hneg, Int.toNat_natCast, pow_zero, mul_one, mul_comm den, roundDiv_mul_right n hden]
    refine Scaled.trim_isTrimmed h0 hlt ?_
    rw [roundToDigits, hunit, zpow_natCast]
    push_cast
    rfl
  · obtain ⟨k, hk⟩ := Nat.exists_eq_add_of_le h
    have hpower : (Nat.log 10 n : ℤ) + 1 - places = -k := by omega
    have hunit : Nat.log 10 n + 1 - places = 0 := by omega
    have hneg : (-(k : ℤ)).toNat = 0 := by omega
    rw [hpower, neg_neg, hneg, Int.toNat_natCast, pow_zero, mul_one, mul_right_comm,
      roundDiv_of_dvd hden (Dvd.intro_left _ rfl), Nat.mul_div_cancel _ hden]
    refine Scaled.trim_isTrimmed (by positivity) ?_ ?_
    · calc n * 10 ^ k < 10 ^ (Nat.log 10 n + 1) * 10 ^ k := by
            gcongr
            exact Nat.lt_pow_succ_log_self (by norm_num) n
        _ = 10 ^ places := by rw [← pow_add, hk]
        _ < 10 ^ (places + 1) := Nat.pow_lt_pow_succ (by norm_num)
    · rw [roundToDigits, hunit, zpow_neg, zpow_natCast, pow_zero, roundDiv_one, mul_one]
      push_cast
      exact mul_inv_cancel_right₀ (by positivity) _

end significant
end ClusterBilling.Decimal
