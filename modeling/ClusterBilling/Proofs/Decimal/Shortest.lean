import ClusterBilling.Decimal.Shortest
import ClusterBilling.Proofs.Decimal.Conversion

/-!
The shortest decimal of a finite number reads back as that number: what is tested with integers is
whether the decimal lies between the midpoints to the neighbours, and one of seventeen digits does.
-/
namespace ClusterBilling.Decimal

section reading
variable {d d' : ℕ} {p p' : ℤ} {negative : Bool}

theorem nearestFloat_sign (negative : Bool) (d : ℕ) (p : ℤ) : nearestFloat negative d p =
    if negative then -nearestFloat false d p else nearestFloat false d p := by
  cases negative <;> rfl

/-- Only the decimal number counts, not the digits and the power that it is given by. -/
theorem nearestFloat_congr (h : (d : ℚ) * 10 ^ p = d' * 10 ^ p') :
    nearestFloat negative d p = nearestFloat negative d' p' := by
  have hd := hasValue_nearestFloat d p
  rw [h] at hd
  rw [nearestFloat_sign, nearestFloat_sign negative d', hd.unique (hasValue_nearestFloat d' p')]

theorem reading_zero (negative : Bool) (p : ℤ) :
    Reading.ofFloat (nearestFloat negative 0 p) = .finite ⟨negative, 0, -1074⟩ := by
  have hzero : nearestFloat negative 0 p = if negative then -0 else 0 := by simp [nearestFloat]
  rw [hzero]
  cases negative <;> rfl

/-- A decimal between the midpoints is read as the number between them. -/
theorem nearestFloat_of_encloses {x : Float} {b : Binary} (h : Reading.ofFloat x = .finite b)
    (hm : 0 < b.mantissa) (hd : Encloses b.mantissa b.exponent (d * 10 ^ p)) :
    nearestFloat b.negative d p = x := by
  obtain ⟨hc, he⟩ := canonical_of_reading h
  have hvalue := hasValue_nearestFloat d p
  rw [nearest_of_encloses hc hm he hd] at hvalue
  obtain ⟨m, e, hm', hu, hc', he', hv⟩ := Represents.positive hvalue (by positivity)
  obtain ⟨rfl, rfl⟩ := hc'.eq hc hv
  symm
  apply eq_of_reading
  · rw [h, nearestFloat_sign, reading_ofFloat]
    obtain ⟨negative, mantissa, exponent⟩ := b
    cases negative with
    | false =>
      change _ = readingOf (nearestFloat false d p).toModel.unpack
      rw [hu]
      rfl
    | true =>
      change _ = readingOf (Float.Model.UnpackedFloat.unpack .binary64
        (Float.Model.UnpackedFloat.pack .binary64 (nearestFloat false d p).toModel.unpack.neg))
      rw [hu]
      change _ = readingOf (Float.Model.UnpackedFloat.unpack .binary64
        (Float.Model.UnpackedFloat.pack .binary64 (.finite .negative mantissa exponent hm')))
      rw [unpack_pack_canonical hm' hc he]
      rfl
  · rw [h]
    nofun

end reading

section readsBack
variable {b : Binary} {d : ℕ} {p : ℤ}

/-- A power as a quotient of powers, of which at least one is one. -/
theorem zpow_eq_div {a : ℚ} (ha : a ≠ 0) (p : ℤ) : a ^ p = a ^ p.toNat / a ^ (-p).toNat := by
  rw [← zpow_natCast, ← zpow_natCast, ← zpow_sub₀ ha]
  congr 1
  omega

/-- Both sides of the test are integers in the same unit, the fourth part of the last place. -/
theorem readsBack_iff (hm : 0 < b.mantissa) :
    b.readsBack d p = true ↔ Encloses b.mantissa b.exponent (d * 10 ^ p) := by
  obtain ⟨negative, m, e⟩ := b
  simp only at hm ⊢
  have hhidden : hiddenBit = 2 ^ 52 := rfl
  obtain ⟨scale, hscale⟩ : ∃ n, n = Nat.pow 10 (-p).toNat <<< (e - 2).toNat := ⟨_, rfl⟩
  obtain ⟨x, hx⟩ : ∃ n, n = (d * Nat.pow 10 p.toNat) <<< (-(e - 2)).toNat := ⟨_, rfl⟩
  have hpos : (0 : ℚ) < scale := by
    have : 0 < scale := by simp [hscale]
    exact_mod_cast this
  have hvalue : (x : ℚ) = 4 * (d * 10 ^ p / 2 ^ e) * scale := by
    have htwo : (2 : ℚ) ^ e = 4 * 2 ^ (e - 2) := by
      rw [show e = 2 + (e - 2) by ring, zpow_add₀ two_ne_zero]
      norm_num
    rw [htwo, zpow_eq_div two_ne_zero (e - 2), zpow_eq_div (by norm_num : (10 : ℚ) ≠ 0) p, hx,
      hscale, Nat.shiftLeft_eq, Nat.shiftLeft_eq, Nat.pow_eq, Nat.pow_eq]
    push_cast
    field_simp
  have hlow (k : ℕ) (hk : k ≤ 4 * m) :
      ((4 * m - k) * scale ≤ x ↔ (m : ℚ) - k / 4 ≤ d * 10 ^ p / 2 ^ e) ∧
        ((4 * m - k) * scale < x ↔ (m : ℚ) - k / 4 < d * 10 ^ p / 2 ^ e) := by
    rw [← Nat.cast_le (α := ℚ), ← Nat.cast_lt (α := ℚ), Nat.cast_mul, Nat.cast_sub hk, hvalue,
      mul_le_mul_iff_left₀ hpos, mul_lt_mul_iff_left₀ hpos]
    push_cast
    constructor <;> constructor <;> intro h <;> linarith
  have hhigh (k : ℕ) : (x ≤ (4 * m + k) * scale ↔ d * 10 ^ p / 2 ^ e ≤ (m : ℚ) + k / 4) ∧
      (x < (4 * m + k) * scale ↔ d * 10 ^ p / 2 ^ e < (m : ℚ) + k / 4) := by
    rw [← Nat.cast_le (α := ℚ), ← Nat.cast_lt (α := ℚ), Nat.cast_mul, hvalue,
      mul_le_mul_iff_left₀ hpos, mul_lt_mul_iff_left₀ hpos]
    push_cast
    constructor <;> constructor <;> intro h <;> linarith
  have hbelow : (if m = 2 ^ 52 ∧ e ≠ -1074 then 1 / 4 else 1 / 2 : ℚ) =
      ((if m = 2 ^ 52 ∧ e ≠ -1074 then 1 else 2 : ℕ) : ℚ) / 4 := by
    split_ifs <;> norm_num
  have habove : (1 / 2 : ℚ) = ((2 : ℕ) : ℚ) / 4 := by norm_num
  unfold Binary.readsBack Binary.halfGaps Encloses
  simp only [hhidden, ← hscale, ← hx, hbelow]
  have hk : (if m = 2 ^ 52 ∧ e ≠ -1074 then 1 else 2) ≤ 4 * m := by split_ifs <;> omega
  generalize (if m = 2 ^ 52 ∧ e ≠ -1074 then 1 else 2) = k at hk ⊢
  rw [habove]
  split_ifs
  · rw [Bool.and_eq_true, decide_eq_true_eq, decide_eq_true_eq, (hlow k hk).1, (hhigh 2).1]
  · rw [Bool.and_eq_true, decide_eq_true_eq, decide_eq_true_eq, (hlow k hk).2, (hhigh 2).2]

end readsBack

section search
variable {b : Binary} {lead : ℤ} {places : ℕ} {s : Scaled}

theorem nearestOn_readsBack (h : b.nearestOn lead places = some s) :
    s.negative = b.negative ∧ b.readsBack s.digits s.exponent = true := by
  unfold Binary.nearestOn at h
  dsimp only at h
  split_ifs at h with hnear _ hfar hfar
  · obtain rfl := Option.some.inj h
    exact ⟨rfl, hnear⟩
  · obtain rfl := Option.some.inj h
    exact ⟨rfl, hfar⟩
  · obtain rfl := Option.some.inj h
    exact ⟨rfl, hfar⟩

theorem leadingPower_le {num den : ℕ} (hn : 0 < num) (hd : 0 < den) :
    (10 : ℚ) ^ leadingPower num den ≤ num / den := by
  have hpos : (0 : ℚ) < den := by exact_mod_cast hd
  have ten : (10 : ℚ) ≠ 0 := by norm_num
  unfold leadingPower
  dsimp only
  split_ifs with h
  · rw [zpow_eq_div ten, div_le_div_iff₀ (by positivity) hpos]
    rw [Nat.pow_eq, Nat.pow_eq, mul_comm] at h
    exact_mod_cast h
  · have hlow : (10 : ℚ) ^ Nat.log 10 num ≤ num := by
      exact_mod_cast Nat.pow_log_le_self 10 hn.ne'
    have hhigh : (den : ℚ) ≤ 10 ^ (Nat.log 10 den + 1) := by
      exact_mod_cast (Nat.lt_pow_succ_log_self (by norm_num) den).le
    rw [length_digitChars hn, length_digitChars hd]
    calc (10 : ℚ) ^ (((Nat.log 10 num + 1 : ℕ) : ℤ) - (Nat.log 10 den + 1 : ℕ) - 1)
        = 10 ^ Nat.log 10 num / 10 ^ (Nat.log 10 den + 1) := by
          rw [← zpow_natCast, ← zpow_natCast, ← zpow_sub₀ ten]
          congr 1
          push_cast
          ring
      _ ≤ num / den := by gcongr

/-- The nearest decimal of seventeen digits is nearer than the midpoints. -/
theorem encloses_of_seventeen {m : ℕ} {e : ℤ} (hc : Canonical m e)
    (hlead : (10 : ℚ) ^ lead ≤ m * 2 ^ e) {near : ℕ}
    (hnear : |(near : ℚ) * 10 ^ (lead - 16) - m * 2 ^ e| ≤ 10 ^ (lead - 16) / 2) :
    Encloses m e (near * 10 ^ (lead - 16)) := by
  have hpow : (0 : ℚ) < 2 ^ e := by positivity
  have hsmall : (10 : ℚ) ^ (lead - 16) / 2 / 2 ^ e ≤ m / (2 * 10 ^ 16) := by
    rw [zpow_sub₀ (by norm_num)]
    rw [div_le_iff₀ hpow]
    have : (10 : ℚ) ^ (16 : ℤ) = 10 ^ 16 := by norm_num
    rw [this]
    linarith
  have hclose : |(near : ℚ) * 10 ^ (lead - 16) / 2 ^ e - m| ≤ m / (2 * 10 ^ 16) := by
    refine le_trans ?_ hsmall
    rw [le_div_iff₀ hpow]
    calc |(near : ℚ) * 10 ^ (lead - 16) / 2 ^ e - m| * 2 ^ e
        = |(near : ℚ) * 10 ^ (lead - 16) - m * 2 ^ e| := by
          rw [← abs_of_pos hpow, ← abs_mul, abs_of_pos hpow, sub_mul, div_mul_cancel₀ _ hpow.ne']
      _ ≤ _ := hnear
  have hmax : (m : ℚ) < 2 ^ 53 := by exact_mod_cast hc.mantissa_lt
  have hhalf : (m : ℚ) / (2 * 10 ^ 16) < 1 / 2 := by
    rw [div_lt_iff₀ (by positivity)]
    linarith
  have hquarter (h : m = 2 ^ 52) : (m : ℚ) / (2 * 10 ^ 16) < 1 / 4 := by
    rw [h]
    norm_num
  obtain ⟨h1, h2⟩ := abs_le.mp hclose
  unfold Encloses
  dsimp only
  split_ifs with heven hpower hpower
  · have := hquarter hpower.1
    constructor <;> linarith
  · constructor <;> linarith
  · have := hquarter hpower.1
    constructor <;> linarith
  · constructor <;> linarith

/-- The fraction that is rounded to the digits of a decimal. -/
theorem fraction_power (b : Binary) (p : ℤ) :
    ((b.fraction.1 * 10 ^ (-p).toNat : ℕ) : ℚ) / (b.fraction.2 * 10 ^ p.toNat : ℕ) =
      b.mantissa * 2 ^ b.exponent / 10 ^ p := by
  have hden : (0 : ℚ) < b.fraction.2 := by exact_mod_cast b.fraction_snd_pos
  rw [← b.fraction_value, zpow_eq_div (by norm_num) p]
  push_cast
  field_simp

theorem roundDiv_close (num : ℕ) {den : ℕ} (hden : 0 < den) :
    |(roundDiv num den : ℚ) - num / den| ≤ 1 / 2 := by
  have hpos : (0 : ℚ) < den := by exact_mod_cast hden
  have hhi : (2 * num : ℚ) ≤ (2 * roundDiv num den + 1) * den := by
    exact_mod_cast (roundDiv_near hden).1
  have hlo : (2 * roundDiv num den * den : ℚ) ≤ 2 * num + den := by
    exact_mod_cast (roundDiv_near hden).2
  have hx : (num : ℚ) = num / den * den := (div_mul_cancel₀ _ hpos.ne').symm
  generalize (num : ℚ) / den = x at *
  rw [hx] at hhi hlo
  rw [abs_le]
  constructor <;> nlinarith

theorem nearestOn_seventeen (hc : Canonical b.mantissa b.exponent) (hm : 0 < b.mantissa)
    (hlead : (10 : ℚ) ^ lead ≤ b.mantissa * 2 ^ b.exponent) :
    (b.nearestOn lead 17).isSome = true := by
  have hpower : lead + 1 - ((17 : ℕ) : ℤ) = lead - 16 := by
    push_cast
    ring
  have hpow : (0 : ℚ) < 10 ^ (lead - 16) := by positivity
  have hden : 0 < b.fraction.2 * 10 ^ (lead - 16).toNat :=
    Nat.mul_pos b.fraction_snd_pos (by positivity)
  have hclose := roundDiv_close (b.fraction.1 * 10 ^ (-(lead - 16)).toNat) hden
  rw [fraction_power] at hclose
  unfold Binary.nearestOn
  simp only [hpower, Nat.pow_eq]
  generalize roundDiv _ _ = near at hclose ⊢
  have hback : b.readsBack near (lead - 16) = true := by
    apply (readsBack_iff hm).mpr
    apply encloses_of_seventeen hc hlead
    calc |(near : ℚ) * 10 ^ (lead - 16) - b.mantissa * 2 ^ b.exponent|
        = |(near : ℚ) - b.mantissa * 2 ^ b.exponent / 10 ^ (lead - 16)| * 10 ^ (lead - 16) := by
          rw [← abs_of_pos hpow, ← abs_mul, abs_of_pos hpow, sub_mul, div_mul_cancel₀ _ hpow.ne']
      _ ≤ 1 / 2 * 10 ^ (lead - 16) := by gcongr
      _ = 10 ^ (lead - 16) / 2 := by ring
  rw [if_pos hback]
  rfl

theorem Scaled.magnitude_trim (s : Scaled) (fuel : ℕ) :
    ((s.trim fuel).digits : ℚ) * 10 ^ (s.trim fuel).exponent = s.digits * 10 ^ s.exponent := by
  have h := s.value_trim fuel
  unfold Scaled.value at h
  rw [Scaled.negative_trim] at h
  split_ifs at h
  · exact neg_injective h
  · exact h

/-- The shortest decimal has the sign of the number and lies between the midpoints. -/
theorem shortest_spec (hc : Canonical b.mantissa b.exponent) (hm : 0 < b.mantissa) :
    b.shortest.negative = b.negative ∧
      Encloses b.mantissa b.exponent (b.shortest.digits * 10 ^ b.shortest.exponent) := by
  have hnum : 0 < b.fraction.1 := by
    rw [Binary.fraction]
    simp [hm]
  have hlead := leadingPower_le hnum b.fraction_snd_pos
  rw [b.fraction_value] at hlead
  have hfound := nearestOn_seventeen hc hm hlead
  unfold Binary.shortest
  rw [if_neg hm.ne']
  dsimp only
  cases h : (List.range 17).findSome? fun i =>
      b.nearestOn (leadingPower b.fraction.1 b.fraction.2) (i + 1) with
  | none =>
    have := List.findSome?_eq_none_iff.mp h 16 (by simp)
    rw [this] at hfound
    cases hfound
  | some s =>
    obtain ⟨i, -, hi⟩ := List.exists_of_findSome?_eq_some h
    obtain ⟨hneg, hback⟩ := nearestOn_readsBack hi
    dsimp only
    rw [Scaled.negative_trim, Scaled.magnitude_trim]
    exact ⟨hneg, (readsBack_iff hm).mp hback⟩

/-- The shortest decimal of a finite number is read as that number. -/
theorem nearestFloat_shortest {x : Float} (h : Reading.ofFloat x = .finite b) :
    nearestFloat b.shortest.negative b.shortest.digits b.shortest.exponent = x := by
  obtain ⟨hc, -⟩ := canonical_of_reading h
  rcases Nat.eq_zero_or_pos b.mantissa with h0 | hm
  · have hleast : b.exponent = -1074 := hc.normal_or_least.resolve_left (by omega)
    have hb : b = ⟨b.negative, 0, -1074⟩ := by
      rw [← h0, ← hleast]
    rw [Binary.shortest, if_pos h0]
    apply eq_of_reading
    · rw [reading_zero, h, hb]
    · rw [reading_zero]
      nofun
  · obtain ⟨hneg, hencloses⟩ := shortest_spec hc hm
    rw [hneg]
    exact nearestFloat_of_encloses h hm hencloses

end search
end ClusterBilling.Decimal
