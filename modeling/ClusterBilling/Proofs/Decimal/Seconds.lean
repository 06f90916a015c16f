import ClusterBilling.Proofs.Decimal.Halfway

/-! The seconds that a count of microseconds makes, as a floating-point number. -/
namespace ClusterBilling.Decimal
open Float.Model Float.Model.UnpackedFloat

/-- The number is finite, and its magnitude is one of the nearest to `q`. -/
def Reads (x : Float) (s : Sign) (q : ℚ) : Prop :=
  ∃ m e h, x.toModel.unpack = .finite s m e h ∧ Near q m e ∧ e ≤ 971

theorem Reads.reading {x : Float} {s : Sign} {q : ℚ} (h : Reads x s q) :
    ∃ m e, Reading.ofFloat x = .finite ⟨isNegative s, m, e⟩ ∧ 0 < m ∧ Near q m e := by
  obtain ⟨m, e, hm, hu, hn, -⟩ := h
  exact ⟨m, e, ofBits_of_unpack hu, hm, hn⟩

theorem Reads.neg {x : Float} {q : ℚ} (h : Reads x .positive q) : Reads (-x) .negative q := by
  obtain ⟨m, e, hm, hu, hn, hfit⟩ := h
  refine ⟨m, e, hm, ?_, hn, hfit⟩
  change unpack .binary64 (pack .binary64 x.toModel.unpack.neg) = _
  rw [hu]
  exact unpack_pack_canonical hm hn.canonical hfit

/-- A quotient that is neither too small nor too great. -/
theorem div_pack {m₁ m₂ : ℕ} {e₁ e₂ : ℤ} (hm₁ : 0 < m₁) (hm₂ : 0 < m₂)
    (hlo : -1073 ≤ m₁.log2 + e₁ - (m₂.log2 + e₂)) {q : ℚ}
    (hq : m₁ * 2 ^ e₁ / (m₂ * 2 ^ e₂) = q) {k : ℕ} (hk : q < 2 ^ k) (hk' : k ≤ 1023) :
    ∃ m e h, unpack .binary64 (pack .binary64
      (div .binary64 (.finite .positive m₁ e₁ hm₁) (.finite .positive m₂ e₂ hm₂))) =
        .finite .positive m e h ∧ Near q m e ∧ e ≤ 971 := by
  obtain ⟨m, e, h, hr, hn⟩ := div_near hm₁ hm₂ hlo
  rw [hq] at hn
  have hfit : e ≤ 971 := by
    rcases hn.lt_two_pow hk with h | h <;> omega
  exact ⟨m, e, h, by rw [hr, unpack_pack_canonical h hn.canonical hfit], hn, hfit⟩

theorem ofScientific_reads {n : ℕ} (hn : 0 < n) (hlt : n < 2 ^ 128) :
    Reads (Float.ofScientific n true 6) .positive (n / 10 ^ 6) := by
  have hk : (n / 10 ^ 6 : ℚ) < 2 ^ 128 := by
    have hlt : (n : ℚ) < 2 ^ 128 := by exact_mod_cast hlt
    rw [div_lt_iff₀ (by norm_num)]
    linarith
  unfold Float.ofScientific
  by_cases h : n < 2 ^ 53 ∧ 6 ≤ 22
  · have hn' : n.toUInt64.toNat = n := by
      rw [Nat.toUInt64, UInt64.toNat_ofNat', Nat.mod_eq_of_lt]
      omega
    obtain ⟨m₁, e₁, h₁, hx, hval, hlo⟩ :=
      toFloat_exact (n := n.toUInt64) (hn'.symm ▸ hn) (hn'.symm ▸ h.1)
    obtain ⟨h₂, hy⟩ := powerOfTen_unpacked
    have hlog : (15625 * 2 ^ 39).log2 = 52 := by decide
    rw [dif_pos h]
    change ∃ m e h, unpack .binary64 (pack .binary64 (div .binary64
      n.toUInt64.toFloat.toModel.unpack
      (getElem Float.exactlyRepresentablePowersOfTen 6 _).toModel.unpack)) = _ ∧ _
    rw [hx, hy]
    refine div_pack h₁ h₂ (by rw [hlog]; omega) ?_ hk (by norm_num)
    rw [hval, hn']
    norm_num
  · have hpower : Int.negOfNat 6 = -6 := rfl
    have hlog : (10 ^ 6).log2 = 19 := by decide
    rw [dif_neg h]
    simp only [if_true, hpower]
    change ∃ m e h, unpack .binary64 (pack .binary64 (.ofScientific .binary64 n (-6))) = _ ∧ _
    rw [ofScientific_unpacked hn]
    refine div_pack hn _ (by rw [hlog]; omega) ?_ hk (by norm_num)
    norm_num

/-- Microseconds make the nearest seconds, with their sign. -/
theorem secondsOfMicros_reads {n : ℤ} (hn : n ≠ 0) (hlt : n.natAbs < 2 ^ 128) :
    Reads (Time.secondsOfMicros n) (if n < 0 then .negative else .positive)
      (n.natAbs / 10 ^ 6) := by
  have hdigits : (digitChars n.natAbs).length ≤ 39 := by
    rw [digitChars, Nat.length_toDigits_le_iff (by norm_num) (by norm_num)]
    exact hlt.trans (by norm_num)
  have hpos := ofScientific_reads (Int.natAbs_pos.mpr hn) hlt
  have hgreat : ¬ 310 < (-6 : ℤ) + (digitChars n.natAbs).length := by omega
  have hsmall : ¬ (-6 : ℤ) + (digitChars n.natAbs).length < -330 := by omega
  unfold Time.secondsOfMicros nearestFloat
  simp only [if_neg (Int.natAbs_ne_zero.mpr hn), if_neg hgreat, if_neg hsmall]
  by_cases h0 : n < 0
  · simpa [h0] using hpos.neg
  · simpa [h0] using hpos

end ClusterBilling.Decimal
