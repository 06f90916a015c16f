import ClusterBilling.Proofs.Decimal.Rounding

/-! What the bits of a binary64 number keep of a rounded mantissa and its exponent. -/
namespace ClusterBilling.Decimal
open Float.Model Float.Model.UnpackedFloat

theorem unpack_packComponents {s : Sign} {e : BitVec 11} (he : e ≠ -1#11) (m : BitVec 52) :
    unpack .binary64 (packComponents .binary64 s e m) =
      if e = 0#11 then
        if h : m = 0#52 then .zero s
        else .finite s m.toNat (-1074)
          (by simpa [BitVec.toNat_pos, BitVec.pos_iff_ne_zero])
      else .finite s (2 ^ 52 + m.toNat) (e.toNat - 1075) (by simp) := by
  have hs : Sign.ofBitVec s.toBitVec = s := by cases s <;> rfl
  unfold UnpackedFloat.unpack
  simp only [unpackMantissa_packComponents, unpackExponent_packComponents,
    unpackSign_packComponents, hs]
  rw [if_neg he]
  split
  · next h =>
    subst h
    split <;> rfl
  · congr 1
    rw [BitVec.toNat_append, ← Nat.shiftLeft_add_eq_or_of_lt m.isLt]
    rfl

theorem exponentField_ne {b : ℕ} (h : ¬ 2 ^ 11 ≤ b + 1) : BitVec.ofNat 11 b ≠ -1#11 := by
  intro hb
  have := congrArg BitVec.toNat hb
  simp only [BitVec.toNat_ofNat, BitVec.neg_one_eq_allOnes, BitVec.toNat_allOnes] at this
  omega

private theorem ofNat_ne_zero {w n : ℕ} (hn : 0 < n) (hlt : n < 2 ^ w) :
    BitVec.ofNat w n ≠ 0#w := by
  intro h
  have := congrArg BitVec.toNat h
  rw [BitVec.toNat_ofNat, BitVec.toNat_zero, Nat.mod_eq_of_lt hlt] at this
  omega

theorem unpack_pack_canonical {s : Sign} {m : ℕ} {e : ℤ} (hm : 0 < m) (hc : Canonical m e)
    (hfit : e ≤ 971) : unpack .binary64 (pack .binary64 (.finite s m e hm)) =
      .finite s m e hm := by
  have he := hc.le_exponent
  have hb : ¬ 2 ^ 11 ≤ (e + 1023 + 52).toNat + 1 := by omega
  change unpack .binary64 (if 2 ^ 11 ≤ (e + 1023 + 52).toNat + 1 then _
    else if m.log2 + 1 = 53 then packComponents .binary64 s
      (BitVec.ofNat 11 (e + 1023 + 52).toNat) (BitVec.ofNat 52 m)
    else packComponents .binary64 s 0#11 (BitVec.ofNat 52 m)) = _
  rw [if_neg hb]
  split_ifs with hn
  · have hlo : 2 ^ 52 ≤ m := (show m.log2 = 52 by omega) ▸ Nat.log2_self_le hm.ne'
    have hlt := hc.mantissa_lt
    rw [unpack_packComponents (exponentField_ne hb),
      if_neg (ofNat_ne_zero (by omega) (by omega))]
    congr 1
    · rw [BitVec.toNat_ofNat]
      omega
    · rw [BitVec.toNat_ofNat, Nat.mod_eq_of_lt (by omega)]
      omega
  · have hlt : m < 2 ^ 52 := by
      have := (Nat.log2_lt hm.ne').mpr hc.mantissa_lt
      exact (Nat.log2_lt hm.ne').mp (by omega)
    obtain rfl : e = -1074 := hc.normal_or_least.resolve_left (by omega)
    rw [unpack_packComponents (by decide), if_pos rfl, dif_neg (ofNat_ne_zero hm hlt)]
    congr 1
    rw [BitVec.toNat_ofNat, Nat.mod_eq_of_lt hlt]

theorem unpack_pack_overflow {m : ℕ} {e : ℤ} (hm : 0 < m) (hfit : 971 < e) :
    unpack .binary64 (pack .binary64 (.finite .positive m e hm)) = .infinity .positive := by
  change unpack .binary64 (if 2 ^ 11 ≤ (e + 1023 + 52).toNat + 1 then _ else _) = _
  rw [if_pos (by omega)]
  rfl

/-- What the first bit says. -/
def isNegative : Sign → Bool
  | .negative => true
  | .positive => false

theorem testBit_sign (b : BitVec 64) :
    b.toNat.testBit 63 = isNegative (Sign.ofBitVec (@unpackSign .binary64 b)) := by
  have hs : (@unpackSign .binary64 b).toNat = b.toNat / 2 ^ 63 % 2 := by
    simp [unpackSign, Nat.shiftRight_eq_div_pow]
  have h0 : @unpackSign .binary64 b = 0#1 ↔ b.toNat / 2 ^ 63 % 2 = 0 := by
    rw [← BitVec.toNat_inj, hs, BitVec.toNat_zero]
  rw [Nat.testBit_eq_decide_div_mod_eq, Sign.ofBitVec]
  split_ifs with h <;> rw [h0] at h <;>
    simp only [isNegative, decide_eq_true_eq, decide_eq_false_iff_not] <;> omega

/-- Bits are read as the finite number that they hold. -/
theorem ofBits_of_unpack {b : BitVec 64} {s : Sign} {m : ℕ} {e : ℤ} {h : 0 < m}
    (hb : unpack .binary64 b = .finite s m e h) :
    Reading.ofBits b.toNat = .finite ⟨isNegative s, m, e⟩ := by
  have hexp : (@unpackExponent .binary64 b).toNat = b.toNat / 2 ^ 52 % 2 ^ 11 := by
    simp [unpackExponent, Nat.shiftRight_eq_div_pow]
  have hman : (@unpackMantissa .binary64 b).toNat = b.toNat % 2 ^ 52 := by
    simp [unpackMantissa]
  have hhidden : hiddenBit = 2 ^ 52 := rfl
  have hfield : 2048 = 2 ^ 11 := rfl
  unfold UnpackedFloat.unpack at hb
  simp only at hb
  simp only [Reading.ofBits, testBit_sign, hhidden, hfield, ← hexp, ← hman]
  split_ifs at hb with he hm h0 hm
  · obtain ⟨rfl, rfl, rfl⟩ := UnpackedFloat.finite.inj hb
    rw [if_neg (by rw [h0]; decide), if_pos (by rw [h0]; rfl), h0]
    rfl
  · obtain ⟨rfl, rfl, rfl⟩ := UnpackedFloat.finite.inj hb
    have hlast : (@unpackExponent .binary64 b).toNat ≠ 2047 :=
      fun h => he (BitVec.eq_of_toNat_eq h)
    have hleast : (@unpackExponent .binary64 b).toNat ≠ 0 :=
      fun h => h0 (BitVec.eq_of_toNat_eq h)
    rw [if_neg hlast, if_neg hleast, BitVec.toNat_append,
      ← Nat.shiftLeft_add_eq_or_of_lt (@unpackMantissa .binary64 b).isLt, Nat.add_comm]
    rfl

end ClusterBilling.Decimal
