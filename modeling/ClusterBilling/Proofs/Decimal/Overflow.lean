import ClusterBilling.Proofs.Decimal.Packing

/-! Which integers are beyond the finite floating-point numbers. -/
namespace ClusterBilling.Decimal
open Float.Model Float.Model.UnpackedFloat

/-- A rounded number that stays finite when it is packed. -/
def fits : UnpackedFloat → Bool
  | .zero _ => true
  | .finite _ _ e _ => e ≤ 971
  | _ => false

theorem isFinite_unpack (b : BitVec 64) :
    (unpack .binary64 b).isFinite = decide (@unpackExponent .binary64 b ≠ -1#11) := by
  unfold UnpackedFloat.unpack
  simp only
  split_ifs with he hm h0 hm
  · exact (decide_eq_false (not_not.mpr he)).symm
  · exact (decide_eq_false (not_not.mpr he)).symm
  · exact (decide_eq_true he).symm
  · exact (decide_eq_true he).symm
  · exact (decide_eq_true he).symm

theorem fits_unpack (b : BitVec 64) :
    fits (unpack .binary64 b) = (unpack .binary64 b).isFinite := by
  unfold UnpackedFloat.unpack
  simp only
  split_ifs with he hm h0 hm
  · rfl
  · rfl
  · rfl
  · change decide (((@unpackExponent .binary64 b).toNat : ℤ) - (1023 + 52) + 1 ≤ 971) = true
    rw [h0]
    rfl
  · change decide (((@unpackExponent .binary64 b).toNat : ℤ) - (1023 + 52) ≤ 971) = true
    have hlt : (@unpackExponent .binary64 b).toNat < 2 ^ 11 :=
      (@unpackExponent .binary64 b).isLt
    have hne : (@unpackExponent .binary64 b).toNat ≠ 2047 :=
      fun h => he (BitVec.eq_of_toNat_eq h)
    exact decide_eq_true (by omega)

theorem isFinite_unpack_pack (u : UnpackedFloat) :
    (unpack .binary64 (pack .binary64 u)).isFinite = fits u := by
  match u with
  | .notANumber => rfl
  | .infinity .positive => rfl
  | .infinity .negative => rfl
  | .zero .positive => rfl
  | .zero .negative => rfl
  | .finite s m e hm =>
    change (unpack .binary64 (if 2 ^ 11 ≤ (e + 1023 + 52).toNat + 1 then
        packComponents .binary64 s (-1#11) 0#52
      else if m.log2 + 1 = 53 then packComponents .binary64 s
        (BitVec.ofNat 11 (e + 1023 + 52).toNat) (BitVec.ofNat 52 m)
      else packComponents .binary64 s 0#11 (BitVec.ofNat 52 m))).isFinite = decide (e ≤ 971)
    split_ifs with hb hn
    · rw [isFinite_unpack, unpackExponent_packComponents]
      exact (decide_eq_false (by simp)).trans (decide_eq_false (by omega)).symm
    · rw [isFinite_unpack, unpackExponent_packComponents]
      exact (decide_eq_true (exponentField_ne hb)).trans (decide_eq_true (by omega)).symm
    · rw [isFinite_unpack, unpackExponent_packComponents]
      exact (decide_eq_true (by decide)).trans (decide_eq_true (by omega)).symm

theorem fits_neg (u : UnpackedFloat) : fits u.neg = fits u := by
  cases u <;> rfl

theorem isFinite_neg (x : Float) : (-x).isFinite = x.isFinite := by
  change (unpack .binary64 (pack .binary64 x.toModel.unpack.neg)).isFinite =
    x.toModel.unpack.isFinite
  rw [isFinite_unpack_pack, fits_neg]
  exact fits_unpack _

/-- Only finite numbers have a finite sum. -/
theorem isFinite_of_add {x y : Float} (h : (x + y).isFinite) : x.isFinite ∧ y.isFinite := by
  change (unpack .binary64 (pack .binary64
    (add .binary64 x.toModel.unpack y.toModel.unpack))).isFinite = true at h
  rw [isFinite_unpack_pack] at h
  change x.toModel.unpack.isFinite = true ∧ y.toModel.unpack.isFinite = true
  generalize x.toModel.unpack = u at h ⊢
  generalize y.toModel.unpack = v at h ⊢
  cases u with
  | notANumber => cases h
  | infinity s =>
    cases v with
    | infinity s' => cases s <;> cases s' <;> cases h
    | _ => cases h
  | zero s =>
    cases v with
    | notANumber => cases h
    | infinity s' => cases h
    | _ => exact ⟨rfl, rfl⟩
  | finite s m e hm =>
    cases v with
    | notANumber => cases h
    | infinity s' => cases h
    | _ => exact ⟨rfl, rfl⟩

/-- Only finite numbers have a finite product. -/
theorem isFinite_of_mul {x y : Float} (h : (x * y).isFinite) : x.isFinite ∧ y.isFinite := by
  change (unpack .binary64 (pack .binary64
    (mul .binary64 x.toModel.unpack y.toModel.unpack))).isFinite = true at h
  rw [isFinite_unpack_pack] at h
  change x.toModel.unpack.isFinite = true ∧ y.toModel.unpack.isFinite = true
  generalize x.toModel.unpack = u at h ⊢
  generalize y.toModel.unpack = v at h ⊢
  cases u with
  | notANumber => cases h
  | infinity s => cases v <;> cases h
  | zero s =>
    cases v with
    | notANumber => cases h
    | infinity s' => cases h
    | _ => exact ⟨rfl, rfl⟩
  | finite s m e hm =>
    cases v with
    | notANumber => cases h
    | infinity s' => cases h
    | _ => exact ⟨rfl, rfl⟩

theorem roundBit_shiftRight (em : ExtendedMantissa) (n : ℕ) :
    (em >>> (n + 1)).roundBit = (em.mantissa / 2 ^ n % 2 != 0) := by
  rw [← mantissa_shiftRight]
  rfl

theorem rounded_of_roundBit {em : ExtendedMantissa} (hr : em.roundBit = true)
    (hodd : em.mantissa % 2 = 1) : em.roundedMantissa = em.mantissa + 1 := by
  obtain ⟨m, _, sticky⟩ := em
  subst hr
  cases sticky
  · change m + m % 2 = m + 1
    rw [hodd]
  · rfl

theorem rounded_of_not_roundBit {em : ExtendedMantissa} (hr : em.roundBit = false) :
    em.roundedMantissa = em.mantissa := by
  obtain ⟨m, _, sticky⟩ := em
  subst hr
  cases sticky <;> rfl

theorem shiftLeft_div (n s k : ℕ) : n <<< s / 2 ^ (k + s) = n / 2 ^ k := by
  rw [Nat.shiftLeft_eq, pow_add, Nat.mul_div_mul_right _ _ (Nat.two_pow_pos s)]

/-- The leading 53 bits of an integer carry over just if they are all set and so is the next. -/
theorem roundedBits_carry {n k : ℕ} (hlog : n.log2 = k + 53) :
    roundedBits (n <<< 53) (-53) .exact = 2 ^ 53 ↔ (2 ^ 54 - 1) * 2 ^ k ≤ n := by
  have hn : 0 < n := Nat.pos_of_ne_zero fun h => by rw [h] at hlog; simp at hlog
  have hd : droppedBits (n <<< 53) (-53) = k + 1 + 53 := by
    unfold droppedBits
    rw [log2_shiftLeft hn, hlog]
    omega
  have hq : (ExtendedMantissa.mk (n <<< 53) false false >>> (k + 1 + 53)).mantissa =
      n / 2 ^ k / 2 := by
    rw [mantissa_shiftRight, shiftLeft_div, pow_succ, Nat.div_div_eq_div_mul]
  have hb : (ExtendedMantissa.mk (n <<< 53) false false >>> (k + 1 + 53)).roundBit =
      (n / 2 ^ k % 2 != 0) := by
    rw [show k + 1 + 53 = k + 53 + 1 by omega, roundBit_shiftRight, shiftLeft_div]
  have hlt : n / 2 ^ k < 2 ^ 54 := by
    rw [Nat.div_lt_iff_lt_mul (Nat.two_pow_pos k), ← pow_add]
    exact (Nat.log2_lt hn.ne').mp (by omega)
  change (ExtendedMantissa.mk (n <<< 53) false false >>>
    droppedBits (n <<< 53) (-53)).roundedMantissa = 2 ^ 53 ↔ _
  rw [hd, ← Nat.le_div_iff_mul_le (Nat.two_pow_pos k)]
  generalize ExtendedMantissa.mk (n <<< 53) false false >>> (k + 1 + 53) = em at *
  generalize n / 2 ^ k = x at *
  have hle := rounded_le_mantissa em
  cases hr : em.roundBit with
  | false =>
    have hx : x % 2 = 0 := by simpa [hr] using hb.symm
    rw [rounded_of_not_roundBit hr, hq]
    omega
  | true =>
    rw [hr, eq_comm, bne_iff_ne] at hb
    by_cases hx : x / 2 % 2 = 1
    · rw [rounded_of_roundBit hr (hq ▸ hx), hq]
      omega
    · omega

/-- The exponents of a rounded integer, by the powers of two that bound it. -/
theorem round_integer {n : ℕ} (hn : 0 < n) : ∃ m' e' h,
    roundWithAccuracy .binary64 .positive (n <<< 53) (-53) .exact = .finite .positive m' e' h ∧
      ∀ k : ℕ, e' ≤ k + 1 ↔ n < (2 ^ 54 - 1) * 2 ^ k := by
  have hlog := log2_shiftLeft hn 53
  have hpos : 0 < n <<< 53 := by simp [hn]
  obtain ⟨m', e', h, hr, -, -, he⟩ :=
    roundWithAccuracy_eq (e := -53) hpos (by omega) (by omega) .exact
  refine ⟨m', e', h, hr, fun k => ?_⟩
  rcases lt_trichotomy n.log2 (k + 53) with hk | hk | hk
  · have hlt : n < 2 ^ 53 * 2 ^ k := by
      rw [← pow_add, Nat.add_comm]
      exact (Nat.log2_lt hn.ne').mp hk
    refine iff_of_true (by split_ifs at he <;> omega) (hlt.trans_le ?_)
    exact Nat.mul_le_mul_right _ (by norm_num)
  · rw [← not_le, ← roundedBits_carry hk]
    split_ifs at he with hc
    · exact iff_of_false (by omega) (not_not.mpr hc)
    · exact iff_of_true (by omega) hc
  · have hle : 2 ^ 54 * 2 ^ k ≤ n := by
      rw [← pow_add, Nat.add_comm]
      exact (Nat.le_log2 hn.ne').mp hk
    refine iff_of_false (by split_ifs at he <;> omega) (not_lt.mpr (le_trans ?_ hle))
    exact Nat.mul_le_mul_right _ (by norm_num)

/-- The least integer that rounds beyond the finite numbers: `2 ^ 1024 - 2 ^ 970`. -/
def overflowBound : ℕ := (2 ^ 54 - 1) * 2 ^ 970

theorem unpack_toFloat {n : UInt64} (hn : 0 < n.toNat) : ∃ m e h,
    n.toFloat.toModel.unpack = .finite .positive m e h ∧ Canonical m e ∧ e ≤ 12 := by
  obtain ⟨s, hs, hround⟩ := round_eq n.toNat 0
  have hlog := log2_shiftLeft hn s
  have h64 : n.toNat.log2 < 64 := (Nat.log2_lt hn.ne').mpr n.toNat_lt
  obtain ⟨m, e, h, hr, hc, -, he⟩ := roundWithAccuracy_eq (m := n.toNat <<< s) (e := 0 - s)
    (by simp [hn]) (by omega) (by omega) .exact
  have hle : e ≤ 12 := by split_ifs at he <;> omega
  refine ⟨m, e, h, ?_, hc, hle⟩
  change unpack .binary64 (pack .binary64 (normalize .binary64 (n.toNat : ℤ) 0 .positive)) = _
  rw [UnpackedFloat.normalize, Int.compare_eq_gt.mpr (by exact_mod_cast hn)]
  simp only [Int.toNat_natCast]
  rw [hround, hr, unpack_pack_canonical h hc (by omega)]

/-- An integer of at most 53 bits is multiplied by one, which keeps it finite. -/
theorem isFinite_small {n : UInt64} (hn : 0 < n.toNat) :
    (n.toFloat * Float.ofBits 0x3FF0000000000000).isFinite = true := by
  obtain ⟨m, e, h, hu, hc, he⟩ := unpack_toFloat hn
  have hone : ∃ h, (Float.ofBits 0x3FF0000000000000).toModel.unpack =
      .finite .positive (2 ^ 52) (-52) h := ⟨by norm_num, rfl⟩
  obtain ⟨_, hone⟩ := hone
  have hlog : (m * 2 ^ 52).log2 = m.log2 + 52 := by rw [← Nat.shiftLeft_eq, log2_shiftLeft h]
  have hlt : m.log2 < 53 := (Nat.log2_lt h.ne').mpr hc.mantissa_lt
  have hlo := hc.le_exponent
  obtain ⟨m', e', h', hr, -, -, he'⟩ := roundWithAccuracy_eq (m := m * 2 ^ 52) (e := e + -52)
    (by positivity) (by omega) (by omega) .exact
  change (unpack .binary64 (pack .binary64 (mul .binary64 n.toFloat.toModel.unpack
    (Float.ofBits 0x3FF0000000000000).toModel.unpack))).isFinite = true
  rw [isFinite_unpack_pack, hu, hone]
  change fits (roundWithAccuracy .binary64 .positive (m * 2 ^ 52) (e + -52) .exact) = true
  rw [hr]
  exact decide_eq_true (by split_ifs at he' <;> omega)

theorem ofScientific_integer {n : ℕ} (hn : 0 < n) : UnpackedFloat.ofScientific .binary64 n 0 =
    roundWithAccuracy .binary64 .positive (n <<< 53) (-53) .exact := by
  have hbits : (2 : ℤ) ^ Format.binary64.exponentBits = 2048 := by norm_num
  unfold UnpackedFloat.ofScientific
  rw [hbits, dif_neg hn.ne', if_neg (by omega), if_neg (by omega), if_pos le_rfl]
  have hone : 10 ^ (0 : ℤ).toNat = 1 := rfl
  simp only [UnpackedFloat.mul, hone, mul_one, add_zero]
  rfl

theorem lt_of_lt_two_pow {n : ℕ} (h : n < 2 ^ 53) (k : ℕ) : n < (2 ^ 54 - 1) * 2 ^ k := by
  have hle : 2 ^ 53 ≤ 2 ^ 54 - 1 := by norm_num
  exact h.trans_le (hle.trans (Nat.le_mul_of_pos_right _ (Nat.two_pow_pos k)))

theorem isFinite_ofScientific {n : ℕ} (hn : 0 < n) :
    (Float.ofScientific n false 0).isFinite = decide (n < overflowBound) := by
  unfold Float.ofScientific
  by_cases h : n < 2 ^ 53 ∧ 0 ≤ 22
  · have hn' : 0 < n.toUInt64.toNat := by
      rw [Nat.toUInt64, UInt64.toNat_ofNat', Nat.mod_eq_of_lt] <;> omega
    rw [dif_pos h, decide_eq_true (show n < overflowBound from lt_of_lt_two_pow h.1 970)]
    exact isFinite_small hn'
  · obtain ⟨m, e, _, hr, he⟩ := round_integer hn
    have hk : e ≤ 971 ↔ n < overflowBound := he 970
    rw [dif_neg h, ← decide_eq_decide.mpr hk]
    change (unpack .binary64 (pack .binary64 (.ofScientific .binary64 n 0))).isFinite = _
    rw [isFinite_unpack_pack, ofScientific_integer hn, hr]
    rfl

theorem overflowBound_le : overflowBound ≤ 10 ^ 310 := by
  have h : 2 ^ 93 ≤ 10 ^ 28 := by norm_num
  calc (2 ^ 54 - 1) * 2 ^ 970
      ≤ 2 ^ 54 * 2 ^ 970 := Nat.mul_le_mul_right _ (by norm_num)
    _ = 2 * (2 ^ 93) ^ 11 := by rw [← pow_add, ← pow_mul, ← pow_succ']
    _ ≤ 10 ^ 2 * (10 ^ 28) ^ 11 := Nat.mul_le_mul (by norm_num) (Nat.pow_le_pow_left h 11)
    _ = 10 ^ 310 := by rw [← pow_mul, ← pow_add]

theorem le_of_lt_length {n k : ℕ} (hk : 0 < k) (h : k < (digitChars n).length) : 10 ^ k ≤ n := by
  rw [← not_lt, ← Nat.length_toDigits_le_iff (by norm_num) hk]
  exact not_le.mpr h

theorem isFinite_nearestFloat (negative : Bool) (n : ℕ) :
    (nearestFloat negative n 0).isFinite = decide (n < overflowBound) := by
  have hneg (x : Float) : (if negative then -x else x).isFinite = x.isFinite := by
    split_ifs
    · exact isFinite_neg x
    · rfl
  unfold nearestFloat
  simp only [hneg]
  split_ifs with h0 hlead hlow
  · rw [h0]
    exact (decide_eq_true (lt_of_lt_two_pow (by norm_num) 970 : 0 < overflowBound)).symm
  · have hle : 10 ^ 310 ≤ n := le_of_lt_length (by norm_num) (by omega)
    exact (decide_eq_false (not_lt.mpr (overflowBound_le.trans hle))).symm
  · omega
  · exact isFinite_ofScientific (Nat.pos_of_ne_zero h0)

/-- An integer has no nearest number just if it rounds beyond the finite ones. -/
theorem nearestInt?_eq_none_iff (n : ℤ) : nearestInt? n = none ↔ overflowBound ≤ n.natAbs := by
  unfold nearestInt?
  simp only [isFinite_nearestFloat, decide_eq_true_eq]
  split_ifs with h
  · exact iff_of_false nofun (not_le.mpr h)
  · exact iff_of_true rfl (not_lt.mp h)

end ClusterBilling.Decimal
