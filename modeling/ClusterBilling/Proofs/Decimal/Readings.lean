import ClusterBilling.Proofs.Decimal.Operations

/-! What a floating-point number is told by: its bits can be recovered from what they say. -/
namespace ClusterBilling.Decimal
open Float.Model Float.Model.UnpackedFloat

/-- What the bits of an unpacked number say. -/
def readingOf : UnpackedFloat → Reading
  | .notANumber => .nan
  | .infinity s => .infinite (isNegative s)
  | .zero s => .finite ⟨isNegative s, 0, -1074⟩
  | .finite s m e _ => .finite ⟨isNegative s, m, e⟩

theorem ofBits_eq_readingOf (b : BitVec 64) :
    Reading.ofBits b.toNat = readingOf (unpack .binary64 b) := by
  have hexp : (@unpackExponent .binary64 b).toNat = b.toNat / 2 ^ 52 % 2 ^ 11 := by
    simp [unpackExponent, Nat.shiftRight_eq_div_pow]
  have hman : (@unpackMantissa .binary64 b).toNat = b.toNat % 2 ^ 52 := by
    simp [unpackMantissa]
  have hhidden : hiddenBit = 2 ^ 52 := rfl
  have hfield : 2048 = 2 ^ 11 := rfl
  have hzero : (@unpackMantissa .binary64 b).toNat = 0 ↔ @unpackMantissa .binary64 b = 0#52 := by
    rw [← BitVec.toNat_inj, BitVec.toNat_zero]
  cases h : unpack .binary64 b with
  | finite s m e hm => exact ofBits_of_unpack h
  | _ =>
    unfold UnpackedFloat.unpack at h
    simp only at h
    simp only [Reading.ofBits, testBit_sign, hhidden, hfield, ← hexp, ← hman]
    split_ifs at h with he hm h0 hm
    all_goals cases h
    first
    | rw [if_pos (by rw [he]; rfl), if_pos (hzero.mpr hm)]; rfl
    | rw [if_pos (by rw [he]; rfl), if_neg (hzero.not.mpr hm)]; rfl
    | rw [if_neg (by rw [h0]; decide), if_pos (by rw [h0]; rfl), hzero.mpr hm]; rfl

theorem reading_ofFloat (x : Float) : Reading.ofFloat x = readingOf x.toModel.unpack :=
  ofBits_eq_readingOf x.toModel.toBits.toBitVec

/-- The finite numbers are those whose bits say so. -/
theorem isFinite_iff {x : Float} : x.isFinite ↔ ∃ b, Reading.ofFloat x = .finite b := by
  rw [reading_ofFloat]
  change x.toModel.unpack.isFinite ↔ _
  cases x.toModel.unpack <;> simp [readingOf, UnpackedFloat.isFinite]

theorem Reading.ofBits_inj {n n' : ℕ} (hn : n < 2 ^ 64) (hn' : n' < 2 ^ 64)
    (h : Reading.ofBits n = Reading.ofBits n') (hnan : Reading.ofBits n ≠ .nan) : n = n' := by
  have hhidden : hiddenBit = 2 ^ 52 := rfl
  unfold Reading.ofBits at h hnan
  simp only [Nat.testBit_eq_decide_div_mod_eq, hhidden] at h hnan
  split_ifs at h hnan
  all_goals first | exact absurd rfl hnan | (simp at h; omega)

/-- Numbers with the same reading are the same, unless they are no numbers. -/
theorem eq_of_reading {x y : Float} (h : Reading.ofFloat x = Reading.ofFloat y)
    (hnan : Reading.ofFloat x ≠ .nan) : x = y := by
  obtain ⟨⟨a, ha⟩⟩ := x
  obtain ⟨⟨b, hb⟩⟩ := y
  have hbits : a.toNat = b.toNat := Reading.ofBits_inj a.toNat_lt b.toNat_lt h hnan
  obtain rfl : a = b := UInt64.toNat_inj.mp hbits
  rfl

/-- A finite number is read as a canonical one. -/
theorem canonical_of_reading {x : Float} {b : Binary} (h : Reading.ofFloat x = .finite b) :
    Canonical b.mantissa b.exponent ∧ b.exponent ≤ 971 := by
  have hhidden : hiddenBit = 2 ^ 52 := rfl
  unfold Reading.ofFloat Reading.ofBits at h
  simp only [hhidden] at h
  split_ifs at h
  · obtain rfl := Reading.finite.inj h
    exact ⟨⟨by simp only; omega, by simp, .inr rfl⟩, by simp⟩
  · obtain rfl := Reading.finite.inj h
    exact ⟨⟨by simp only; omega, by simp only; omega, .inl (by simp)⟩, by simp only; omega⟩

/-- The form of a canonical number follows from its value. -/
theorem Canonical.eq {m m' : ℕ} {e e' : ℤ} (h : Canonical m e) (h' : Canonical m' e')
    (hv : (m : ℚ) * 2 ^ e = m' * 2 ^ e') : m = m' ∧ e = e' := by
  -- a number in units of a smaller place has a longer mantissa than fits
  have hle {m m' : ℕ} {e e' : ℤ} (h : Canonical m e) (h' : Canonical m' e')
      (hv : (m : ℚ) * 2 ^ e = m' * 2 ^ e') : e' ≤ e := by
    by_contra hlt
    have hge : 2 ^ 52 ≤ m' := h'.normal_or_least.resolve_right (by have := h.le_exponent; omega)
    have hpow : (0 : ℚ) < 2 ^ e := by positivity
    have hshift : (m : ℚ) = m' * 2 ^ (e' - e) := by
      rw [zpow_sub₀ two_ne_zero]
      field_simp
      exact hv
    have htwo : (2 : ℚ) ≤ 2 ^ (e' - e) := by
      calc (2 : ℚ) = 2 ^ (1 : ℤ) := (zpow_one 2).symm
        _ ≤ 2 ^ (e' - e) := zpow_le_zpow_right₀ one_le_two (by omega)
    have hlarge : (2 ^ 53 : ℚ) ≤ m := by
      have hge' : (2 ^ 52 : ℚ) ≤ m' := by exact_mod_cast hge
      calc (2 ^ 53 : ℚ) = 2 ^ 52 * 2 := by norm_num
        _ ≤ m' * 2 ^ (e' - e) := by gcongr
        _ = m := hshift.symm
    have hlarge : 2 ^ 53 ≤ m := by exact_mod_cast hlarge
    exact absurd h.mantissa_lt (not_lt.mpr hlarge)
  obtain rfl : e = e' := le_antisymm (hle h' h hv.symm) (hle h h' hv)
  have hpow : (2 : ℚ) ^ e ≠ 0 := by positivity
  exact ⟨by exact_mod_cast mul_right_cancel₀ hpow hv, rfl⟩

theorem Represents.unique {u u' : UnpackedFloat} {v? : Option ℚ} (h : Represents u v?)
    (h' : Represents u' v?) : u = u' := by
  cases v? with
  | none => exact Eq.trans h h'.symm
  | some v =>
    rcases h with ⟨rfl, rfl⟩ | ⟨m, e, hm, rfl, hc, -, rfl⟩
    · exact h'.zero.symm
    · obtain ⟨m', e', hm', rfl, hc', -, hv⟩ := h'.positive (by positivity)
      obtain ⟨rfl, rfl⟩ := hc.eq hc' hv.symm
      rfl

/-- A number has one value. -/
theorem Represents.value_unique {u : UnpackedFloat} {v? w? : Option ℚ} (h : Represents u v?)
    (h' : Represents u w?) : v? = w? := by
  cases v? with
  | none =>
    cases w? with
    | none => rfl
    | some w =>
      obtain rfl : u = .infinity .positive := h
      rcases h' with ⟨hu, -⟩ | ⟨m, e, hm, hu, -⟩ <;> cases hu
  | some v =>
    rcases h with ⟨rfl, rfl⟩ | ⟨m, e, hm, rfl, -, -, rfl⟩
    · cases w? with
      | none => cases h'
      | some w =>
        rcases h' with ⟨-, rfl⟩ | ⟨m, e, hm, hu, -⟩
        · rfl
        · cases hu
    · cases w? with
      | none => cases h'
      | some w =>
        rcases h' with ⟨hu, -⟩ | ⟨m', e', hm', hu, -, -, rfl⟩
        · cases hu
        · cases hu
          rfl

theorem Represents.readingOf_ne_nan {u : UnpackedFloat} {v? : Option ℚ} (h : Represents u v?) :
    readingOf u ≠ .nan := by
  cases v? with
  | none =>
    rw [show u = _ from h]
    nofun
  | some v => rcases h with ⟨rfl, -⟩ | ⟨m, e, hm, rfl, -⟩ <;> nofun

/-- There is one number of each value. -/
theorem HasValue.unique {x y : Float} {v? : Option ℚ} (hx : HasValue x v?) (hy : HasValue y v?) :
    x = y := by
  apply eq_of_reading
  · rw [reading_ofFloat, reading_ofFloat, Represents.unique hx hy]
  · rw [reading_ofFloat]
    exact Represents.readingOf_ne_nan hx

end ClusterBilling.Decimal
