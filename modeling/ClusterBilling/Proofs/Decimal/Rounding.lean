import Mathlib
import ClusterBilling.Arithmetic

/-! How a mantissa and its exponent are rounded to the 53 bits of a binary64 number. -/
namespace ClusterBilling.Decimal
open Float.Model Float.Model.UnpackedFloat

theorem log2_div_two_pow (m s : ℕ) : (m / 2 ^ s).log2 = m.log2 - s := by
  rw [Nat.log2_eq_log_two, Nat.log2_eq_log_two, Nat.log_div_base_pow]

theorem log2_shiftLeft {m : ℕ} (hm : 0 < m) (s : ℕ) : (m <<< s).log2 = m.log2 + s := by
  induction s with
  | zero => rfl
  | succ s ih => rw [Nat.shiftLeft_succ, Nat.log2_two_mul (by simp [hm.ne']), ih, Nat.add_assoc]

theorem le_log2_div {m n : ℕ} (hn : 0 < n) (h : n.log2 < m.log2) :
    0 < m / n ∧ m.log2 - (n.log2 + 1) ≤ (m / n).log2 := by
  have hm : m ≠ 0 := by rintro rfl; simp at h
  have hp : 2 ^ (m.log2 - (n.log2 + 1)) ≤ m / n := by
    rw [Nat.le_div_iff_mul_le hn]
    calc 2 ^ (m.log2 - (n.log2 + 1)) * n
        ≤ 2 ^ (m.log2 - (n.log2 + 1)) * 2 ^ (n.log2 + 1) := by
          gcongr
          exact Nat.lt_log2_self.le
      _ = 2 ^ m.log2 := by rw [← pow_add, Nat.sub_add_cancel h]
      _ ≤ m := Nat.log2_self_le hm
  have hpos : 0 < m / n := (Nat.two_pow_pos _).trans_le hp
  exact ⟨hpos, (Nat.le_log2 hpos.ne').mpr hp⟩

theorem mantissa_shiftRight (em : ExtendedMantissa) (n : ℕ) :
    (em >>> n).mantissa = em.mantissa / 2 ^ n := by
  change (n.repeat ExtendedMantissa.shiftRightOne em).mantissa = _
  induction n with
  | zero => simp [Nat.repeat]
  | succ n ih =>
    rw [Nat.repeat, pow_succ, ← Nat.div_div_eq_div_mul, ← ih]
    rfl

theorem mantissa_le_rounded (em : ExtendedMantissa) : em.mantissa ≤ em.roundedMantissa := by
  unfold ExtendedMantissa.roundedMantissa Accuracy.roundToNearestEven
  split <;> omega

theorem rounded_le_mantissa (em : ExtendedMantissa) :
    em.roundedMantissa ≤ em.mantissa + 1 := by
  unfold ExtendedMantissa.roundedMantissa Accuracy.roundToNearestEven
  split <;> omega

theorem mantissa_ofMantissaAndAccuracy (m : ℕ) (acc : Accuracy) :
    (ExtendedMantissa.ofMantissaAndAccuracy m acc).mantissa = m := by
  unfold ExtendedMantissa.ofMantissaAndAccuracy
  split <;> rfl

/-- The bits that a mantissa drops on its way to the target exponent. -/
def droppedBits (m : ℕ) (e : ℤ) : ℕ := (max (m.log2 + 1 + e - 53) (-1074) - e).toNat

theorem shiftToTargetExponent_fst (m : ℕ) (e : ℤ) (acc : Accuracy) :
    (shiftToTargetExponent .binary64 m e acc).1.mantissa = m / 2 ^ droppedBits m e := by
  change (ExtendedMantissa.ofMantissaAndAccuracy m acc >>> droppedBits m e).mantissa = _
  rw [mantissa_shiftRight, mantissa_ofMantissaAndAccuracy]

/-- A mantissa and an exponent as rounding leaves them. -/
structure Canonical (m : ℕ) (e : ℤ) : Prop where
  mantissa_lt : m < 2 ^ 53
  le_exponent : -1074 ≤ e
  normal_or_least : 2 ^ 52 ≤ m ∨ e = -1074

/-- The mantissa without the bits that it drops, rounded by them. -/
def roundedBits (m : ℕ) (e : ℤ) (acc : Accuracy) : ℕ :=
  (shiftToTargetExponent .binary64 m e acc).1.roundedMantissa

theorem le_roundedBits (m : ℕ) (e : ℤ) (acc : Accuracy) :
    m / 2 ^ droppedBits m e ≤ roundedBits m e acc :=
  (shiftToTargetExponent_fst m e acc).symm.trans_le (mantissa_le_rounded _)

theorem roundedBits_le (m : ℕ) (e : ℤ) (acc : Accuracy) :
    roundedBits m e acc ≤ m / 2 ^ droppedBits m e + 1 :=
  (rounded_le_mantissa _).trans_eq (by rw [shiftToTargetExponent_fst])

section
variable {m : ℕ} {e : ℤ}

theorem droppedBits_le_log2 (hlo : -1074 ≤ m.log2 + e) : droppedBits m e ≤ m.log2 := by
  unfold droppedBits
  omega

theorem shifted_pos (hm : 0 < m) {s : ℕ} (hs : s ≤ m.log2) : 0 < m / 2 ^ s := by
  apply Nat.div_pos _ (by positivity)
  exact (Nat.pow_le_pow_right (by norm_num) hs).trans (Nat.log2_self_le hm.ne')

theorem log2_le_roundedBits (hm : 0 < m) (hs : droppedBits m e ≤ m.log2) (acc : Accuracy) :
    0 < roundedBits m e acc ∧ m.log2 - droppedBits m e ≤ (roundedBits m e acc).log2 := by
  have hpos := shifted_pos hm hs
  have hr := hpos.trans_le (le_roundedBits m e acc)
  refine ⟨hr, ?_⟩
  rw [← log2_div_two_pow]
  exact (Nat.le_log2 hr.ne').mpr ((Nat.log2_self_le hpos.ne').trans (le_roundedBits m e acc))

theorem roundedBits_le_two_pow (hm : 0 < m) (hs : droppedBits m e ≤ m.log2) (acc : Accuracy) :
    roundedBits m e acc ≤ 2 ^ 53 := by
  have hlt : m / 2 ^ droppedBits m e < 2 ^ 53 := by
    apply (Nat.log2_lt (shifted_pos hm hs).ne').mp
    rw [log2_div_two_pow]
    unfold droppedBits
    omega
  exact (roundedBits_le m e acc).trans hlt

/-- A rounded mantissa drops one bit more just if it carried over. -/
theorem droppedBits_carry {r : ℕ} {t : ℤ} (hr : r ≤ 2 ^ 53) (ht : -1074 ≤ t) :
    (droppedBits r t : ℤ) = if r = 2 ^ 53 then 1 else 0 := by
  unfold droppedBits
  split_ifs with hc
  · rw [hc, Nat.log2_two_pow]
    omega
  · have hlog : r.log2 ≤ 52 := by
      by_cases h0 : r = 0
      · rw [h0]
        decide
      · exact Nat.le_of_lt_succ ((Nat.log2_lt h0).mpr (lt_of_le_of_ne hr hc))
    omega

theorem roundWithAccuracy_of_pos {acc : Accuracy} {r : ℕ} {t : ℤ} (hr : roundedBits m e acc = r)
    (ht : e + droppedBits m e = t) (hpos : 0 < r / 2 ^ droppedBits r t) :
    roundWithAccuracy .binary64 .positive m e acc =
      .finite .positive (r / 2 ^ droppedBits r t) (t + droppedBits r t) hpos := by
  subst hr ht
  have hz := shiftToTargetExponent_fst (roundedBits m e acc) (e + droppedBits m e) .exact
  unfold roundWithAccuracy
  exact (dif_neg (by rw [← hz] at hpos; exact hpos.ne')).trans (by congr 1)

/-- A number that is not given too coarsely is rounded to a canonical one. -/
theorem roundWithAccuracy_eq (hm : 0 < m) (he : e ≤ max (m.log2 + 1 + e - 53) (-1074))
    (hlo : -1074 ≤ m.log2 + e) (acc : Accuracy) : ∃ m' e' h,
      roundWithAccuracy .binary64 .positive m e acc = .finite .positive m' e' h ∧
      Canonical m' e' ∧ m.log2 + e ≤ m'.log2 + e' ∧
      e' = max (m.log2 + 1 + e - 53) (-1074) + if roundedBits m e acc = 2 ^ 53 then 1 else 0 := by
  have hs := droppedBits_le_log2 hlo
  obtain ⟨hr, hlog⟩ := log2_le_roundedBits hm hs acc
  have hle := roundedBits_le_two_pow hm hs acc
  have ht : e + droppedBits m e = max (m.log2 + 1 + e - 53) (-1074) := by
    unfold droppedBits
    omega
  rw [← ht]
  generalize hr' : roundedBits m e acc = r at *
  generalize ht' : e + droppedBits m e = t at *
  have hs' : droppedBits r t ≤ r.log2 := droppedBits_le_log2 (by omega)
  have hpos := shifted_pos hr hs'
  have hlog' := log2_div_two_pow r (droppedBits r t)
  have hd : t + droppedBits r t = max (r.log2 + 1 + t - 53) t := by
    unfold droppedBits
    omega
  refine ⟨_, _, hpos, roundWithAccuracy_of_pos hr' ht' hpos, ⟨?_, by omega, ?_⟩, by omega, ?_⟩
  · apply (Nat.log2_lt hpos.ne').mp
    rw [hlog']
    omega
  · rw [← Nat.le_log2 hpos.ne', hlog']
    omega
  · rw [droppedBits_carry hle (by omega)]

/-- A number that is given too coarsely is first given more finely. -/
theorem round_eq (m : ℕ) (e : ℤ) : ∃ s : ℕ, e - s = min e (max (m.log2 + 1 + e - 53) (-1074)) ∧
    UnpackedFloat.round .binary64 .positive m e =
      roundWithAccuracy .binary64 .positive (m <<< s) (e - s) .exact :=
  ⟨(e - max (m.log2 + 1 + e - 53) (-1074)).toNat, by omega, rfl⟩

end

/-- Digits with six places are divided by a power of ten. -/
theorem ofScientific_unpacked {n : ℕ} (hn : 0 < n) :
    UnpackedFloat.ofScientific .binary64 n (-6) =
      div .binary64 (.finite .positive n 0 hn) (.finite .positive (10 ^ 6) 0 (by norm_num)) := by
  have hbits : (2 : ℤ) ^ Format.binary64.exponentBits = 2048 := by norm_num
  unfold UnpackedFloat.ofScientific
  rw [hbits, dif_neg hn.ne', if_neg (by omega), if_neg (by omega), if_neg (by omega)]
  rfl

/-- A million as the table of powers has it. -/
theorem powerOfTen_unpacked : ∃ h,
    (getElem Float.exactlyRepresentablePowersOfTen 6 (by decide)).toModel.unpack =
      .finite .positive (15625 * 2 ^ 39) (-33) h := ⟨by norm_num, rfl⟩

end ClusterBilling.Decimal
