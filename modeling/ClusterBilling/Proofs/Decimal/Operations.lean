import ClusterBilling.Proofs.Decimal.Nearest

/-!
Arithmetic on floating-point numbers that are not negative: each operation makes the number that is
nearest to the exact result.
-/
namespace ClusterBilling.Decimal
open Float.Model Float.Model.UnpackedFloat

/-- The fraction that a floating-point number is; infinity is none. -/
def HasValue (x : Float) (v? : Option ℚ) : Prop := Represents x.toModel.unpack v?

variable {x y : Float} {v w : ℚ} {m m₁ m₂ : ℕ} {e e₁ e₂ : ℤ}

theorem standsFor_exact (m : ℕ) : StandsFor (.ofMantissaAndAccuracy m .exact) m := by
  simp [StandsFor, ExtendedMantissa.ofMantissaAndAccuracy]

theorem represents_exact (hm : 0 < m) (he : e ≤ max (m.log2 + 1 + e - 53) (-1074)) :
    Represents (unpack .binary64 (pack .binary64
      (roundWithAccuracy .binary64 .positive m e .exact))) (nearest (m * 2 ^ e)) := by
  have hpow : (2 : ℚ) ^ e ≠ 0 := by positivity
  refine represents_round (by positivity) ?_ he
  rw [mul_div_cancel_right₀ _ hpow]
  exact standsFor_exact m

theorem shiftLeft_value (m : ℕ) (e : ℤ) (s : ℕ) :
    ((m <<< s : ℕ) : ℚ) * 2 ^ (e - s) = m * 2 ^ e := by
  rw [Nat.shiftLeft_eq, zpow_sub₀ two_ne_zero, zpow_natCast]
  push_cast
  field_simp

/-- An exact number is rounded, however it is given. -/
theorem represents_normalize (hm : 0 < m) (e : ℤ) (s : Sign) :
    Represents (unpack .binary64 (pack .binary64 (normalize .binary64 (m : ℤ) e s)))
      (nearest (m * 2 ^ e)) := by
  obtain ⟨s, hs, hround⟩ := round_eq m e
  have hlog := log2_shiftLeft hm s
  rw [UnpackedFloat.normalize, Int.compare_eq_gt.mpr (by exact_mod_cast hm)]
  simp only [Int.toNat_natCast]
  rw [hround, ← shiftLeft_value m e s]
  exact represents_exact (by simp [hm]) (by omega)

theorem Represents.positive {u : UnpackedFloat} (h : Represents u (some v)) (hv : 0 < v) :
    ∃ m e h, u = .finite .positive m e h ∧ Canonical m e ∧ e ≤ 971 ∧ (m : ℚ) * 2 ^ e = v :=
  h.resolve_left fun h => hv.ne' h.2

theorem Represents.zero {u : UnpackedFloat} (h : Represents u (some 0)) :
    u = .zero .positive := by
  rcases h with h | ⟨m, e, hm, -, -, -, hv⟩
  · exact h.1
  · have : (0 : ℚ) < m * 2 ^ e := by positivity
    exact absurd hv this.ne'

/-- A number that some floating-point number is, is its own nearest. -/
theorem Represents.nearest {u : UnpackedFloat} (h : Represents u (some v)) :
    nearest v = some v := by
  rcases h with h | ⟨m, e, hm, -, hc, he, rfl⟩
  · rw [h.2, nearest_zero]
  · exact nearest_canonical hc hm he

theorem represents_zero :
    Represents (unpack .binary64 (pack .binary64 (.zero .positive))) (some 0) := .inl ⟨rfl, rfl⟩

/-- The product of two canonical numbers has bits enough. -/
theorem exponent_mul_le (hm₁ : 0 < m₁) (hm₂ : 0 < m₂) (hc₁ : Canonical m₁ e₁)
    (hc₂ : Canonical m₂ e₂) :
    e₁ + e₂ ≤ max ((m₁ * m₂).log2 + 1 + (e₁ + e₂) - 53) (-1074) := by
  have h (hn : 2 ^ 52 ≤ m₁ * m₂) : 52 ≤ (m₁ * m₂).log2 :=
    (Nat.le_log2 (Nat.mul_pos hm₁ hm₂).ne').mpr hn
  rcases hc₁.normal_or_least with h₁ | h₁
  · have := h (h₁.trans (Nat.le_mul_of_pos_right _ hm₂))
    omega
  · rcases hc₂.normal_or_least with h₂ | h₂
    · have := h (h₂.trans (Nat.le_mul_of_pos_left _ hm₁))
      omega
    · omega

theorem hasValue_mul (hx : HasValue x (some v)) (hy : HasValue y (some w)) :
    HasValue (x * y) (nearest (v * w)) := by
  change Represents (unpack .binary64 (pack .binary64
    (mul .binary64 x.toModel.unpack y.toModel.unpack))) _
  rcases hx with ⟨hx, rfl⟩ | ⟨m₁, e₁, hm₁, hx, hc₁, -, rfl⟩ <;>
    rcases hy with ⟨hy, rfl⟩ | ⟨m₂, e₂, hm₂, hy, hc₂, -, rfl⟩ <;> rw [hx, hy]
  · rw [zero_mul, nearest_zero]
    exact represents_zero
  · rw [zero_mul, nearest_zero]
    exact represents_zero
  · rw [mul_zero, nearest_zero]
    exact represents_zero
  · have hvalue : (m₁ * 2 ^ e₁ * (m₂ * 2 ^ e₂) : ℚ) = ((m₁ * m₂ : ℕ) : ℚ) * 2 ^ (e₁ + e₂) := by
      rw [zpow_add₀ two_ne_zero]
      push_cast
      ring
    rw [hvalue]
    exact represents_exact (Nat.mul_pos hm₁ hm₂) (exponent_mul_le hm₁ hm₂ hc₁ hc₂)

/-- A quotient of numbers in any form is rounded with bits enough. -/
theorem represents_div (hm₁ : 0 < m₁) (hm₂ : 0 < m₂) :
    Represents (unpack .binary64 (pack .binary64
      (div .binary64 (.finite .positive m₁ e₁ hm₁) (.finite .positive m₂ e₂ hm₂))))
      (nearest (m₁ * 2 ^ e₁ / (m₂ * 2 ^ e₂))) := by
  let t := min (e₁ - e₂) (max ((m₁.log2 + 1 + e₁) - (m₂.log2 + 1 + e₂) - 53) (-1074))
  let s := (e₁ - e₂ - t).toNat
  have hst : t = e₁ - e₂ - s := by omega
  have hlogs := log2_shiftLeft hm₁ s
  have hq : (m₁ * 2 ^ e₁ / (m₂ * 2 ^ e₂) : ℚ) / 2 ^ t = (m₁ <<< s : ℕ) / (m₂ : ℚ) := by
    rw [hst, zpow_sub₀ two_ne_zero, zpow_sub₀ two_ne_zero, zpow_natCast, Nat.shiftLeft_eq]
    push_cast
    field_simp
  change Represents (unpack .binary64 (pack .binary64
    (roundWithAccuracy .binary64 .positive (m₁ <<< s / m₂) t _))) _
  refine represents_round (by positivity) (hq ▸ standsFor_quotient _ hm₂) ?_
  by_cases ht : t ≤ -1074
  · exact ht.trans (le_max_right _ _)
  · obtain ⟨-, hlog⟩ := le_log2_div (m := m₁ <<< s) hm₂ (by omega)
    omega

theorem hasValue_div (hx : HasValue x (some v)) (hy : HasValue y (some w)) (hw : 0 < w) :
    HasValue (x / y) (nearest (v / w)) := by
  change Represents (unpack .binary64 (pack .binary64
    (div .binary64 x.toModel.unpack y.toModel.unpack))) _
  obtain ⟨m₂, e₂, hm₂, hy', -, -, rfl⟩ := Represents.positive hy hw
  rcases hx with ⟨hx, rfl⟩ | ⟨m₁, e₁, hm₁, hx, -, -, rfl⟩ <;> rw [hx, hy']
  · rw [zero_div, nearest_zero]
    exact represents_zero
  · exact represents_div hm₁ hm₂

theorem hasValue_add (hx : HasValue x (some v)) (hy : HasValue y (some w)) :
    HasValue (x + y) (nearest (v + w)) := by
  change Represents (unpack .binary64 (pack .binary64
    (add .binary64 x.toModel.unpack y.toModel.unpack))) _
  have hvx := Represents.nearest hx
  have hvy := Represents.nearest hy
  rcases hx with ⟨hx, rfl⟩ | ⟨m₁, e₁, hm₁, hx, hc₁, he₁, rfl⟩ <;>
    rcases hy with ⟨hy, rfl⟩ | ⟨m₂, e₂, hm₂, hy, hc₂, he₂, rfl⟩ <;> rw [hx, hy]
  · rw [zero_add, nearest_zero]
    exact represents_zero
  · rw [zero_add, hvy]
    change Represents (unpack .binary64 (pack .binary64 (.finite .positive m₂ e₂ hm₂))) _
    rw [unpack_pack_canonical hm₂ hc₂ he₂]
    exact .inr ⟨m₂, e₂, hm₂, rfl, hc₂, he₂, rfl⟩
  · rw [add_zero, hvx]
    change Represents (unpack .binary64 (pack .binary64 (.finite .positive m₁ e₁ hm₁))) _
    rw [unpack_pack_canonical hm₁ hc₁ he₁]
    exact .inr ⟨m₁, e₁, hm₁, rfl, hc₁, he₁, rfl⟩
  · let s₁ := (e₁ - min e₁ e₂).toNat
    let s₂ := (e₂ - min e₁ e₂).toNat
    have h₁ : min e₁ e₂ = e₁ - s₁ := by omega
    have h₂ : min e₁ e₂ = e₂ - s₂ := by omega
    have hvalue : (m₁ * 2 ^ e₁ + m₂ * 2 ^ e₂ : ℚ) =
        ((m₁ <<< s₁ + m₂ <<< s₂ : ℕ) : ℚ) * 2 ^ min e₁ e₂ := by
      rw [← shiftLeft_value m₁ e₁ s₁, ← shiftLeft_value m₂ e₂ s₂, ← h₁, ← h₂]
      push_cast
      ring
    rw [hvalue]
    change Represents (unpack .binary64 (pack .binary64
      (normalize .binary64 ((m₁ <<< s₁ : ℕ) + (m₂ <<< s₂ : ℕ) : ℤ) (min e₁ e₂) .positive))) _
    rw [← Nat.cast_add]
    exact represents_normalize (by simp [hm₁]) _ _

theorem represents_infinity :
    Represents (unpack .binary64 (pack .binary64 (.infinity .positive))) none := rfl

/-- Infinity stays infinite under a positive factor. -/
theorem hasValue_infinite_mul (hx : HasValue x none) (hy : HasValue y (some w)) (hw : 0 < w) :
    HasValue (x * y) none := by
  change Represents (unpack .binary64 (pack .binary64
    (mul .binary64 x.toModel.unpack y.toModel.unpack))) _
  obtain ⟨m, e, hm, hy', -⟩ := Represents.positive hy hw
  rw [show x.toModel.unpack = .infinity .positive from hx, hy']
  exact represents_infinity

/-- What is added to infinity is lost. -/
theorem hasValue_infinite_add {v? w? : Option ℚ} (hx : HasValue x v?) (hy : HasValue y w?)
    (h : v? = none ∨ w? = none) : HasValue (x + y) none := by
  change Represents (unpack .binary64 (pack .binary64
    (add .binary64 x.toModel.unpack y.toModel.unpack))) _
  have hinfinite {z : Float} (hz : HasValue z none) : z.toModel.unpack = .infinity .positive := hz
  cases v? with
  | none =>
    rw [hinfinite hx]
    cases w? with
    | none =>
      rw [hinfinite hy]
      exact represents_infinity
    | some w =>
      rcases hy with ⟨hy, -⟩ | ⟨m, e, hm, hy, -⟩ <;> rw [hy] <;> exact represents_infinity
  | some v =>
    obtain rfl : w? = none := by simpa using h
    rw [hinfinite hy]
    rcases hx with ⟨hx, -⟩ | ⟨m, e, hm, hx, -⟩ <;> rw [hx] <;> exact represents_infinity

end ClusterBilling.Decimal
