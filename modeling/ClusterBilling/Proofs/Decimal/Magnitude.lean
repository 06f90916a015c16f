import ClusterBilling.Proofs.Decimal.Packing

/-!
Lower bounds and signs of floating-point numbers that rounding keeps, and their use on hours: time
that passes never vanishes when its microseconds are divided into hours, and never turns back.
-/
namespace ClusterBilling.Decimal
open Float.Model Float.Model.UnpackedFloat

/-- At least `2 ^ k`, infinity included, in the form that packing keeps. -/
def AtLeast (k : ℤ) : UnpackedFloat → Prop
  | .infinity .positive => True
  | .finite .positive m e _ => k ≤ m.log2 + e ∧ Canonical m e
  | _ => False

/-- Neither below zero nor the negative zero nor not a number. -/
def Nonnegative : UnpackedFloat → Prop
  | .infinity .positive | .zero .positive | .finite .positive .. => True
  | _ => False

/-- A number of this sign, infinity and zero included. -/
inductive HasSign (s : Sign) : UnpackedFloat → Prop
  | infinity : HasSign s (.infinity s)
  | zero : HasSign s (.zero s)
  | finite (m : ℕ) (e : ℤ) (hm : 0 < m) : HasSign s (.finite s m e hm)

theorem nonnegative_iff_hasSign {u : UnpackedFloat} : Nonnegative u ↔ HasSign .positive u := by
  constructor
  · intro h
    match u, h with
    | .infinity .positive, _ => exact .infinity
    | .zero .positive, _ => exact .zero
    | .finite .positive .., _ => exact .finite ..
  · intro h
    cases h <;> trivial

theorem AtLeast.nonnegative {k : ℤ} {u : UnpackedFloat} (h : AtLeast k u) : Nonnegative u :=
  match u, h with
  | .infinity .positive, _ => trivial
  | .finite .positive .., _ => trivial

theorem roundWithAccuracy_atLeast {m : ℕ} {e k : ℤ} (acc : Accuracy) (hm : 0 < m)
    (hk : -1074 ≤ k) (hle : k ≤ m.log2 + e) (he : e ≤ max (m.log2 + 1 + e - 53) (-1074)) :
    AtLeast k (roundWithAccuracy .binary64 .positive m e acc) := by
  obtain ⟨m', e', _, hr, hc, hlog, -⟩ := roundWithAccuracy_eq hm he (hk.trans hle) acc
  rw [hr]
  exact ⟨hle.trans hlog, hc⟩

theorem round_atLeast {m : ℕ} {e k : ℤ} (hm : 0 < m) (hk : -1074 ≤ k) (hle : k ≤ m.log2 + e) :
    AtLeast k (UnpackedFloat.round .binary64 .positive m e) := by
  obtain ⟨s, hs, hr⟩ := round_eq m e
  have hlog := log2_shiftLeft hm s
  rw [hr]
  apply roundWithAccuracy_atLeast _ (by simp [hm]) hk <;> omega

theorem div_finite_atLeast {m₁ m : ℕ} {e₁ e k : ℤ} (hm₁ : 0 < m₁) (hm : 0 < m)
    (hle : k ≤ m₁.log2 + e₁ - (m.log2 + e) - 1) (hk : -1074 ≤ k) :
    AtLeast k (div .binary64 (.finite .positive m₁ e₁ hm₁) (.finite .positive m e hm)) := by
  let t := min (e₁ - e) (max ((m₁.log2 + 1 + e₁) - (m.log2 + 1 + e) - 53) (-1074))
  let s := (e₁ - e - t).toNat
  have hs := log2_shiftLeft hm₁ s
  obtain ⟨hpos, hlog⟩ := le_log2_div (m := m₁ <<< s) hm (by omega)
  change AtLeast k (roundWithAccuracy .binary64 .positive (m₁ <<< s / m) t _)
  apply roundWithAccuracy_atLeast _ hpos hk <;> omega

theorem div_atLeast {u : UnpackedFloat} {k l : ℤ} (h : AtLeast k u) {m : ℕ} {e : ℤ} (hm : 0 < m)
    (hle : l ≤ k - (m.log2 + e) - 1) (hl : -1074 ≤ l) :
    AtLeast l (div .binary64 u (.finite .positive m e hm)) := by
  match u, h with
  | .infinity .positive, _ => trivial
  | .finite .positive m₁ e₁ hm₁, ⟨hk, _⟩ => exact div_finite_atLeast hm₁ hm (by omega) hl

theorem unpack_pack_atLeast {k : ℤ} {u : UnpackedFloat} (h : AtLeast k u) :
    AtLeast k (unpack .binary64 (pack .binary64 u)) := by
  match u, h with
  | .infinity .positive, _ => trivial
  | .finite .positive m e hm, ⟨hk, hc⟩ =>
    by_cases hfit : e ≤ 971
    · rw [unpack_pack_canonical hm hc hfit]
      exact ⟨hk, hc⟩
    · rw [unpack_pack_overflow hm (not_le.mp hfit)]
      trivial

section
variable {s : Sign} {u : UnpackedFloat}

theorem unpack_packComponents_hasSign {e : BitVec 11} (he : e ≠ -1#11) (m : BitVec 52) :
    HasSign s (unpack .binary64 (packComponents .binary64 s e m)) := by
  rw [unpack_packComponents he]
  split_ifs <;> constructor

theorem roundWithAccuracy_hasSign (m : ℕ) (e : ℤ) (acc : Accuracy) :
    HasSign s (roundWithAccuracy .binary64 s m e acc) := by
  simp only [roundWithAccuracy]
  split_ifs <;> constructor

theorem unpack_packedInfinity_hasSign :
    HasSign s (unpack .binary64 (packedInfinity .binary64 s)) := by
  cases s <;> exact .infinity

theorem unpack_packedZero_hasSign : HasSign s (unpack .binary64 (packedZero .binary64 s)) := by
  cases s <;> exact .zero

theorem unpack_pack_hasSign (h : HasSign s u) :
    HasSign s (unpack .binary64 (pack .binary64 u)) := by
  cases h with
  | infinity => exact unpack_packedInfinity_hasSign
  | zero => exact unpack_packedZero_hasSign
  | finite m e hm =>
    unfold UnpackedFloat.pack
    dsimp only
    split_ifs with hb hn
    · exact unpack_packedInfinity_hasSign
    · exact unpack_packComponents_hasSign (exponentField_ne hb) _
    · exact unpack_packComponents_hasSign (by decide) _

theorem neg_hasSign (h : HasSign s u) : HasSign (-s) u.neg := by
  cases h <;> constructor

theorem div_hasSign (h : HasSign s u) {m : ℕ} {e : ℤ} (hm : 0 < m) :
    HasSign s (div .binary64 u (.finite .positive m e hm)) := by
  have hs : s / .positive = s := by cases s <;> rfl
  cases h with
  | infinity => simpa only [UnpackedFloat.div, hs] using HasSign.infinity
  | zero => simpa only [UnpackedFloat.div, hs] using HasSign.zero
  | finite => simpa only [UnpackedFloat.div, hs] using roundWithAccuracy_hasSign _ _ _

theorem mul_hasSign (h : HasSign s u) {m : ℕ} {e : ℤ} (hm : 0 < m) :
    HasSign s (mul .binary64 u (.finite .positive m e hm)) := by
  have hs : s * .positive = s := by cases s <;> rfl
  cases h with
  | infinity => simpa only [UnpackedFloat.mul, hs] using HasSign.infinity
  | zero => simpa only [UnpackedFloat.mul, hs] using HasSign.zero
  | finite => simpa only [UnpackedFloat.mul, hs] using roundWithAccuracy_hasSign _ _ _

/-- On either side of zero, a number is at most zero or above it. -/
theorem HasSign.le_zero_iff (h : HasSign s u) :
    u.le (.zero .positive) ↔ ¬ (UnpackedFloat.zero .positive).lt u := by
  cases h with
  | infinity => cases s <;> decide
  | zero => cases s <;> decide
  | finite m e hm =>
    match s with
    | .positive => exact iff_of_false Bool.false_ne_true (not_not.mpr rfl)
    | .negative => exact iff_of_true rfl Bool.false_ne_true

theorem HasSign.zero_lt (h : HasSign .positive u) (h0 : u.beq (.zero .positive) = false) :
    (UnpackedFloat.zero .positive).lt u := by
  cases h with
  | infinity => rfl
  | zero => exact absurd h0 (by decide)
  | finite => rfl

theorem HasSign.isNaN (h : HasSign s u) : u.isNaN = false := by
  cases h <;> rfl

theorem HasSign.not_zero_lt (h : HasSign .negative u) : ¬ (UnpackedFloat.zero .positive).lt u := by
  cases h <;> exact Bool.false_ne_true

end

end ClusterBilling.Decimal
