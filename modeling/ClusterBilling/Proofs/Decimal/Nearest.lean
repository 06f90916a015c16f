import ClusterBilling.Decimal.Nearest
import ClusterBilling.Proofs.Decimal.Halfway
import ClusterBilling.Proofs.Decimal.Overflow

/-!
The nearest binary64 number as a fraction, and the same number as rounding makes it. Whatever is
rounded, the result stands for the fraction that is nearest to the exact one, or for infinity.
-/
namespace ClusterBilling.Decimal
open Float.Model Float.Model.UnpackedFloat

section leadingBit
variable {q : ℚ} {k l : ℤ}

/-- Only one power of two leads a fraction. -/
theorem two_pow_unique (hk : (2 : ℚ) ^ k ≤ q) (hk' : q < 2 ^ (k + 1)) (hl : (2 : ℚ) ^ l ≤ q)
    (hl' : q < 2 ^ (l + 1)) : k = l := by
  have h1 : k < l + 1 := (zpow_lt_zpow_iff_right₀ one_lt_two).mp (hk.trans_lt hl')
  have h2 : l < k + 1 := (zpow_lt_zpow_iff_right₀ one_lt_two).mp (hl.trans_lt hk')
  omega

/-- The lengths of a quotient's two parts tell its leading bit but for one place. -/
theorem div_bounds {n d : ℕ} (hn : 0 < n) (hd : 0 < d) :
    (2 : ℚ) ^ ((n.log2 : ℤ) - d.log2 - 1) < n / d ∧
      (n / d : ℚ) < 2 ^ ((n.log2 : ℤ) - d.log2 + 1) := by
  have hpos : (0 : ℚ) < d := by exact_mod_cast hd
  have hn1 : (2 : ℚ) ^ n.log2 ≤ n := by exact_mod_cast Nat.log2_self_le hn.ne'
  have hn2 : (n : ℚ) < 2 ^ (n.log2 + 1) := by exact_mod_cast Nat.lt_log2_self
  have hd1 : (2 : ℚ) ^ d.log2 ≤ d := by exact_mod_cast Nat.log2_self_le hd.ne'
  have hd2 : (d : ℚ) < 2 ^ (d.log2 + 1) := by exact_mod_cast Nat.lt_log2_self
  have hsplit (i : ℤ) (j : ℕ) : (2 : ℚ) ^ i * 2 ^ j = 2 ^ (i + j) := by
    rw [zpow_add₀ two_ne_zero, zpow_natCast]
  constructor
  · rw [lt_div_iff₀ hpos]
    calc (2 : ℚ) ^ ((n.log2 : ℤ) - d.log2 - 1) * d
        < 2 ^ ((n.log2 : ℤ) - d.log2 - 1) * 2 ^ (d.log2 + 1) := by gcongr
      _ = 2 ^ n.log2 := by
        rw [hsplit, ← zpow_natCast]
        congr 1
        push_cast
        ring
      _ ≤ n := hn1
  · rw [div_lt_iff₀ hpos]
    calc (n : ℚ) < 2 ^ (n.log2 + 1) := hn2
      _ = 2 ^ ((n.log2 : ℤ) - d.log2 + 1) * 2 ^ d.log2 := by
        rw [hsplit, ← zpow_natCast]
        congr 1
        push_cast
        ring
      _ ≤ 2 ^ ((n.log2 : ℤ) - d.log2 + 1) * d := by gcongr

theorem leadingBit_bounds (hq : 0 < q) :
    (2 : ℚ) ^ leadingBit q ≤ q ∧ q < 2 ^ (leadingBit q + 1) := by
  have hnum := Rat.num_pos.mpr hq
  have hval : (q.num.natAbs : ℚ) / q.den = q := by
    rw [Nat.cast_natAbs, abs_of_pos hnum, Rat.num_div_den]
  obtain ⟨hlow, hhigh⟩ := div_bounds (Int.natAbs_pos.mpr hnum.ne') q.den_pos
  rw [hval] at hlow hhigh
  unfold leadingBit
  dsimp only
  split_ifs with h
  · exact ⟨h, hhigh⟩
  · exact ⟨hlow.le, by simpa using h⟩

theorem leadingBit_eq (h : (2 : ℚ) ^ k ≤ q) (h' : q < 2 ^ (k + 1)) : leadingBit q = k := by
  obtain ⟨hl, hl'⟩ := leadingBit_bounds ((zpow_pos two_pos k).trans_le h)
  exact two_pow_unique hl hl' h h'

theorem leadingBit_lt (hq : 0 < q) (h : q < 2 ^ k) : leadingBit q < k :=
  (zpow_lt_zpow_iff_right₀ one_lt_two).mp ((leadingBit_bounds hq).1.trans_lt h)

end leadingBit

/-- The exponent of the last place that a number near `q` keeps. -/
def lastPlace (q : ℚ) : ℤ := max (leadingBit q - 52) (-1074)

theorem spacing_eq (q : ℚ) : spacing q = 2 ^ lastPlace q := rfl

theorem nearest_zero : nearest 0 = some 0 := by
  have h : nearestInteger 0 = 0 := by decide +kernel
  simp [nearest, h]

section round
variable {em : ExtendedMantissa} {x q : ℚ} {m : ℕ} {e : ℤ} {acc : Accuracy}

theorem StandsFor.bounds (h : StandsFor em x) : (em.mantissa : ℚ) ≤ x ∧ x < em.mantissa + 1 := by
  obtain ⟨m, r, s⟩ := em
  unfold StandsFor at h
  cases r <;> cases s <;> simp at h ⊢ <;> constructor <;> linarith

theorem StandsFor.floor (h : StandsFor em x) : x.floor = em.mantissa :=
  show ⌊x⌋ = em.mantissa from Int.floor_eq_iff.mpr (by exact_mod_cast h.bounds)

/-- The residual bits tell the nearest integer. -/
theorem StandsFor.nearestInteger (h : StandsFor em x) :
    nearestInteger x = em.roundedMantissa := by
  have hfloor := h.floor
  unfold Decimal.nearestInteger
  rw [hfloor]
  obtain ⟨m, r, s⟩ := em
  unfold StandsFor at h
  cases r <;> cases s <;>
    simp only [Bool.toNat_true, Bool.toNat_false, Nat.cast_zero, Nat.cast_one, if_true,
      Bool.false_eq_true, if_false, ExtendedMantissa.roundedMantissa, ExtendedMantissa.accuracy,
      Accuracy.roundToNearestEven, Int.cast_natCast] at h ⊢
  · rw [if_pos (by linarith)]
  · rw [if_pos (by linarith)]
  · rw [if_neg (by linarith), if_pos (by linarith)]
    push_cast
    rfl
  · rw [if_neg (by linarith), if_neg (by linarith)]
    push_cast
    rfl

/-- With enough bits the exponent after rounding is that of the last place. -/
theorem lastPlace_eq (hq : 0 < q)
    (hs : StandsFor (.ofMantissaAndAccuracy m acc) (q / 2 ^ e))
    (he : e ≤ max (m.log2 + 1 + e - 53) (-1074)) : e + droppedBits m e = lastPlace q := by
  have hpow : (0 : ℚ) < 2 ^ e := by positivity
  obtain ⟨hlow, hhigh⟩ := hs.bounds
  rw [mantissa_ofMantissaAndAccuracy, le_div_iff₀ hpow] at hlow
  rw [mantissa_ofMantissaAndAccuracy, div_lt_iff₀ hpow] at hhigh
  unfold droppedBits lastPlace
  rcases Nat.eq_zero_or_pos m with rfl | hm
  · have hlt : q < 2 ^ e := by simpa using hhigh
    have := leadingBit_lt hq hlt
    have hlog : Nat.log2 0 = 0 := by decide
    rw [hlog] at he ⊢
    omega
  · have hl : leadingBit q = m.log2 + e := by
      apply leadingBit_eq
      · refine le_trans ?_ hlow
        rw [zpow_add₀ two_ne_zero, zpow_natCast]
        gcongr
        exact_mod_cast Nat.log2_self_le hm.ne'
      · refine hhigh.trans_le ?_
        rw [add_right_comm, zpow_add₀ two_ne_zero]
        gcongr
        exact_mod_cast Nat.lt_log2_self
    omega

theorem nearest_eq (hq : 0 < q) (hs : StandsFor (.ofMantissaAndAccuracy m acc) (q / 2 ^ e))
    (he : e ≤ max (m.log2 + 1 + e - 53) (-1074)) :
    nearest q = if (roundedBits m e acc : ℚ) * 2 ^ lastPlace q < 2 ^ (1024 : ℤ) then
      some ((roundedBits m e acc : ℚ) * 2 ^ lastPlace q) else none := by
  have hint : nearestInteger (q / 2 ^ lastPlace q) = roundedBits m e acc := by
    rw [← lastPlace_eq hq hs he, zpow_add₀ two_ne_zero, ← div_div, zpow_natCast]
    exact (hs.shiftRight (droppedBits m e)).nearestInteger
  simp only [nearest, spacing_eq, hint, Int.cast_natCast]

/-- No more than 53 bits are left, also where all are dropped. -/
theorem roundedBits_le_of_dropped (m : ℕ) (e : ℤ) (acc : Accuracy) :
    roundedBits m e acc ≤ 2 ^ 53 := by
  rcases Nat.eq_zero_or_pos m with rfl | hm
  · have := roundedBits_le 0 e acc
    rw [Nat.zero_div] at this
    exact this.trans (by norm_num)
  · by_cases hs : droppedBits m e ≤ m.log2
    · exact roundedBits_le_two_pow hm hs acc
    · have hzero : m / 2 ^ droppedBits m e = 0 :=
        Nat.div_eq_of_lt ((Nat.log2_lt hm.ne').mp (not_le.mp hs))
      have := roundedBits_le m e acc
      rw [hzero] at this
      exact this.trans (by norm_num)

/-- Above the least exponent a rounded mantissa keeps its leading bit. -/
theorem le_roundedBits_of_normal (acc : Accuracy) (hm : -1074 < e + droppedBits m e)
    (he : e ≤ max (m.log2 + 1 + e - 53) (-1074)) : 2 ^ 52 ≤ roundedBits m e acc := by
  have hlog : (m.log2 : ℤ) = 52 + droppedBits m e := by
    unfold droppedBits at *
    omega
  have hpos : 0 < m := Nat.pos_of_ne_zero fun h => by
    have h0 : Nat.log2 0 = 0 := by decide
    rw [h, h0] at hlog
    omega
  obtain ⟨hr, hle⟩ := log2_le_roundedBits hpos (by omega : droppedBits m e ≤ m.log2) acc
  exact (Nat.le_log2 hr.ne').mp (by omega)

theorem roundWithAccuracy_of_zero (h : roundedBits m e acc = 0) :
    roundWithAccuracy .binary64 .positive m e acc = .zero .positive := by
  have hz := shiftToTargetExponent_fst (roundedBits m e acc) (e + droppedBits m e) .exact
  rw [h, Nat.zero_div] at hz
  unfold roundWithAccuracy
  exact dif_pos (by rw [← hz, ← h]; rfl)

end round

/-- The fraction that a number which is not negative stands for; infinity stands for none. -/
def Represents (u : UnpackedFloat) : Option ℚ → Prop
  | none => u = .infinity .positive
  | some v => (u = .zero .positive ∧ v = 0) ∨
    ∃ m e h, u = .finite .positive m e h ∧ Canonical m e ∧ e ≤ 971 ∧ (m : ℚ) * 2 ^ e = v

theorem canonical_lt_iff {m : ℕ} {e : ℤ} (hc : Canonical m e) :
    (m : ℚ) * 2 ^ e < 2 ^ (1024 : ℤ) ↔ e ≤ 971 := by
  have hlt : (m : ℚ) < 2 ^ (53 : ℤ) := by exact_mod_cast hc.mantissa_lt
  constructor
  · intro h
    by_contra he
    have hle : (2 : ℚ) ^ (52 : ℤ) ≤ m := by
      exact_mod_cast hc.normal_or_least.resolve_right (by omega)
    have : (2 : ℚ) ^ (1024 : ℤ) ≤ m * 2 ^ e :=
      calc (2 : ℚ) ^ (1024 : ℤ) ≤ 2 ^ (52 + e) := zpow_le_zpow_right₀ one_le_two (by omega)
        _ = 2 ^ (52 : ℤ) * 2 ^ e := zpow_add₀ two_ne_zero _ _
        _ ≤ m * 2 ^ e := by gcongr
    exact absurd h (not_lt.mpr this)
  · intro he
    calc (m : ℚ) * 2 ^ e < 2 ^ (53 : ℤ) * 2 ^ e := by gcongr
      _ = 2 ^ (53 + e) := (zpow_add₀ two_ne_zero _ _).symm
      _ ≤ 2 ^ (1024 : ℤ) := zpow_le_zpow_right₀ one_le_two (by omega)

/-- A canonical number is packed as it is, or as infinity. -/
theorem represents_pack {m : ℕ} {e : ℤ} (hm : 0 < m) (hc : Canonical m e) :
    Represents (unpack .binary64 (pack .binary64 (.finite .positive m e hm)))
      (if (m : ℚ) * 2 ^ e < 2 ^ (1024 : ℤ) then some ((m : ℚ) * 2 ^ e) else none) := by
  simp only [canonical_lt_iff hc]
  split_ifs with he
  · rw [unpack_pack_canonical hm hc he]
    exact .inr ⟨m, e, hm, rfl, hc, he, rfl⟩
  · exact unpack_pack_overflow hm (not_le.mp he)

/-- Rounding makes the number that is nearest. -/
theorem represents_round {q : ℚ} {m : ℕ} {e : ℤ} {acc : Accuracy} (hq : 0 < q)
    (hs : StandsFor (.ofMantissaAndAccuracy m acc) (q / 2 ^ e))
    (he : e ≤ max (m.log2 + 1 + e - 53) (-1074)) :
    Represents (unpack .binary64 (pack .binary64
      (roundWithAccuracy .binary64 .positive m e acc))) (nearest q) := by
  have hlast := lastPlace_eq hq hs he
  have hle := roundedBits_le_of_dropped m e acc
  have hnormal := le_roundedBits_of_normal (m := m) (e := e) acc
  rw [nearest_eq hq hs he, ← hlast]
  have ht : -1074 ≤ e + droppedBits m e := by
    rw [hlast]
    exact le_max_right _ _
  rcases Nat.eq_zero_or_pos (roundedBits m e acc) with h0 | hpos
  · rw [roundWithAccuracy_of_zero h0, h0]
    have hlt : ((0 : ℕ) : ℚ) * 2 ^ (e + (droppedBits m e : ℤ)) < 2 ^ (1024 : ℤ) := by
      rw [Nat.cast_zero, zero_mul]
      positivity
    rw [if_pos hlt]
    exact .inl ⟨rfl, by simp⟩
  · have hcarry := droppedBits_carry hle ht
    generalize hr : roundedBits m e acc = r at *
    generalize hx : e + (droppedBits m e : ℤ) = t at *
    -- a carry leaves the leading bit alone, one place higher
    obtain ⟨hpos', hcanonical, hvalue⟩ : 0 < r / 2 ^ droppedBits r t ∧
        Canonical (r / 2 ^ droppedBits r t) (t + droppedBits r t) ∧
        ((r / 2 ^ droppedBits r t : ℕ) : ℚ) * 2 ^ (t + droppedBits r t) = r * 2 ^ t := by
      split_ifs at hcarry with hc
      · have h1 : droppedBits r t = 1 := by exact_mod_cast hcarry
        have hhalf : r / 2 ^ droppedBits r t = 2 ^ 52 := by
          rw [h1, hc]
          norm_num
        refine ⟨hhalf ▸ by positivity, ⟨by omega, by omega, .inl hhalf.ge⟩, ?_⟩
        rw [hhalf, h1, hc, zpow_add₀ two_ne_zero]
        norm_num
        ring
      · have h0 : droppedBits r t = 0 := by exact_mod_cast hcarry
        rw [h0, pow_zero, Nat.div_one, Nat.cast_zero, add_zero]
        exact ⟨hpos, ⟨by omega, ht, by omega⟩, rfl⟩
    rw [roundWithAccuracy_of_pos hr hx hpos', ← hvalue]
    exact represents_pack hpos' hcanonical

section interval
variable {q y : ℚ} {m : ℕ} {e : ℤ}

/-- An integer is nearest to all that is less than a half away, and an even one to both halves. -/
theorem nearestInteger_of_near {n : ℤ} (h : if n % 2 = 0 then (n : ℚ) - 1 / 2 ≤ y ∧ y ≤ n + 1 / 2
    else (n : ℚ) - 1 / 2 < y ∧ y < n + 1 / 2) : nearestInteger y = n := by
  have hle : (n : ℚ) - 1 / 2 ≤ y ∧ y ≤ n + 1 / 2 := by
    split_ifs at h
    · exact h
    · exact ⟨h.1.le, h.2.le⟩
  unfold nearestInteger
  dsimp only
  rcases le_or_gt (n : ℚ) y with hn | hn
  · have hfloor : y.floor = n :=
      show ⌊y⌋ = n from Int.floor_eq_iff.mpr ⟨hn, by linarith⟩
    rw [hfloor]
    split_ifs with h1 h2
    · rfl
    · split_ifs at h with heven
      · rw [heven, add_zero]
      · exact absurd h.2 (by linarith)
    · exact absurd hle.2 (by rcases lt_trichotomy (y - n) (1 / 2) with h | h | h <;> grind)
  · have hfloor : y.floor = n - 1 :=
      show ⌊y⌋ = n - 1 from Int.floor_eq_iff.mpr ⟨by push_cast; linarith, by push_cast; linarith⟩
    rw [hfloor]
    push_cast
    split_ifs with h1 h2
    · exact absurd hle.1 (by linarith)
    · split_ifs at h with heven
      · omega
      · exact absurd h.1 (by linarith)
    · ring

/-- The fractions between the midpoints to the neighbours of a canonical number. Below a power of
two the neighbours are half as far apart. The midpoints belong to the even mantissa. -/
def Encloses (m : ℕ) (e : ℤ) (q : ℚ) : Prop :=
  let below : ℚ := if m = 2 ^ 52 ∧ e ≠ -1074 then 1 / 4 else 1 / 2
  if m % 2 = 0 then m - below ≤ q / 2 ^ e ∧ q / 2 ^ e ≤ m + 1 / 2
  else m - below < q / 2 ^ e ∧ q / 2 ^ e < m + 1 / 2

theorem encloses_self (m : ℕ) (e : ℤ) : Encloses m e (m * 2 ^ e) := by
  have hpow : (2 : ℚ) ^ e ≠ 0 := by positivity
  unfold Encloses
  dsimp only
  rw [mul_div_cancel_right₀ _ hpow]
  split_ifs <;> constructor <;> linarith

theorem Encloses.bounds (h : Encloses m e q) :
    (m : ℚ) - 1 / 2 ≤ q / 2 ^ e ∧ q / 2 ^ e ≤ m + 1 / 2 := by
  unfold Encloses at h
  split_ifs at h <;> constructor <;> linarith [h.1, h.2]

theorem Encloses.pos (h : Encloses m e q) (hm : 0 < m) : 0 < q := by
  have hm' : (1 : ℚ) ≤ m := by exact_mod_cast hm
  have hpos : 0 < q / 2 ^ e := by linarith [h.bounds.1]
  exact (div_pos_iff_of_pos_right (by positivity)).mp hpos

/-- Where the neighbours are equally far away, the last place is that of the number. -/
theorem Encloses.lastPlace_eq (h : Encloses m e q) (hc : Canonical m e) (hm : 0 < m)
    (heven : e = -1074 ∨ (2 ^ 52 : ℚ) ≤ q / 2 ^ e) : lastPlace q = e := by
  have hpow : (0 : ℚ) < 2 ^ e := by positivity
  have hlt : q < 2 ^ (53 + e) := by
    have hmlt : (m : ℚ) + 1 ≤ 2 ^ 53 := by exact_mod_cast hc.mantissa_lt
    have : q / 2 ^ e < 2 ^ 53 := by linarith [h.bounds.2]
    rw [div_lt_iff₀ hpow] at this
    rwa [zpow_add₀ two_ne_zero]
  have hlead := leadingBit_lt (h.pos hm) hlt
  have hle := hc.le_exponent
  unfold lastPlace
  rcases heven with rfl | hlow
  · omega
  · rw [le_div_iff₀ hpow] at hlow
    have : leadingBit q = 52 + e := by
      apply leadingBit_eq
      · rw [zpow_add₀ two_ne_zero]
        exact_mod_cast hlow
      · rwa [show 52 + e + 1 = 53 + e by ring]
    omega

/-- Below a power of two the last place is the one after that of the number. -/
theorem nearest_of_below_power (hc : Canonical m e) (he : e ≤ 971) (hne : e ≠ -1074)
    (hlow : q / 2 ^ e < 2 ^ 52) (h : Encloses m e q) :
    nearest q = some ((m : ℚ) * 2 ^ e) := by
  have hfinite := (canonical_lt_iff hc).mpr he
  have hpow : (0 : ℚ) < 2 ^ e := by positivity
  have hle := hc.le_exponent
  have hge := hc.normal_or_least.resolve_right hne
  obtain rfl : m = 2 ^ 52 := by
    by_contra hm
    have : (2 ^ 52 + 1 : ℚ) ≤ m := by exact_mod_cast (by omega : 2 ^ 52 + 1 ≤ m)
    linarith [h.bounds.1]
  have hquarter : (2 ^ 52 : ℚ) - 1 / 4 ≤ q / 2 ^ e := by
    unfold Encloses at h
    rw [if_pos (by norm_num), if_pos ⟨rfl, hne⟩] at h
    exact_mod_cast h.1
  have hhalf : (2 : ℚ) ^ (e - 1) = 2 ^ e / 2 := by rw [zpow_sub_one₀ two_ne_zero]; ring
  have hlast : lastPlace q = e - 1 := by
    have : leadingBit q = 51 + e := by
      apply leadingBit_eq
      · rw [zpow_add₀ two_ne_zero]
        calc (2 : ℚ) ^ (51 : ℤ) * 2 ^ e ≤ (2 ^ 52 - 1 / 4) * 2 ^ e := by gcongr; norm_num
          _ ≤ q := (le_div_iff₀ hpow).mp hquarter
      · rw [show 51 + e + 1 = 52 + e by ring, zpow_add₀ two_ne_zero]
        rw [div_lt_iff₀ hpow] at hlow
        exact_mod_cast hlow
    unfold lastPlace
    omega
  have hint : nearestInteger (q / 2 ^ (e - 1)) = 2 ^ 53 := by
    have hdouble : q / 2 ^ (e - 1) = 2 * (q / 2 ^ e) := by rw [hhalf]; field_simp
    apply nearestInteger_of_near
    rw [if_pos (by norm_num), hdouble]
    push_cast
    constructor <;> linarith
  have hvalue : ((2 ^ 53 : ℤ) : ℚ) * 2 ^ (e - 1) = ((2 ^ 52 : ℕ) : ℚ) * 2 ^ e := by
    rw [hhalf]
    push_cast
    ring
  simp only [nearest, spacing_eq, hlast, hint, hvalue, if_pos hfinite]

/-- What a canonical number encloses is rounded to it. -/
theorem nearest_of_encloses (hc : Canonical m e) (hm : 0 < m) (he : e ≤ 971)
    (h : Encloses m e q) : nearest q = some ((m : ℚ) * 2 ^ e) := by
  by_cases heven : e = -1074 ∨ (2 ^ 52 : ℚ) ≤ q / 2 ^ e
  · have hint : nearestInteger (q / 2 ^ e) = m := by
      apply nearestInteger_of_near
      unfold Encloses at h
      split_ifs at h ⊢ <;> first | omega | (constructor <;> push_cast <;> linarith [h.1, h.2])
    simp only [nearest, spacing_eq, h.lastPlace_eq hc hm heven, hint, Int.cast_natCast,
      if_pos ((canonical_lt_iff hc).mpr he)]
  · push Not at heven
    exact nearest_of_below_power hc he heven.1 heven.2 h

theorem nearest_canonical (hc : Canonical m e) (hm : 0 < m) (he : e ≤ 971) :
    nearest ((m : ℚ) * 2 ^ e) = some ((m : ℚ) * 2 ^ e) :=
  nearest_of_encloses hc hm he (encloses_self m e)

end interval
end ClusterBilling.Decimal
