import ClusterBilling.Proofs.Decimal.Conversion

/-!
Which quotients are finite. A number of either sign that is divided by two or more is finite just if
it was finite before.
-/
namespace ClusterBilling.Decimal
open Float.Model Float.Model.UnpackedFloat

variable {x y : Float} {v w : ℚ} {v? : Option ℚ}

theorem HasValue.isFinite (h : HasValue x v?) : x.isFinite = v?.isSome := by
  change x.toModel.unpack.isFinite = _
  cases v? with
  | none =>
    have hu : x.toModel.unpack = .infinity .positive := h
    rw [hu]
    rfl
  | some v =>
    rcases h with ⟨hu, -⟩ | ⟨m, e, hm, hu, -⟩
    · rw [hu]
      rfl
    · rw [hu]
      rfl

theorem HasValue.bounds (h : HasValue x (some v)) : 0 ≤ v ∧ v < 2 ^ (1024 : ℤ) := by
  rcases h with ⟨-, rfl⟩ | ⟨m, e, hm, -, hc, he, rfl⟩
  · exact ⟨le_rfl, by positivity⟩
  · exact ⟨by positivity, (canonical_lt_iff hc).mpr he⟩

theorem two_zpow_1024 : (2 : ℚ) ^ (1024 : ℤ) = 2 * 2 ^ (1023 : ℤ) := by
  rw [← zpow_one_add₀ two_ne_zero]
  norm_num

/-- Well below the bound of the finite numbers there is one that is nearest. -/
theorem nearest_ne_none {q : ℚ} (h0 : 0 ≤ q) (h : q < 2 ^ (1023 : ℤ)) : nearest q ≠ none := by
  rcases h0.eq_or_lt with rfl | hpos
  · rw [nearest_zero]
    exact Option.some_ne_none 0
  · have hlead : leadingBit q < 1023 := leadingBit_lt hpos h
    have hlast : lastPlace q ≤ 970 := by
      unfold lastPlace
      omega
    have hspace : (0 : ℚ) < spacing q := by
      rw [spacing_eq]
      positivity
    have hsmall : spacing q ≤ 2 ^ (1023 : ℤ) := by
      rw [spacing_eq]
      exact zpow_le_zpow_right₀ one_le_two (hlast.trans (by norm_num))
    have hinteger : (nearestInteger (q / spacing q) : ℚ) ≤ q / spacing q + 1 := by
      have hfloor : ((q / spacing q).floor : ℚ) ≤ q / spacing q := Int.floor_le _
      have hnext : nearestInteger (q / spacing q) ≤ (q / spacing q).floor + 1 := by
        unfold nearestInteger
        dsimp only
        split_ifs <;> omega
      have hnext : (nearestInteger (q / spacing q) : ℚ) ≤ (q / spacing q).floor + 1 := by
        exact_mod_cast hnext
      linarith
    have hlt : nearestInteger (q / spacing q) * spacing q < 2 ^ (1024 : ℤ) := by
      calc nearestInteger (q / spacing q) * spacing q
          ≤ (q / spacing q + 1) * spacing q := by gcongr
        _ = q + spacing q := by
          rw [add_mul, one_mul, div_mul_cancel₀ q hspace.ne']
        _ < 2 ^ (1023 : ℤ) + 2 ^ (1023 : ℤ) := add_lt_add_of_lt_of_le h hsmall
        _ = 2 ^ (1024 : ℤ) := by rw [← two_mul, two_zpow_1024]
    unfold nearest
    rw [if_pos hlt]
    exact Option.some_ne_none _

/-- Whether a rounded number stays finite does not depend on its sign. -/
theorem fits_roundWithAccuracy (s s' : Sign) (m : ℕ) (e : ℤ) (acc : Accuracy) :
    fits (roundWithAccuracy .binary64 s m e acc) =
      fits (roundWithAccuracy .binary64 s' m e acc) := by
  unfold roundWithAccuracy
  dsimp only
  split_ifs <;> rfl

theorem fits_div_neg (u u' : UnpackedFloat) :
    fits (div .binary64 u.neg u') = fits (div .binary64 u u') := by
  cases u with
  | notANumber => rfl
  | infinity s => cases u' <;> rfl
  | zero s => cases u' <;> rfl
  | finite s m e hm =>
    cases u' with
    | finite s' m' e' hm' => exact fits_roundWithAccuracy _ _ _ _ _
    | _ => rfl

theorem isFinite_div_eq_fits (x y : Float) :
    (x / y).isFinite = fits (div .binary64 x.toModel.unpack y.toModel.unpack) :=
  isFinite_unpack_pack _

/-- A number that is not negative keeps its magnitude under the other sign. -/
theorem HasValue.unpack_neg (h : HasValue x v?) :
    (-x).toModel.unpack = x.toModel.unpack.neg := by
  change unpack .binary64 (pack .binary64 x.toModel.unpack.neg) = _
  cases v? with
  | none =>
    have hu : x.toModel.unpack = .infinity .positive := h
    rw [hu]
    rfl
  | some v =>
    rcases h with ⟨hu, -⟩ | ⟨m, e, hm, hu, hc, he, -⟩
    · rw [hu]
      rfl
    · rw [hu]
      exact unpack_pack_canonical hm hc he

theorem HasValue.isFinite_neg_div (h : HasValue x v?) (y : Float) :
    (-x / y).isFinite = (x / y).isFinite := by
  rw [isFinite_div_eq_fits, isFinite_div_eq_fits, h.unpack_neg, fits_div_neg]

theorem HasValue.isFinite_div (hx : HasValue x v?) (hy : HasValue y (some w)) (hw : 2 ≤ w) :
    (x / y).isFinite = v?.isSome := by
  have hpos : 0 < w := two_pos.trans_le hw
  cases v? with
  | none =>
    obtain ⟨m, e, hm, hy, -⟩ := Represents.positive hy hpos
    have hx : x.toModel.unpack = .infinity .positive := hx
    rw [isFinite_div_eq_fits, hx, hy]
    rfl
  | some v =>
    obtain ⟨h0, hlt⟩ := hx.bounds
    have hquotient : v / w < 2 ^ (1023 : ℤ) := by
      calc v / w ≤ v / 2 := by gcongr
        _ < 2 ^ (1024 : ℤ) / 2 := by gcongr
        _ = 2 ^ (1023 : ℤ) := by rw [two_zpow_1024, mul_div_cancel_left₀ _ two_ne_zero]
    have hne : nearest (v / w) ≠ none := nearest_ne_none (by positivity) hquotient
    rw [(hasValue_div hx hy hpos).isFinite]
    exact Option.isSome_iff_ne_none.mpr hne

/-- A decimal number becomes a finite hundredth just if there is a finite number nearest to it. -/
theorem isFinite_nearestFloat_div_hundred (negative : Bool) (d : ℕ) (p : ℤ) :
    (nearestFloat negative d p / 100).isFinite = (nearest (d * 10 ^ p)).isSome := by
  have hvalue : HasValue (nearestFloat false d p) (nearest (d * 10 ^ p)) :=
    hasValue_nearestFloat d p
  have hhundred : HasValue 100 (some (100 : ℕ)) := represents_of_isNormal (by decide +kernel)
  have hfinite := hvalue.isFinite_div hhundred (by norm_num)
  cases negative with
  | false => exact hfinite
  | true =>
    have hneg : nearestFloat true d p = -nearestFloat false d p := rfl
    rw [hneg, hvalue.isFinite_neg_div, hfinite]

end ClusterBilling.Decimal
