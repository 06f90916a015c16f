import ClusterBilling.Proofs.Decimal.Conversion
import ClusterBilling.Proofs.Text

/-! Digits of any script, with digits after a point, as the text of a floating-point number. -/
namespace ClusterBilling.Decimal
open Text

section plain
variable {c : Char} {cs : List Char}

/-- No digit is a blank. -/
theorem isBlank_of_isDigit (h : isDigit c = true) : isBlank c = false := by
  have hapart : ∀ z ∈ zeroDigits, ∀ r ∈ blankRanges, r.2 < z ∨ z + 10 ≤ r.1 := by decide
  obtain ⟨d, hd⟩ := Option.isSome_iff_exists.mp h
  obtain ⟨z, hz, -⟩ := Option.map_eq_some_iff.mp hd
  have hmem := List.mem_of_find?_eq_some hz
  have hc := List.find?_some hz
  simp only [Bool.and_eq_true, decide_eq_true_eq] at hc
  rw [isBlank, List.any_eq_false]
  intro r hr
  have := hapart z hmem r hr
  simp only [Bool.and_eq_true, decide_eq_true_eq, not_and, not_le]
  omega

theorem digitValue?_ofNat {d : ℕ} (hd : d < 10) : digitValue? (Char.ofNat (48 + d)) = some d := by
  interval_cases d <;> decide

/-- A digit becomes the ASCII digit of its value. -/
theorem plainChar_of_isDigit (h : isDigit c = true) :
    (plainChar c).isDigit = true ∧ digitValue? (plainChar c) = digitValue? c := by
  obtain ⟨d, hd⟩ := Option.isSome_iff_exists.mp h
  unfold plainChar
  split_ifs with hascii hblank
  · refine ⟨?_, rfl⟩
    have hzero : ∀ z ∈ zeroDigits, z = 48 ∨ 127 ≤ z := by decide
    obtain ⟨z, hz, -⟩ := Option.map_eq_some_iff.mp hd
    have hmem := hzero z (List.mem_of_find?_eq_some hz)
    have hc := List.find?_some hz
    simp only [Bool.and_eq_true, decide_eq_true_eq] at hc
    exact isDigit_iff_toNat.mpr (by omega)
  · rw [isBlank_of_isDigit h] at hblank
    cases hblank
  · rw [hd]
    have hlt := digitValue?_lt hd
    refine ⟨?_, digitValue?_ofNat hlt⟩
    revert hlt
    clear hd
    decide +revert

theorem digitsValue_map_plainChar (h : ∀ c ∈ cs, isDigit c = true) :
    digitsValue (cs.map plainChar) = digitsValue cs := by
  unfold digitsValue
  rw [List.foldl_map]
  refine List.foldl_ext _ _ _ fun n c hc => ?_
  rw [(plainChar_of_isDigit (h c hc)).2]

end plain

section row
variable {whole places : List Char}

theorem isPadding_of_isDigit {c : Char} (h : c.isDigit = true) : isPadding c = false := by
  have hrange := isDigit_iff_toNat.mp h
  have hspace : c ≠ ' ' := by
    rintro rfl
    cases h
  simp only [isPadding, hspace, decide_false, Bool.false_or, Bool.and_eq_false_iff,
    decide_eq_false_iff_not]
  omega

theorem takeSign_of_isDigit {c : Char} {cs : List Char} (h : c.isDigit = true) :
    takeSign (c :: cs) = (false, c :: cs) := by
  unfold takeSign
  split
  · next heq => exact absurd (List.cons.inj heq).1 (by rintro rfl; cases h)
  · next heq => exact absurd (List.cons.inj heq).1 (by rintro rfl; cases h)
  · rfl

theorem underscoresBetweenDigits_of_none {cs : List Char} {previous : Char}
    (hp : previous ≠ '_') (h : ∀ c ∈ cs, c ≠ '_') :
    underscoresBetweenDigits previous cs = true := by
  induction cs generalizing previous with
  | nil => simpa [underscoresBetweenDigits] using hp
  | cons c cs ih =>
    obtain ⟨hc, hcs⟩ := List.forall_mem_cons.mp h
    simp [underscoresBetweenDigits, hc, hp, ih hc hcs]

theorem readUnsigned?_numeral (hw : ∀ c ∈ whole, c.isDigit) (hne : whole ≠ [])
    (hp : ∀ c ∈ places, c.isDigit) : readUnsigned? false (numeral whole places []) =
      some (nearestFloat false (digitsValue (whole ++ places)) (-places.length)) := by
  have hnil (c : Char) (cs : List Char) (h : [] = c :: cs) : c.isDigit = false := by cases h
  unfold readUnsigned? numeral
  cases places with
  | nil =>
    simp only [List.isEmpty_nil, if_true, List.append_nil]
    rw [← List.append_nil whole, takeDigits_append hw hnil]
    simp [hne, readExponent?]
  | cons p ps =>
    have hdot (c : Char) (cs : List Char) (h : '.' :: (p :: ps) = c :: cs) :
        c.isDigit = false := by
      rw [← (List.cons.inj h).1]
      rfl
    have hplaces : takeDigits (p :: ps) = (p :: ps, []) := by
      rw [← List.append_nil (p :: ps), takeDigits_append hp hnil, List.append_nil]
    simp only [List.isEmpty_cons, Bool.false_eq_true, if_false, List.append_nil]
    rw [takeDigits_append hw hdot]
    simp only [hplaces]
    simp [readExponent?]

theorem mem_numeral {c : Char} (hw : ∀ c ∈ whole, c.isDigit) (hp : ∀ c ∈ places, c.isDigit)
    (h : c ∈ numeral whole places []) : c.isDigit = true ∨ c = '.' := by
  unfold numeral at h
  rcases List.mem_append.mp h with h | h
  · exact .inl (hw c h)
  · rw [List.append_nil] at h
    split_ifs at h
    · cases h
    · rcases List.mem_cons.mp h with rfl | h
      · exact .inr rfl
      · exact .inl (hp c h)

/-- A row of digits, with a point if more of them follow, is the nearest number. -/
theorem readNumber?_digits (hne : whole ≠ []) (hw : ∀ c ∈ whole, isDigit c = true)
    (hp : ∀ c ∈ places, isDigit c = true) :
    readNumber? (whole ++ if places.isEmpty then [] else '.' :: places) =
      some (nearestFloat false (digitsValue (whole ++ places)) (-places.length)) := by
  let whole' := whole.map plainChar
  let places' := places.map plainChar
  have hmap {ds : List Char} (h : ∀ c ∈ ds, isDigit c = true) :
      ∀ c ∈ ds.map plainChar, c.isDigit := by
    intro c hc
    obtain ⟨d, hd, rfl⟩ := List.mem_map.mp hc
    exact (plainChar_of_isDigit (h d hd)).1
  have hplain : (whole ++ if places.isEmpty then [] else '.' :: places).map plainChar =
      numeral whole' places' [] := by
    have hdot : plainChar '.' = '.' := by decide
    unfold numeral
    cases places <;> simp [whole', places', hdot]
  have hchars : ∀ c ∈ numeral whole' places' [], c.isDigit = true ∨ c = '.' :=
    fun c => mem_numeral (hmap hw) (hmap hp)
  have hpadding : ∀ c ∈ numeral whole' places' [], isPadding c = false := by
    intro c hc
    rcases hchars c hc with h | rfl
    · exact isPadding_of_isDigit h
    · decide
  have hunderscore : ∀ c ∈ numeral whole' places' [], c ≠ '_' := by
    rintro c hc rfl
    exact absurd (hchars _ hc) (by decide)
  have hsign : takeSign (numeral whole' places' []) = (false, numeral whole' places' []) := by
    obtain ⟨c, cs, hcs⟩ := List.exists_cons_of_ne_nil (show whole' ≠ [] by simpa [whole'] using hne)
    have hc : c.isDigit = true := hmap hw c (by change c ∈ whole'; rw [hcs]; exact .head _)
    rw [numeral, hcs]
    exact takeSign_of_isDigit hc
  unfold readNumber?
  dsimp only
  rw [hplain, stripWhile_eq_self (fun c hc => hpadding c (List.mem_of_mem_head? hc))
    (fun c hc => hpadding c (List.mem_of_mem_getLast? hc)),
    underscoresBetweenDigits_of_none (by decide) hunderscore, if_pos rfl,
    List.filter_eq_self.mpr (fun c hc => by simpa using hunderscore c hc), hsign]
  dsimp only
  rw [readUnsigned?_numeral (hmap hw) (by simpa [whole'] using hne) (hmap hp), List.length_map,
    ← List.map_append, digitsValue_map_plainChar (List.forall_mem_append.mpr ⟨hw, hp⟩)]
  rfl

end row
end ClusterBilling.Decimal
