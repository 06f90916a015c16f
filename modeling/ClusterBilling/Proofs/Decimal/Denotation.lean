import Mathlib
import ClusterBilling.Decimal.Fixed
import ClusterBilling.Decimal.Numeral

/-! The exact number that a decimal text denotes, and that of every text which a layout makes. -/
namespace ClusterBilling.Decimal
open Text

/-- The exact number of digits with at most one point, and an exponent. -/
def unsignedValue? (cs : List Char) : Option ℚ := do
  let (whole, rest) := takeDigits cs
  let (places, rest) := match rest with
    | '.' :: rest => takeDigits rest
    | rest => ([], rest)
  if whole.isEmpty && places.isEmpty then none
  else
    let exponent ← readExponent? rest
    return digitsValue (whole ++ places) * 10 ^ (exponent - places.length)

/-- The text is a decimal number, and the number is `v`. -/
def Denotes (cs : List Char) (v : ℚ) : Prop :=
  (unsignedValue? (takeSign cs).2).map (fun w => if (takeSign cs).1 then -w else w) = some v

theorem Denotes.unique {cs : List Char} {v w : ℚ} (hv : Denotes cs v) (hw : Denotes cs w) :
    v = w :=
  Option.some.inj (hv.symm.trans hw)

section digits

theorem isDigit_iff_toNat {c : Char} : c.isDigit = true ↔ 48 ≤ c.toNat ∧ c.toNat < 58 := by
  simp [Char.isDigit, UInt32.le_iff_toNat_le, Nat.lt_succ_iff]

theorem digitValue?_of_isDigit {c : Char} (h : c.isDigit) :
    digitValue? c = some (c.toNat - 48) := by
  have hc := isDigit_iff_toNat.mp h
  simp [digitValue?, zeroDigits, hc]

/-- The ASCII digits are digits. -/
theorem isDigit_of_ascii {c : Char} (h : c.isDigit) : isDigit c = true := by
  rw [isDigit, digitValue?_of_isDigit h]
  rfl

theorem digitsValue_append (as bs : List Char) :
    digitsValue (as ++ bs) = digitsValue as * 10 ^ bs.length + digitsValue bs := by
  induction bs using List.reverseRecOn with
  | nil => simp [digitsValue]
  | append_singleton bs b ih =>
    rw [← List.append_assoc]
    unfold digitsValue at *
    simp only [List.foldl_append, List.foldl_cons, List.foldl_nil, List.length_append,
      List.length_singleton, pow_succ] at *
    rw [ih]
    ring

theorem digitsValue_replicate_zero (k : ℕ) : digitsValue (List.replicate k '0') = 0 := by
  induction k with
  | zero => rfl
  | succ k ih =>
    rw [List.replicate_succ', digitsValue_append, ih]
    rfl

theorem digitsValue_lt (cs : List Char) : digitsValue cs < 10 ^ cs.length := by
  induction cs using List.reverseRecOn with
  | nil => decide
  | append_singleton cs c ih =>
    have hc : digitsValue [c] < 10 := by
      cases hd : digitValue? c with
      | none => simp [digitsValue, hd]
      | some d => simpa [digitsValue, hd] using digitValue?_lt hd
    rw [digitsValue_append, List.length_append, List.length_singleton, pow_succ]
    omega

theorem isDigit_digitChars {n : ℕ} {c : Char} (h : c ∈ digitChars n) : c.isDigit :=
  Nat.isDigit_of_mem_toDigits (by norm_num) (by norm_num) h

/-- On ASCII digits the value is the one that core reads. -/
theorem digitsValue_eq_ofDigitChars {cs : List Char} (h : ∀ c ∈ cs, c.isDigit) :
    digitsValue cs = Nat.ofDigitChars 10 cs 0 := by
  have hfold (k : ℕ) :
      cs.foldl (fun n c => 10 * n + (digitValue? c).getD 0) k = Nat.ofDigitChars 10 cs k := by
    induction cs generalizing k with
    | nil => rfl
    | cons c cs ih =>
      obtain ⟨hc, hcs⟩ := List.forall_mem_cons.mp h
      rw [List.foldl_cons, ih hcs, Nat.ofDigitChars_cons, digitValue?_of_isDigit hc]
      rfl
  exact hfold 0

theorem digitsValue_digitChars (n : ℕ) : digitsValue (digitChars n) = n :=
  (digitsValue_eq_ofDigitChars fun _ => isDigit_digitChars).trans Nat.ofDigitChars_ten_toDigits

end digits

/-- Digits, a point if more digits follow it, and what comes after them. -/
def numeral (whole places tail : List Char) : List Char :=
  whole ++ ((if places.isEmpty then [] else '.' :: places) ++ tail)

section numeral
variable {whole places tail : List Char} {e : ℤ}

/-- What can come after the digits of a number: its exponent, or nothing. -/
structure IsExponent (tail : List Char) (e : ℤ) : Prop where
  read : readExponent? tail = some e
  head : ∀ c cs, tail = c :: cs → c.isDigit = false ∧ c ≠ '.'

theorem takeDigits_append {rest : List Char} (hw : ∀ c ∈ whole, c.isDigit)
    (hr : ∀ c cs, rest = c :: cs → c.isDigit = false) :
    takeDigits (whole ++ rest) = (whole, rest) := by
  unfold takeDigits
  rw [List.takeWhile_append_of_pos hw, List.dropWhile_append_of_pos hw]
  cases rest with
  | nil => simp
  | cons c cs => simp [hr c cs rfl]

theorem unsignedValue?_numeral (hw : ∀ c ∈ whole, c.isDigit) (hne : whole ≠ [])
    (hp : ∀ c ∈ places, c.isDigit) (ht : IsExponent tail e) :
    unsignedValue? (numeral whole places tail) =
      some ((digitsValue (whole ++ places) : ℚ) * 10 ^ (e - places.length)) := by
  have htail (c : Char) (cs : List Char) (h : tail = c :: cs) : c.isDigit = false :=
    (ht.head c cs h).1
  unfold unsignedValue? numeral
  cases places with
  | nil =>
    have hpoint (rest : List Char) : tail ≠ '.' :: rest := fun h => (ht.head _ _ h).2 rfl
    simp only [List.isEmpty_nil, if_true, List.nil_append, takeDigits_append hw htail]
    simp [hne, ht.read]
  | cons p ps =>
    have hdot (c : Char) (cs : List Char) (h : '.' :: (p :: ps ++ tail) = c :: cs) :
        c.isDigit = false := by
      rw [← (List.cons.inj h).1]
      rfl
    simp only [List.isEmpty_cons, Bool.false_eq_true, if_false, List.cons_append] at hdot ⊢
    rw [takeDigits_append hw hdot]
    simp only
    rw [← List.cons_append, takeDigits_append hp htail]
    simp [ht.read]

/-- Digits that may have a point and an exponent, and the number that they make. -/
inductive IsNumeral (body : List Char) (v : ℚ) : Prop where
  | mk (whole places tail : List Char) {e : ℤ} (shape : body = numeral whole places tail)
    (digits : ∀ c ∈ whole ++ places, c.isDigit) (nonempty : whole ≠ []) (rest : IsExponent tail e)
    (value : (digitsValue (whole ++ places) : ℚ) * 10 ^ (e - places.length) = v)

theorem IsNumeral.denotes {body : List Char} {v : ℚ} (h : IsNumeral body v) (negative : Bool) :
    Denotes (if negative then '-' :: body else body) (if negative then -v else v) := by
  obtain ⟨whole, places, tail, hb, hd, hne, ht, hv⟩ := h
  obtain ⟨hw, hp⟩ := List.forall_mem_append.mp hd
  have hread : unsignedValue? body = some v := by rw [hb, unsignedValue?_numeral hw hne hp ht, hv]
  unfold Denotes
  cases negative with
  | true => simp [takeSign, hread]
  | false =>
    obtain ⟨c, cs, rfl⟩ := List.exists_cons_of_ne_nil hne
    have hc : c.isDigit := hw c List.mem_cons_self
    have hsign : takeSign body = (false, body) := by
      rw [hb]
      unfold numeral takeSign
      split
      · next h => exact absurd (List.cons.inj h).1 (by rintro rfl; simp at hc)
      · next h => exact absurd (List.cons.inj h).1 (by rintro rfl; simp at hc)
      · rfl
    simp [hsign, hread]

end numeral

section layouts

theorem isExponent_nil : IsExponent [] 0 := ⟨rfl, nofun⟩

theorem readExponent?_signed {n : ℤ} {ds : List Char} (hd : ∀ c ∈ ds, c.isDigit) (hne : ds ≠ [])
    (hv : digitsValue ds = n.natAbs) :
    readExponent? ('e' :: (if n < 0 then '-' else '+') :: ds) = some n := by
  have hall : ds.all Char.isDigit = true := List.all_eq_true.mpr hd
  have hempty : ds.isEmpty = false := List.isEmpty_eq_false_iff.mpr hne
  unfold readExponent?
  split_ifs with h0 <;> simp only [takeSign, hall, hempty, hv]
  · simp [abs_of_neg h0]
  · simpa using not_lt.mp h0

theorem isExponent_exponentChars (n : ℤ) : IsExponent (exponentChars n) n := by
  have hd : ∀ c ∈ digitChars n.natAbs, c.isDigit := fun c => isDigit_digitChars
  have hv := digitsValue_digitChars n.natAbs
  refine ⟨?_, ?_⟩
  · unfold exponentChars
    dsimp only
    apply readExponent?_signed
    · split_ifs
      · exact List.forall_mem_cons.mpr ⟨rfl, hd⟩
      · exact hd
    · split_ifs
      · exact List.cons_ne_nil _ _
      · exact Nat.toDigits_ne_nil
    · split_ifs <;> exact hv
  · rintro c cs h
    rw [exponentChars] at h
    rw [← (List.cons.inj h).1]
    decide

/-- The number that digits and an exponent stand for. -/
def Scaled.value (s : Scaled) : ℚ :=
  if s.negative then -(s.digits * 10 ^ s.exponent) else s.digits * 10 ^ s.exponent

section
variable {ds : List Char} {e lead : ℤ}

/-- Zeros in front of the digits, behind a point. -/
theorem isNumeral_small (hd : ∀ c ∈ ds, c.isDigit) (hne : ds ≠ [])
    (hlead : e + ds.length - 1 = lead) (hneg : lead < 0) :
    IsNumeral ('0' :: '.' :: List.replicate (-lead - 1).toNat '0' ++ ds)
      (digitsValue ds * 10 ^ e) := by
  refine .mk ['0'] (List.replicate (-lead - 1).toNat '0' ++ ds) [] ?_ ?_ (List.cons_ne_nil _ _)
    isExponent_nil ?_
  · simp [numeral, hne]
  · intro c hc
    simp only [List.mem_append, List.mem_singleton, List.mem_replicate] at hc
    rcases hc with rfl | ⟨-, rfl⟩ | hc
    · rfl
    · rfl
    · exact hd c hc
  · rw [← List.append_assoc, digitsValue_append, digitsValue_append, digitsValue_replicate_zero]
    have hzero : digitsValue ['0'] = 0 := rfl
    rw [hzero, zero_mul, zero_add, zero_mul, zero_add, List.length_append, List.length_replicate]
    congr 2
    omega

/-- Zeros behind the digits. -/
theorem isNumeral_whole (hd : ∀ c ∈ ds, c.isDigit) (hne : ds ≠ [])
    (hlead : e + ds.length - 1 = lead) (hle : ds.length ≤ lead.toNat + 1) (h0 : 0 ≤ lead) :
    IsNumeral (ds ++ List.replicate (lead.toNat + 1 - ds.length) '0')
      (digitsValue ds * 10 ^ e) := by
  refine .mk (ds ++ List.replicate (lead.toNat + 1 - ds.length) '0') [] [] ?_ ?_ (by simp [hne])
    isExponent_nil ?_
  · simp [numeral]
  · intro c hc
    simp only [List.append_nil, List.mem_append, List.mem_replicate] at hc
    rcases hc with hc | ⟨-, rfl⟩
    · exact hd c hc
    · rfl
  · have he : e = (lead.toNat + 1 - ds.length : ℕ) := by omega
    rw [List.append_nil, digitsValue_append, digitsValue_replicate_zero, List.length_replicate, he,
      zpow_natCast]
    simp

/-- A point between the digits. -/
theorem isNumeral_point (hd : ∀ c ∈ ds, c.isDigit) (hlead : e + ds.length - 1 = lead)
    (h0 : 0 ≤ lead) (hlt : lead.toNat + 1 < ds.length) :
    IsNumeral (ds.take (lead.toNat + 1) ++ '.' :: ds.drop (lead.toNat + 1))
      (digitsValue ds * 10 ^ e) := by
  refine .mk (ds.take (lead.toNat + 1)) (ds.drop (lead.toNat + 1)) [] ?_ ?_ ?_ isExponent_nil ?_
  · simp [numeral, hlt]
  · rwa [List.take_append_drop]
  · rw [← List.length_pos_iff, List.length_take]
    omega
  · rw [List.take_append_drop, List.length_drop]
    congr 2
    omega

/-- One digit before the point, and an exponent. -/
theorem isNumeral_exponent (hd : ∀ c ∈ ds, c.isDigit) (hne : ds ≠ [])
    (hlead : e + ds.length - 1 = lead) :
    IsNumeral (ds.take 1 ++ (if ds.length = 1 then [] else ['.']) ++ ds.drop 1 ++
      exponentChars lead) (digitsValue ds * 10 ^ e) := by
  obtain ⟨d, ds, rfl⟩ := List.exists_cons_of_ne_nil hne
  refine .mk [d] ds (exponentChars lead) ?_ hd (List.cons_ne_nil _ _)
    (isExponent_exponentChars lead) ?_
  · cases ds <;> simp [numeral]
  · congr 2
    rw [List.length_cons] at hlead
    push_cast at hlead
    omega

end

/-- A text without ornament denotes the number that it was made of. -/
theorem denotes_render {layout : Layout} (hl : layout.whole = "") (s : Scaled) :
    Denotes (layout.render s).toList s.value := by
  have hd : ∀ c ∈ digitChars s.digits, c.isDigit := fun c => isDigit_digitChars
  have hne : digitChars s.digits ≠ [] := Nat.toDigits_ne_nil
  have hval := digitsValue_digitChars s.digits
  unfold Layout.render Scaled.value
  rw [String.toList_ofList]
  generalize digitChars s.digits = ds at *
  rw [← hval]
  apply IsNumeral.denotes
  dsimp only
  generalize hlead : s.exponent + (ds.length : ℤ) - 1 = lead
  by_cases hrange : layout.least ≤ lead ∧ lead ≤ layout.greatest
  · rw [if_pos hrange]
    split_ifs with hneg hlong
    · exact isNumeral_small hd hne hlead hneg
    · rw [hl]
      simpa using isNumeral_whole hd hne hlead hlong (not_lt.mp hneg)
    · exact isNumeral_point hd hlead (not_lt.mp hneg) (not_le.mp hlong)
  · rw [if_neg hrange]
    exact isNumeral_exponent hd hne hlead

end layouts
end ClusterBilling.Decimal
