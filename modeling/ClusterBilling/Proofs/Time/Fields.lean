import ClusterBilling.Proofs.Decimal.Denotation
import ClusterBilling.Proofs.Text
import ClusterBilling.Time.Iso
import ClusterBilling.Time.Timestamp

/-!
The fields of a timestamp are digits between separators that are none, so a text has at most one row
of them. What is taken of a field is the value of its digits, and the numbers that have room in it
are taken in ASCII digits, with zeros in front or without.
-/
namespace ClusterBilling.Time
open Decimal Text

/-- From `least` to `most` digits of any script. -/
def IsDigitRow (least most : ℕ) (cs : List Char) : Prop :=
  least ≤ cs.length ∧ cs.length ≤ most ∧ ∀ c ∈ cs, isDigit c = true

theorem IsDigitRow.digit_or_blank {least most : ℕ} {cs : List Char}
    (h : IsDigitRow least most cs) : ∀ c ∈ cs, isDigit c = true ∨ c = ' ' :=
  fun c hc => .inl (h.2.2 c hc)

namespace TimestampFields

def all (f : TimestampFields) : List (List Char) :=
  [f.year, f.month, f.day, f.hour, f.minute, f.second, f.fraction]

theorem forall_mem_all {f : TimestampFields} {p : List Char → Prop} :
    (∀ cs ∈ f.all, p cs) ↔ p f.year ∧ p f.month ∧ p f.day ∧ p f.hour ∧ p f.minute ∧ p f.second ∧
      p f.fraction := by
  simp [all]

/-- The fields with their separators, two of which are letters. -/
def chars (f : TimestampFields) (t z : Char) : List Char :=
  f.year ++ '-' :: (f.month ++ '-' :: (f.day ++ t :: (f.hour ++ ':' :: (f.minute ++ ':' ::
    (f.second ++ '.' :: (f.fraction ++ [z]))))))

/-- The fields are digits. A day may have a blank in the place of its first digit. -/
structure WellFormed (f : TimestampFields) : Prop where
  year : IsDigitRow 4 4 f.year
  month : IsDigitRow 1 2 f.month
  day : IsDigitRow 1 2 f.day ∨ f.day.head? = some ' ' ∧ IsDigitRow 1 1 f.day.tail
  hour : IsDigitRow 1 2 f.hour
  minute : IsDigitRow 1 2 f.minute
  second : IsDigitRow 1 2 f.second
  fraction : IsDigitRow 1 6 f.fraction

/-- The text is such fields with their separators. -/
def Spells (f : TimestampFields) (text : Text) : Prop :=
  f.WellFormed ∧ ∃ t ∈ ['T', 't'], ∃ z ∈ ['Z', 'z'], text = ofChars (f.chars t z)

/-- No blank, and no digits but those of ASCII. -/
def IsPlain (f : TimestampFields) : Prop := ∀ cs ∈ f.all, ∀ c ∈ cs, c.isDigit = true

end TimestampFields

section split
variable {separates : Char → Bool} {cs front rest : List Char} {f : TimestampFields} {t z : Char}

theorem splitAt?_append {c : Char} (hf : ∀ c ∈ front, separates c = false)
    (hc : separates c = true) : splitAt? separates (front ++ c :: rest) = some (front, rest) := by
  have hfront : ∀ c ∈ front, (!separates c) = true := by
    intro c hc
    rw [hf c hc]
    rfl
  have hstop : ∀ d ∈ (c :: rest).head?, (!separates d) = false := by
    intro d hd
    obtain rfl : c = d := Option.some.inj hd
    rw [hc]
    rfl
  simp only [splitAt?, dropWhile_append_stop hfront hstop, takeWhile_append_stop hfront hstop]

/-- The characters that end a field. -/
def separators : List Char := ['-', 'T', 't', ':', '.', 'Z', 'z']

/-- No separator is a digit or a blank, so that a field is found to its end. -/
theorem splitAt?_field {c : Char} (hf : ∀ c ∈ front, isDigit c = true ∨ c = ' ')
    (hs : ∀ c, separates c = true → c ∈ separators) (hc : separates c = true) :
    splitAt? separates (front ++ c :: rest) = some (front, rest) := by
  have hnot : ∀ c ∈ separators, ¬ (isDigit c = true ∨ c = ' ') := by
    intro c hmem
    unfold separators at hmem
    fin_cases hmem <;> decide
  apply splitAt?_append _ hc
  intro d hd
  by_contra hsep
  exact hnot d (hs d (by simpa using hsep)) (hf d hd)

theorem exists_of_splitAt? (h : splitAt? separates cs = some (front, rest)) :
    ∃ c, separates c = true ∧ cs = front ++ c :: rest := by
  unfold splitAt? at h
  split at h
  · cases h
  · next c rest' hdrop =>
    obtain ⟨rfl, rfl⟩ := Prod.mk.inj (Option.some.inj h)
    have hc : separates c = true := by
      have hhead := List.head?_dropWhile_not (!separates ·) cs
      simpa [hdrop] using hhead
    refine ⟨c, hc, ?_⟩
    rw [← hdrop, List.takeWhile_append_dropWhile]

namespace TimestampFields

/-- Fields of digits and blanks end at their separators. -/
theorem split?_chars (hf : ∀ cs ∈ f.all, ∀ c ∈ cs, isDigit c = true ∨ c = ' ')
    (ht : t ∈ ['T', 't']) (hz : z ∈ ['Z', 'z']) : split? (f.chars t z) = some f := by
  obtain ⟨hy, hm, hd, hh, hmi, hs, hfr⟩ := forall_mem_all.mp hf
  simp only [List.mem_cons, List.not_mem_nil, or_false] at ht hz
  unfold split? chars
  simp only [Option.bind_eq_bind]
  rw [splitAt?_field hy (by simp [separators]) (by simp), Option.bind_some,
    splitAt?_field hm (by simp [separators]) (by simp), Option.bind_some,
    splitAt?_field hd (by simp [separators]) (by simpa using ht), Option.bind_some,
    splitAt?_field hh (by simp [separators]) (by simp), Option.bind_some,
    splitAt?_field hmi (by simp [separators]) (by simp), Option.bind_some,
    splitAt?_field hs (by simp [separators]) (by simp), Option.bind_some,
    splitAt?_field hfr (by simp [separators]) (by simpa using hz)]
  rfl

theorem exists_of_split? (h : split? cs = some f) :
    ∃ t ∈ ['T', 't'], ∃ z ∈ ['Z', 'z'], cs = f.chars t z := by
  simp only [split?, Option.bind_eq_bind, Option.bind_eq_some_iff, Prod.exists,
    Option.ite_none_right_eq_some, Option.some.injEq, List.isEmpty_iff] at h
  obtain ⟨year, _, hy, month, _, hm, day, _, hd, hour, _, hh, minute, _, hmi, second, _, hs,
    fraction, _, hf, rfl, rfl⟩ := h
  obtain ⟨_, h1, rfl⟩ := exists_of_splitAt? hy
  obtain ⟨_, h2, rfl⟩ := exists_of_splitAt? hm
  obtain ⟨t, h3, rfl⟩ := exists_of_splitAt? hd
  obtain ⟨_, h4, rfl⟩ := exists_of_splitAt? hh
  obtain ⟨_, h5, rfl⟩ := exists_of_splitAt? hmi
  obtain ⟨_, h6, rfl⟩ := exists_of_splitAt? hs
  obtain ⟨z, h7, rfl⟩ := exists_of_splitAt? hf
  obtain rfl := of_decide_eq_true h1
  obtain rfl := of_decide_eq_true h2
  obtain rfl := of_decide_eq_true h4
  obtain rfl := of_decide_eq_true h5
  obtain rfl := of_decide_eq_true h6
  exact ⟨t, by simpa using h3, z, by simpa using h7, rfl⟩

end TimestampFields
end split

section readers
variable {cs : List Char} {c low high lead : Char} {most n : ℕ}
  {field? field'? : List Char → Option ℕ}

theorem isDigit_of_between (hl : '0' ≤ low) (hh : high ≤ '9') (h : low ≤ c ∧ c ≤ high) :
    c.isDigit = true := by
  have hlow : '0' ≤ c := Char.le_trans hl h.1
  have hhigh : c ≤ '9' := Char.le_trans h.2 hh
  rw [Char.isDigit, Bool.and_eq_true, decide_eq_true_eq, decide_eq_true_eq]
  exact ⟨hlow, hhigh⟩

/-- What is taken is one or two digits, and their value is at most `most`. -/
def ReadsUpTo (most : ℕ) (field? : List Char → Option ℕ) : Prop :=
  ∀ cs n, field? cs = some n → IsDigitRow 1 2 cs ∧ digitsValue cs = n ∧ n ≤ most

theorem ReadsUpTo.orElse (h : ReadsUpTo most field?) (h' : ReadsUpTo most field'?) :
    ReadsUpTo most fun cs => field? cs <|> field'? cs := by
  intro cs n hn
  simp only [Option.orElse_eq_orElse, Option.orElse_eq_or, Option.or_eq_some_iff] at hn
  rcases hn with hn | ⟨-, hn⟩
  · exact h cs n hn
  · exact h' cs n hn

theorem oneDigit?_some (h : oneDigit? cs = some n) :
    IsDigitRow 1 1 cs ∧ digitsValue cs = n ∧ n ≤ 9 := by
  unfold oneDigit? at h
  split at h
  · next c =>
    have hlt := digitValue?_lt h
    refine ⟨⟨le_rfl, le_rfl, ?_⟩, ?_, by omega⟩
    · simp [isDigit, h]
    · simp [digitsValue, h]
  · cases h

theorem oneDigit?_of_nonzeroDigit? (h : nonzeroDigit? cs = some n) : oneDigit? cs = some n := by
  unfold nonzeroDigit? at h
  split at h
  · next c =>
    obtain ⟨hc, rfl⟩ : ('1' ≤ c ∧ c ≤ '9') ∧ c.toNat - 48 = n := by simpa using h
    exact digitValue?_of_isDigit (isDigit_of_between (by decide) (by decide) hc)
  · cases h

theorem readsUpTo_oneDigit? (hmost : 9 ≤ most) : ReadsUpTo most oneDigit? := by
  intro cs n hn
  obtain ⟨⟨hge, hle, hall⟩, hv, hn⟩ := oneDigit?_some hn
  exact ⟨⟨hge, hle.trans (Nat.le_succ 1), hall⟩, hv, hn.trans hmost⟩

theorem readsUpTo_nonzeroDigit? (hmost : 9 ≤ most) : ReadsUpTo most nonzeroDigit? :=
  fun cs n hn => readsUpTo_oneDigit? hmost cs n (oneDigit?_of_nonzeroDigit? hn)

theorem readsUpTo_twoDigits? (hl : '0' ≤ low) (hh : high ≤ '9')
    (hmost : (high.toNat - 48) * 10 + 9 ≤ most) : ReadsUpTo most (twoDigits? low high) := by
  intro cs n hn
  unfold twoDigits? at hn
  split at hn
  · next a b =>
    obtain ⟨hab, d, hb, rfl⟩ : _ ∧ ∃ d, digitValue? b = some d ∧ (a.toNat - 48) * 10 + d = n := by
      simpa using hn
    have ha := isDigit_of_between hl hh hab
    have hlt := digitValue?_lt hb
    have hle : a.toNat ≤ high.toNat := hab.2
    refine ⟨⟨Nat.le_succ 1, le_rfl, ?_⟩, ?_, by omega⟩
    · simp [isDigit, digitValue?_of_isDigit ha, hb]
    · simp [digitsValue, digitValue?_of_isDigit ha, hb, Nat.mul_comm]
  · cases hn

theorem readsUpTo_ledBy? (hlead : lead.isDigit = true) (hl : '0' ≤ low) (hh : high ≤ '9')
    (hmost : (lead.toNat - 48) * 10 + (high.toNat - 48) ≤ most) :
    ReadsUpTo most (ledBy? lead low high) := by
  intro cs n hn
  unfold ledBy? at hn
  split at hn
  · next a b =>
    obtain ⟨⟨rfl, hb⟩, rfl⟩ : (a = lead ∧ low ≤ b ∧ b ≤ high) ∧
        (a.toNat - 48) * 10 + (b.toNat - 48) = n := by
      simpa using hn
    have hdigit := isDigit_of_between hl hh hb
    have hle : b.toNat ≤ high.toNat := hb.2
    refine ⟨⟨Nat.le_succ 1, le_rfl, ?_⟩, ?_, by omega⟩
    · simp [isDigit_of_ascii, hlead, hdigit]
    · simp [digitsValue, digitValue?_of_isDigit hlead, digitValue?_of_isDigit hdigit, Nat.mul_comm]
  · cases hn

theorem readsUpTo_monthField? : ReadsUpTo 12 monthField? :=
  .orElse (readsUpTo_ledBy? (by decide) (by decide) (by decide) (by decide))
    (.orElse (readsUpTo_ledBy? (by decide) (by decide) (by decide) (by decide))
      (readsUpTo_nonzeroDigit? (by decide)))

theorem readsUpTo_hourField? : ReadsUpTo 23 hourField? :=
  .orElse (readsUpTo_ledBy? (by decide) (by decide) (by decide) (by decide))
    (.orElse (readsUpTo_twoDigits? (by decide) (by decide) (by decide))
      (readsUpTo_oneDigit? (by decide)))

theorem readsUpTo_minuteField? : ReadsUpTo 59 minuteField? :=
  .orElse (readsUpTo_twoDigits? (by decide) (by decide) (by decide))
    (readsUpTo_oneDigit? (by decide))

theorem dayField?_some (h : dayField? cs = some n) :
    (IsDigitRow 1 2 cs ∨ cs.head? = some ' ' ∧ IsDigitRow 1 1 cs.tail) ∧ digitsValue cs = n := by
  have hdigits {field? : List Char → Option ℕ} (hreads : ReadsUpTo 31 field?)
      (hn : field? cs = some n) : IsDigitRow 1 2 cs ∧ digitsValue cs = n :=
    (hreads cs n hn).imp_right And.left
  simp only [dayField?, Option.orElse_eq_orElse, Option.orElse_eq_or, Option.or_eq_some_iff,
    Option.ite_none_right_eq_some] at h
  rcases h with h | ⟨-, h | ⟨-, h | ⟨-, h | ⟨-, hhead, h⟩⟩⟩⟩
  · exact (hdigits (readsUpTo_ledBy? (by decide) (by decide) (by decide) (by decide)) h).imp_left .inl
  · exact (hdigits (readsUpTo_twoDigits? (by decide) (by decide) (by decide)) h).imp_left .inl
  · exact (hdigits (readsUpTo_ledBy? (by decide) (by decide) (by decide) (by decide)) h).imp_left .inl
  · exact (hdigits (readsUpTo_nonzeroDigit? (by decide)) h).imp_left .inl
  · obtain ⟨hrow, hv, -⟩ := oneDigit?_some (oneDigit?_of_nonzeroDigit? h)
    obtain ⟨tail, rfl⟩ := List.head?_eq_some_iff.mp hhead
    exact ⟨.inr ⟨hhead, hrow⟩, hv⟩

theorem yearField?_eq_some : yearField? cs = some n ↔ IsDigitRow 4 4 cs ∧ digitsValue cs = n := by
  unfold yearField? IsDigitRow
  simp only [Option.ite_none_right_eq_some, Bool.and_eq_true, decide_eq_true_eq, List.all_eq_true,
    Option.some.injEq]
  constructor
  · intro ⟨⟨hlen, hall⟩, hn⟩
    exact ⟨⟨hlen.ge, hlen.le, hall⟩, hn⟩
  · intro ⟨⟨hge, hle, hall⟩, hn⟩
    exact ⟨⟨le_antisymm hle hge, hall⟩, hn⟩

theorem fractionField?_eq_some : fractionField? cs = some n ↔
    (IsDigitRow 1 6 cs ∧ ∀ c ∈ cs, c.isDigit = true) ∧
      digitsValue cs * 10 ^ (6 - cs.length) = n := by
  unfold fractionField? IsDigitRow
  simp only [Option.ite_none_right_eq_some, Bool.and_eq_true, decide_eq_true_eq, List.all_eq_true,
    Option.some.injEq, Bool.not_eq_true', List.isEmpty_eq_false_iff, Nat.pow_eq]
  constructor
  · intro ⟨⟨⟨hne, hle⟩, hall⟩, hn⟩
    have hlen : 1 ≤ cs.length := List.length_pos_iff.mpr hne
    exact ⟨⟨⟨hlen, hle, fun c hc => isDigit_of_ascii (hall c hc)⟩, hall⟩, hn⟩
  · intro ⟨⟨⟨hlen, hle, _⟩, hall⟩, hn⟩
    exact ⟨⟨⟨List.length_pos_iff.mp hlen, hle⟩, hall⟩, hn⟩

end readers

namespace TimestampFields
variable {f f' : TimestampFields} {text : Text} {t z : Char}

theorem WellFormed.digit_or_blank (h : f.WellFormed) :
    ∀ cs ∈ f.all, ∀ c ∈ cs, isDigit c = true ∨ c = ' ' := by
  have hday : ∀ c ∈ f.day, isDigit c = true ∨ c = ' ' := by
    rcases h.day with hrow | ⟨hhead, hrow⟩
    · exact hrow.digit_or_blank
    · obtain ⟨tail, hcs⟩ := List.head?_eq_some_iff.mp hhead
      rw [hcs] at hrow ⊢
      exact List.forall_mem_cons.mpr ⟨.inr rfl, hrow.digit_or_blank⟩
  exact forall_mem_all.mpr ⟨h.year.digit_or_blank, h.month.digit_or_blank, hday, h.hour.digit_or_blank,
    h.minute.digit_or_blank, h.second.digit_or_blank, h.fraction.digit_or_blank⟩

theorem WellFormed.replacement_not_mem (h : f.WellFormed) (ht : t ∈ ['T', 't'])
    (hz : z ∈ ['Z', 'z']) : '\ufffd' ∉ f.chars t z := by
  intro hmem
  have hfield : (∃ cs ∈ f.all, '\ufffd' ∈ cs) ∨ '\ufffd' ∈ ['-', ':', '.', t, z] := by
    simp only [chars, List.mem_append, List.mem_cons] at hmem
    simp only [all, List.mem_cons, List.not_mem_nil, or_false, exists_eq_or_imp, exists_eq_left]
    tauto
  rcases hfield with ⟨cs, hcs, hc⟩ | hc
  · exact absurd (h.digit_or_blank cs hcs _ hc) (by decide)
  · fin_cases ht <;> fin_cases hz <;> exact absurd hc (by decide)

theorem Spells.split? (h : f.Spells text) : split? text.chars = some f := by
  obtain ⟨hwell, t, ht, z, hz, rfl⟩ := h
  rw [chars_ofChars]
  exact split?_chars hwell.digit_or_blank ht hz

/-- There is one way to read a text. -/
theorem Spells.unique (h : f.Spells text) (h' : f'.Spells text) : f = f' :=
  Option.some.inj (h.split?.symm.trans h'.split?)

end TimestampFields

section plain
variable {cs : List Char} {c : Char}

def asciiDigits : List Char := ['0', '1', '2', '3', '4', '5', '6', '7', '8', '9']

/-- The rows of one or two ASCII digits. -/
def shortRows : List (List Char) :=
  asciiDigits.map (fun a => [a]) ++ asciiDigits.flatMap fun a => asciiDigits.map fun b => [a, b]

/-- One or two ASCII digits are taken where their value is from `least` to `most`. -/
def TakesFrom (least most : ℕ) (field? : List Char → Option ℕ) : Prop :=
  ∀ cs ∈ shortRows, least ≤ digitsValue cs → digitsValue cs ≤ most →
    field? cs = some (digitsValue cs)

instance (least most : ℕ) (field? : List Char → Option ℕ) :
    Decidable (TakesFrom least most field?) := by
  unfold TakesFrom
  infer_instance

theorem mem_asciiDigits (h : c.isDigit = true) : c ∈ asciiDigits := by
  have hc := isDigit_iff_toNat.mp h
  obtain ⟨i, hi⟩ := Nat.exists_eq_add_of_le hc.1
  have hlt : i < 10 := by omega
  rw [← Char.ofNat_toNat c, hi]
  interval_cases i <;> decide

theorem mem_shortRows (hrow : IsDigitRow 1 2 cs) (hplain : ∀ c ∈ cs, c.isDigit = true) :
    cs ∈ shortRows := by
  have hmem (c : Char) (hc : c ∈ cs) : c ∈ asciiDigits := mem_asciiDigits (hplain c hc)
  obtain ⟨hge, hle, -⟩ := hrow
  match cs with
  | [] => cases hge
  | [a] => exact List.mem_append_left _ (List.mem_map_of_mem (hmem a (by simp)))
  | [a, b] =>
    apply List.mem_append_right
    exact List.mem_flatMap_of_mem (hmem a (by simp)) (List.mem_map_of_mem (hmem b (by simp)))
  | _ :: _ :: _ :: _ =>
    simp only [List.length_cons] at hle
    omega

theorem takesFrom_monthField? : TakesFrom 1 12 monthField? := by decide +kernel

theorem takesFrom_dayField? : TakesFrom 1 31 dayField? := by decide +kernel

theorem takesFrom_hourField? : TakesFrom 0 23 hourField? := by decide +kernel

theorem takesFrom_minuteField? : TakesFrom 0 59 minuteField? := by decide +kernel

end plain

section padded
variable {width n : ℕ}

theorem toList_padded (width n : ℕ) : (padded width n).toList =
    List.replicate (width - (digitChars n).length) '0' ++ digitChars n :=
  String.toList_ofList

theorem isDigit_padded : ∀ c ∈ (padded width n).toList, c.isDigit = true := by
  intro c hc
  rw [toList_padded, List.mem_append] at hc
  rcases hc with hc | hc
  · rw [List.eq_of_mem_replicate hc]
    rfl
  · exact isDigit_digitChars hc

theorem digitsValue_padded (width n : ℕ) : digitsValue (padded width n).toList = n := by
  rw [toList_padded, digitsValue_append, digitsValue_replicate_zero, digitsValue_digitChars]
  omega

theorem length_padded (hw : 0 < width) (hn : n < 10 ^ width) :
    (padded width n).toList.length = width := by
  have hle : (digitChars n).length ≤ width :=
    (Nat.length_toDigits_le_iff (by norm_num) hw).mpr hn
  rw [toList_padded, List.length_append, List.length_replicate]
  omega

theorem isDigitRow_padded {least most : ℕ} (hw : 0 < width) (hn : n < 10 ^ width)
    (hl : least ≤ width) (hm : width ≤ most) : IsDigitRow least most (padded width n).toList := by
  have hlen := length_padded hw hn
  exact ⟨by omega, by omega, fun c hc => isDigit_of_ascii (isDigit_padded c hc)⟩

end padded
end ClusterBilling.Time
