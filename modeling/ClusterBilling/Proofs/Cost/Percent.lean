import ClusterBilling.Cost.Discount
import ClusterBilling.Proofs.Decimal.Grammar
import ClusterBilling.Proofs.Decimal.Quotient

/-!
The fractions that discounts are given as. A percentage is a finite number that may have one percent
sign; all other texts should count as zero. The texts that do not are known: those whose number is
not finite, and those with more than one sign.
-/
namespace ClusterBilling
open Text Decimal

/-- The fraction that a text counts as, whatever it is a discount of. -/
def percentage (text : Text) : Float :=
  match parsePercent text with
  | .ok x => x
  | .error _ => 0

theorem fractionOrZero_fst (field text : Text) :
    (fractionOrZero field text).1 = percentage text := by
  unfold fractionOrZero percentage
  cases parsePercent text <;> rfl

/-- Without the blanks around it, the text is that of a number with blanks and percent signs
after it. -/
def IsPercentage (text number : Text) (signs : ℕ) : Prop :=
  ∃ blanks : List Char, (∀ c ∈ blanks, isBlank c = true) ∧
    strip text = number ++ ofChars (blanks ++ List.replicate signs '%')

/-- A finite decimal number with at most one percent sign. -/
def IsWellFormed (text : Text) : Prop :=
  ∃ number signs negative digits power, IsPercentage text number signs ∧ signs ≤ 1 ∧
    IsNumber number.chars negative digits power ∧ nearest (digits * 10 ^ power) ≠ none

/-- What a text of a number reads as: the float nearest to the number, or that of a word. -/
inductive ReadsAs (number : Text) : Float → Prop where
  | decimal {negative : Bool} {digits : ℕ} {power : ℤ}
    (hn : IsNumber number.chars negative digits power) :
    ReadsAs number (nearestFloat negative digits power)
  | word {x : Float} (hn : IsNonfinite number.chars x) : ReadsAs number x

/-- What a text counts as: a hundredth of its number, whatever signs follow, and zero if it has
none. -/
inductive CountsAs (text : Text) : Float → Prop where
  | hundredth {number : Text} {signs : ℕ} {x : Float} (hp : IsPercentage text number signs)
    (hr : ReadsAs number x) : CountsAs text (x / 100)
  | zero (h : ∀ number signs x, IsPercentage text number signs → ¬ ReadsAs number x) :
    CountsAs text 0

/-- The fraction is finite, and it is zero unless the text is well-formed. -/
structure SoundFraction (text : Text) (fraction : Float) : Prop where
  finite : fraction.isFinite = true
  malformed : ¬ IsWellFormed text → (fraction == 0) = true

/-- Texts that are malformed, and yet count as some fraction. -/
inductive StrayPercentage (text : Text) : Prop where
  | word {number : Text} {signs : ℕ} {x : Float} (hp : IsPercentage text number signs)
    (hn : IsNonfinite number.chars x) : StrayPercentage text
  | tooLarge {number : Text} {signs : ℕ} {negative : Bool} {digits : ℕ} {power : ℤ}
    (hp : IsPercentage text number signs) (hn : IsNumber number.chars negative digits power)
    (hlarge : nearest (digits * 10 ^ power) = none) : StrayPercentage text
  | repeated {number : Text} {signs : ℕ} {negative : Bool} {digits : ℕ} {power : ℤ}
    (hp : IsPercentage text number signs) (hs : 2 ≤ signs)
    (hn : IsNumber number.chars negative digits power)
    (hne : (nearestFloat negative digits power / 100 == 0) = false) : StrayPercentage text

section points
variable {p : Char → Bool} {text number number' : Text} {signs signs' : ℕ}

theorem exists_scalars {ps : List CodePoint} (h : ∀ x ∈ ps, x.satisfies p = true) :
    ∃ cs : List Char, ps = cs.map .scalar ∧ ∀ c ∈ cs, p c = true := by
  induction ps with
  | nil => exact ⟨[], rfl, nofun⟩
  | cons x ps ih =>
    obtain ⟨hx, hps⟩ := List.forall_mem_cons.mp h
    obtain ⟨cs, rfl, hcs⟩ := ih hps
    cases x with
    | scalar c => exact ⟨c :: cs, rfl, List.forall_mem_cons.mpr ⟨hx, hcs⟩⟩
    | surrogate n => cases hx

/-- A code point that is the percent sign. -/
def isSign (x : CodePoint) : Bool := x = .scalar '%'

theorem percentDigits_points (text : Text) : (percentDigits text).points =
    stripWhile (CodePoint.satisfies isBlank) (dropEndWhile isSign (strip text).points) := rfl

/-- What the reader is given of a text is its number, if it has one. -/
theorem exists_isPercentage (text : Text) :
    ∃ signs, IsPercentage text (percentDigits text) signs := by
  obtain ⟨ending, hending, hsplit⟩ := exists_append_dropEndWhile isSign (strip text).points
  obtain ⟨blanks, hblanks, hbody⟩ := exists_append_dropEndWhile (CodePoint.satisfies isBlank)
    (dropEndWhile isSign (strip text).points)
  obtain ⟨cs, rfl, hcs⟩ := exists_scalars hblanks
  have hsigns : ending = (List.replicate ending.length '%').map .scalar := by
    rw [List.map_replicate, List.eq_replicate_iff]
    exact ⟨rfl, fun x hx => by simpa [isSign] using hending x hx⟩
  have hhead : ∀ x ∈ (dropEndWhile isSign (strip text).points).head?,
      x.satisfies isBlank = false := by
    intro x hx
    have hstrip : (stripWhile (CodePoint.satisfies isBlank) text.points).head? = some x := by
      change (strip text).points.head? = some x
      rw [hsplit, List.head?_append, hx, Option.some_or]
    exact not_of_head?_stripWhile hstrip
  have hdigits : (percentDigits text).points =
      dropEndWhile (CodePoint.satisfies isBlank) (dropEndWhile isSign (strip text).points) := by
    rw [percentDigits_points, stripWhile, dropWhile_eq_self hhead]
  refine ⟨ending.length, cs, hcs, ?_⟩
  have hpoints : (strip text).points =
      (percentDigits text).points ++ (cs.map .scalar ++ ending) := by
    rw [hdigits, ← List.append_assoc, ← hbody, ← hsplit]
  rw [hsigns, ← List.map_append] at hpoints
  exact congrArg Text.mk hpoints

/-- Text without blanks and percent signs. -/
structure IsBody (number : Text) : Prop where
  nonempty : number.points ≠ []
  blank : ∀ x ∈ number.points, x.satisfies isBlank = false
  sign : ∀ x ∈ number.points, isSign x = false

theorem isSign_of_isBlank {c : Char} (h : isBlank c = true) : isSign (.scalar c) = false := by
  refine decide_eq_false ?_
  rintro ⟨⟩
  cases h

theorem IsPercentage.percentDigits_eq (h : IsPercentage text number signs) (hb : IsBody number) :
    percentDigits text = number := by
  obtain ⟨blanks, hblanks, hstrip⟩ := h
  have hpoints : (strip text).points = number.points ++ blanks.map .scalar ++
      (List.replicate signs '%').map .scalar := by
    rw [hstrip, points_append, ofChars, List.map_append, List.append_assoc]
  have hsigns : ∀ x ∈ (List.replicate signs '%').map CodePoint.scalar, isSign x = true := by
    intro x hx
    rw [List.map_replicate] at hx
    rw [List.eq_of_mem_replicate hx]
    rfl
  have hspaces : ∀ x ∈ blanks.map CodePoint.scalar, x.satisfies isBlank = true := by
    simpa [CodePoint.satisfies] using hblanks
  have hbody : ∀ x ∈ (number.points ++ blanks.map CodePoint.scalar).getLast?, isSign x = false := by
    intro x hx
    rcases List.mem_append.mp (List.mem_of_mem_getLast? hx) with hx | hx
    · exact hb.sign x hx
    · obtain ⟨c, hc, rfl⟩ := List.mem_map.mp hx
      exact isSign_of_isBlank (hblanks c hc)
  have hhead : ∀ x ∈ (number.points ++ blanks.map CodePoint.scalar).head?,
      x.satisfies isBlank = false := by
    obtain ⟨y, ys, hys⟩ := List.exists_cons_of_ne_nil hb.nonempty
    rw [hys]
    rintro x ⟨⟩
    exact hb.blank y (hys ▸ List.mem_cons_self)
  have hlast : ∀ x ∈ number.points.getLast?, x.satisfies isBlank = false :=
    fun x hx => hb.blank x (List.mem_of_mem_getLast? hx)
  have hdigits : (percentDigits text).points = number.points := by
    rw [percentDigits_points, hpoints, dropEndWhile_append hsigns, dropEndWhile_eq_self hbody,
      stripWhile_append hhead hlast hspaces]
  exact congrArg Text.mk hdigits

theorem IsPercentage.unique (h : IsPercentage text number signs)
    (h' : IsPercentage text number' signs') (hb : IsBody number) (hb' : IsBody number') :
    number = number' ∧ signs = signs' := by
  obtain rfl := (h.percentDigits_eq hb).symm.trans (h'.percentDigits_eq hb')
  refine ⟨rfl, ?_⟩
  obtain ⟨blanks, hblanks, hstrip⟩ := h
  obtain ⟨blanks', hblanks', hstrip'⟩ := h'
  have hcount {blanks : List Char} (h : ∀ c ∈ blanks, isBlank c = true) (signs : ℕ) :
      (blanks ++ List.replicate signs '%').count '%' = signs := by
    have hnone : blanks.count '%' = 0 := by
      rw [List.count_eq_zero]
      exact fun hmem => absurd (h _ hmem) (by decide)
    rw [List.count_append, hnone, List.count_replicate_self, Nat.zero_add]
  have hpoints := congrArg Text.points (hstrip.symm.trans hstrip')
  have hends := ofChars_inj.mp (congrArg Text.mk (List.append_cancel_left hpoints))
  rw [← hcount hblanks signs, hends, hcount hblanks' signs']

end points

section reading
variable {text number : Text} {signs : ℕ} {negative : Bool} {digits : ℕ} {power : ℤ} {x : Float}

theorem IsBody.of_parts (h : OfParts number.chars) : IsBody number := by
  have hchar {y : CodePoint} (hy : y ∈ number.points) : IsPart y.char :=
    h.parts _ (List.mem_map_of_mem hy)
  constructor
  · intro hnil
    exact h.nonempty (by rw [chars, hnil]; rfl)
  · intro y hy
    cases y with
    | scalar c => exact (hchar hy).not_blank
    | surrogate n => rfl
  · intro y hy
    refine decide_eq_false ?_
    rintro rfl
    have hpercent : ¬ IsPart '%' := by
      unfold IsPart
      decide
    exact hpercent (hchar hy)

theorem IsBody.of_readsAs (h : ReadsAs number x) : IsBody number := by
  cases h with
  | decimal hn => exact .of_parts (ofParts_of_bare hn.2.ofParts)
  | word hn => exact .of_parts (ofParts_of_bare hn.2.ofParts)

theorem readNumber?_percentDigits (text : Text) :
    readNumber? (percentDigits text).chars = some x ↔ ReadsAs (percentDigits text) x := by
  have hblank {y : CodePoint} (h : y.satisfies isBlank = false) : isBlank y.char = false := by
    cases y with
    | scalar c => exact h
    | surrogate n => exact (by decide : isBlank '\ufffd' = false)
  have hhead : ∀ c ∈ (percentDigits text).chars.head?, isBlank c = false := by
    rw [chars, List.head?_map]
    intro c hc
    obtain ⟨y, hy, rfl⟩ := Option.map_eq_some_iff.mp hc
    exact hblank (not_of_head?_stripWhile hy)
  have hlast : ∀ c ∈ (percentDigits text).chars.getLast?, isBlank c = false := by
    rw [chars, List.getLast?_map]
    intro c hc
    obtain ⟨y, hy, rfl⟩ := Option.map_eq_some_iff.mp hc
    exact hblank (not_of_getLast?_stripWhile hy)
  rw [readNumber?_iff hhead hlast]
  constructor
  · rintro (⟨negative, digits, power, hn, rfl⟩ | hn)
    · exact .decimal hn
    · exact .word hn
  · intro h
    cases h with
    | decimal hn => exact .inl ⟨_, _, _, hn, rfl⟩
    | word hn => exact .inr hn

theorem percentage_of_some (hr : readNumber? (percentDigits text).chars = some x) :
    percentage text = x / 100 := by
  rw [percentage, parsePercent, hr]

theorem percentage_of_none (hr : readNumber? (percentDigits text).chars = none) :
    percentage text = 0 := by
  rw [percentage, parsePercent, hr]

/-- A number with any percent signs counts as a hundredth of it. -/
theorem IsPercentage.percentage_eq (hp : IsPercentage text number signs)
    (hr : ReadsAs number x) : percentage text = x / 100 := by
  obtain rfl := hp.percentDigits_eq (.of_readsAs hr)
  exact percentage_of_some ((readNumber?_percentDigits text).mpr hr)

example : (percentage "10%%").toBits = (percentage "10").toBits := by decide +kernel

theorem countsAs_percentage (text : Text) : CountsAs text (percentage text) := by
  obtain ⟨signs, hp⟩ := exists_isPercentage text
  cases hr : readNumber? (percentDigits text).chars with
  | none =>
    rw [percentage_of_none hr]
    refine .zero fun number signs x hp hread => ?_
    obtain rfl := hp.percentDigits_eq (.of_readsAs hread)
    rw [(readNumber?_percentDigits text).mpr hread] at hr
    cases hr
  | some x =>
    rw [percentage_of_some hr]
    exact .hundredth hp ((readNumber?_percentDigits text).mp hr)

theorem IsPercentage.isFinite_of_isNumber (hp : IsPercentage text number signs)
    (hn : IsNumber number.chars negative digits power) :
    (percentage text).isFinite = (nearest (digits * 10 ^ power)).isSome := by
  rw [hp.percentage_eq (.decimal hn), isFinite_nearestFloat_div_hundred]

theorem not_isFinite_of_isWord {cs : List Char} (h : IsWord cs x) : (x / 100).isFinite = false := by
  cases h with
  | @infinity _ _ negative => cases negative <;> decide +kernel
  | nan => decide +kernel

theorem IsPercentage.not_isFinite_of_isNonfinite (hp : IsPercentage text number signs)
    (hn : IsNonfinite number.chars x) : (percentage text).isFinite = false := by
  rw [hp.percentage_eq (.word hn), not_isFinite_of_isWord hn.2]

/-- The signs of a number show whether it is well-formed. -/
theorem IsPercentage.not_isWellFormed (hp : IsPercentage text number signs)
    (hn : IsNumber number.chars negative digits power) (hs : 2 ≤ signs) :
    ¬ IsWellFormed text := by
  rintro ⟨number', signs', negative', digits', power', hp', hs', hn', -⟩
  have hbody : IsBody number := .of_readsAs (.decimal hn)
  have hbody' : IsBody number' := .of_readsAs (.decimal hn')
  have hsigns : signs = signs' := (hp.unique hp' hbody hbody').2
  omega

end reading

section sound
variable {text : Text}

theorem StrayPercentage.not_sound (h : StrayPercentage text) :
    ¬ SoundFraction text (percentage text) := by
  intro hsound
  have hfinite := hsound.finite
  cases h with
  | word hp hn =>
    rw [hp.not_isFinite_of_isNonfinite hn] at hfinite
    cases hfinite
  | tooLarge hp hn hlarge =>
    rw [hp.isFinite_of_isNumber hn, hlarge] at hfinite
    cases hfinite
  | repeated hp hs hn hne =>
    have hzero := hsound.malformed (hp.not_isWellFormed hn hs)
    rw [hp.percentage_eq (.decimal hn), hne] at hzero
    cases hzero

theorem sound_of_not_stray (h : ¬ StrayPercentage text) :
    SoundFraction text (percentage text) := by
  generalize hx : percentage text = x
  have hcounts : CountsAs text x := hx ▸ countsAs_percentage text
  cases hcounts with
  | zero => exact ⟨by decide, fun _ => by decide⟩
  | @hundredth number signs _ hp hr =>
    cases hr with
    | word hn => exact absurd (.word hp hn) h
    | @decimal negative digits power hn =>
      have hsome : nearest (digits * 10 ^ power) ≠ none := fun hlarge => h (.tooLarge hp hn hlarge)
      constructor
      · rw [isFinite_nearestFloat_div_hundred]
        exact Option.isSome_iff_ne_none.mpr hsome
      · intro hmalformed
        have hsigns : 2 ≤ signs := by
          by_contra hs
          exact hmalformed ⟨number, signs, negative, digits, power, hp, by omega, hn, hsome⟩
        by_contra hne
        exact h (.repeated hp hsigns hn (by simpa using hne))

/-- Each fraction of the discounts stands in the relation to its own text. Without texts there is no
discount. -/
inductive DiscountSource.Each (r : Text → Float → Prop) :
    DiscountSource → Discounts Float → Prop where
  | none : Each r .none ⟨0, 0⟩
  | failing : Each r .failing ⟨0, 0⟩
  | texts {standard negotiated : Text} {s n : Float} (hs : r standard s) (hn : r negotiated n) :
    Each r (.texts standard negotiated) ⟨s, n⟩

/-- Each discount depends on its own text alone, and is a hundredth of the number there if there is
one. It is finite, and zero for a malformed text, just if the text is not a word or a number that is
not finite and does not have several percent signs. -/
theorem discounts_sound_iff_not_stray (source : DiscountSource) :
    source.Each (fun text fraction => fraction = percentage text ∧ CountsAs text fraction ∧
      (SoundFraction text fraction ↔ ¬ StrayPercentage text)) source.resolve.1 := by
  cases source with
  | none => exact .none
  | failing => exact .failing
  | texts standard negotiated =>
    have heach (text : Text) : percentage text = percentage text ∧
        CountsAs text (percentage text) ∧
        (SoundFraction text (percentage text) ↔ ¬ StrayPercentage text) :=
      ⟨rfl, countsAs_percentage text, fun hsound hstray => hstray.not_sound hsound,
        sound_of_not_stray⟩
    rw [DiscountSource.resolve_texts, fractionOrZero_fst, fractionOrZero_fst]
    exact .texts (heach standard) (heach negotiated)

/-- The word for infinity counts as an infinite discount. -/
theorem not_sound_infinity :
    let fraction := (DiscountSource.texts "inf%" "").resolve.1.standard
    fraction.isFinite = false ∧ ¬ IsWellFormed "inf%" ∧ ¬ SoundFraction "inf%" fraction := by
  intro fraction
  have hfraction : fraction = percentage "inf%" := by
    simp only [fraction, DiscountSource.resolve_texts, fractionOrZero_fst]
  have hinfinite : (percentage "inf%").isFinite = false := by decide +kernel
  rw [hfraction]
  refine ⟨hinfinite, ?_, fun hsound => ?_⟩
  · rintro ⟨number, signs, negative, digits, power, hp, -, hn, hsome⟩
    rw [hp.isFinite_of_isNumber hn, Option.isSome_eq_false_iff, Option.isNone_iff_eq_none]
      at hinfinite
    exact hsome hinfinite
  · have hfinite := hsound.finite
    rw [hinfinite] at hfinite
    cases hfinite

end sound
end ClusterBilling
