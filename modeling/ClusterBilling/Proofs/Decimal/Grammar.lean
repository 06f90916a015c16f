import ClusterBilling.Proofs.Decimal.Numeral

/-!
The grammar of a number as text, and that the reader takes just the texts of this grammar: a decimal
number with a sign, a point and an exponent, or a word for what is not finite. Digits of any script
count, and underscores between two of them do not.
-/
namespace ClusterBilling.Decimal
open Text

/-- A sign or none, and whether it is a minus. -/
inductive Signed : List Char → Bool → Prop where
  | none : Signed [] false
  | plus : Signed ['+'] false
  | minus : Signed ['-'] true

/-- A point with the digits after it, or neither. -/
inductive Places : List Char → List Char → Prop where
  | none : Places [] []
  | point {ds : List Char} (hd : ∀ c ∈ ds, isDigit c = true) : Places ('.' :: ds) ds

/-- A power of ten, or none. -/
inductive Exponent : List Char → ℤ → Prop where
  | none : Exponent [] 0
  | power {mark : Char} {sign ds : List Char} {negative : Bool} (hm : mark = 'e' ∨ mark = 'E')
    (hs : Signed sign negative) (hne : ds ≠ []) (hd : ∀ c ∈ ds, isDigit c = true) :
    Exponent (mark :: (sign ++ ds)) (if negative then -(digitsValue ds : ℤ) else digitsValue ds)

/-- The text is a decimal number: the digits that it has in all, and the power of ten that they
count. -/
inductive IsDecimal : List Char → Bool → ℕ → ℤ → Prop where
  | mk {sign whole point places tail : List Char} {negative : Bool} {e : ℤ}
    (hs : Signed sign negative) (hw : ∀ c ∈ whole, isDigit c = true) (hp : Places point places)
    (hne : whole ++ places ≠ []) (he : Exponent tail e) :
    IsDecimal (sign ++ (whole ++ (point ++ tail))) negative (digitsValue (whole ++ places))
      (e - places.length)

/-- The word in lower case. -/
def lowerCase (word : List Char) : String := String.ofList (word.map Char.toLower)

/-- The text is a word for infinity, or for what is no number. -/
inductive IsWord : List Char → Float → Prop where
  | infinity {sign word : List Char} {negative : Bool} (hs : Signed sign negative)
    (hw : lowerCase word = "inf" ∨ lowerCase word = "infinity") :
    IsWord (sign ++ word)
      (Float.ofBits (if negative then 0xFFF0000000000000 else 0x7FF0000000000000))
  | nan {sign word : List Char} {negative : Bool} (hs : Signed sign negative)
    (hw : lowerCase word = "nan") : IsWord (sign ++ word) (Float.ofBits 0x7FF8000000000000)

/-- What an underscore needs beside it is a digit. -/
def MayNeighbour (a b : Char) : Prop := (a = '_' → isDigit b = true) ∧ (b = '_' → isDigit a = true)

/-- Every underscore stands between two digits; the ends of the text are none. -/
def UnderscoresApart (cs : List Char) : Prop := List.IsChain MayNeighbour (' ' :: (cs ++ [' ']))

/-- The text without underscores. -/
def bare (cs : List Char) : List Char := cs.filter (· != '_')

section plain
variable {c d : Char} {cs : List Char}

/-- What is not ASCII becomes a blank, a digit or a question mark. -/
theorem plainChar_cases (c : Char) : plainChar c = c ∨ 127 ≤ c.toNat ∧
    (isBlank c = true ∧ plainChar c = ' ' ∨ isDigit c = true ∧ (plainChar c).isDigit = true ∨
      isDigit c = false ∧ plainChar c = '?') := by
  by_cases hascii : c.toNat < 127
  · exact .inl (if_pos hascii)
  · refine .inr ⟨not_lt.mp hascii, ?_⟩
    by_cases hblank : isBlank c = true
    · refine .inl ⟨hblank, ?_⟩
      rw [plainChar, if_neg hascii, if_pos hblank]
    · right
      by_cases hdigit : isDigit c = true
      · exact .inl ⟨hdigit, (plainChar_of_isDigit hdigit).1⟩
      · have hnone : digitValue? c = none := by simpa [isDigit] using hdigit
        refine .inr ⟨by simpa using hdigit, ?_⟩
        rw [plainChar, if_neg hascii, if_neg hblank, hnone]

/-- Only itself is read as a character that stands for neither a digit nor a blank. -/
theorem plainChar_eq_iff (hascii : d.toNat < 127) (hd : d ≠ ' ' ∧ d ≠ '?' ∧ d.isDigit = false) :
    plainChar c = d ↔ c = d := by
  constructor
  · intro h
    rcases plainChar_cases c with heq | ⟨-, ⟨-, heq⟩ | ⟨-, heq⟩ | ⟨-, heq⟩⟩
    · exact heq.symm.trans h
    · exact absurd (h.symm.trans heq) hd.1
    · rw [h, hd.2.2] at heq
      cases heq
    · exact absurd (h.symm.trans heq) hd.2.1
  · rintro rfl
    exact if_pos hascii

theorem isDigit_plainChar (c : Char) : (plainChar c).isDigit = isDigit c := by
  rcases plainChar_cases c with heq | ⟨-, ⟨hblank, heq⟩ | ⟨hdigit, heq⟩ | ⟨hdigit, heq⟩⟩
  · rw [Bool.eq_iff_iff]
    constructor
    · intro h
      rw [heq] at h
      exact isDigit_of_ascii h
    · exact fun h => (plainChar_of_isDigit h).1
  · have hdigit : isDigit c = false := by
      by_contra h
      rw [isBlank_of_isDigit (by simpa using h)] at hblank
      cases hblank
    rw [heq, hdigit]
    rfl
  · rw [heq, hdigit]
  · rw [heq, hdigit]
    rfl

theorem isBlank_of_isPadding (h : isPadding (plainChar c) = true) : isBlank c = true := by
  rcases plainChar_cases c with heq | ⟨-, ⟨hblank, -⟩ | ⟨-, heq⟩ | ⟨-, heq⟩⟩
  · rw [heq] at h
    simp only [isPadding, Bool.or_eq_true, decide_eq_true_eq, Bool.and_eq_true] at h
    rcases h with rfl | ⟨hlow, hhigh⟩
    · decide
    · simp only [isBlank, blankRanges, List.any_cons, Bool.or_eq_true, Bool.and_eq_true,
        decide_eq_true_eq]
      omega
  · exact hblank
  · rw [isPadding_of_isDigit heq] at h
    cases h
  · rw [heq] at h
    cases h

theorem isAlpha_iff : c.isAlpha = true ↔
    65 ≤ c.toNat ∧ c.toNat ≤ 90 ∨ 97 ≤ c.toNat ∧ c.toNat ≤ 122 := by
  simp only [Char.isAlpha, Char.isUpper, Char.isLower, Bool.or_eq_true, Bool.and_eq_true,
    decide_eq_true_eq, ge_iff_le, UInt32.le_iff_toNat_le]
  rfl

theorem not_isAlpha_of_isDigit (h : c.isDigit = true) : c.isAlpha = false := by
  have hrange := isDigit_iff_toNat.mp h
  rw [← Bool.not_eq_true, isAlpha_iff]
  omega

theorem not_isDigit_of_isAlpha (h : c.isAlpha = true) : isDigit c = false := by
  have hrange := isAlpha_iff.mp h
  have hplain : plainChar c = c := if_pos (by omega)
  by_contra hdigit
  rw [Bool.not_eq_false, ← isDigit_plainChar, hplain] at hdigit
  rw [not_isAlpha_of_isDigit hdigit] at h
  cases h

/-- Letters are the same, plain or not. -/
theorem toLower_plainChar (hd : d.isLower = true) :
    (plainChar c).toLower = d ↔ c.toLower = d := by
  have halpha {c : Char} (h : c.toLower = d) : c.isAlpha = true := by
    rw [← Char.isLower_toLower_eq_isAlpha, h, hd]
  rcases plainChar_cases c with heq | ⟨hc, hplain⟩
  · rw [heq]
  · refine iff_of_false (fun h => ?_) fun h => ?_
    · have hletter := halpha h
      rcases hplain with ⟨-, heq⟩ | ⟨-, hdigit⟩ | ⟨-, heq⟩
      · rw [heq] at hletter
        cases hletter
      · rw [not_isAlpha_of_isDigit hdigit] at hletter
        cases hletter
      · rw [heq] at hletter
        cases hletter
    · have hrange := isAlpha_iff.mp (halpha h)
      omega

theorem lowerCase_map_plainChar {word : String} (hw : word.toList.all Char.isLower = true) :
    lowerCase (cs.map plainChar) = word ↔ lowerCase cs = word := by
  rw [lowerCase, lowerCase, String.ofList_eq, String.ofList_eq]
  generalize word.toList = word at hw ⊢
  induction cs generalizing word with
  | nil => rfl
  | cons c cs ih =>
    cases word with
    | nil => simp
    | cons d word =>
      obtain ⟨hd, hword⟩ := Bool.and_eq_true_iff.mp (List.all_cons ▸ hw)
      simp only [List.map_cons, List.cons.injEq, toLower_plainChar hd, ih word hword]

theorem bare_map_plainChar (cs : List Char) :
    bare (cs.map plainChar) = (bare cs).map plainChar := by
  have hc (c : Char) : (plainChar c != '_') = (c != '_') := by
    have := @plainChar_eq_iff c '_' (by decide) (by decide)
    rw [bne, bne, Bool.eq_iff_iff]
    simpa using not_congr this
  rw [bare, bare, List.filter_map]
  simp only [Function.comp_def, hc]

end plain

section underscores

theorem mayNeighbour_iff (a b : Char) : MayNeighbour a b ↔
    (if plainChar b = '_' then (plainChar a).isDigit
      else plainChar a != '_' || (plainChar b).isDigit) = true := by
  have hunderscore (c : Char) : plainChar c = '_' ↔ c = '_' :=
    plainChar_eq_iff (by decide) (by decide)
  have hnot : isDigit '_' = false := by decide
  have ha : (plainChar a != '_') = !decide (a = '_') := by
    rw [bne, ← decide_eq_decide.mpr (hunderscore a)]
    rfl
  rw [MayNeighbour, ha, isDigit_plainChar, isDigit_plainChar]
  simp only [hunderscore]
  by_cases hb : b = '_'
  · by_cases ha : a = '_'
    · simp [ha, hb, hnot]
    · simp [ha, hb]
  · by_cases ha : a = '_'
    · simp [ha, hb]
    · simp [ha, hb]

/-- The blank in front of a text and the one behind it stand for its ends. -/
theorem underscoresBetweenDigits_iff (cs : List Char) (previous : Char) :
    underscoresBetweenDigits (plainChar previous) (cs.map plainChar) = true ↔
      List.IsChain MayNeighbour (previous :: (cs ++ [' '])) := by
  induction cs generalizing previous with
  | nil =>
    have hend := mayNeighbour_iff previous ' '
    have hblank : plainChar ' ' = ' ' := by decide
    have hdigit : ' '.isDigit = false := by decide
    rw [hblank, if_neg (by decide), hdigit, Bool.or_false] at hend
    rw [List.map_nil, underscoresBetweenDigits, List.nil_append, List.isChain_pair, hend]
  | cons c cs ih =>
    rw [List.map_cons, underscoresBetweenDigits, List.cons_append, List.isChain_cons_cons,
      Bool.and_eq_true, ih, mayNeighbour_iff]

end underscores

section sign
variable {cs rest sign : List Char} {negative : Bool}

/-- Nothing that could be taken for a sign. -/
def Unsigned (cs : List Char) : Prop := ∀ c ∈ cs.head?, c ≠ '-' ∧ c ≠ '+'

/-- A sign is taken off the text as it is off its plain characters. -/
theorem takeSign_map_plainChar (cs : List Char) :
    ∃ sign negative rest, cs = sign ++ rest ∧ Signed sign negative ∧
      takeSign (cs.map plainChar) = (negative, rest.map plainChar) := by
  have hminus (c : Char) : plainChar c = '-' ↔ c = '-' :=
    plainChar_eq_iff (by decide) (by decide)
  have hplus (c : Char) : plainChar c = '+' ↔ c = '+' :=
    plainChar_eq_iff (by decide) (by decide)
  cases cs with
  | nil => exact ⟨[], false, [], rfl, .none, rfl⟩
  | cons c cs =>
    rw [List.map_cons]
    unfold takeSign
    split
    · next heq =>
      obtain ⟨hc, rfl⟩ := List.cons.inj heq
      obtain rfl := (hminus c).mp hc
      exact ⟨['-'], true, cs, rfl, .minus, rfl⟩
    · next heq =>
      obtain ⟨hc, rfl⟩ := List.cons.inj heq
      obtain rfl := (hplus c).mp hc
      exact ⟨['+'], false, cs, rfl, .plus, rfl⟩
    · exact ⟨[], false, c :: cs, rfl, .none, rfl⟩

theorem takeSign_append (hs : Signed sign negative) (hr : Unsigned rest) :
    takeSign ((sign ++ rest).map plainChar) = (negative, rest.map plainChar) := by
  cases hs with
  | minus => rfl
  | plus => rfl
  | none =>
    cases rest with
    | nil => rfl
    | cons c cs =>
      obtain ⟨hminus, hplus⟩ := hr c rfl
      have hminus : plainChar c ≠ '-' := (plainChar_eq_iff (by decide) (by decide)).not.mpr hminus
      have hplus : plainChar c ≠ '+' := (plainChar_eq_iff (by decide) (by decide)).not.mpr hplus
      rw [List.nil_append, List.map_cons]
      unfold takeSign
      split
      · next heq => exact absurd (List.cons.inj heq).1 hminus
      · next heq => exact absurd (List.cons.inj heq).1 hplus
      · rfl

end sign

section unsigned
variable {cs whole places point tail : List Char} {e : ℤ}

theorem takeDigits_map_plainChar (cs : List Char) : takeDigits (cs.map plainChar) =
    ((cs.takeWhile isDigit).map plainChar, (cs.dropWhile isDigit).map plainChar) := by
  have hdigit : Char.isDigit ∘ plainChar = isDigit := funext isDigit_plainChar
  rw [takeDigits, List.takeWhile_map, List.dropWhile_map, hdigit]

theorem takeDigits_row (hd : ∀ c ∈ whole, isDigit c = true)
    (hr : ∀ c ∈ cs.head?, isDigit c = false) :
    takeDigits ((whole ++ cs).map plainChar) = (whole.map plainChar, cs.map plainChar) := by
  rw [takeDigits_map_plainChar, takeWhile_append_stop hd hr, dropWhile_append_stop hd hr]

theorem Exponent.head (h : Exponent tail e) :
    ∀ c ∈ tail.head?, isDigit c = false ∧ c ≠ '.' := by
  cases h with
  | none => simp
  | power hm =>
    rintro c ⟨⟩
    rcases hm with rfl | rfl <;> decide

theorem unsigned_of_head (h : ∀ c ∈ cs.head?, isDigit c = true ∨ c = '.' ∨ c.isAlpha = true) :
    Unsigned cs := by
  intro c hc
  have hhead := h c hc
  constructor <;> rintro rfl <;> exact absurd hhead (by decide)

theorem all_isDigit_map_plainChar :
    (cs.map plainChar).all Char.isDigit = true ↔ ∀ c ∈ cs, isDigit c = true := by
  rw [List.all_map, List.all_eq_true]
  simp only [Function.comp_apply, isDigit_plainChar]

theorem readExponent?_iff :
    readExponent? (tail.map plainChar) = some e ↔ Exponent tail e := by
  have hmark (c : Char) : (plainChar c = 'e' || plainChar c = 'E') = true ↔ c = 'e' ∨ c = 'E' := by
    rw [Bool.or_eq_true, decide_eq_true_iff, decide_eq_true_iff,
      plainChar_eq_iff (by decide) (by decide), plainChar_eq_iff (by decide) (by decide)]
  constructor
  · intro h
    cases tail with
    | nil =>
      obtain rfl := Option.some.inj h
      exact .none
    | cons mark cs =>
      obtain ⟨sign, negative, ds, rfl, hs, htake⟩ := takeSign_map_plainChar cs
      rw [List.map_cons, readExponent?] at h
      split_ifs at h with hm
      rw [htake] at h
      dsimp only at h
      split at h
      · cases h
      · next hds =>
        simp only [Bool.or_eq_true, Bool.not_eq_true', not_or, Bool.not_eq_false,
          all_isDigit_map_plainChar] at hds
        obtain ⟨hne, hd⟩ := hds
        rw [digitsValue_map_plainChar hd] at h
        obtain rfl := Option.some.inj h
        exact .power ((hmark mark).mp hm) hs (by simpa using hne) hd
  · intro h
    cases h with
    | none => rfl
    | @power mark sign ds negative hm hs hne hd =>
      have hu : Unsigned ds := unsigned_of_head fun c hc => .inl (hd c (List.mem_of_mem_head? hc))
      rw [List.map_cons, readExponent?, if_pos ((hmark mark).mpr hm), takeSign_append hs hu]
      dsimp only
      rw [all_isDigit_map_plainChar.mpr hd, digitsValue_map_plainChar hd]
      simp [hne]

/-- What can follow the digits of a number: no digit, and no point if there was none. -/
def Follows (point tail : List Char) : Prop :=
  ∀ c ∈ tail.head?, isDigit c = false ∧ (point = [] → c ≠ '.')

theorem exists_parts (cs : List Char) : ∃ whole point places tail, cs = whole ++ (point ++ tail) ∧
    (∀ c ∈ whole, isDigit c = true) ∧ Places point places ∧ Follows point tail := by
  have hdigits (l : List Char) : ∀ c ∈ l.takeWhile isDigit, isDigit c = true :=
    fun c hc => List.mem_takeWhile_imp hc
  have hstop (l : List Char) : ∀ c ∈ (l.dropWhile isDigit).head?, isDigit c = false := by
    intro c hc
    have hnot := List.head?_dropWhile_not isDigit l
    rw [hc] at hnot
    simpa using hnot
  have hcs := List.takeWhile_append_dropWhile (p := isDigit) (l := cs)
  by_cases hpoint : ∃ rest, cs.dropWhile isDigit = '.' :: rest
  · obtain ⟨rest, hrest⟩ := hpoint
    have hplaces := List.takeWhile_append_dropWhile (p := isDigit) (l := rest)
    refine ⟨cs.takeWhile isDigit, '.' :: rest.takeWhile isDigit, rest.takeWhile isDigit,
      rest.dropWhile isDigit, ?_, hdigits cs, .point (hdigits rest), ?_⟩
    · rw [List.cons_append, hplaces, ← hrest, hcs]
    · exact fun c hc => ⟨hstop rest c hc, nofun⟩
  · refine ⟨cs.takeWhile isDigit, [], [], cs.dropWhile isDigit, hcs.symm, hdigits cs, .none, ?_⟩
    intro c hc
    refine ⟨hstop cs c hc, fun _ => ?_⟩
    rintro rfl
    exact hpoint ⟨_, (List.head?_eq_some_iff.mp hc).choose_spec⟩

theorem readUnsigned?_parts (negative : Bool) (hw : ∀ c ∈ whole, isDigit c = true)
    (hp : Places point places) (ht : Follows point tail) :
    readUnsigned? negative ((whole ++ (point ++ tail)).map plainChar) =
      if whole ++ places = [] then none
      else (readExponent? (tail.map plainChar)).map fun e =>
        nearestFloat negative (digitsValue (whole ++ places)) (e - places.length) := by
  unfold readUnsigned?
  cases hp with
  | none =>
    have hstop : ∀ c ∈ tail.head?, isDigit c = false := fun c hc => (ht c hc).1
    -- by this the match on what follows the digits takes its second branch
    have hnot (rest : List Char) : tail.map plainChar ≠ '.' :: rest := by
      intro h
      obtain ⟨c, cs, rfl, hc, -⟩ := List.map_eq_cons_iff.mp h
      exact (ht c rfl).2 rfl ((plainChar_eq_iff (by decide) (by decide)).mp hc)
    rw [List.nil_append, takeDigits_row hw hstop]
    by_cases hne : whole = []
    · simp [hne]
    · simp [hne, digitsValue_map_plainChar hw, Option.map_eq_bind]
  | @point ds hd =>
    have hdot : ∀ c ∈ ('.' :: (places ++ tail)).head?, isDigit c = false := by
      rintro c ⟨⟩
      decide
    have hstop : ∀ c ∈ tail.head?, isDigit c = false := fun c hc => (ht c hc).1
    have hplain : ('.' :: (places ++ tail)).map plainChar =
        '.' :: (places ++ tail).map plainChar := rfl
    rw [List.cons_append, takeDigits_row hw hdot, hplain]
    simp only [takeDigits_row hd hstop]
    have hvalue : digitsValue (whole.map plainChar ++ places.map plainChar) =
        digitsValue (whole ++ places) := by
      rw [← List.map_append, digitsValue_map_plainChar (List.forall_mem_append.mpr ⟨hw, hd⟩)]
    by_cases hne : whole ++ places = []
    · obtain ⟨hwhole, hplaces⟩ := List.append_eq_nil_iff.mp hne
      simp [hwhole, hplaces]
    · have hdigits : ¬ (whole = [] ∧ places = []) := fun h => hne (List.append_eq_nil_iff.mpr h)
      simp [hdigits, hvalue, Option.map_eq_bind]

/-- Digits with at most one point, and an exponent: the reader takes these and nothing else. -/
theorem readUnsigned?_iff {negative : Bool} {x : Float} :
    readUnsigned? negative (cs.map plainChar) = some x ↔
      ∃ whole point places tail e, cs = whole ++ (point ++ tail) ∧
        (∀ c ∈ whole, isDigit c = true) ∧ Places point places ∧ whole ++ places ≠ [] ∧
        Exponent tail e ∧
        x = nearestFloat negative (digitsValue (whole ++ places)) (e - places.length) := by
  constructor
  · intro h
    obtain ⟨whole, point, places, tail, rfl, hw, hp, ht⟩ := exists_parts cs
    rw [readUnsigned?_parts negative hw hp ht] at h
    split_ifs at h with hne
    obtain ⟨e, he, hx⟩ := Option.map_eq_some_iff.mp h
    exact ⟨whole, point, places, tail, e, rfl, hw, hp, hne, readExponent?_iff.mp he, hx.symm⟩
  · rintro ⟨whole, point, places, tail, e, rfl, hw, hp, hne, he, rfl⟩
    have ht : Follows point tail := fun c hc => ⟨(he.head c hc).1, fun _ => (he.head c hc).2⟩
    rw [readUnsigned?_parts negative hw hp ht, if_neg hne, readExponent?_iff.mpr he]
    rfl

end unsigned

section number
variable {cs : List Char} {x : Float}

/-- The text is a decimal number, underscores apart. -/
def IsNumber (cs : List Char) (negative : Bool) (digits : ℕ) (power : ℤ) : Prop :=
  UnderscoresApart cs ∧ IsDecimal (bare cs) negative digits power

/-- The text is a word for what is not finite. It holds no digit, and so no underscore either. -/
def IsNonfinite (cs : List Char) (x : Float) : Prop := UnderscoresApart cs ∧ IsWord (bare cs) x

theorem readWord?_map_plainChar (negative : Bool) (cs : List Char) :
    readWord? negative (cs.map plainChar) =
      if lowerCase cs = "inf" ∨ lowerCase cs = "infinity" then
        some (Float.ofBits (if negative then 0xFFF0000000000000 else 0x7FF0000000000000))
      else if lowerCase cs = "nan" then some (Float.ofBits 0x7FF8000000000000)
      else none := by
  have hinf : lowerCase (cs.map plainChar) = "inf" ↔ lowerCase cs = "inf" :=
    lowerCase_map_plainChar (by decide)
  have hinfinity : lowerCase (cs.map plainChar) = "infinity" ↔ lowerCase cs = "infinity" :=
    lowerCase_map_plainChar (by decide)
  have hnan : lowerCase (cs.map plainChar) = "nan" ↔ lowerCase cs = "nan" :=
    lowerCase_map_plainChar (by decide)
  simp only [← hinf, ← hinfinity, ← hnan, ← Bool.decide_or, decide_eq_true_eq, readWord?]
  rfl

theorem isAlpha_of_lowerCase {word : String} (hw : word.toList.all Char.isLower = true)
    (h : lowerCase cs = word) : ∀ c ∈ cs, c.isAlpha = true := by
  intro c hc
  have hmem : c.toLower ∈ word.toList := by
    rw [← String.ofList_eq.mp h]
    exact List.mem_map_of_mem hc
  rw [← Char.isLower_toLower_eq_isAlpha]
  exact List.all_eq_true.mp hw _ hmem

/-- A number begins with a digit or a point once its sign is taken off. -/
theorem head_number {whole point places : List Char} (tail : List Char)
    (hw : ∀ c ∈ whole, isDigit c = true) (hp : Places point places) (hne : whole ++ places ≠ []) :
    ∃ c, (whole ++ (point ++ tail)).head? = some c ∧ (isDigit c = true ∨ c = '.') := by
  cases whole with
  | cons c cs => exact ⟨c, rfl, .inl (hw c List.mem_cons_self)⟩
  | nil =>
    cases hp with
    | none => exact absurd rfl hne
    | point => exact ⟨'.', rfl, .inr rfl⟩

/-- No word is read as digits. -/
theorem readUnsigned?_word {negative : Bool} (hw : ∀ c ∈ cs, c.isAlpha = true) :
    readUnsigned? negative (cs.map plainChar) = none := by
  rw [Option.eq_none_iff_forall_ne_some]
  intro x hx
  obtain ⟨whole, point, places, tail, e, rfl, hwhole, hp, hne, -, -⟩ := readUnsigned?_iff.mp hx
  obtain ⟨c, hc, hdigit⟩ := head_number tail hwhole hp hne
  have hletter := hw c (List.mem_of_mem_head? hc)
  rcases hdigit with hdigit | rfl
  · rw [not_isDigit_of_isAlpha hletter] at hdigit
    cases hdigit
  · cases hletter

/-- What the reader makes of a text without blanks around it and underscores in it. -/
def readBare? (cs : List Char) : Option Float :=
  (readUnsigned? (takeSign cs).1 (takeSign cs).2).or (readWord? (takeSign cs).1 (takeSign cs).2)

theorem readBare?_of_isDecimal {negative : Bool} {digits : ℕ} {power : ℤ}
    (h : IsDecimal cs negative digits power) :
    readBare? (cs.map plainChar) = some (nearestFloat negative digits power) := by
  cases h with
  | @mk sign whole point places tail _ e hs hw hp hne he =>
    obtain ⟨c, hc, hdigit⟩ := head_number tail hw hp hne
    have hunsigned : Unsigned (whole ++ (point ++ tail)) := by
      refine unsigned_of_head fun c' hc' => ?_
      obtain rfl := Option.some.inj (hc.symm.trans hc')
      exact hdigit.imp_right .inl
    have hread : readUnsigned? negative ((whole ++ (point ++ tail)).map plainChar) =
        some (nearestFloat negative (digitsValue (whole ++ places)) (e - places.length)) :=
      readUnsigned?_iff.mpr ⟨whole, point, places, tail, e, rfl, hw, hp, hne, he, rfl⟩
    rw [readBare?, takeSign_append hs hunsigned, hread]
    rfl

theorem readBare?_of_isWord (h : IsWord cs x) : readBare? (cs.map plainChar) = some x := by
  have hread {sign word : List Char} {negative : Bool} {name : String} (hs : Signed sign negative)
      (hn : name.toList.all Char.isLower = true) (hw : lowerCase word = name) :
      readBare? ((sign ++ word).map plainChar) = readWord? negative (word.map plainChar) := by
    have hletters := isAlpha_of_lowerCase hn hw
    have hunsigned : Unsigned word :=
      unsigned_of_head fun c hc => .inr (.inr (hletters c (List.mem_of_mem_head? hc)))
    rw [readBare?, takeSign_append hs hunsigned, readUnsigned?_word hletters]
    rfl
  cases h with
  | infinity hs hw =>
    rcases hw with hw | hw
    · rw [hread hs (by decide) hw, readWord?_map_plainChar, if_pos (.inl hw)]
    · rw [hread hs (by decide) hw, readWord?_map_plainChar, if_pos (.inr hw)]
  | nan hs hw =>
    rw [hread hs (by decide) hw, readWord?_map_plainChar, hw, if_neg (by decide), if_pos rfl]

theorem readBare?_iff : readBare? (cs.map plainChar) = some x ↔
    (∃ negative digits power, IsDecimal cs negative digits power ∧
      x = nearestFloat negative digits power) ∨ IsWord cs x := by
  constructor
  · intro h
    obtain ⟨sign, negative, rest, rfl, hs, htake⟩ := takeSign_map_plainChar cs
    rw [readBare?, htake, Option.or_eq_some_iff] at h
    rcases h with h | ⟨-, h⟩
    · obtain ⟨whole, point, places, tail, e, rfl, hw, hp, hne, he, rfl⟩ := readUnsigned?_iff.mp h
      exact .inl ⟨negative, _, _, .mk hs hw hp hne he, rfl⟩
    · dsimp only at h
      rw [readWord?_map_plainChar] at h
      right
      split at h
      · next hinf =>
        obtain rfl := Option.some.inj h
        exact .infinity hs hinf
      · split at h
        · next hnan =>
          obtain rfl := Option.some.inj h
          exact .nan hs hnan
        · cases h
  · rintro (⟨negative, digits, power, hn, rfl⟩ | hn)
    · exact readBare?_of_isDecimal hn
    · exact readBare?_of_isWord hn

/-- Without blanks at its ends a text is read once its underscores are found to be in place. -/
theorem readNumber?_eq (hhead : ∀ c ∈ cs.head?, isBlank c = false)
    (hlast : ∀ c ∈ cs.getLast?, isBlank c = false) : readNumber? cs =
      if underscoresBetweenDigits ' ' (cs.map plainChar) then readBare? ((bare cs).map plainChar)
      else none := by
  have hpadding {c : Char} (h : isBlank c = false) : isPadding (plainChar c) = false := by
    by_contra hp
    rw [isBlank_of_isPadding (by simpa using hp)] at h
    cases h
  have hstrip : stripWhile isPadding (cs.map plainChar) = cs.map plainChar := by
    apply stripWhile_eq_self
    · simp only [List.head?_map, Option.mem_def, Option.map_eq_some_iff]
      rintro _ ⟨c, hc, rfl⟩
      exact hpadding (hhead c hc)
    · simp only [List.getLast?_map, Option.mem_def, Option.map_eq_some_iff]
      rintro _ ⟨c, hc, rfl⟩
      exact hpadding (hlast c hc)
  unfold readNumber? readBare?
  dsimp only
  rw [hstrip, ← bare_map_plainChar]
  simp only [bare, Option.orElse_eq_orElse, Option.orElse_eq_or]

/-- The reader takes decimal numbers and the words for what is not finite, and nothing else. -/
theorem readNumber?_iff (hhead : ∀ c ∈ cs.head?, isBlank c = false)
    (hlast : ∀ c ∈ cs.getLast?, isBlank c = false) : readNumber? cs = some x ↔
      (∃ negative digits power, IsNumber cs negative digits power ∧
        x = nearestFloat negative digits power) ∨ IsNonfinite cs x := by
  have hapart : underscoresBetweenDigits ' ' (cs.map plainChar) = true ↔ UnderscoresApart cs :=
    underscoresBetweenDigits_iff cs ' '
  rw [readNumber?_eq hhead hlast]
  unfold IsNumber IsNonfinite
  by_cases hu : UnderscoresApart cs
  · rw [if_pos (hapart.mpr hu), readBare?_iff]
    simp only [hu, true_and]
  · rw [if_neg (hapart.not.mpr hu)]
    simp only [hu, false_and, exists_false, or_false]
    exact iff_of_false nofun not_false

end number

section letters
variable {cs sign : List Char} {negative : Bool} {x : Float}

/-- A character that can be part of a number. -/
def IsPart (c : Char) : Prop :=
  isDigit c = true ∨ c.isAlpha = true ∨ c ∈ ['+', '-', '.', '_']

/-- Some characters, and none but those of numbers. -/
structure OfParts (cs : List Char) : Prop where
  nonempty : cs ≠ []
  parts : ∀ c ∈ cs, IsPart c

theorem Signed.parts (h : Signed sign negative) : ∀ c ∈ sign, IsPart c := by
  cases h with
  | none => exact nofun
  | plus => simp [IsPart]
  | minus => simp [IsPart]

theorem IsDecimal.ofParts {digits : ℕ} {power : ℤ} (h : IsDecimal cs negative digits power) :
    OfParts cs := by
  cases h with
  | @mk sign whole point places tail _ e hs hw hp hne he =>
    have hdigits {ds : List Char} (hd : ∀ c ∈ ds, isDigit c = true) : ∀ c ∈ ds, IsPart c :=
      fun c hc => .inl (hd c hc)
    have hpoint : ∀ c ∈ point, IsPart c := by
      cases hp with
      | none => exact nofun
      | point hd => exact List.forall_mem_cons.mpr ⟨by simp [IsPart], hdigits hd⟩
    have htail : ∀ c ∈ tail, IsPart c := by
      cases he with
      | none => exact nofun
      | @power mark _ _ _ hm hs _ hd =>
        have hmark : IsPart mark := by
          rcases hm with rfl | rfl <;> exact .inr (.inl rfl)
        exact List.forall_mem_cons.mpr
          ⟨hmark, List.forall_mem_append.mpr ⟨hs.parts, hdigits hd⟩⟩
    obtain ⟨c, hc, -⟩ := head_number tail hw hp hne
    constructor
    · intro h
      rw [(List.append_eq_nil_iff.mp h).2] at hc
      cases hc
    · exact List.forall_mem_append.mpr ⟨hs.parts, List.forall_mem_append.mpr
        ⟨hdigits hw, List.forall_mem_append.mpr ⟨hpoint, htail⟩⟩⟩

theorem IsWord.ofParts (h : IsWord cs x) : OfParts cs := by
  have hword {sign word : List Char} {negative : Bool} {name : String} (hs : Signed sign negative)
      (hn : name.toList.all Char.isLower = true) (hne : name ≠ "") (hw : lowerCase word = name) :
      OfParts (sign ++ word) := by
    constructor
    · intro h
      rw [(List.append_eq_nil_iff.mp h).2] at hw
      exact hne hw.symm
    · exact List.forall_mem_append.mpr
        ⟨hs.parts, fun c hc => .inr (.inl (isAlpha_of_lowerCase hn hw c hc))⟩
  cases h with
  | infinity hs hw =>
    rcases hw with hw | hw
    · exact hword hs (by decide) (by decide) hw
    · exact hword hs (by decide) (by decide) hw
  | nan hs hw => exact hword hs (by decide) (by decide) hw

theorem ofParts_of_bare (h : OfParts (bare cs)) : OfParts cs := by
  constructor
  · rintro rfl
    exact h.nonempty rfl
  · intro c hc
    by_cases hunderscore : c = '_'
    · simp [IsPart, hunderscore]
    · exact h.parts c (List.mem_filter.mpr ⟨hc, by simpa using hunderscore⟩)

/-- No blank is part of a number. -/
theorem IsPart.not_blank {c : Char} (h : IsPart c) : isBlank c = false := by
  rcases h with h | h | h
  · exact isBlank_of_isDigit h
  · have hrange := isAlpha_iff.mp h
    rw [← Bool.not_eq_true]
    simp only [isBlank, blankRanges, List.any_cons, List.any_nil, Bool.or_eq_true,
      Bool.and_eq_true, decide_eq_true_eq, Bool.false_eq_true, or_false]
    omega
  · fin_cases h <;> decide

end letters
end ClusterBilling.Decimal
