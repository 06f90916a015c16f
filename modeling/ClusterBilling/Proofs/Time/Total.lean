import ClusterBilling.Proofs.Decimal.Numeral
import ClusterBilling.Proofs.Time.Duration

/-!
The seconds of a duration are a sum of floating-point numbers, each term of which is a number read
from the text, times the length of its unit. What that sum stands for decides the duration.
-/
namespace ClusterBilling.Time
open Decimal Text

/-- The length in seconds as a floating-point number. -/
def TimeUnit.float : TimeUnit → Float
  | .millisecond => 0.001
  | .second => 1
  | .minute => 60
  | .hour => 3600
  | .day => 86400
  | .week => 7 * 86400
  | .year => 365 * 86400

section units
variable {x y : Float} {n k : ℕ}

theorem hasValue_ofNat (hn : n < 2 ^ 53) : HasValue (Float.ofNat n) (some n) := by
  rcases Nat.eq_zero_or_pos n with rfl | hpos
  · exact .inl ⟨rfl, Nat.cast_zero⟩
  · have h := hasValue_ofScientific (p := 0) hpos (by norm_num) (by omega)
    rw [zpow_zero, mul_one, nearest_natCast hn] at h
    exact h

theorem hasValue_ofNat_mul (hn : n * k < 2 ^ 53) (hn' : n < 2 ^ 53) (hk : k < 2 ^ 53) :
    HasValue (Float.ofNat n * Float.ofNat k) (some (n * k : ℚ)) := by
  have h := hasValue_mul (hasValue_ofNat hn') (hasValue_ofNat hk)
  rw [← Nat.cast_mul, nearest_natCast hn] at h
  exact_mod_cast h

theorem TimeUnit.hasValue_float (unit : TimeUnit) : HasValue unit.float (some unit.seconds) := by
  cases unit with
  | millisecond =>
    have h := hasValue_ofScientific (d := 1) (p := -3) one_pos (by norm_num) (by norm_num)
    have hnearest : nearest ((1 : ℕ) * 10 ^ (-3 : ℤ)) = some TimeUnit.millisecond.seconds := by
      decide +kernel
    rw [hnearest] at h
    exact h
  | second => exact_mod_cast hasValue_ofNat (n := 1) (by norm_num)
  | minute => exact_mod_cast hasValue_ofNat (n := 60) (by norm_num)
  | hour => exact_mod_cast hasValue_ofNat (n := 3600) (by norm_num)
  | day => exact_mod_cast hasValue_ofNat (n := 86400) (by norm_num)
  | week =>
    change HasValue (Float.ofNat 7 * Float.ofNat 86400) (some (7 * 86400))
    exact_mod_cast hasValue_ofNat_mul (by norm_num) (by norm_num) (by norm_num)
  | year =>
    change HasValue (Float.ofNat 365 * Float.ofNat 86400) (some (365 * 86400))
    exact_mod_cast hasValue_ofNat_mul (by norm_num) (by norm_num) (by norm_num)

theorem TimeUnit.seconds_pos (unit : TimeUnit) : 0 < unit.seconds := by
  cases unit <;> norm_num [TimeUnit.seconds]

end units

namespace DurationTerm
variable {t : DurationTerm} {terms : List DurationTerm}

/-- The characters of the number before the unit. -/
def digits (t : DurationTerm) : List Char :=
  t.whole ++ if t.places.isEmpty then [] else '.' :: t.places

/-- A sum of seconds and one term more, if its digits can be read. -/
def addFloat (total : Float) (t : DurationTerm) : Option Float :=
  (readNumber? t.digits).map fun number => total + number * t.unit.float

/-- The sum of the terms from left to right. -/
def floatSeconds (terms : List DurationTerm) : Option Float := terms.foldlM addFloat 0

theorem number_eq (t : DurationTerm) :
    t.number = digitsValue (t.whole ++ t.places) * 10 ^ (-t.places.length : ℤ) := by
  rw [number, Rat.mkRat_eq_div, zpow_neg, zpow_natCast, Nat.pow_eq, div_eq_mul_inv]
  push_cast
  rfl

theorem WellFormed.readNumber? (h : t.WellFormed) : ∃ x, Decimal.readNumber? t.digits = some x ∧
    HasValue x (nearest t.number) := by
  refine ⟨_, readNumber?_digits h.nonempty h.whole h.places, ?_⟩
  rw [number_eq]
  exact hasValue_nearestFloat _ _

/-- One step of the sum on floating-point numbers is one on the fractions that they stand for. -/
theorem WellFormed.addFloat {total : Float} {total? : Option ℚ} (h : t.WellFormed)
    (ht : HasValue total total?) :
    ∃ sum, t.addFloat total = some sum ∧ HasValue sum (Duration.addTerm total? t) := by
  obtain ⟨x, hread, hx⟩ := h.readNumber?
  have hunit := t.unit.hasValue_float
  refine ⟨total + x * t.unit.float, by rw [DurationTerm.addFloat, hread]; rfl, ?_⟩
  cases hn : nearest t.number with
  | none =>
    rw [hn] at hx
    have hproduct := hasValue_infinite_mul hx hunit t.unit.seconds_pos
    have hnone : Duration.addTerm total? t = none := by
      cases total? <;> simp [Duration.addTerm, hn]
    rw [hnone]
    exact hasValue_infinite_add ht hproduct (.inr rfl)
  | some number =>
    rw [hn] at hx
    have hproduct := hasValue_mul hx hunit
    cases total? with
    | none => exact hasValue_infinite_add ht hproduct (.inl rfl)
    | some sum =>
      cases hs : nearest (number * t.unit.seconds) with
      | none =>
        rw [hs] at hproduct
        have hnone : Duration.addTerm (some sum) t = none := by simp [Duration.addTerm, hn, hs]
        rw [hnone]
        exact hasValue_infinite_add ht hproduct (.inr rfl)
      | some seconds =>
        rw [hs] at hproduct
        have hsome : Duration.addTerm (some sum) t = nearest (sum + seconds) := by
          simp [Duration.addTerm, hn, hs]
        rw [hsome]
        exact hasValue_add ht hproduct

theorem foldlM_addFloat {total : Float} {total? : Option ℚ} (h : ∀ t ∈ terms, t.WellFormed)
    (ht : HasValue total total?) : ∃ sum, terms.foldlM DurationTerm.addFloat total = some sum ∧
      HasValue sum (terms.foldl Duration.addTerm total?) := by
  induction terms generalizing total total? with
  | nil => exact ⟨total, rfl, ht⟩
  | cons t terms ih =>
    obtain ⟨hwell, hterms⟩ := List.forall_mem_cons.mp h
    obtain ⟨next, hnext, hvalue⟩ := hwell.addFloat ht
    obtain ⟨sum, hsum, hfinal⟩ := ih hterms hvalue
    exact ⟨sum, by rw [List.foldlM_cons, hnext]; exact hsum, hfinal⟩

/-- The sum of a row of terms, and the fraction that it stands for. -/
theorem floatSeconds_spec (h : ∀ t ∈ terms, t.WellFormed) :
    ∃ sum, floatSeconds terms = some sum ∧ HasValue sum (Duration.totalSeconds terms) :=
  foldlM_addFloat h (.inl ⟨rfl, rfl⟩)

end DurationTerm

namespace Duration
open DurationTerm
variable {s t : Text} {terms : List DurationTerm} {d : Duration}

/-- The terms, written one after the other, are the whole text, and there is at least one. -/
structure IsRow (terms : List DurationTerm) (t : Text) : Prop where
  nonempty : terms ≠ []
  wellFormed : ∀ term ∈ terms, term.WellFormed
  text : t = ofChars (terms.flatMap DurationTerm.text)

/-- A finite number of seconds, in microseconds, and few enough of them. -/
def Fits (sum : Float) (d : Duration) : Prop :=
  ∃ seconds, HasValue sum (some seconds) ∧ microsOf seconds = some d.micros

theorem fits_iff {sum : Float} (h : HasValue sum (totalSeconds terms)) :
    Fits sum d ↔ (totalSeconds terms).bind ofSeconds? = some d := by
  have hseconds (seconds : ℚ) : ofSeconds? seconds = some d ↔ microsOf seconds = some d.micros := by
    unfold ofSeconds?
    simp only [Option.bind_eq_bind, Option.bind_eq_some_iff, Option.dite_none_right_eq_some,
      Option.some.injEq]
    constructor
    · rintro ⟨micros, hm, hlt, rfl⟩
      exact hm
    · intro hm
      exact ⟨d.micros, hm, d.micros_lt, rfl⟩
  simp only [Option.bind_eq_some_iff, hseconds]
  constructor
  · rintro ⟨seconds, hv, hm⟩
    exact ⟨seconds, h.value_unique hv, hm⟩
  · rintro ⟨seconds, ht, hm⟩
    exact ⟨seconds, ht ▸ h, hm⟩

/-- A row consists of digits, points and the letters of units. -/
theorem mem_row {c : Char} (h : ∀ term ∈ terms, term.WellFormed)
    (hc : c ∈ terms.flatMap DurationTerm.text) :
    isDigit c = true ∨ c = '.' ∨ ∃ unit : TimeUnit, c ∈ unit.letters := by
  obtain ⟨term, hterm, hc⟩ := List.mem_flatMap.mp hc
  obtain ⟨-, hw, hp⟩ := h term hterm
  simp only [DurationTerm.text, List.mem_append] at hc
  rcases hc with (hc | hc) | hc
  · exact .inl (hw c hc)
  · split_ifs at hc
    · cases hc
    · rcases List.mem_cons.mp hc with hc | hc
      · exact .inr (.inl hc)
      · exact .inl (hp c hc)
  · exact .inr (.inr ⟨term.unit, hc⟩)

theorem replacement_not_mem (h : ∀ term ∈ terms, term.WellFormed) :
    '\ufffd' ∉ terms.flatMap DurationTerm.text := by
  intro hmem
  rcases mem_row h hmem with hc | hc | ⟨unit, hc⟩
  · exact absurd hc (by decide)
  · exact absurd hc (by decide)
  · revert hc
    cases unit <;> decide

theorem isRow_iff : IsRow terms t ↔ terms ≠ [] ∧ Spells terms t.chars := by
  constructor
  · rintro ⟨hne, hwell, rfl⟩
    exact ⟨hne, hwell, by rw [chars_ofChars]⟩
  · rintro ⟨hne, hwell, htext⟩
    exact ⟨hne, hwell, eq_ofChars_of_chars htext.symm (replacement_not_mem hwell)⟩

theorem readAll?_eq_some_iff (hne : t.isEmpty = false) :
    readAll? t.length t.chars = some terms ↔ IsRow terms t := by
  have hlength : t.chars.length ≤ t.length := by simp [chars, Text.length]
  rw [readAll?_eq_some hlength, isRow_iff, iff_and_self]
  rintro h rfl
  have hnil := spells_nil.mp h
  simp only [chars, List.map_eq_nil_iff] at hnil
  simp [Text.isEmpty, hnil] at hne

theorem not_isRow_of_isEmpty (he : t.isEmpty = true) : ¬ IsRow terms t := by
  rintro h
  obtain ⟨hne, hspells⟩ := isRow_iff.mp h
  have hnil : t.chars = [] := by simpa [Text.isEmpty, chars] using he
  rw [hnil] at hspells
  exact hne hspells.eq_nil

theorem IsRow.unique {terms' : List DurationTerm} (h : IsRow terms t) (h' : IsRow terms' t) :
    terms = terms' :=
  (isRow_iff.mp h).2.unique (isRow_iff.mp h').2

/-- A row of terms is a duration just if its sum fits. -/
theorem parse_of_isRow {sum : Float} (h : IsRow terms (strip s))
    (hsum : HasValue sum (totalSeconds terms)) :
    (∀ d, parse s = .ok d ↔ Fits sum d) ∧
      ∀ e, parse s = .error e ↔ (∀ d, ¬ Fits sum d) ∧ e = .durationTooLong (strip s) := by
  have he : (strip s).isEmpty = false := by
    rw [← Bool.not_eq_true]
    exact fun he => not_isRow_of_isEmpty he h
  have hparse := parse.eq_def s
  simp only [he, Bool.false_eq_true, if_false, (readAll?_eq_some_iff he).mpr h] at hparse
  simp only [hparse, fits_iff hsum]
  cases (totalSeconds terms).bind ofSeconds? with
  | none => simp [eq_comm]
  | some d' => simp

end Duration
end ClusterBilling.Time
