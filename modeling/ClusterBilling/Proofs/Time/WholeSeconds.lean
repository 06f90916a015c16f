import ClusterBilling.Proofs.Time.Total

/-!
Durations of whole seconds, minutes and longer units. Their sum loses nothing as long as it has 53
bits, and no rounding brings a longer one back under the limit, so that the limit is exact.
-/
namespace ClusterBilling.Time
open Decimal Text

/-- The seconds of a unit, of which a millisecond has none. -/
def TimeUnit.wholeSeconds : TimeUnit → ℕ
  | .millisecond => 0
  | .second => 1
  | .minute => 60
  | .hour => 3600
  | .day => 86400
  | .week => 604800
  | .year => 31536000

theorem TimeUnit.seconds_eq {unit : TimeUnit} (h : unit ≠ .millisecond) :
    unit.seconds = unit.wholeSeconds := by
  cases unit with
  | millisecond => exact absurd rfl h
  | _ => norm_num [TimeUnit.seconds, TimeUnit.wholeSeconds]

theorem TimeUnit.wholeSeconds_pos {unit : TimeUnit} (h : unit ≠ .millisecond) :
    0 < unit.wholeSeconds := by
  cases unit with
  | millisecond => exact absurd rfl h
  | _ => norm_num [TimeUnit.wholeSeconds]

theorem TimeUnit.not_isBlank_of_mem_letters {unit : TimeUnit} {c : Char} (h : c ∈ unit.letters) :
    isBlank c = false := by
  have hall : unit.letters.all (!isBlank ·) = true := by cases unit <;> decide
  simpa using List.all_eq_true.mp hall c h

section counts
variable {n k u : ℕ} {v q : ℚ} {v? w? : Option ℚ}

/-- What rounding leaves of an exact count: all of it below `2 ^ 53`, and no less than this bound
otherwise, unless it is beyond the finite numbers. -/
structure Counts (n : ℕ) (v? : Option ℚ) : Prop where
  exact : n < 2 ^ 53 → v? = some (n : ℚ)
  large : 2 ^ 53 ≤ n → ∀ v, v? = some v → 2 ^ 53 ≤ v

theorem le_of_nearest (hq : 2 ^ 53 ≤ q) (hv : nearest q = some v) : 2 ^ 53 ≤ v := by
  have hpow : (2 : ℚ) ^ 53 = 2 ^ (53 : ℤ) := by norm_num
  rw [hpow] at hq ⊢
  exact two_pow_le_nearest (by norm_num) hq hv

theorem counts_nearest (n : ℕ) : Counts n (nearest n) where
  exact := nearest_natCast
  large hn _ hv := le_of_nearest (by exact_mod_cast hn) hv

theorem Counts.cases (h : Counts n (some v)) : v = n ∨ 2 ^ 53 ≤ v := by
  by_cases hn : n < 2 ^ 53
  · exact .inl (Option.some.inj (h.exact hn))
  · exact .inr (h.large (not_lt.mp hn) v rfl)

theorem Counts.nonneg (h : Counts n (some v)) : 0 ≤ v := by
  rcases h.cases with rfl | hv
  · exact Nat.cast_nonneg n
  · exact le_trans (by norm_num) hv

theorem Counts.mul (h : Counts n v?) (hu : 0 < u) :
    Counts (n * u) (v?.bind fun v => nearest (v * u)) where
  exact hlt := by
    rw [h.exact ((Nat.le_mul_of_pos_right n hu).trans_lt hlt), Option.bind_some, ← Nat.cast_mul]
    exact nearest_natCast hlt
  large hle x hx := by
    obtain ⟨v, rfl, hproduct⟩ := Option.bind_eq_some_iff.mp hx
    refine le_of_nearest ?_ hproduct
    rcases h.cases with rfl | hv
    · exact_mod_cast hle
    · exact hv.trans (le_mul_of_one_le_right h.nonneg (by exact_mod_cast hu))

theorem Counts.add (h : Counts n v?) (h' : Counts k w?) :
    Counts (n + k) (v?.bind fun v => w?.bind fun w => nearest (v + w)) where
  exact hlt := by
    rw [h.exact (by omega), h'.exact (by omega), Option.bind_some, Option.bind_some,
      ← Nat.cast_add]
    exact nearest_natCast hlt
  large hle x hx := by
    obtain ⟨v, rfl, hbind⟩ := Option.bind_eq_some_iff.mp hx
    obtain ⟨w, rfl, hsum⟩ := Option.bind_eq_some_iff.mp hbind
    have hv := h.nonneg
    have hw := h'.nonneg
    refine le_of_nearest ?_ hsum
    rcases h.cases with rfl | hv'
    · rcases h'.cases with rfl | hw'
      · exact_mod_cast hle
      · linarith
    · linarith

end counts

namespace DurationTerm
variable {t : DurationTerm} {terms : List DurationTerm}

/-- A whole number in ASCII digits, of seconds or a longer unit. -/
structure IsWhole (t : DurationTerm) : Prop where
  nonempty : t.whole ≠ []
  digits : ∀ c ∈ t.whole, c.isDigit
  places : t.places = []
  unit : t.unit ≠ .millisecond

instance : Decidable t.IsWhole :=
  decidable_of_iff
    (t.whole ≠ [] ∧ t.whole.all Char.isDigit ∧ t.places = [] ∧ t.unit ≠ .millisecond)
    ⟨fun ⟨hne, hd, hp, hu⟩ => ⟨hne, List.all_eq_true.mp hd, hp, hu⟩,
      fun ⟨hne, hd, hp, hu⟩ => ⟨hne, List.all_eq_true.mpr hd, hp, hu⟩⟩

/-- The seconds of a term of a whole number. -/
def exactSeconds (t : DurationTerm) : ℕ := Nat.ofDigitChars 10 t.whole 0 * t.unit.wholeSeconds

theorem IsWhole.wellFormed (h : t.IsWhole) : t.WellFormed where
  nonempty := h.nonempty
  whole c hc := isDigit_of_ascii (h.digits c hc)
  places := by simp [h.places]

theorem IsWhole.number_eq (h : t.IsWhole) : t.number = Nat.ofDigitChars 10 t.whole 0 := by
  rw [DurationTerm.number_eq, h.places, List.append_nil, digitsValue_eq_ofDigitChars h.digits]
  simp

/-- A term more adds its seconds to the count. -/
theorem IsWhole.counts_addTerm (h : t.IsWhole) {n : ℕ} {total? : Option ℚ}
    (ht : Counts n total?) : Counts (n + t.exactSeconds) (Duration.addTerm total? t) := by
  have hterm := (counts_nearest (Nat.ofDigitChars 10 t.whole 0)).mul
    (TimeUnit.wholeSeconds_pos h.unit)
  have hsum := ht.add hterm
  simp only [Option.bind_assoc, ← h.number_eq, ← TimeUnit.seconds_eq h.unit] at hsum
  exact hsum

theorem counts_foldl_addTerm (h : ∀ t ∈ terms, t.IsWhole) {n : ℕ} {total? : Option ℚ}
    (ht : Counts n total?) :
    Counts (n + (terms.map exactSeconds).sum) (terms.foldl Duration.addTerm total?) := by
  induction terms generalizing n total? with
  | nil => exact ht
  | cons t terms ih =>
    obtain ⟨hwhole, hterms⟩ := List.forall_mem_cons.mp h
    rw [List.map_cons, List.sum_cons, ← Nat.add_assoc]
    exact ih hterms (hwhole.counts_addTerm ht)

end DurationTerm

namespace Duration
open DurationTerm
variable {terms : List DurationTerm}

theorem counts_totalSeconds (h : ∀ t ∈ terms, t.IsWhole) :
    Counts (terms.map exactSeconds).sum (totalSeconds terms) := by
  have hzero : Counts 0 (some 0) := ⟨fun _ => by rw [Nat.cast_zero], fun h0 => by omega⟩
  have hcounts := counts_foldl_addTerm h hzero
  rwa [Nat.zero_add] at hcounts

/-- The fraction of a second adds to its whole microseconds, if it changes them at all. -/
theorem le_microsOf {v : ℚ} {micros : ℕ} (h : microsOf v = some micros) :
    ⌊v⌋ * second ≤ micros := by
  unfold microsOf at h
  obtain ⟨fraction, hfraction, hmicros⟩ := Option.map_eq_some_iff.mp h
  have hrest : (0 : ℚ) ≤ (v - v.floor) * second := by
    have := Int.floor_le v
    exact mul_nonneg (sub_nonneg.mpr this) (Nat.cast_nonneg _)
  have hnonneg : 0 ≤ fraction := nonneg_of_nearest hrest hfraction
  have hfloor := (Int.floor_nonneg.mpr hnonneg).trans (floor_le_nearestInteger fraction)
  change v.floor * second ≤ _
  omega

/-- Whole seconds are whole microseconds. -/
theorem microsOf_natCast (n : ℕ) : microsOf n = some (n * second) := by
  have hfloor : (n : ℚ).floor = n := show ⌊(n : ℚ)⌋ = n from Int.floor_natCast n
  have hzero : nearestInteger 0 = 0 := by decide +kernel
  simp only [microsOf, hfloor, Int.cast_natCast, sub_self, zero_mul, nearest_zero, Option.map_some,
    hzero, add_zero]
  rfl

/-- A number of whole seconds is a duration up to the limit. -/
theorem ofSeconds?_natCast {n : ℕ} (h : n < 86400000000000) :
    ∃ d, ofSeconds? n = some d ∧ d.micros = n * second := by
  have hlt : n * second < 1000000000 * Time.day := by
    unfold Time.day second
    omega
  refine ⟨⟨n * second, hlt⟩, ?_, rfl⟩
  unfold ofSeconds?
  rw [microsOf_natCast, Option.bind_eq_bind, Option.bind_some, dif_pos hlt]

/-- No number of seconds beyond the limit is one, whatever its fraction. -/
theorem ofSeconds?_eq_none {v : ℚ} (h : 86400000000000 ≤ v) : ofSeconds? v = none := by
  have hfloor : 86400000000000 ≤ ⌊v⌋ := Int.le_floor.mpr (by exact_mod_cast h)
  unfold ofSeconds?
  cases hm : microsOf v with
  | none => rfl
  | some micros =>
    have hle := le_microsOf hm
    have hnot : ¬ micros < 1000000000 * Time.day := by
      unfold Time.day second at *
      omega
    simp [hnot]

/-- There is no blank in a row of terms. -/
theorem strip_row (h : ∀ t ∈ terms, t.WellFormed) :
    strip (ofChars (terms.flatMap text)) = ofChars (terms.flatMap text) := by
  have hblank : ∀ c ∈ terms.flatMap text, isBlank c = false := by
    intro c hc
    rcases mem_row h hc with hdigit | rfl | ⟨unit, hletter⟩
    · exact isBlank_of_isDigit hdigit
    · decide
    · exact TimeUnit.not_isBlank_of_mem_letters hletter
  have hpoint : ∀ p ∈ (ofChars (terms.flatMap text)).points,
      CodePoint.satisfies isBlank p = false := by
    intro p hp
    obtain ⟨c, hc, rfl⟩ := List.mem_map.mp hp
    exact hblank c hc
  rw [strip, stripWhile_eq_self (fun p hp => hpoint p (List.mem_of_mem_head? hp))
    (fun p hp => hpoint p (List.mem_of_mem_getLast? hp))]

theorem isRow_whole (hne : terms ≠ []) (h : ∀ t ∈ terms, t.IsWhole) :
    IsRow terms (strip (ofChars (terms.flatMap text))) where
  nonempty := hne
  wellFormed t ht := (h t ht).wellFormed
  text := strip_row fun t ht => (h t ht).wellFormed

/-- Whole numbers of seconds and longer units make exactly the seconds that they add up to, of which
the floating-point sum loses none below `2 ^ 53`, up to the last second of a thousand million days.
One second more is refused. -/
theorem parse_whole_seconds (hne : terms ≠ []) (h : ∀ t ∈ terms, t.IsWhole) :
    let text := ofChars (terms.flatMap DurationTerm.text)
    let seconds := (terms.map exactSeconds).sum
    (seconds ≤ 86399999999999 → ∃ d, parse text = .ok d ∧ d.micros = seconds * 1000000) ∧
    (86399999999999 < seconds → parse text = .error (.durationTooLong text)) ∧
    ∃ sum, floatSeconds terms = some sum ∧ (seconds < 2 ^ 53 → HasValue sum (some seconds)) := by
  intro text seconds
  have hrow := isRow_whole hne h
  have hcounts := counts_totalSeconds h
  obtain ⟨sum, hsum, hvalue⟩ := floatSeconds_spec hrow.wellFormed
  obtain ⟨hok, herror⟩ := parse_of_isRow hrow hvalue
  simp only [fits_iff hvalue] at hok herror
  refine ⟨fun hle => ?short, fun hlt => ?long, sum, hsum, fun hlt => ?exact⟩
  case short =>
    obtain ⟨d, hd, hmicros⟩ := ofSeconds?_natCast (n := seconds) (by omega)
    refine ⟨d, (hok d).mpr ?_, hmicros⟩
    rw [hcounts.exact (by omega)]
    exact hd
  case long =>
    have hnone : (totalSeconds terms).bind ofSeconds? = none := by
      rw [Option.bind_eq_none_iff]
      intro v hv
      rw [hv] at hcounts
      apply ofSeconds?_eq_none
      rcases hcounts.cases with rfl | hlarge
      · exact_mod_cast Nat.succ_le_of_lt hlt
      · exact le_trans (by norm_num) hlarge
    rw [strip_row hrow.wellFormed] at herror
    exact (herror _).mpr ⟨by simp [hnone], rfl⟩
  case exact => exact hcounts.exact hlt ▸ hvalue

/-- The longest duration of whole seconds, with a zero in front and a unit that comes twice, and the
same text with one second more. -/
theorem parse_whole_seconds_limit :
    (∃ d, parse "0999999998d23h1d59m59s" = .ok d ∧ d.micros = 86399999999999 * 1000000) ∧
      parse "0999999998d23h1d59m60s" = .error (.durationTooLong "0999999998d23h1d59m60s") := by
  let terms (last : List Char) : List DurationTerm :=
    [⟨['0', '9', '9', '9', '9', '9', '9', '9', '9', '8'], [], .day⟩, ⟨['2', '3'], [], .hour⟩,
      ⟨['1'], [], .day⟩, ⟨['5', '9'], [], .minute⟩, ⟨last, [], .second⟩]
  constructor
  · exact (@parse_whole_seconds (terms ['5', '9']) (by decide) (by decide +kernel)).1
      (by decide +kernel)
  · exact (@parse_whole_seconds (terms ['6', '0']) (by decide) (by decide +kernel)).2.1
      (by decide +kernel)

end Duration
end ClusterBilling.Time
