import ClusterBilling.Proofs.Time.Fields
import ClusterBilling.Proofs.Time.Window

/-!
A timestamp is read as it is written. The text has at most one row of fields, and the moment shows
just what they say; what no calendar or clock shows is refused. So a moment that is written out with
enough digits after the point is read back.
-/
namespace ClusterBilling.Time
open Decimal Text

/-- What a calendar and a clock show. -/
structure Reading where
  date : Date
  hour : ℕ
  minute : ℕ
  second : ℕ
  micros : ℕ
deriving DecidableEq, Repr

namespace Reading

/-- There are this date and this time of day. -/
def Possible (r : Reading) : Prop :=
  r.date.Valid ∧ r.hour < 24 ∧ r.minute < 60 ∧ r.second < 60 ∧ r.micros < Time.second

instance (r : Reading) : Decidable r.Possible := by unfold Possible; infer_instance

/-- The numbers have room in the fields of a timestamp. -/
def Fits (r : Reading) : Prop :=
  r.date.year < 10 ^ 4 ∧ r.date.month < 10 ^ 2 ∧ r.date.day < 10 ^ 2 ∧ r.hour < 10 ^ 2 ∧
    r.minute < 10 ^ 2 ∧ r.second < 10 ^ 2 ∧ r.micros < 10 ^ 6

instance (r : Reading) : Decidable r.Fits := by unfold Fits; infer_instance

def sinceMidnight (r : Reading) : ℕ :=
  ((r.hour * 60 + r.minute) * 60 + r.second) * Time.second + r.micros

/-- The fields with zeros in front, and so many digits of the fraction. -/
def fields (r : Reading) (places : ℕ) : TimestampFields where
  year := (padded 4 r.date.year).toList
  month := (padded 2 r.date.month).toList
  day := (padded 2 r.date.day).toList
  hour := (padded 2 r.hour).toList
  minute := (padded 2 r.minute).toList
  second := (padded 2 r.second).toList
  fraction := (padded places (r.micros / 10 ^ (6 - places))).toList

end Reading

namespace TimestampFields

/-- What the fields say. -/
def reading (f : TimestampFields) : Reading where
  date := ⟨digitsValue f.year, digitsValue f.month, digitsValue f.day⟩
  hour := digitsValue f.hour
  minute := digitsValue f.minute
  second := digitsValue f.second
  micros := digitsValue f.fraction * 10 ^ (6 - f.fraction.length)

end TimestampFields

namespace Moment

/-- What the clock shows at this moment. -/
def reading (m : Moment) : Reading where
  date := m.date
  hour := m.clock % day / second / 3600
  minute := m.clock % day / second / 60 % 60
  second := m.clock % day / second % 60
  micros := m.clock % day % second

/-- The moment written as a timestamp with so many digits after the point. -/
def timestamp (m : Moment) (places : ℕ) : Text :=
  ofChars ((m.reading.fields places).chars 'T' 'Z')

end Moment

section readings
variable {m m' : Moment} {r : Reading}

theorem Moment.reading_possible (m : Moment) : m.reading.Possible := by
  have hlt : m.clock % day < day := Nat.mod_lt _ day_pos
  refine ⟨m.date_valid, ?_, ?_, ?_, ?_⟩ <;> simp only [reading] <;> unfold day second at * <;> omega

theorem Moment.sinceMidnight_reading (m : Moment) : m.reading.sinceMidnight = m.clock % day := by
  simp only [reading, Reading.sinceMidnight]
  unfold second
  omega

/-- The time of day says what the clock shows. -/
theorem Reading.Possible.eq_iff (h : r.Possible) :
    m.reading = r ↔ m.date = r.date ∧ m.clock % day = r.sinceMidnight := by
  constructor
  · rintro rfl
    exact ⟨rfl, m.sinceMidnight_reading.symm⟩
  · obtain ⟨date, hour, minute, second, micros⟩ := r
    obtain ⟨-, hh, hm, hs, hu⟩ := h
    rintro ⟨hdate, hclock⟩
    simp only [sinceMidnight] at *
    simp only [Moment.reading, hclock, mk.injEq]
    unfold Time.second at *
    exact ⟨hdate, by omega, by omega, by omega, by omega⟩

theorem Reading.Possible.sinceMidnight_lt (h : r.Possible) : r.sinceMidnight < day := by
  obtain ⟨-, hh, hm, hs, hu⟩ := h
  unfold sinceMidnight day Time.second at *
  omega

/-- A moment is what it shows and its distance from UTC. -/
theorem Moment.ext_reading (h : m.reading = m'.reading) (ho : m.offset? = m'.offset?) : m = m' := by
  obtain ⟨hdate, hclock⟩ := m'.reading_possible.eq_iff.mp h
  rw [sinceMidnight_reading] at hclock
  have hm : ofFields? m'.date (m'.clock % day) m'.offset? = some m :=
    ofFields?_eq_some.mpr ⟨hdate, m'.date_valid, hclock, ho⟩
  have hm' : ofFields? m'.date (m'.clock % day) m'.offset? = some m' :=
    ofFields?_eq_some.mpr ⟨rfl, m'.date_valid, rfl, rfl⟩
  exact Option.some.inj (hm.symm.trans hm')

/-- What is possible is shown at some moment. -/
theorem Reading.Possible.exists_moment (h : r.Possible) (offset? : Option ℤ) :
    ∃ m, Moment.ofFields? r.date r.sinceMidnight offset? = some m := by
  have hdays := h.1.toDays_lt
  have hlt := h.sinceMidnight_lt
  refine ⟨_, dif_pos ⟨h.1, hlt, ?_⟩⟩
  calc r.date.toDays * day + r.sinceMidnight
      < r.date.toDays * day + day := by omega
    _ = (r.date.toDays + 1) * day := (Nat.succ_mul ..).symm
    _ ≤ calendarDays * day := Nat.mul_le_mul_right _ hdays

end readings

namespace TimestampFields
variable {f : TimestampFields} {m : Moment}

theorem WellFormed.micros_lt (h : f.WellFormed) : f.reading.micros < Time.second := by
  obtain ⟨-, hle, -⟩ := h.fraction
  calc digitsValue f.fraction * 10 ^ (6 - f.fraction.length)
      < 10 ^ f.fraction.length * 10 ^ (6 - f.fraction.length) :=
        Nat.mul_lt_mul_of_pos_right (digitsValue_lt _) (by positivity)
    _ = 10 ^ 6 := by rw [← pow_add, Nat.add_sub_cancel' hle]

/-- What is read of the fields is what they say. -/
theorem moment?_some (h : f.moment? = some m) :
    f.WellFormed ∧ f.reading.Possible ∧ m.reading = f.reading ∧ m.offset? = some 0 := by
  simp only [moment?, Option.bind_eq_bind, Option.bind_eq_some_iff] at h
  obtain ⟨year, hy, month, hm, day, hd, hour, hh, minute, hmi, second, hs, micros, hf, h⟩ := h
  obtain ⟨hyear, rfl⟩ := yearField?_eq_some.mp hy
  obtain ⟨hmonth, rfl, -⟩ := readsUpTo_monthField? _ _ hm
  obtain ⟨hday, rfl⟩ := dayField?_some hd
  obtain ⟨hhour, rfl, hhle⟩ := readsUpTo_hourField? _ _ hh
  obtain ⟨hminute, rfl, hmle⟩ := readsUpTo_minuteField? _ _ hmi
  obtain ⟨hsecond, rfl, hsle⟩ := readsUpTo_minuteField? _ _ hs
  obtain ⟨⟨hfraction, -⟩, rfl⟩ := fractionField?_eq_some.mp hf
  obtain ⟨hdate, hvalid, hclock, hoffset⟩ := Moment.ofFields?_eq_some.mp h
  have hwell : f.WellFormed := ⟨hyear, hmonth, hday, hhour, hminute, hsecond, hfraction⟩
  have hpossible : f.reading.Possible :=
    ⟨hvalid, Nat.lt_succ_of_le hhle, Nat.lt_succ_of_le hmle, Nat.lt_succ_of_le hsle,
      hwell.micros_lt⟩
  exact ⟨hwell, hpossible, hpossible.eq_iff.mpr ⟨hdate, hclock⟩, hoffset⟩

/-- Fields of ASCII digits are read if they say what is possible. -/
theorem WellFormed.exists_moment (h : f.WellFormed) (hplain : f.IsPlain)
    (hpossible : f.reading.Possible) : ∃ m, f.moment? = some m := by
  have ⟨⟨_, _, hmonth, hmonth', hday, hday'⟩, hhour, hminute, hsecond, _⟩ := hpossible
  obtain ⟨-, hpm, hpd, hph, hpmi, hps, hpf⟩ := forall_mem_all.mp hplain
  have hdigits : IsDigitRow 1 2 f.day := by
    rcases h.day with hrow | ⟨hhead, -⟩
    · exact hrow
    · exact absurd (hpd ' ' (List.mem_of_mem_head? hhead)) (by decide)
  have hy := yearField?_eq_some.mpr ⟨h.year, rfl⟩
  have hm := takesFrom_monthField? _ (mem_shortRows h.month hpm) hmonth hmonth'
  have hd := takesFrom_dayField? _ (mem_shortRows hdigits hpd) hday (hday'.trans (daysInMonth_le ..))
  have hh := takesFrom_hourField? _ (mem_shortRows h.hour hph) (Nat.zero_le _)
    (Nat.le_of_lt_succ hhour)
  have hmi := takesFrom_minuteField? _ (mem_shortRows h.minute hpmi) (Nat.zero_le _)
    (Nat.le_of_lt_succ hminute)
  have hs := takesFrom_minuteField? _ (mem_shortRows h.second hps) (Nat.zero_le _)
    (Nat.le_of_lt_succ hsecond)
  have hf := fractionField?_eq_some.mpr ⟨⟨h.fraction, hpf⟩, rfl⟩
  simp only [moment?, hy, hm, hd, hh, hmi, hs, hf, Option.bind_eq_bind, Option.bind_some]
  exact hpossible.exists_moment (some 0)

end TimestampFields

namespace Moment
variable {f : TimestampFields} {m : Moment} {text : Text}

theorem ofTimestamp_eq_ok : ofTimestamp text = .ok m ↔
    ∃ f, TimestampFields.split? text.chars = some f ∧ f.moment? = some m := by
  rw [← Option.bind_eq_some_iff, ofTimestamp]
  cases (TimestampFields.split? text.chars).bind TimestampFields.moment? <;> simp

/-- A text that is read has fields, and the moment shows what they say. -/
theorem exists_spells (h : ofTimestamp text = .ok m) :
    ∃ f : TimestampFields, f.Spells text ∧ f.reading.Possible ∧ m.reading = f.reading ∧
      m.offset? = some 0 := by
  obtain ⟨f, hsplit, hm⟩ := ofTimestamp_eq_ok.mp h
  obtain ⟨hwell, hpossible, hreading, hoffset⟩ := TimestampFields.moment?_some hm
  obtain ⟨t, ht, z, hz, hchars⟩ := TimestampFields.exists_of_split? hsplit
  exact ⟨f, ⟨hwell, t, ht, z, hz, eq_ofChars_of_chars hchars (hwell.replacement_not_mem ht hz)⟩,
    hpossible, hreading, hoffset⟩

end Moment

namespace Reading
variable {r : Reading} {places : ℕ}

theorem isPlain_fields (r : Reading) (places : ℕ) : (r.fields places).IsPlain := by
  rw [TimestampFields.IsPlain, TimestampFields.forall_mem_all]
  simp only [fields]
  refine ⟨?_, ?_, ?_, ?_, ?_, ?_, ?_⟩ <;> exact isDigit_padded

theorem Possible.fits (h : r.Possible) : r.Fits := by
  obtain ⟨⟨-, hyear, -, hmonth, -, hday⟩, hhour, hminute, hsecond, hmicros⟩ := h
  have hmonths := daysInMonth_le r.date.year r.date.month
  unfold Time.second at hmicros
  exact ⟨by omega, by omega, by omega, by omega, by omega, by omega, hmicros⟩

/-- The digits of the fraction are not more than they should be. -/
theorem Fits.fraction_lt (h : r.Fits) (hle : places ≤ 6) :
    r.micros / 10 ^ (6 - places) < 10 ^ places := by
  obtain ⟨-, -, -, -, -, -, hmicros⟩ := h
  apply Nat.div_lt_of_lt_mul
  calc r.micros
      < 10 ^ 6 := hmicros
    _ = 10 ^ (6 - places) * 10 ^ places := by rw [← pow_add, Nat.sub_add_cancel hle]

theorem Fits.wellFormed_fields (h : r.Fits) (hpos : 1 ≤ places) (hle : places ≤ 6) :
    (r.fields places).WellFormed := by
  have hfraction := h.fraction_lt hle
  obtain ⟨hyear, hmonth, hday, hhour, hminute, hsecond, -⟩ := h
  constructor <;> simp only [fields]
  case day => exact .inl (isDigitRow_padded (by decide) hday (by decide) le_rfl)
  case fraction => exact isDigitRow_padded hpos hfraction hpos hle
  all_goals exact isDigitRow_padded (by decide) (by assumption) (by decide) le_rfl

/-- The fields say what they are made of, if the digits of the fraction are enough. -/
theorem Fits.reading_fields (h : r.Fits) (hpos : 1 ≤ places) (hle : places ≤ 6)
    (hdvd : 10 ^ (6 - places) ∣ r.micros) : (r.fields places).reading = r := by
  have hlen := length_padded hpos (h.fraction_lt hle)
  have hmicros : r.micros / 10 ^ (6 - places) * 10 ^ (6 - places) = r.micros :=
    Nat.div_mul_cancel hdvd
  simp only [TimestampFields.reading, fields, digitsValue_padded, hlen, hmicros]

end Reading

namespace Moment
variable {f : TimestampFields} {m : Moment} {text : Text} {places : ℕ}

theorem exists_of_spells (h : f.Spells text) (hplain : f.IsPlain) (hpossible : f.reading.Possible) :
    ∃ m, ofTimestamp text = .ok m ∧ m.reading = f.reading ∧ m.offset? = some 0 := by
  obtain ⟨m, hm⟩ := h.1.exists_moment hplain hpossible
  obtain ⟨-, -, hreading, hoffset⟩ := TimestampFields.moment?_some hm
  exact ⟨m, ofTimestamp_eq_ok.mpr ⟨f, h.split?, hm⟩, hreading, hoffset⟩

theorem ofTimestamp_timestamp (m : Moment) (hpos : 1 ≤ places) (hle : places ≤ 6)
    (hdvd : 10 ^ (6 - places) ∣ m.reading.micros) :
    ofTimestamp (m.timestamp places) = .ok { m with offset? := some 0 } := by
  have hfits := m.reading_possible.fits
  have hfields := hfits.reading_fields hpos hle hdvd
  have hspells : (m.reading.fields places).Spells (m.timestamp places) :=
    ⟨hfits.wellFormed_fields hpos hle, 'T', by decide, 'Z', by decide, rfl⟩
  have hpossible : (m.reading.fields places).reading.Possible := by
    rw [hfields]
    exact m.reading_possible
  obtain ⟨m', hm', hreading, hoffset⟩ :=
    exists_of_spells hspells (m.reading.isPlain_fields places) hpossible
  have hsame : m' = { m with offset? := some 0 } := ext_reading (hreading.trans hfields) hoffset
  rw [hm', hsame]

theorem error_of_ofTimestamp {e : RangeError} (h : ofTimestamp text = .error e) :
    e = .malformedTimestamp text := by
  unfold ofTimestamp at h
  split at h
  · cases h
  · exact (Except.error.inj h).symm

theorem ofTimestamp_of_not_possible (h : f.Spells text) (hnot : ¬ f.reading.Possible) :
    ofTimestamp text = .error (.malformedTimestamp text) := by
  cases hm : ofTimestamp text with
  | error e => rw [error_of_ofTimestamp hm]
  | ok m =>
    obtain ⟨f', hf', hpossible, -, -⟩ := exists_spells hm
    exact absurd (hf'.unique h ▸ hpossible) hnot

end Moment

/-- Every moment is read back from its timestamp, with as many digits after the point as show all of
its microseconds, as the same moment in UTC. Any text at all is either refused, and said to be
malformed, or it has fields that the calendar and the clock have, and is read as the moment in UTC
that shows them. Fields that no calendar or clock shows are refused; all others are read, at least
where their digits are those of ASCII. -/
theorem timestamps_name_moments (text : Text) :
    (∀ (m : Moment) (places : ℕ), 1 ≤ places → places ≤ 6 → 10 ^ (6 - places) ∣ m.reading.micros →
      Moment.ofTimestamp (m.timestamp places) = .ok { m with offset? := some 0 }) ∧
    (Moment.ofTimestamp text = .error (.malformedTimestamp text) ∨
      ∃ (m : Moment) (f : TimestampFields), Moment.ofTimestamp text = .ok m ∧ f.Spells text ∧
        f.reading.Possible ∧ m.reading = f.reading ∧ m.offset? = some 0) ∧
    ∀ f : TimestampFields, f.Spells text →
      (¬ f.reading.Possible → Moment.ofTimestamp text = .error (.malformedTimestamp text)) ∧
      (f.reading.Possible → f.IsPlain →
        ∃ m, Moment.ofTimestamp text = .ok m ∧ m.reading = f.reading ∧ m.offset? = some 0) := by
  refine ⟨fun m places => m.ofTimestamp_timestamp, ?_, fun f hf => ⟨?_, ?_⟩⟩
  · cases hm : Moment.ofTimestamp text with
    | error e => exact .inl (by rw [Moment.error_of_ofTimestamp hm])
    | ok m =>
      obtain ⟨f, hf, hpossible, hreading, hoffset⟩ := Moment.exists_spells hm
      exact .inr ⟨m, f, rfl, hf, hpossible, hreading, hoffset⟩
  · exact Moment.ofTimestamp_of_not_possible hf
  · exact fun hpossible hplain => Moment.exists_of_spells hf hplain hpossible

/-- Half a second before the end of a leap day is read back; a leap day in a common year, the 31st
of April, the second 60 and the year 0 are refused. -/
theorem timestamps_name_moments_leap_day :
    let leapDay : Moment := ⟨Date.toDays ⟨2024, 2, 29⟩ * day + 86399500000, some 0, by decide⟩
    let refused : List Text := ["2023-02-29T00:00:00.0Z", "2024-04-31T00:00:00.0Z",
      "2024-02-29T23:59:60.0Z", "0000-01-01T00:00:00.0Z"]
    leapDay.timestamp 1 = "2024-02-29T23:59:59.5Z" ∧
      Moment.ofTimestamp "2024-02-29T23:59:59.5Z" = .ok leapDay ∧
      ∀ text ∈ refused, Moment.ofTimestamp text = .error (.malformedTimestamp text) := by
  intro leapDay refused
  have htext : leapDay.timestamp 1 = "2024-02-29T23:59:59.5Z" := by decide +kernel
  have hread := (timestamps_name_moments "").1 leapDay 1 le_rfl (by decide) (by decide +kernel)
  rw [htext] at hread
  have hrefused (r : Reading) (text : Text) (hfits : r.Fits)
      (ht : text = ofChars ((r.fields 1).chars 'T' 'Z')) (hnot : ¬ (r.fields 1).reading.Possible) :
      Moment.ofTimestamp text = .error (.malformedTimestamp text) := by
    have hspells : (r.fields 1).Spells text :=
      ⟨hfits.wellFormed_fields le_rfl (by decide), 'T', by decide, 'Z', by decide, ht⟩
    exact ((timestamps_name_moments text).2.2 (r.fields 1) hspells).1 hnot
  refine ⟨htext, hread, ?_⟩
  simp only [refused, List.forall_mem_cons, List.not_mem_nil, false_implies, implies_true, and_true]
  refine ⟨?common, ?april, ?second, ?year⟩
  case common =>
    exact hrefused ⟨⟨2023, 2, 29⟩, 0, 0, 0, 0⟩ _ (by decide) (by decide +kernel) (by decide +kernel)
  case april =>
    exact hrefused ⟨⟨2024, 4, 31⟩, 0, 0, 0, 0⟩ _ (by decide) (by decide +kernel) (by decide +kernel)
  case second =>
    exact hrefused ⟨⟨2024, 2, 29⟩, 23, 59, 60, 0⟩ _ (by decide) (by decide +kernel)
      (by decide +kernel)
  case year =>
    exact hrefused ⟨⟨0, 1, 1⟩, 0, 0, 0, 0⟩ _ (by decide) (by decide +kernel) (by decide +kernel)

end ClusterBilling.Time
