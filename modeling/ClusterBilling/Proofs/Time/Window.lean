import ClusterBilling.Arithmetic
import ClusterBilling.Proofs.Cost.Hours
import ClusterBilling.Proofs.Time.Calendar
import ClusterBilling.Time.Window

/-!
A window is found exactly when its length and its offset can be read and the calendar goes back far
enough. It then has that length and that distance from now to the microsecond, by the dates and
times of day that its ends show.
-/
namespace ClusterBilling.Time
open Text

namespace Moment
variable {m start finish : Moment} {n n' : ℕ}

/-- The microseconds from the first moment of the calendar to the date and the time of day that the
clock shows. -/
def sinceFirst (m : Moment) : ℕ := m.date.toDays * day + m.clock % day

theorem day_pos : 0 < day := by decide

theorem clock_div_lt (m : Moment) : m.clock / day < calendarDays :=
  Nat.div_lt_of_lt_mul (Nat.mul_comm .. ▸ m.clock_lt)

/-- A clock shows a date of the calendar. -/
theorem date_valid (m : Moment) : m.date.Valid := (Date.ofDays_spec m.clock_div_lt).1

theorem sinceFirst_eq (m : Moment) : m.sinceFirst = m.clock := by
  rw [sinceFirst, date, Date.toDays_ofDays m.clock_div_lt, Nat.mul_comm]
  exact Nat.div_add_mod ..

/-- The fields of a moment are those that it is made of, and no others make it. -/
theorem ofFields?_eq_some {date : Date} {sinceMidnight : ℕ} {offset? : Option ℤ} :
    ofFields? date sinceMidnight offset? = some m ↔
      m.date = date ∧ date.Valid ∧ m.clock % day = sinceMidnight ∧ m.offset? = offset? := by
  simp only [ofFields?, Option.dite_none_right_eq_some, Option.some.injEq]
  constructor
  · rintro ⟨⟨hvalid, hlt, -⟩, rfl⟩
    have hdiv : (date.toDays * day + sinceMidnight) / day = date.toDays := by
      rw [Nat.mul_comm, Nat.mul_add_div day_pos, Nat.div_eq_of_lt hlt, Nat.add_zero]
    refine ⟨?_, hvalid, ?_, rfl⟩
    · rw [Moment.date, hdiv, Date.ofDays_toDays hvalid]
    · exact Nat.mul_add_mod_of_lt hlt
  · rintro ⟨rfl, hvalid, rfl, rfl⟩
    have hclock : m.date.toDays * day + m.clock % day = m.clock := m.sinceFirst_eq
    refine ⟨⟨hvalid, Nat.mod_lt _ day_pos, by rw [hclock]; exact m.clock_lt⟩, ?_⟩
    obtain ⟨clock, offset?, hlt⟩ := m
    simpa only [mk.injEq, and_true] using hclock

/-- The same clock shows `finish` so many microseconds after it has shown `start`. -/
structure Precedes (start finish : Moment) (n : ℕ) : Prop where
  offset : start.offset? = finish.offset?
  sinceFirst : start.sinceFirst + n = finish.sinceFirst

theorem back?_eq_some : finish.back? n = some start ↔ start.Precedes finish n := by
  have hstart := start.sinceFirst_eq
  have hfinish := finish.sinceFirst_eq
  constructor
  · intro h
    unfold back? at h
    split at h
    · next hle =>
      obtain rfl := Option.some.inj h
      exact ⟨rfl, by simp only at hstart; omega⟩
    · cases h
  · rintro ⟨hoffset, hsum⟩
    obtain ⟨clock, offset?, hlt⟩ := start
    obtain rfl : offset? = finish.offset? := hoffset
    simp only at hstart
    obtain rfl : clock = finish.clock - n := by omega
    rw [back?, if_pos (by omega)]

theorem exists_precedes : (∃ start : Moment, start.Precedes finish n) ↔ n ≤ finish.sinceFirst := by
  simp only [← back?_eq_some, sinceFirst_eq, back?]
  split_ifs with h <;> simp [h]

namespace Precedes

theorem micros? (h : start.Precedes finish n) : start.micros? finish = some (n : ℤ) := by
  have hsum := h.sinceFirst
  rw [sinceFirst_eq, sinceFirst_eq] at hsum
  rw [Moment.micros?, h.offset]
  cases finish.offset? <;> simp only [Option.some.injEq] <;> omega

end Precedes
end Moment

/-- The text says how long. -/
def Lasts (text : Text) (n : ℕ) : Prop := ∃ d, Duration.parse text = .ok d ∧ d.micros = n

/-- How far before now a window ends: nothing where the text is blank. -/
def Leads (offset : Text) (n : ℕ) : Prop :=
  if isAllBlank offset then n = 0 else Lasts offset n

theorem lasts_iff {text : Text} {n : ℕ} :
    Lasts text n ↔ (Duration.parse text).toOption.map Duration.micros = some n := by
  unfold Lasts
  cases Duration.parse text <;> simp [Except.toOption]

instance (text : Text) (n : ℕ) : Decidable (Lasts text n) := decidable_of_iff _ lasts_iff.symm

instance (offset : Text) (n : ℕ) : Decidable (Leads offset n) := by unfold Leads; infer_instance

namespace Window
variable {window offset : Text} {now : Moment} {w : Window} {length before : ℕ} {n n' : ℕ}

theorem lasts_inj (h : Lasts window n) (h' : Lasts window n') : n = n' :=
  Option.some.inj ((lasts_iff.mp h).symm.trans (lasts_iff.mp h'))

theorem offsetMicros_eq_ok : offsetMicros offset = .ok n ↔ Leads offset n := by
  unfold offsetMicros Leads Lasts
  split_ifs
  · simp [eq_comm]
  · cases Duration.parse offset <;> simp [Except.map]

theorem offsetMicros_eq_error {e : RangeError} : offsetMicros offset = .error e ↔
    isAllBlank offset = false ∧ Duration.parse offset = .error e := by
  unfold offsetMicros
  cases isAllBlank offset <;> cases Duration.parse offset <;> simp [Except.map]

/-- The window that begins `length` before its end, which is `before` before now. -/
structure Spans (w : Window) (now : Moment) (length before : ℕ) : Prop where
  start : w.start.Precedes w.finish length
  finish : w.finish.Precedes now before

/-- Two steps back lead to such a window, and the calendar has both or it does not have it. -/
theorem steps_eq_some :
    ((now.back? before).bind fun finish =>
      (finish.back? length).map fun start => (⟨start, finish⟩ : Window)) = some w ↔
      w.Spans now length before := by
  simp only [Option.bind_eq_some_iff, Option.map_eq_some_iff, Moment.back?_eq_some]
  constructor
  · rintro ⟨finish, hf, start, hs, rfl⟩
    exact ⟨hs, hf⟩
  · rintro ⟨hs, hf⟩
    exact ⟨w.finish, hf, w.start, hs, rfl⟩

theorem exists_spans :
    (∃ w : Window, w.Spans now length before) ↔ before + length ≤ now.sinceFirst := by
  constructor
  · rintro ⟨w, hs, hf⟩
    have := hs.sinceFirst
    have := hf.sinceFirst
    omega
  · intro h
    obtain ⟨finish, hf⟩ := Moment.exists_precedes.mpr (show before ≤ now.sinceFirst by omega)
    have := hf.sinceFirst
    obtain ⟨start, hs⟩ := Moment.exists_precedes.mpr (show length ≤ finish.sinceFirst by omega)
    exact ⟨⟨start, finish⟩, hs, hf⟩

theorem resolve_eq_ok : resolve window offset now = .ok w ↔
    ∃ length before, Lasts window length ∧ 0 < length ∧ Leads offset before ∧
      w.Spans now length before := by
  constructor
  · intro h
    unfold resolve at h
    split at h
    · cases h
    · next d hd =>
      split_ifs at h with h0
      split at h
      · cases h
      · next before hb =>
        split at h
        · next hw =>
          obtain rfl := Except.ok.inj h
          exact ⟨d.micros, before, ⟨d, hd, rfl⟩, Nat.pos_of_ne_zero h0, offsetMicros_eq_ok.mp hb,
            steps_eq_some.mp hw⟩
        · cases h
  · rintro ⟨_, before, ⟨d, hd, rfl⟩, hpos, hb, hspans⟩
    simp only [resolve, hd, if_neg hpos.ne', offsetMicros_eq_ok.mpr hb, steps_eq_some.mpr hspans]

/-- What stands in the way first is what is reported. -/
theorem resolve_eq_error {e : RangeError} : resolve window offset now = .error e ↔
    Duration.parse window = .error e ∨
    (Lasts window 0 ∧ e = .emptyWindow window) ∨
    ∃ length, Lasts window length ∧ 0 < length ∧
      ((isAllBlank offset = false ∧ Duration.parse offset = .error e) ∨
        ∃ before, Leads offset before ∧ now.sinceFirst < before + length ∧
          e = .beforeCalendar window offset) := by
  unfold resolve
  cases hw : Duration.parse window with
  | error e' => simp [Lasts, hw]
  | ok d =>
    have hlasts {n} : Lasts window n ↔ d.micros = n := by simp [Lasts, hw]
    simp only [hlasts, exists_eq_left', reduceCtorEq, false_or]
    split_ifs with h0
    · rw [h0, Except.error.injEq]
      exact ⟨fun h => .inl ⟨rfl, h.symm⟩, fun h => (h.resolve_right fun h' => by omega).2.symm⟩
    · simp only [h0, Nat.pos_of_ne_zero h0, false_and, false_or, true_and,
        ← offsetMicros_eq_error, ← offsetMicros_eq_ok]
      cases ho : offsetMicros offset with
      | error e' => simp
      | ok before =>
        simp only [Except.ok.injEq, reduceCtorEq, false_or, exists_eq_left', ← not_le,
          ← exists_spans, ← steps_eq_some]
        split
        · next w h => simp [h]
        · next h => simp [h, eq_comm]

/-- Where a window is found is a matter of its length, its offset and the beginning of the
calendar. It lies as they say, the distances can be recovered from the moments, and its hours do
not depend on where it lies. -/
theorem resolve_spec (window : Text) :
    (∀ offset now, (∃ w, resolve window offset now = .ok w) ↔
      ∃ length before, Lasts window length ∧ 0 < length ∧ Leads offset before ∧
        before + length ≤ now.sinceFirst) ∧
    (∃ hours : Float, ∀ offset now w, resolve window offset now = .ok w →
      (∃ length before, Lasts window length ∧ Leads offset before ∧
        w.start.Precedes w.finish length ∧ w.finish.Precedes now before ∧
        w.start.micros? w.finish = some (length : ℤ) ∧
        w.finish.micros? now = some (before : ℤ)) ∧
      w.start.sinceFirst < w.finish.sinceFirst ∧ w.finish.sinceFirst ≤ now.sinceFirst ∧
      hoursBetween? w.start w.finish = some hours) ∧
    ∀ offset now e, resolve window offset now = .error e ↔
      Duration.parse window = .error e ∨
      (Lasts window 0 ∧ e = .emptyWindow window) ∨
      ∃ length, Lasts window length ∧ 0 < length ∧
        ((isAllBlank offset = false ∧ Duration.parse offset = .error e) ∨
          ∃ before, Leads offset before ∧ now.sinceFirst < before + length ∧
            e = .beforeCalendar window offset) := by
  refine ⟨fun offset now => ?_, ?_, fun _ _ _ => resolve_eq_error⟩
  · constructor
    · rintro ⟨w, hw⟩
      obtain ⟨length, before, hl, hpos, hb, hspans⟩ := resolve_eq_ok.mp hw
      exact ⟨length, before, hl, hpos, hb, exists_spans.mp ⟨w, hspans⟩⟩
    · rintro ⟨length, before, hl, hpos, hb, hle⟩
      obtain ⟨w, hspans⟩ := exists_spans.mpr hle
      exact ⟨w, resolve_eq_ok.mpr ⟨length, before, hl, hpos, hb, hspans⟩⟩
  · by_cases hparsed : ∃ n, Lasts window n
    · obtain ⟨n, hn⟩ := hparsed
      refine ⟨Arithmetic.ofMicros n / Arithmetic.ofNat 3600, fun offset now w hw => ?_⟩
      obtain ⟨length, before, hl, hpos, hb, hs, hf⟩ := resolve_eq_ok.mp hw
      obtain rfl := lasts_inj hl hn
      have hstart := hs.sinceFirst
      have hfinish := hf.sinceFirst
      refine ⟨⟨length, before, hl, hb, hs, hf, hs.micros?, hf.micros?⟩, by omega, by omega, ?_⟩
      rw [hoursBetween?, hs.micros?]
      rfl
    · refine ⟨0, fun offset now w hw => ?_⟩
      obtain ⟨length, -, hl, -⟩ := resolve_eq_ok.mp hw
      exact absurd ⟨length, hl⟩ hparsed

/-- A day and a half up to half an hour before a noon on the day after a leap day. -/
theorem resolve_spec_leap_day : ∃ now w, now.date = ⟨2024, 3, 1⟩ ∧
    resolve "1d12h" "30m" now = .ok w := by
  let now : Moment := ⟨738945 * day + 43200 * second, some 0, by decide⟩
  obtain ⟨w, hw⟩ := ((resolve_spec "1d12h").1 "30m" now).mpr
    ⟨129600 * second, 1800 * second, by decide +kernel, by decide, by decide +kernel,
      by decide +kernel⟩
  exact ⟨now, w, by decide +kernel, hw⟩

end Window
end ClusterBilling.Time
