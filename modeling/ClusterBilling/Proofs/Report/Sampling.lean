import ClusterBilling.Proofs.Decimal.Seconds
import ClusterBilling.Proofs.Decimal.Significant
import ClusterBilling.Proofs.Report.Refusal
import ClusterBilling.Proofs.Time.Timestamp

/-!
What a request says of the range of a report over time. The ends are exact near the epoch and at
whole seconds. Of the step six significant digits are left, so that it is exact just where the
others are zeros, and windows that are rounded alike send the same step.
-/
namespace ClusterBilling
open Decimal Time Prometheus

namespace Time

/-- A window of a positive number of whole seconds. -/
def LastsSeconds (window : Text) (n : ℕ) : Prop :=
  0 < n ∧ ∃ d, Duration.parse window = .ok d ∧ d.micros = n * second

theorem cast_mul_second (n : ℕ) : ((n * second : ℕ) : ℚ) / 10 ^ 6 = n := by
  rw [second]
  push_cast
  norm_num

theorem lastsSeconds_iff {window : Text} {n : ℕ} : LastsSeconds window n ↔
    0 < n ∧ (Duration.parse window).toOption.map Duration.micros = some (n * second) := by
  unfold LastsSeconds
  cases Duration.parse window <;> simp [Except.toOption]

instance (window : Text) (n : ℕ) : Decidable (LastsSeconds window n) :=
  decidable_of_iff _ lastsSeconds_iff.symm

theorem LastsSeconds.lt {window : Text} {n : ℕ} (h : LastsSeconds window n) : n < 2 ^ 52 := by
  obtain ⟨-, d, -, hd⟩ := h
  have hlt := d.micros_lt
  unfold day second at *
  omega

namespace Moment
variable {m : Moment}

/-- Microseconds from the epoch to a moment in UTC. -/
def unixMicros (m : Moment) : ℤ := m.clock - epoch.clock

/-- Less than `2 ^ 32` seconds from the epoch, or a whole number of them. -/
def IsSharp (m : Moment) : Prop :=
  m.unixMicros.natAbs < 2 ^ 32 * second ∨ second ∣ m.unixMicros.natAbs

theorem natAbs_unixMicros_lt (m : Moment) : m.unixMicros.natAbs < 2 ^ 52 * second := by
  have hlt := m.clock_lt
  have he : epoch.clock = 719162 * day := rfl
  unfold unixMicros calendarDays day second at *
  omega

theorem offset?_ofTimestamp {text : Text} (h : ofTimestamp text = .ok m) : m.offset? = some 0 := by
  obtain ⟨f, -, -, -, hoffset⟩ := exists_spells h
  exact hoffset

theorem unixSeconds_ofTimestamp {text : Text} (h : ofTimestamp text = .ok m) :
    m.unixSeconds = secondsOfMicros m.unixMicros := by
  unfold unixSeconds unixMicros
  rw [offset?_ofTimestamp h]
  simp

end Moment
end Time

section step
variable {n n' : ℕ}

theorem reading_seconds (hn : 0 < n) (hlt : n < 2 ^ 52) :
    ∃ m e, Reading.ofFloat (secondsOfMicros (n * second : ℕ)) = .finite ⟨false, m, e⟩ ∧ 0 < m ∧
      (m : ℚ) * 2 ^ e = n := by
  have hreads := secondsOfMicros_reads (n := (n * second : ℕ)) (by unfold second; omega)
    (by unfold second; omega)
  obtain ⟨m, e, hr, hm, hnear⟩ := hreads.reading
  rw [Int.natAbs_natCast, cast_mul_second] at hnear
  rw [if_neg (by omega)] at hr
  exact ⟨m, e, hr, hm, hnear.eq_integer hlt⟩

/-- The digits of a step are those of the rounded number of its seconds. -/
theorem sixDigits_seconds (hn : 0 < n) (hlt : n < 2 ^ 52) :
    ∃ s : Scaled, sixDigits (secondsOfMicros (n * second : ℕ)) = briefLayout.render s ∧
      s.IsTrimmed (roundToDigits 6 n) := by
  obtain ⟨m, e, hr, hm, hval⟩ := reading_seconds hn hlt
  refine ⟨Binary.significant 6 ⟨false, m, e⟩, ?_, ?_⟩
  · rw [sixDigits, hr]
    rfl
  · exact significant_isTrimmed (by norm_num) hm hn rfl hval

theorem denotes_sixDigits (hn : 0 < n) (hlt : n < 2 ^ 52) :
    Denotes (sixDigits (secondsOfMicros (n * second : ℕ))).toList (roundToDigits 6 n) := by
  obtain ⟨s, ht, hs⟩ := sixDigits_seconds hn hlt
  rw [ht, ← hs.value]
  exact denotes_render rfl s

/-- Numbers of seconds are written alike just if they are rounded alike. -/
theorem sixDigits_seconds_inj (hn : 0 < n) (hlt : n < 2 ^ 52) (hn' : 0 < n') (hlt' : n' < 2 ^ 52) :
    sixDigits (secondsOfMicros (n * second : ℕ)) = sixDigits (secondsOfMicros (n' * second : ℕ)) ↔
      roundToDigits 6 n = roundToDigits 6 n' := by
  constructor
  · intro h
    have hd := denotes_sixDigits hn hlt
    rw [h] at hd
    exact_mod_cast hd.unique (denotes_sixDigits hn' hlt')
  · intro h
    obtain ⟨s, ht, hs⟩ := sixDigits_seconds hn hlt
    obtain ⟨s', ht', hs'⟩ := sixDigits_seconds hn' hlt'
    rw [h] at hs
    rw [ht, ht', hs.unique hs']

end step

section ends

/-- Six places are enough for the microseconds of a number that is near to them. -/
theorem roundDiv_micros {b : Binary} {t : ℕ} (h : |(b.mantissa : ℚ) * 2 ^ b.exponent - t / 10 ^ 6|
    < 1 / (2 * 10 ^ 6)) : roundDiv (b.fraction.1 * 10 ^ 6) b.fraction.2 = t := by
  apply roundDiv_eq_of_near b.fraction_snd_pos
  have hq : ((b.fraction.1 * 10 ^ 6 : ℕ) : ℚ) / b.fraction.2 - t =
      (b.mantissa * 2 ^ b.exponent - t / 10 ^ 6) * 10 ^ 6 := by
    rw [← b.fraction_value]
    push_cast
    ring
  rw [hq, abs_mul, abs_of_pos (by norm_num : (0 : ℚ) < 10 ^ 6)]
  rw [lt_div_iff₀ (by norm_num)] at h
  linarith

theorem near_micros {t m : ℕ} {e : ℤ} (hn : Near (t / 10 ^ 6 : ℚ) m e)
    (h : t < 2 ^ 32 * second ∨ second ∣ t) (hlt : t < 2 ^ 52 * second) :
    |(m : ℚ) * 2 ^ e - t / 10 ^ 6| < 1 / (2 * 10 ^ 6) := by
  rcases h with h | ⟨k, rfl⟩
  -- below 2 ^ 32 the last place counts at most 2 ^ -20, and half of that is less than half a place
  · have hq : (t / 10 ^ 6 : ℚ) < 2 ^ 32 := by
      rw [div_lt_iff₀ (by norm_num)]
      exact_mod_cast h
    have he : e - 1 ≤ -21 := by
      rcases hn.lt_two_pow hq with he | he <;> omega
    calc |(m : ℚ) * 2 ^ e - t / 10 ^ 6| ≤ 2 ^ (e - 1) := hn.halfway
      _ ≤ 2 ^ (-21 : ℤ) := zpow_le_zpow_right₀ one_le_two he
      _ < 1 / (2 * 10 ^ 6) := by norm_num
  · rw [mul_comm second, cast_mul_second] at hn ⊢
    rw [hn.eq_integer (by unfold second at hlt; omega), sub_self, abs_zero]
    norm_num

theorem reading_micros {t : ℤ} (h : t.natAbs < 2 ^ 32 * second ∨ second ∣ t.natAbs)
    (hlt : t.natAbs < 2 ^ 52 * second) :
    ∃ m e, Reading.ofFloat (secondsOfMicros t) = .finite ⟨decide (t < 0), m, e⟩ ∧
      |(m : ℚ) * 2 ^ e - t.natAbs / 10 ^ 6| < 1 / (2 * 10 ^ 6) := by
  by_cases h0 : t = 0
  · subst h0
    exact ⟨0, -1074, by decide +kernel, by norm_num⟩
  · have hreads := secondsOfMicros_reads h0 (by unfold second at hlt; omega)
    obtain ⟨m, e, hr, -, hn⟩ := hreads.reading
    refine ⟨m, e, ?_, near_micros hn h hlt⟩
    rw [hr]
    split_ifs with hneg <;> simp [hneg, isNegative]

theorem denotes_sixPlaces {t : ℤ} (h : t.natAbs < 2 ^ 32 * second ∨ second ∣ t.natAbs)
    (hlt : t.natAbs < 2 ^ 52 * second) :
    Denotes (sixPlaces (secondsOfMicros t)).toList (t / 10 ^ 6) := by
  obtain ⟨m, e, hr, hn⟩ := reading_micros h hlt
  have hround := @roundDiv_micros ⟨decide (t < 0), m, e⟩ _ hn
  have hd := @denotes_fixed 6 (by norm_num) ⟨decide (t < 0), m, e⟩
  rw [hround] at hd
  have hval : (t / 10 ^ 6 : ℚ) = if decide (t < 0) then -(t.natAbs / 10 ^ 6 : ℚ)
      else t.natAbs / 10 ^ 6 := by
    rw [← neg_div, ← ite_div, Nat.cast_natAbs]
    split_ifs with hneg
    · rw [abs_of_neg (of_decide_eq_true hneg)]
      push_cast
      rw [neg_neg]
    · rw [abs_of_nonneg (by simpa using hneg)]
  rw [sixPlaces, hr, hval]
  exact hd

end ends

namespace Prometheus.Request

/-- The request has a parameter of that name and text. -/
def Has (r : Request) (name text : Text) : Prop := (name, text) ∈ r.parameters

/-- The request has a parameter of that name, and it is the number `v`. -/
def Gives (r : Request) (name : Text) (v : ℚ) : Prop :=
  ∃ text, r.Has name text ∧ Denotes text.chars v

/-- The requests have one text for their steps. -/
def SharesStep (r r' : Request) : Prop := ∃ text, r.Has "step" text ∧ r'.Has "step" text

/-- The range of a request: the step to six significant digits, and the ends that are sharp. -/
structure Samples (r : Request) (start finish : Moment) (n : ℕ) : Prop where
  step : ∀ v, r.Gives "step" v ↔ v = roundToDigits 6 n
  start : start.IsSharp → ∀ v, r.Gives "start" v ↔ v = start.unixMicros / 10 ^ 6
  finish : finish.IsSharp → ∀ v, r.Gives "end" v ↔ v = finish.unixMicros / 10 ^ 6

/-- A parameter that is there once is the number that its text denotes, and no other. -/
theorem gives_iff {r : Request} {name : Text} {s : String} {w : ℚ}
    (h : ∀ text, r.Has name text ↔ text = s) (hs : Denotes s.toList w) (v : ℚ) :
    r.Gives name v ↔ v = w := by
  simp only [Gives, h, exists_eq_left, Text.ofString, Text.chars_ofChars]
  exact ⟨fun hv => hv.unique hs, fun hv => hv ▸ hs⟩

end Prometheus.Request

section requests
variable {range : EvaluationRange} {q : Query} (hq : q.range? = some range) (c : Client)
  (text : Text)
include hq

theorem parameters_request : (c.request q).parameters =
    (("query" : Text), q.text) :: Client.rangeParameters range := by
  unfold Client.request
  rw [hq]
  rfl

theorem has_step : (c.request q).Has "step" text ↔ text = sixDigits range.step := by
  simp [Request.Has, parameters_request hq, Client.rangeParameters, Text.ofString_inj]

theorem has_start :
    (c.request q).Has "start" text ↔ text = sixPlaces range.start.unixSeconds := by
  simp [Request.Has, parameters_request hq, Client.rangeParameters, Text.ofString_inj]

theorem has_end : (c.request q).Has "end" text ↔ text = sixPlaces range.finish.unixSeconds := by
  simp [Request.Has, parameters_request hq, Client.rangeParameters, Text.ofString_inj]

end requests

section reports
variable {start finish window offset : Text} {range : EvaluationRange} {n : ℕ}

/-- A range is made of the texts that it is asked for by, if its ends are in order, its window lasts
and its offset can be read. -/
theorem resolveRange_eq_ok : resolveRange start finish window offset = .ok range ↔
    Moment.ofTimestamp start = .ok range.start ∧ Moment.ofTimestamp finish = .ok range.finish ∧
      range.start.clock < range.finish.clock ∧
      (∃ d, Duration.parse window = .ok d ∧ 0 < d.micros ∧ range.step = d.seconds) ∧
      ∃ n, offsetMicros offset = .ok n := by
  constructor
  · intro h
    unfold resolveRange at h
    cases hs : Moment.ofTimestamp start with
    | error e => simp [hs] at h
    | ok s =>
      cases hf : Moment.ofTimestamp finish with
      | error e => simp [hs, hf] at h
      | ok f =>
        cases hd : Duration.parse window with
        | error e => simp [hs, hf, hd] at h
        | ok d =>
          simp only [hs, hf, hd] at h
          split_ifs at h with hempty
          rw [not_or, not_le] at hempty
          split at h
          · cases h
          · next n ho =>
            obtain rfl := Except.ok.inj h
            exact ⟨rfl, rfl, hempty.2, ⟨d, rfl, Nat.pos_of_ne_zero hempty.1, rfl⟩, n, ho⟩
  · rintro ⟨hs, hf, hlt, ⟨d, hd, hpos, hstep⟩, n, ho⟩
    have hlasts : ¬ (d.micros = 0 ∨ range.finish.clock ≤ range.start.clock) := by omega
    unfold resolveRange
    simp only [hs, hf, hd, if_neg hlasts, ho, ← hstep]

theorem resolveRange_ok (h : resolveRange start finish window offset = .ok range) :
    ∃ d, Moment.ofTimestamp start = .ok range.start ∧ Moment.ofTimestamp finish = .ok range.finish ∧
      Duration.parse window = .ok d ∧ range.step = d.seconds := by
  obtain ⟨hs, hf, -, ⟨d, hd, -, hstep⟩, -⟩ := resolveRange_eq_ok.mp h
  exact ⟨d, hs, hf, hd, hstep⟩

theorem step_resolveRange (h : resolveRange start finish window offset = .ok range)
    (hw : LastsSeconds window n) : range.step = secondsOfMicros (n * second : ℕ) := by
  obtain ⟨d, -, -, hd, hs⟩ := resolveRange_ok h
  obtain ⟨-, d', hd', hm⟩ := hw
  obtain rfl : d' = d := Except.ok.inj (hd'.symm.trans hd)
  rw [hs, Duration.seconds, hm]

variable {r : ReportRequest} {q : NamedQuery} (c : Client) {backend : Backend} {metrics : Metrics}

theorem queries_reportOverTime
    (h : resolveRange start finish r.window r.offset = .ok range) :
    (reportOverTime backend metrics start finish r).queries =
      rangeQueries (rateQueries r.window r.offset r.localStorage true) range := by
  rw [reportOverTime_of_range h]
  rfl

/-- Each query of a report over time is for the range that the report was asked for. -/
theorem range_of_mem_queries (hq : q ∈ (reportOverTime backend metrics start finish r).queries) :
    ∃ range, resolveRange start finish r.window r.offset = .ok range ∧ q.2.range? = some range := by
  cases hr : resolveRange start finish r.window r.offset with
  | error e =>
    rw [reportOverTime_of_refused hr] at hq
    cases hq
  | ok range =>
    rw [queries_reportOverTime hr] at hq
    obtain ⟨x, -, rfl⟩ := List.mem_map.mp hq
    exact ⟨range, rfl, rfl⟩

theorem request_samples (hr : resolveRange start finish r.window r.offset = .ok range)
    (hq : q.2.range? = some range) (hw : LastsSeconds r.window n) :
    (c.request q.2).Samples range.start range.finish n := by
  obtain ⟨d, hs, hf, -, -⟩ := resolveRange_ok hr
  refine ⟨?step, fun h => ?start, fun h => ?finish⟩
  case step =>
    refine Request.gives_iff (has_step hq c) ?_
    rw [step_resolveRange hr hw]
    exact denotes_sixDigits hw.1 hw.lt
  case start =>
    refine Request.gives_iff (has_start hq c) ?_
    rw [Moment.unixSeconds_ofTimestamp hs]
    exact denotes_sixPlaces h range.start.natAbs_unixMicros_lt
  case finish =>
    refine Request.gives_iff (has_end hq c) ?_
    rw [Moment.unixSeconds_ofTimestamp hf]
    exact denotes_sixPlaces h range.finish.natAbs_unixMicros_lt

/-- Requests for windows of whole seconds share their step just if these are rounded alike. -/
theorem sharesStep_iff {r' : ReportRequest} {start' finish' : Text} {n' : ℕ} (c' : Client)
    {backend' : Backend} {metrics' : Metrics} {q' : NamedQuery}
    (hw : LastsSeconds r.window n) (hw' : LastsSeconds r'.window n')
    (hq : q ∈ (reportOverTime backend metrics start finish r).queries)
    (hq' : q' ∈ (reportOverTime backend' metrics' start' finish' r').queries) :
    (c.request q.2).SharesStep (c'.request q'.2) ↔ roundToDigits 6 n = roundToDigits 6 n' := by
  obtain ⟨range, hr, hq⟩ := range_of_mem_queries hq
  obtain ⟨range', hr', hq'⟩ := range_of_mem_queries hq'
  rw [← sixDigits_seconds_inj hw.1 hw.lt hw'.1 hw'.lt, ← step_resolveRange hr hw,
    ← step_resolveRange hr' hw']
  simp only [Request.SharesStep, has_step hq, has_step hq', exists_eq_left, Text.ofString_inj]

/-- A range that is not refused is asked about. -/
theorem exists_mem_queries
    (h : (resolveRange start finish r.window r.offset).toOption.isSome = true) :
    ∃ q, q ∈ (reportOverTime backend metrics start finish r).queries := by
  cases hr : resolveRange start finish r.window r.offset with
  | error e => simp [hr, Except.toOption] at h
  | ok range =>
    rw [queries_reportOverTime hr]
    exact ⟨_, List.mem_cons_self⟩

end reports

/-- Every request of a report over time for a window of whole seconds gives these, rounded to six
significant digits, as its step, and the ends of its range where they are sharp. The step is the
window just if its other digits are zeros, and two windows send the same step just if they are
rounded alike. -/
theorem overTime_samples_to_six_digits {r : ReportRequest} {n : ℕ} (hw : LastsSeconds r.window n)
    (c : Client) (backend : Backend) (metrics : Metrics) (start finish : Text) :
    ∀ q ∈ (reportOverTime backend metrics start finish r).queries,
      (∃ s f, Moment.ofTimestamp start = .ok s ∧ Moment.ofTimestamp finish = .ok f ∧
        (c.request q.2).Samples s f n) ∧
      ((c.request q.2).Gives "step" n ↔ 10 ^ (Nat.log 10 n + 1 - 6) ∣ n) ∧
      ∀ {r' : ReportRequest} {n' : ℕ}, LastsSeconds r'.window n' →
        ∀ (c' : Client) (backend' : Backend) (metrics' : Metrics) (start' finish' : Text),
          ∀ q' ∈ (reportOverTime backend' metrics' start' finish' r').queries,
            (c.request q.2).SharesStep (c'.request q'.2) ↔
              roundToDigits 6 n = roundToDigits 6 n' := by
  intro q hq
  obtain ⟨range, hr, hrange⟩ := range_of_mem_queries hq
  obtain ⟨d, hs, hf, -, -⟩ := resolveRange_ok hr
  have hsamples := request_samples c hr hrange hw
  refine ⟨⟨range.start, range.finish, hs, hf, hsamples⟩, ?exact, ?shared⟩
  case exact =>
    rw [hsamples.step, ← roundToDigits_eq_iff, Nat.cast_inj, eq_comm]
  case shared =>
    intro r' n' hw' c' backend' metrics' start' finish' q' hq'
    exact sharesStep_iff c c' hw hw' hq hq'

/-- The seconds of an hour are sent as they are. -/
theorem overTime_samples_to_six_digits_hourly :
    let c : Client := ⟨"http://prometheus.test:9090", [], .standard⟩
    let queries := (reportOverTime (fun _ => { body := .ok .null }) ∅ "2024-01-01T00:00:00.000Z"
      "2024-01-02T00:00:00.000Z" ⟨"1h", "", "cluster-a", "", .epoch⟩).queries
    LastsSeconds "1h" 3600 ∧ ∃ q ∈ queries, (c.request q.2).Gives "step" 3600 := by
  intro c queries
  have hw : LastsSeconds "1h" 3600 := by decide +kernel
  obtain ⟨q, hq⟩ : ∃ q, q ∈ queries := exists_mem_queries (by decide +kernel)
  obtain ⟨-, hexact, -⟩ := overTime_samples_to_six_digits hw c _ _ _ _ q hq
  exact ⟨hw, q, hq, by exact_mod_cast hexact.mpr (by decide +kernel)⟩

/-- The seventh digit is lost, and with it what tells a window from one that is a second longer. -/
theorem overTime_step_not_exact_seven_digits :
    let c : Client := ⟨"http://prometheus.test:9090", [], .standard⟩
    let queries (window : Text) := (reportOverTime (fun _ => { body := .ok .null }) ∅
      "2024-01-01T00:00:00.000Z" "2024-02-01T00:00:00.000Z"
        ⟨window, "", "cluster-a", "", .epoch⟩).queries
    LastsSeconds "1234567s" 1234567 ∧ LastsSeconds "1234568s" 1234568 ∧
      ∃ q ∈ queries "1234567s", ∃ q' ∈ queries "1234568s",
        (c.request q.2).Gives "step" 1234570 ∧ ¬ (c.request q.2).Gives "step" 1234567 ∧
          (c.request q.2).SharesStep (c.request q'.2) := by
  intro c queries
  have hw : LastsSeconds "1234567s" 1234567 := by decide +kernel
  have hw' : LastsSeconds "1234568s" 1234568 := by decide +kernel
  have hround : roundToDigits 6 1234567 = 1234570 ∧ roundToDigits 6 1234568 = 1234570 := by
    decide +kernel
  obtain ⟨q, hq⟩ : ∃ q, q ∈ queries "1234567s" := exists_mem_queries (by decide +kernel)
  obtain ⟨q', hq'⟩ : ∃ q, q ∈ queries "1234568s" := exists_mem_queries (by decide +kernel)
  obtain ⟨range, hr, hrange⟩ := range_of_mem_queries hq
  have hstep := (request_samples c hr hrange hw).step
  rw [hround.1] at hstep
  refine ⟨hw, hw', q, hq, q', hq', ?_, ?_, ?_⟩
  · rw [hstep]
    norm_num
  · rw [hstep]
    norm_num
  · rw [sharesStep_iff c c hw hw' hq hq', hround.1, hround.2]

end ClusterBilling
