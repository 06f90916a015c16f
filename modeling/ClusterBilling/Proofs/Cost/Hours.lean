import ClusterBilling.Cost.Bill
import ClusterBilling.Proofs.Decimal.Magnitude
import ClusterBilling.Proofs.Table
import ClusterBilling.Time.Window

/-!
The hours that a bill divides by. Between a start and a later finish they are always above zero,
whatever minutes were observed, so that no such window is refused.
-/
namespace ClusterBilling
open Decimal Time Float.Model Float.Model.UnpackedFloat

/-- At least `2 ^ k` as a floating-point number. -/
def Reaches (k : ℤ) (x : Float) : Prop := AtLeast k x.toModel.unpack

/-- The positive zero or a number above it. -/
def NotNegative (x : Float) : Prop := Nonnegative x.toModel.unpack

/-- A number of this sign, or the zero that has it. -/
def OnSide (s : Sign) (x : Float) : Prop := HasSign s x.toModel.unpack

theorem notNegative_iff_onSide {x : Float} : NotNegative x ↔ OnSide .positive x :=
  nonnegative_iff_hasSign

theorem Reaches.notNegative {k : ℤ} {x : Float} (h : Reaches k x) : NotNegative x :=
  AtLeast.nonnegative h

theorem Reaches.onSide {k : ℤ} {x : Float} (h : Reaches k x) : OnSide .positive x :=
  notNegative_iff_onSide.mp h.notNegative

/-- The minutes and the seconds of an hour. -/
private theorem ofNat_unpacked :
    (∃ h, (Float.ofNat 60).toModel.unpack = .finite .positive (15 * 2 ^ 49) (-47) h) ∧
      ∃ h, (Float.ofNat 3600).toModel.unpack = .finite .positive (225 * 2 ^ 45) (-41) h :=
  ⟨⟨by norm_num, rfl⟩, ⟨by norm_num, rfl⟩⟩

theorem div_reaches {x y : Float} {k l : ℤ} (hx : Reaches k x) {m : ℕ} {e : ℤ} {hm : 0 < m}
    (hy : y.toModel.unpack = .finite .positive m e hm) (hle : l ≤ k - (m.log2 + e) - 1)
    (hl : -1074 ≤ l) : Reaches l (x / y) := by
  change AtLeast l (unpack .binary64 (pack .binary64
    (div .binary64 x.toModel.unpack y.toModel.unpack)))
  rw [hy]
  exact unpack_pack_atLeast (div_atLeast hx hm hle hl)

theorem OnSide.neg {s : Sign} {x : Float} (h : OnSide s x) : OnSide (-s) (-x) := by
  change HasSign (-s) (unpack .binary64 (pack .binary64 x.toModel.unpack.neg))
  exact unpack_pack_hasSign (neg_hasSign h)

theorem OnSide.div {s : Sign} {x y : Float} (h : OnSide s x) {m : ℕ} {e : ℤ} {hm : 0 < m}
    (hy : y.toModel.unpack = .finite .positive m e hm) : OnSide s (x / y) := by
  change HasSign s (unpack .binary64 (pack .binary64
    (UnpackedFloat.div .binary64 x.toModel.unpack y.toModel.unpack)))
  rw [hy]
  exact unpack_pack_hasSign (div_hasSign h hm)

theorem OnSide.mul {s : Sign} {x y : Float} (h : OnSide s x) {m : ℕ} {e : ℤ} {hm : 0 < m}
    (hy : y.toModel.unpack = .finite .positive m e hm) : OnSide s (x * y) := by
  change HasSign s (unpack .binary64 (pack .binary64
    (UnpackedFloat.mul .binary64 x.toModel.unpack y.toModel.unpack)))
  rw [hy]
  exact unpack_pack_hasSign (mul_hasSign h hm)

theorem OnSide.div_sixty {s : Sign} {x : Float} (h : OnSide s x) : OnSide s (x / Float.ofNat 60) :=
  h.div ofNat_unpacked.1.choose_spec

theorem OnSide.div_hour {s : Sign} {x : Float} (h : OnSide s x) :
    OnSide s (x / Float.ofNat 3600) :=
  h.div ofNat_unpacked.2.choose_spec

theorem OnSide.mul_sixty {s : Sign} {x : Float} (h : OnSide s x) : OnSide s (x * Float.ofNat 60) :=
  h.mul ofNat_unpacked.1.choose_spec

theorem notNegative_div_sixty {x : Float} (h : NotNegative x) :
    NotNegative (x / Float.ofNat 60) :=
  notNegative_iff_onSide.mpr (notNegative_iff_onSide.mp h).div_sixty

theorem notNegative_mul_sixty {x : Float} (h : NotNegative x) :
    NotNegative (x * Float.ofNat 60) :=
  notNegative_iff_onSide.mpr (notNegative_iff_onSide.mp h).mul_sixty

private theorem zero_unpacked : (0 : Float).toModel.unpack = .zero .positive := rfl

theorem pos_iff_unpacked {x : Float} :
    0 < x ↔ (UnpackedFloat.zero .positive).lt x.toModel.unpack := by
  change decide ((0 : Float).toModel.unpack.lt x.toModel.unpack = true) = true ↔ _
  rw [zero_unpacked, decide_eq_true_eq]

theorem nonpositive_iff_unpacked {x : Float} :
    x ≤ 0 ↔ x.toModel.unpack.le (UnpackedFloat.zero .positive) := by
  change decide (x.toModel.unpack.le (0 : Float).toModel.unpack = true) = true ↔ _
  rw [zero_unpacked, decide_eq_true_eq]

/-- On either side of zero, a number is at most zero or above it. -/
theorem OnSide.nonpositive_iff {s : Sign} {x : Float} (h : OnSide s x) : x ≤ 0 ↔ ¬ 0 < x := by
  rw [nonpositive_iff_unpacked, pos_iff_unpacked]
  exact h.le_zero_iff

theorem OnSide.pos {x : Float} (h : OnSide .positive x) (h0 : (x == 0) = false) : 0 < x := by
  rw [pos_iff_unpacked]
  exact h.zero_lt h0

theorem OnSide.not_pos {x : Float} (h : OnSide .negative x) : ¬ 0 < x := by
  rw [pos_iff_unpacked]
  exact h.not_zero_lt

theorem not_nonpositive_of_notNegative {x : Float} (h : NotNegative x) (h0 : (x == 0) = false) :
    ¬ x ≤ 0 := by
  have hx := notNegative_iff_onSide.mp h
  exact fun hle => hx.nonpositive_iff.mp hle (hx.pos h0)

theorem Reaches.pos {k : ℤ} {x : Float} (h : Reaches k x) : 0 < x := by
  rw [pos_iff_unpacked]
  unfold Reaches at h
  match x.toModel.unpack, h with
  | .infinity .positive, _ => rfl
  | .finite .positive m e hm, _ => rfl

theorem Reaches.not_nonpositive {k : ℤ} {x : Float} (h : Reaches k x) : ¬ x ≤ 0 :=
  fun hle => h.onSide.nonpositive_iff.mp hle h.pos

theorem notNegative_of_pos {x : Float} (h : 0 < x) : NotNegative x := by
  rw [pos_iff_unpacked] at h
  unfold NotNegative
  match x.toModel.unpack, h with
  | .infinity .positive, _ => trivial
  | .finite .positive m e hm, _ => trivial

theorem onSide_of_pos {x : Float} (h : 0 < x) : OnSide .positive x :=
  notNegative_iff_onSide.mp (notNegative_of_pos h)

theorem isNaN_of_pos {x : Float} (h : 0 < x) : x.isNaN = false := (onSide_of_pos h).isNaN

theorem toFloat_reaches {n : UInt64} (hn : 0 < n.toNat) : Reaches 0 n.toFloat := by
  change AtLeast 0 (unpack .binary64 (pack .binary64
    (normalize .binary64 (n.toNat : ℤ) 0 .positive)))
  apply unpack_pack_atLeast
  rw [UnpackedFloat.normalize, Int.compare_eq_gt.mpr (by exact_mod_cast hn)]
  exact round_atLeast (by simpa using hn) (by norm_num) (by simp)

/-- Small digits are divided by a power of ten, others as exact fractions. -/
theorem ofScientific_reaches {n : ℕ} (hn : 0 < n) :
    Reaches (-20) (Float.ofScientific n true 6) := by
  unfold Float.ofScientific
  by_cases h : n < 2 ^ 53 ∧ 6 ≤ 22
  · rw [dif_pos h]
    have hn' : 0 < n.toUInt64.toNat := by
      rw [Nat.toUInt64, UInt64.toNat_ofNat', Nat.mod_eq_of_lt] <;> omega
    obtain ⟨_, hy⟩ := powerOfTen_unpacked
    have hlog : (15625 * 2 ^ 39).log2 = 52 := by decide
    exact div_reaches (toFloat_reaches hn') hy (by rw [hlog]; norm_num) (by norm_num)
  · rw [dif_neg h]
    have hpower : Int.negOfNat 6 = -6 := rfl
    have hlog : (10 ^ 6).log2 = 19 := by decide
    simp only [if_true, hpower]
    change AtLeast (-20) (unpack .binary64 (pack .binary64 (.ofScientific .binary64 n (-6))))
    apply unpack_pack_atLeast
    rw [ofScientific_unpacked hn]
    exact div_finite_atLeast hn _ (by rw [hlog]; omega) (by norm_num)

theorem secondsOfMicros_reaches {n : ℤ} (hn : 0 < n) : Reaches (-20) (Time.secondsOfMicros n) := by
  unfold Time.secondsOfMicros nearestFloat
  simp only [not_lt.mpr hn.le, decide_false, Bool.false_eq_true, if_false]
  rw [if_neg (by omega)]
  split_ifs with h₁ h₂
  · exact trivial
  · omega
  · exact ofScientific_reaches (by omega)

/-- The clocks can be compared, and time passes from `start` to `finish`. -/
def Time.Moment.Before (start finish : Moment) : Prop :=
  ∃ n, start.micros? finish = some n ∧ 0 < n

theorem Time.Moment.micros?_of_utc {start finish : Moment} (hs : start.offset? = some 0)
    (hf : finish.offset? = some 0) :
    start.micros? finish = some (finish.clock - start.clock : ℤ) := by
  simp only [Moment.micros?, hs, hf, sub_zero]

theorem Time.Moment.before_iff_of_utc {start finish : Moment} (hs : start.offset? = some 0)
    (hf : finish.offset? = some 0) : start.Before finish ↔ start.clock < finish.clock := by
  simp only [Moment.Before, micros?_of_utc hs hf, Option.some.injEq, exists_eq_left']
  omega

theorem Time.Moment.back?_before {finish start : Moment} {micros : ℕ} (hm : micros ≠ 0)
    (h : finish.back? micros = some start) : start.Before finish := by
  unfold Moment.back? at h
  split at h
  · next hle =>
    obtain rfl := Option.some.inj h
    refine ⟨micros, ?_, by omega⟩
    unfold Moment.micros?
    cases finish.offset? <;> simp only [Option.some.injEq] <;> omega
  · cases h

theorem Time.Window.resolve_before {window offset : Text} {now : Moment} {w : Window}
    (h : Window.resolve window offset now = .ok w) : w.start.Before w.finish := by
  unfold Window.resolve at h
  split at h
  · cases h
  · split at h
    · cases h
    · next length _ hm =>
      split at h
      · cases h
      · split at h
        · next hw =>
          obtain rfl := Except.ok.inj h
          obtain ⟨finish, -, hs⟩ := Option.bind_eq_some_iff.mp hw
          obtain ⟨start, hb, rfl⟩ := Option.map_eq_some_iff.mp hs
          exact Moment.back?_before hm hb
        · cases h

section
variable {start finish : Time.Moment}

theorem hoursBetween_reaches (h : start.Before finish) :
    ∃ hours : Float, hoursBetween? start finish = some hours ∧ Reaches (-32) hours := by
  obtain ⟨n, hn, hpos⟩ := h
  obtain ⟨-, _, hy⟩ := ofNat_unpacked
  have hlog : (225 * 2 ^ 45).log2 = 52 := by decide
  refine ⟨Time.secondsOfMicros n / Float.ofNat 3600, by rw [hoursBetween?, hn]; rfl, ?_⟩
  exact div_reaches (secondsOfMicros_reaches hpos) hy (by rw [hlog]; norm_num) (by norm_num)

theorem isPositive_of_observedMinutes {α : Type} [Arithmetic α] {dataCount : List (Series α)}
    {minutes : α} (h : observedMinutes? dataCount = some minutes) :
    Arithmetic.isPositive minutes = true := by
  unfold observedMinutes? at h
  split at h
  · cases h
  · split at h
    · split at h
      · next hp => exact Option.some.inj h ▸ hp
      · cases h
    · cases h

theorem dataMinutes_notNegative (h : start.Before finish) (dataCount : List (Series Float)) :
    ∃ minutes, dataMinutes? dataCount start finish = some minutes ∧ NotNegative minutes := by
  obtain ⟨hours, hh, hr⟩ := hoursBetween_reaches h
  unfold dataMinutes?
  cases ho : observedMinutes? dataCount with
  | none =>
    rw [hh]
    exact ⟨_, rfl, notNegative_mul_sixty hr.notNegative⟩
  | some minutes =>
    have hp : 0 < minutes := of_decide_eq_true (isPositive_of_observedMinutes ho)
    exact ⟨minutes, rfl, notNegative_of_pos hp⟩

theorem isNonpositive_of_billedHours {α : Type} [Arithmetic α] {dataHours hours : α}
    (h : billedHours start finish dataHours = .ok hours) :
    Arithmetic.isNonpositive hours = false := by
  unfold billedHours at h
  dsimp only at h
  split at h
  · cases h
  · split at h
    · cases h
    · next hp => exact Except.ok.inj h ▸ Bool.not_eq_true _ ▸ hp

theorem billedHours_ok (h : start.Before finish) {dataHours : Float} (hd : NotNegative dataHours) :
    ∃ hours, billedHours start finish dataHours = .ok hours := by
  obtain ⟨window, hw, hr⟩ := hoursBetween_reaches h
  unfold billedHours
  by_cases h0 : Arithmetic.isZero dataHours
  · have hp : Arithmetic.isNonpositive window = false := decide_eq_false hr.not_nonpositive
    exact ⟨window, by simp only [h0, if_true, hw, hp, Bool.false_eq_true, if_false]⟩
  · have hp : Arithmetic.isNonpositive dataHours = false :=
      decide_eq_false (not_nonpositive_of_notNegative hd (Bool.not_eq_true _ ▸ h0))
    exact ⟨dataHours, by simp only [h0, hp, Bool.false_eq_true, if_false]⟩

/-- The hours of the data are never refused as a divisor. -/
theorem dataHours_billed (h : start.Before finish) (dataCount : List (Series Float)) :
    ∃ minutes hours, dataMinutes? dataCount start finish = some minutes ∧
      billedHours start finish (minutes / Arithmetic.ofNat minutesPerHour) = .ok hours := by
  obtain ⟨minutes, hm, hn⟩ := dataMinutes_notNegative h dataCount
  obtain ⟨hours, hh⟩ := billedHours_ok h (notNegative_div_sixty hn)
  exact ⟨minutes, hours, hm, hh⟩

theorem bills_eq_mapM {α : Type} [Arithmetic α] {answers : Answers α} {minutes : α}
    {fallback : Text} {discounts : Discounts α}
    (hm : dataMinutes? (answers.of "data_count") start finish = some minutes) :
    bills answers start finish fallback discounts =
      (tallies answers fallback discounts).mapM (billCluster answers start finish fallback
        (minutes / Arithmetic.ofNat minutesPerHour)) := by
  rw [bills, hm]

/-- A window in which time passes is billed, whatever was answered. -/
theorem bills_ok (h : start.Before finish) (answers : Answers Float) (fallback : Text)
    (discounts : Discounts Float) :
    ∃ table, bills answers start finish fallback discounts = .ok table := by
  obtain ⟨minutes, hours, hm, hh⟩ := dataHours_billed h (answers.of "data_count")
  rw [bills_eq_mapM hm]
  apply Table.mapM_ok
  intro clusterId tally
  unfold billCluster Bill.ofCosts
  rw [hh]
  exact ⟨_, rfl⟩

end
end ClusterBilling
