import ClusterBilling.Proofs.Decimal.Overflow
import ClusterBilling.Prometheus.Answer

/-!
Which samples and series can be read, and at which the reading breaks off instead of telling that
the answer is malformed.
-/
namespace ClusterBilling.Prometheus

/-- The reading ends with a value. -/
def Reads {α : Type} (r : Except AnswerError α) : Prop := ∃ x, r = .ok x

/-- The reading breaks off. -/
def BreaksOff {α : Type} (r : Except AnswerError α) : Prop :=
  ∃ failure, r = .error (.broken failure)

section
variable {α : Type}

@[simp] theorem reads_ok (x : α) : Reads (.ok x) := ⟨x, rfl⟩

@[simp] theorem not_reads_error (e : AnswerError) : ¬ Reads (.error e : Except AnswerError α) := by
  rintro ⟨x, hx⟩
  cases hx

@[simp] theorem breaksOff_broken (failure : ReadingFailure) :
    BreaksOff (.error (.broken failure) : Except AnswerError α) := ⟨failure, rfl⟩

@[simp] theorem not_breaksOff_ok (x : α) : ¬ BreaksOff (.ok x) := by
  rintro ⟨failure, hx⟩
  cases hx

@[simp] theorem not_breaksOff_malformed (cause : Malformed) :
    ¬ BreaksOff (.error (.malformed cause) : Except AnswerError α) := by
  rintro ⟨failure, hx⟩
  cases hx

@[simp] theorem reads_map {β : Type} (f : α → β) (r : Except AnswerError α) :
    Reads (r.map f) ↔ Reads r := by
  cases r <;> simp [Except.map]

@[simp] theorem breaksOff_map {β : Type} (f : α → β) (r : Except AnswerError α) :
    BreaksOff (r.map f) ↔ BreaksOff r := by
  cases r with
  | ok x => simp [Except.map]
  | error e => cases e <;> simp [Except.map]

end

/-- A list of which the first item that is not `good` is `bad`. -/
inductive FirstFault (good bad : Json → Prop) : List Json → Prop where
  | here {v : Json} {items : List Json} : bad v → FirstFault good bad (v :: items)
  | later {v : Json} {items : List Json} :
    good v → FirstFault good bad items → FirstFault good bad (v :: items)

section
variable {α : Type} (read : Json → Except AnswerError α)

theorem reads_readAll_iff (items : List Json) :
    Reads (readAll read items) ↔ ∀ v ∈ items, Reads (read v) := by
  induction items with
  | nil => simp [readAll]
  | cons v items ih =>
    rw [readAll, List.forall_mem_cons, ← ih]
    cases read v <;> simp

theorem breaksOff_readAll_iff (items : List Json) : BreaksOff (readAll read items) ↔
    FirstFault (fun v => Reads (read v)) (fun v => BreaksOff (read v)) items := by
  induction items with
  | nil => exact iff_of_false (not_breaksOff_ok _) nofun
  | cons v items ih =>
    rw [readAll]
    cases hv : read v with
    | ok x =>
      rw [breaksOff_map, ih]
      refine ⟨fun h => .later (by simp [hv]) h, fun h => ?_⟩
      cases h with
      | here hb => simp [hv] at hb
      | later _ h => exact h
    | error e =>
      constructor
      · rintro ⟨failure, he⟩
        cases he
        exact .here (by simp [hv])
      · intro h
        cases h with
        | here hb =>
          obtain ⟨failure, he⟩ := hb
          cases hv.symm.trans he
          exact breaksOff_broken failure
        | later hr _ => simp [hv] at hr

end

/-- An integer beyond the finite floating-point numbers. -/
def Oversized (v : Json) : Prop := ∃ n : ℤ, v = .integer n ∧ Decimal.overflowBound ≤ n.natAbs

/-- A value that stands for a number. -/
def IsNumber (v : Json) : Prop := ∃ x, numeric v = .number x

theorem numeric_eq_tooLarge_iff (v : Json) : numeric v = .tooLarge ↔ Oversized v := by
  constructor
  · intro h
    unfold numeric at h
    split at h
    · cases h
    · next n =>
      split at h
      · cases h
      · next hn => exact ⟨n, rfl, (Decimal.nearestInt?_eq_none_iff n).mp hn⟩
    · cases h
    · split at h <;> cases h
    · cases h
  · rintro ⟨n, rfl, hn⟩
    rw [numeric, (Decimal.nearestInt?_eq_none_iff n).mpr hn]

/-- A time and a value that are numbers. -/
inductive SampleReads : Json → Prop where
  | mk {time value : Json} : IsNumber time → IsNumber value → SampleReads (.array [time, value])

/-- A time or a value that is too large, with nothing at fault before it. -/
inductive SampleBreaks : Json → Prop where
  | time {time value : Json} : Oversized time → SampleBreaks (.array [time, value])
  | value {time value : Json} :
    IsNumber time → Oversized value → SampleBreaks (.array [time, value])

theorem readSample_of_not_pair {raw : Json} (h : ∀ time value, raw ≠ .array [time, value]) :
    readSample raw = .error (.malformed (.malformedSample raw)) := by
  unfold readSample
  split
  · next time value => exact absurd rfl (h time value)
  · rfl

theorem reads_readSample_iff (raw : Json) : Reads (readSample raw) ↔ SampleReads raw := by
  by_cases h : ∃ time value, raw = .array [time, value]
  · obtain ⟨time, value, rfl⟩ := h
    have hs : SampleReads (.array [time, value]) ↔ IsNumber time ∧ IsNumber value :=
      ⟨fun h => by cases h with | mk ht hv => exact ⟨ht, hv⟩, fun h => .mk h.1 h.2⟩
    rw [hs]
    simp only [readSample, IsNumber]
    cases numeric time <;> cases numeric value <;> simp
  · simp only [not_exists] at h
    rw [readSample_of_not_pair h]
    exact iff_of_false (not_reads_error _) fun hs => by cases hs; exact h _ _ rfl

theorem breaksOff_readSample_iff (raw : Json) : BreaksOff (readSample raw) ↔ SampleBreaks raw := by
  by_cases h : ∃ time value, raw = .array [time, value]
  · obtain ⟨time, value, rfl⟩ := h
    have hs : SampleBreaks (.array [time, value]) ↔
        numeric time = .tooLarge ∨ IsNumber time ∧ numeric value = .tooLarge := by
      rw [numeric_eq_tooLarge_iff, numeric_eq_tooLarge_iff]
      refine ⟨fun h => ?_, fun h => h.elim .time fun h => .value h.1 h.2⟩
      cases h with
      | time ht => exact .inl ht
      | value ht hv => exact .inr ⟨ht, hv⟩
    rw [hs]
    simp only [readSample, IsNumber]
    cases numeric time <;> cases numeric value <;> simp
  · simp only [not_exists] at h
    rw [readSample_of_not_pair h]
    exact iff_of_false (not_breaksOff_malformed _) fun hs => by cases hs <;> exact h _ _ rfl

end ClusterBilling.Prometheus
