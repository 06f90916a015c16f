import ClusterBilling.Proofs.Prometheus.Reading
import ClusterBilling.Report.Inquiry

/-!
The bodies at which the reading of an answer breaks off. Every other body is read, or it is a fault
of the query that is told and counted as such.
-/
namespace ClusterBilling.Prometheus

/-- The metric of a series can be read as labels. -/
def Labelled (series : Json) : Prop :=
  ∀ metric, series.member? "metric" = some metric →
    metric.isNothing = true ∨ ∃ members, metric = .object members

/-- A value that no items can be taken from. -/
def HasNoItems : Json → Prop
  | .bool _ | .integer _ | .float _ => True
  | _ => False

/-- A series with labels of which every sample can be read. -/
inductive SeriesReads : ResultType → Json → Prop where
  | vector {members : List (Text × Json)} : Labelled (.object members) →
    (∀ raw, (Json.object members).member? "value" = some raw → SampleReads raw) →
    SeriesReads .vector (.object members)
  | matrix {members : List (Text × Json)} : Labelled (.object members) →
    (∀ values, (Json.object members).member? "values" = some values →
      values.isNothing = true ∨ ∃ items, values = .array items ∧ ∀ raw ∈ items, SampleReads raw) →
    SeriesReads .matrix (.object members)

/-- A series with labels of which a sample breaks, or that has a number for its samples. -/
inductive SeriesBreaks : ResultType → Json → Prop where
  | value {members : List (Text × Json)} {raw : Json} : Labelled (.object members) →
    (Json.object members).member? "value" = some raw → SampleBreaks raw →
    SeriesBreaks .vector (.object members)
  | noItems {members : List (Text × Json)} {values : Json} : Labelled (.object members) →
    (Json.object members).member? "values" = some values → values.isNothing = false →
    HasNoItems values → SeriesBreaks .matrix (.object members)
  | values {members : List (Text × Json)} {items : List Json} : Labelled (.object members) →
    (Json.object members).member? "values" = some (.array items) →
    FirstFault SampleReads SampleBreaks items → SeriesBreaks .matrix (.object members)

theorem breaksOff_samples_iff (items : List Json) :
    BreaksOff (readAll readSample items) ↔ FirstFault SampleReads SampleBreaks items := by
  simp only [breaksOff_readAll_iff, reads_readSample_iff, breaksOff_readSample_iff]

theorem reads_samples_iff (items : List Json) :
    Reads (readAll readSample items) ↔ ∀ raw ∈ items, SampleReads raw := by
  simp only [reads_readAll_iff, reads_readSample_iff]

theorem readLabels_cases (series : Json) :
    Labelled series ∧ (∃ labels, readLabels series = .ok labels) ∨
      ¬ Labelled series ∧ readLabels series = .error (.malformed .metricNotAnObject) := by
  unfold readLabels Labelled
  cases series.member? "metric" with
  | none => exact .inl ⟨nofun, _, rfl⟩
  | some metric =>
    by_cases hn : metric.isNothing = true
    · exact .inl ⟨fun m hm => .inl (Option.some.inj hm ▸ hn), _, if_pos hn⟩
    · cases metric with
      | object members =>
        exact .inl ⟨fun m hm => .inr ⟨members, (Option.some.inj hm).symm⟩, _, if_neg hn⟩
      | _ =>
        refine .inr ⟨fun h => ?_, if_neg hn⟩
        obtain h | ⟨members, h⟩ := h _ rfl
        · exact hn h
        · cases h

/-- Without labels a series is malformed; with them its samples decide. -/
theorem readSeries_object (type : ResultType) (members : List (Text × Json)) :
    (Reads (readSeries type (.object members)) ↔ Labelled (.object members) ∧
      ∃ raw, rawSamples type (.object members) = .ok raw ∧ ∀ v ∈ raw, SampleReads v) ∧
    (BreaksOff (readSeries type (.object members)) ↔ Labelled (.object members) ∧
      (BreaksOff (rawSamples type (.object members)) ∨
        ∃ raw, rawSamples type (.object members) = .ok raw ∧
          FirstFault SampleReads SampleBreaks raw)) := by
  rw [readSeries]
  obtain ⟨hl, labels, hr⟩ | ⟨hl, hr⟩ := readLabels_cases (.object members)
  · rw [hr]
    cases hs : rawSamples type (.object members) with
    | ok raw => simp [hl, reads_samples_iff, breaksOff_samples_iff]
    | error e => cases e <;> simp [hl]
  · simp [hr, hl]

theorem not_sampleReads_string (s : Text) : ¬ SampleReads (.string s) := nofun

theorem not_sampleBreaks_string (s : Text) : ¬ SampleBreaks (.string s) := nofun

/-- What is not nothing is a list, has no items, or has texts for its items. -/
theorem itemsOf_cases {values : Json} (hn : values.isNothing = false) :
    (∃ items, values = .array items) ∨
    (HasNoItems values ∧ BreaksOff (itemsOf values)) ∨
    ((∀ items, values ≠ .array items) ∧ ¬ HasNoItems values ∧
      ∃ s items, itemsOf values = .ok (.string s :: items)) := by
  cases values with
  | null => cases hn
  | bool | integer | float => exact .inr (.inl ⟨trivial, breaksOff_broken _⟩)
  | array items => exact .inl ⟨items, rfl⟩
  | string s =>
    obtain ⟨points⟩ := s
    cases points with
    | nil => cases hn
    | cons p ps => exact .inr (.inr ⟨nofun, nofun, _, _, rfl⟩)
  | object members =>
    cases members with
    | nil => cases hn
    | cons m ms => exact .inr (.inr ⟨nofun, nofun, _, _, rfl⟩)

/-- The samples of a matrix are nothing, or a list of samples. -/
theorem matrix_reads_iff (series : Json) :
    (∃ raw, rawSamples .matrix series = .ok raw ∧ ∀ v ∈ raw, SampleReads v) ↔
      ∀ values, series.member? "values" = some values → values.isNothing = true ∨
        ∃ items, values = .array items ∧ ∀ raw ∈ items, SampleReads raw := by
  unfold rawSamples
  cases series.member? "values" with
  | none => simp
  | some values =>
    simp only [Option.some.injEq, forall_eq']
    by_cases hn : values.isNothing = true
    · simp [hn]
    · simp only [hn, false_or, Bool.false_eq_true, if_false]
      obtain ⟨items, rfl⟩ | ⟨hv, failure, hf⟩ | ⟨ha, -, s, items, hs⟩ :=
        itemsOf_cases (Bool.not_eq_true _ ▸ hn)
      · simp [itemsOf]
      · refine iff_of_false (by simp [hf]) ?_
        rintro ⟨items, rfl, -⟩
        exact hv
      · simp [hs, ha, not_sampleReads_string]

/-- The samples of a matrix break off if they are a number, or at a sample. -/
theorem matrix_breaksOff_iff (series : Json) :
    (BreaksOff (rawSamples .matrix series) ∨ ∃ raw, rawSamples .matrix series = .ok raw ∧
        FirstFault SampleReads SampleBreaks raw) ↔
      ∃ values, series.member? "values" = some values ∧ (values.isNothing = false ∧
        HasNoItems values ∨ ∃ items, values = .array items ∧
          FirstFault SampleReads SampleBreaks items) := by
  unfold rawSamples
  cases series.member? "values" with
  | none => simp [show ¬ FirstFault SampleReads SampleBreaks [] from nofun]
  | some values =>
    simp only [Option.some.injEq, exists_eq_left']
    by_cases hn : values.isNothing = true
    · simp only [hn, if_true]
      refine iff_of_false ?_ ?_
      · rintro (h | ⟨raw, hr, hf⟩)
        · exact not_breaksOff_ok _ h
        · cases hr
          cases hf
      · rintro (⟨h, -⟩ | ⟨items, rfl, hf⟩)
        · cases h
        · cases hf <;> cases hn
    · simp only [hn, Bool.false_eq_true, if_false]
      obtain ⟨items, rfl⟩ | ⟨hv, failure, hf⟩ | ⟨ha, hv, s, items, hs⟩ :=
        itemsOf_cases (Bool.not_eq_true _ ▸ hn)
      · simp [itemsOf, HasNoItems]
      · simp [hf, hv]
      · have hfirst : ¬ FirstFault SampleReads SampleBreaks (.string s :: items) := by
          rintro (h | ⟨h, -⟩)
          · exact not_sampleBreaks_string s h
          · exact not_sampleReads_string s h
        simp [hs, ha, hv, hfirst]

theorem reads_readSeries_iff (type : ResultType) (series : Json) :
    Reads (readSeries type series) ↔ SeriesReads type series := by
  cases series with
  | object members =>
    rw [(readSeries_object type members).1]
    cases type with
    | vector =>
      constructor
      · rintro ⟨hl, raw, hr, hs⟩
        cases hr
        exact .vector hl fun v hv => hs v (by rw [hv]; exact List.mem_singleton_self v)
      · rintro (⟨hl, hs⟩ | _)
        exact ⟨hl, _, rfl, fun v hv => hs v (Option.mem_toList.mp hv)⟩
    | matrix =>
      rw [matrix_reads_iff]
      constructor
      · rintro ⟨hl, hs⟩
        exact .matrix hl hs
      · rintro (_ | ⟨hl, hs⟩)
        exact ⟨hl, hs⟩
  | _ => exact iff_of_false (not_reads_error _) nofun

theorem breaksOff_readSeries_iff (type : ResultType) (series : Json) :
    BreaksOff (readSeries type series) ↔ SeriesBreaks type series := by
  cases series with
  | object members =>
    rw [(readSeries_object type members).2]
    cases type with
    | vector =>
      constructor
      · rintro ⟨hl, hb | ⟨raw, hr, hf⟩⟩
        · exact absurd hb (not_breaksOff_ok _)
        · cases hr
          cases hv : (Json.object members).member? "value" with
          | none => rw [hv] at hf; cases hf
          | some v =>
            rw [hv] at hf
            cases hf with
            | here hb => exact .value hl hv hb
            | later _ hf => cases hf
      · rintro (⟨hl, hv, hb⟩ | _ | _)
        exact ⟨hl, .inr ⟨_, rfl, by rw [hv]; exact .here hb⟩⟩
    | matrix =>
      rw [matrix_breaksOff_iff]
      constructor
      · rintro ⟨hl, values, hv, ⟨hn, hi⟩ | ⟨items, rfl, hf⟩⟩
        · exact .noItems hl hv hn hi
        · exact .values hl hv hf
      · rintro (_ | ⟨hl, hv, hn, hi⟩ | ⟨hl, hv, hf⟩)
        · exact ⟨hl, _, hv, .inl ⟨hn, hi⟩⟩
        · exact ⟨hl, _, hv, .inr ⟨_, rfl, hf⟩⟩
  | _ => exact iff_of_false (not_breaksOff_malformed _) nofun

theorem breaksOff_seriesList_iff (type : ResultType) (items : List Json) :
    BreaksOff (readAll (readSeries type) items) ↔
      FirstFault (SeriesReads type) (SeriesBreaks type) items := by
  simp only [breaksOff_readAll_iff, reads_readSeries_iff, breaksOff_readSeries_iff]

theorem breaksOff_readResult_iff (type : ResultType) (result : Json) :
    BreaksOff (readResult type result) ↔ ∃ items, result = .array items ∧
      FirstFault (SeriesReads type) (SeriesBreaks type) items := by
  cases result with
  | array items => simp [readResult, breaksOff_seriesList_iff]
  | _ => simp [readResult]

/-- The text that names the form of a result. -/
def ResultType.word : ResultType → Text
  | vector => "vector"
  | matrix => "matrix"

/-- A body that tells of success and holds data whose result is of that type. -/
def Carries (body data : Json) (type : Text) : Prop :=
  body.member? "status" = some (.string "success") ∧ body.member? "data" = some data ∧
    data.member? "resultType" = some (.string type)

/-- A scalar that breaks, or a list of series of which the first that is at fault does. -/
inductive AnswerBreaks : Json → Prop where
  | scalar {body data raw : Json} : Carries body data "scalar" →
    data.member? "result" = some raw → SampleBreaks raw → AnswerBreaks body
  | series {body data : Json} {type : ResultType} {items : List Json} :
    Carries body data type.word → data.member? "result" = some (.array items) →
    FirstFault (SeriesReads type) (SeriesBreaks type) items → AnswerBreaks body

theorem isText_getD_iff (v? : Option Json) (text : Text) :
    (v?.getD .null).isText text = true ↔ v? = some (.string text) := by
  cases v? with
  | none => exact iff_of_false nofun nofun
  | some v => cases v <;> simp [Json.isText]

theorem getD_null_iff {p : Json → Prop} (hp : ¬ p .null) (v? : Option Json) :
    p (v?.getD .null) ↔ ∃ v, v? = some v ∧ p v := by
  cases v? with
  | none => exact iff_of_false hp nofun
  | some v => simp

theorem ResultType.word_inj {type type' : ResultType} (h : type.word = type'.word) :
    type = type' := by
  revert h
  cases type <;> cases type' <;> decide

theorem ResultType.word_ne_scalar (type : ResultType) : type.word ≠ "scalar" := by
  cases type <;> decide

theorem readData_scalar {data : Json}
    (h : data.member? "resultType" = some (.string "scalar")) :
    readData data =
      (readSample ((data.member? "result").getD .null)).map fun s => [⟨∅, [s]⟩] := by
  unfold readData
  simp only [isText_getD_iff, h, if_true]

theorem readData_series {data : Json} {type : ResultType}
    (h : data.member? "resultType" = some (.string type.word)) :
    readData data = readResult type ((data.member? "result").getD .null) := by
  unfold readData
  simp only [isText_getD_iff, h, Option.some.injEq, Json.string.injEq]
  cases type <;> rfl

theorem readData_other {data : Json}
    (hs : data.member? "resultType" ≠ some (.string "scalar"))
    (ht : ∀ type : ResultType, data.member? "resultType" ≠ some (.string type.word)) :
    ∃ cause, readData data = .error (.malformed cause) := by
  have hv : data.member? "resultType" ≠ some (.string "vector") := ht .vector
  have hm : data.member? "resultType" ≠ some (.string "matrix") := ht .matrix
  rw [Ne, ← isText_getD_iff] at hs hv hm
  exact ⟨_, by rw [readData, if_neg hs, if_neg hv, if_neg hm]⟩

theorem breaksOff_readData_iff (data : Json) : BreaksOff (readData data) ↔
    (data.member? "resultType" = some (.string "scalar") ∧
      ∃ raw, data.member? "result" = some raw ∧ SampleBreaks raw) ∨
    ∃ type : ResultType, data.member? "resultType" = some (.string type.word) ∧
      ∃ items, data.member? "result" = some (.array items) ∧
        FirstFault (SeriesReads type) (SeriesBreaks type) items := by
  by_cases hs : data.member? "resultType" = some (.string "scalar")
  · rw [readData_scalar hs, breaksOff_map, breaksOff_readSample_iff,
      getD_null_iff (p := SampleBreaks) nofun]
    refine ⟨fun h => .inl ⟨hs, h⟩, ?_⟩
    rintro (⟨-, h⟩ | ⟨type, ht, -⟩)
    · exact h
    · cases type.word_ne_scalar (Json.string.inj (Option.some.inj (ht.symm.trans hs)))
  · by_cases ht : ∃ type : ResultType, data.member? "resultType" = some (.string type.word)
    · obtain ⟨type, ht⟩ := ht
      rw [readData_series ht,
        getD_null_iff (p := fun v => BreaksOff (readResult type v)) (not_breaksOff_ok _)]
      simp only [breaksOff_readResult_iff]
      constructor
      · rintro ⟨_, hr, items, rfl, hf⟩
        exact .inr ⟨type, ht, items, hr, hf⟩
      · rintro (⟨h, -⟩ | ⟨type', ht', items, hr, hf⟩)
        · exact absurd h hs
        · obtain rfl : type = type' :=
            ResultType.word_inj (Json.string.inj (Option.some.inj (ht.symm.trans ht')))
          exact ⟨_, hr, items, rfl, hf⟩
    · rw [not_exists] at ht
      obtain ⟨cause, hc⟩ := readData_other hs ht
      rw [hc]
      refine iff_of_false (not_breaksOff_malformed cause) ?_
      rintro (⟨h, -⟩ | ⟨type, h, -⟩)
      · exact hs h
      · exact ht type h

/-- A body without the word of success or without data is malformed. -/
theorem readAnswer_cases (body : Json) :
    (∃ data, body.member? "status" = some (.string "success") ∧
      body.member? "data" = some data ∧ readAnswer body = readData data) ∨
    (∃ cause, readAnswer body = .error (.malformed cause)) ∧
      ¬ ∃ data type, Carries body data type := by
  cases body with
  | object members =>
    rw [readAnswer]
    by_cases hs : (Json.object members).member? "status" = some (.string "success")
    · rw [if_pos ((isText_getD_iff ..).mpr hs)]
      cases hd : (Json.object members).member? "data" with
      | none => exact .inr ⟨⟨_, rfl⟩, by rintro ⟨data, type, -, h, -⟩; cases hd.symm.trans h⟩
      | some data =>
        cases data with
        | object ms => exact .inl ⟨_, hs, rfl, rfl⟩
        | _ =>
          refine .inr ⟨⟨_, rfl⟩, ?_⟩
          rintro ⟨data, type, -, h, ht⟩
          cases hd.symm.trans h
          cases ht
    · rw [if_neg ((isText_getD_iff ..).not.mpr hs)]
      exact .inr ⟨⟨_, rfl⟩, by rintro ⟨data, type, h, -⟩; exact hs h⟩
  | _ => exact .inr ⟨⟨_, rfl⟩, by rintro ⟨data, type, h, -⟩; cases h⟩

/-- The reading of a body breaks off just at these. -/
theorem breaksOff_readAnswer_iff (body : Json) :
    BreaksOff (readAnswer body) ↔ AnswerBreaks body := by
  obtain ⟨data, hs, hd, hr⟩ | ⟨⟨cause, hc⟩, hn⟩ := readAnswer_cases body
  · rw [hr, breaksOff_readData_iff]
    constructor
    · rintro (⟨ht, raw, hr, hb⟩ | ⟨type, ht, items, hr, hf⟩)
      · exact .scalar ⟨hs, hd, ht⟩ hr hb
      · exact .series ⟨hs, hd, ht⟩ hr hf
    · rintro (⟨⟨-, hd', ht⟩, hr, hb⟩ | ⟨⟨-, hd', ht⟩, hr, hf⟩) <;> cases hd.symm.trans hd'
      · exact .inl ⟨ht, _, hr, hb⟩
      · exact .inr ⟨_, ht, _, hr, hf⟩
  · rw [hc]
    refine iff_of_false (not_breaksOff_malformed cause) ?_
    rintro (⟨h, -, -⟩ | ⟨h, -, -⟩) <;> exact hn ⟨_, _, h⟩

/-- The series of a body are those of its query; or the body is malformed, which is a fault of the
query by its text, and counted as one of reading. -/
def Told (body : Json) (q : NamedQuery) (s : Settled) : Prop :=
  (∃ series, readAnswer body = .ok series ∧ s.outcome = .ok series) ∨
  ∃ cause, readAnswer body = .error (.malformed cause) ∧
    s.outcome = .error (.query ⟨.parse, cause.message, q.2.text, ""⟩) ∧
    ∀ m : Metrics, (s.record m).failures = Metrics.countFailure ⟨q.1, "parse"⟩ m.failures

/-- A body is told by its query unless the reading breaks off at it. -/
theorem told_iff_not_answerBreaks (body : Json) (q : NamedQuery) (rounds : ℕ) (elapsed : Float)
    (events : List Event) :
    Told body q (settle (fun _ => ⟨.ok body, rounds, elapsed, events⟩) q).1 ↔
      ¬ AnswerBreaks body := by
  rw [← breaksOff_readAnswer_iff]
  constructor
  · rintro (⟨series, hr, -⟩ | ⟨cause, hr, -⟩)
    · rw [hr]
      exact not_breaksOff_ok series
    · rw [hr]
      exact not_breaksOff_malformed cause
  · intro hb
    cases hr : readAnswer body with
    | ok series => exact .inl ⟨series, hr, by rw [settle_eq, Response.settled, readBody, hr]⟩
    | error e =>
      cases e with
      | broken failure => exact absurd ⟨failure, hr⟩ hb
      | malformed cause =>
        have ho : (settle (fun _ => ⟨.ok body, rounds, elapsed, events⟩) q).1.outcome =
            .error (.query ⟨.parse, cause.message, q.2.text, ""⟩) := by
          rw [settle_eq, Response.settled, readBody, hr]
          rfl
        refine .inr ⟨cause, hr, ho, fun m => ?_⟩
        rw [Settled.record, Settled.fault?, ho]
        rfl

/-- The samples of a matrix are a number. -/
theorem not_told_number :
    ¬ Told (.object [("status", .string "success"),
        ("data", .object [("resultType", .string "matrix"),
          ("result", .array [.object [("metric", .object []), ("values", .integer 5)]])])])
      ("cpu", ⟨"up", none⟩)
      (settle (fun _ => ⟨.ok (.object [("status", .string "success"),
        ("data", .object [("resultType", .string "matrix"),
          ("result", .array [.object [("metric", .object []), ("values", .integer 5)]])])]),
        0, 0, []⟩) ("cpu", ⟨"up", none⟩)).1 := by
  rintro (⟨series, hr, -⟩ | ⟨cause, hr, -⟩) <;> cases hr

end ClusterBilling.Prometheus
