import ClusterBilling.Proofs.Json.Decoded
import ClusterBilling.Proofs.Prometheus.Breakage
import ClusterBilling.Proofs.Table

/-!
What the body of an answer lists. A body is read just if all that it lists is well formed, and then
as the series that it lists; and any series can be listed.
-/
namespace ClusterBilling.Prometheus

/-- The raw sample is a time and a value as numbers, and the sample has these. -/
inductive SampleGives : Json → Sample Float → Prop where
  | mk {time value : Json} {t v : Float} : numeric time = .number t → numeric value = .number v →
    SampleGives (.array [time, value]) ⟨t, v⟩

/-- There is a label for each member of the metric, in their order and with their texts; without a
metric, or with one that counts as nothing, there are none. -/
inductive LabelsGive (series : Json) : Table Text → Prop where
  | missing : series.member? "metric" = none → LabelsGive series ∅
  | nothing {metric : Json} : series.member? "metric" = some metric → metric.isNothing = true →
    LabelsGive series ∅
  | members {members : List (Text × Json)} {labels : Table Text} :
    series.member? "metric" = some (.object members) →
    labels.entries = members.map (fun m => (m.1, m.2.plainText)) → LabelsGive series labels

/-- The raw samples that a series holds: at most one in a vector, and in a matrix a list of any
length, which may be missing or count as nothing. -/
inductive Holds : ResultType → Json → List Json → Prop where
  | noValue {series : Json} : series.member? "value" = none → Holds .vector series []
  | value {series raw : Json} : series.member? "value" = some raw → Holds .vector series [raw]
  | noValues {series : Json} :
    (∀ values, series.member? "values" = some values → values.isNothing = true) →
    Holds .matrix series []
  | values {series : Json} {raw : List Json} : series.member? "values" = some (.array raw) →
    Holds .matrix series raw

/-- The object is of that form, and gives just this series. -/
inductive SeriesGives (type : ResultType) : Json → Series Float → Prop where
  | mk {members : List (Text × Json)} {labels : Table Text} {raw : List Json}
    {samples : List (Sample Float)} : LabelsGive (.object members) labels →
    Holds type (.object members) raw → List.Forall₂ SampleGives raw samples →
    SeriesGives type (.object members) ⟨labels, samples⟩

/-- A result that is missing or null. -/
def NoResult (data : Json) : Prop :=
  ∀ result, data.member? "result" = some result → result = .null

/-- The body lists these series, one after the other. -/
inductive Lists : Json → List (Series Float) → Prop where
  | nothing {body data : Json} {type : ResultType} : Carries body data type.word →
    NoResult data → Lists body []
  | series {body data : Json} {type : ResultType} {items : List Json}
    {series : List (Series Float)} : Carries body data type.word →
    data.member? "result" = some (.array items) → List.Forall₂ (SeriesGives type) items series →
    Lists body series

/-- The body tells of success and has data with series, all of which can be read. -/
inductive Acceptable : Json → Prop where
  | nothing {body data : Json} {type : ResultType} : Carries body data type.word →
    NoResult data → Acceptable body
  | series {body data : Json} {type : ResultType} {items : List Json} :
    Carries body data type.word → data.member? "result" = some (.array items) →
    (∀ series ∈ items, SeriesReads type series) → Acceptable body

theorem readAll_eq_ok_iff {α : Type} (read : Json → Except AnswerError α) (items : List Json)
    (xs : List α) :
    readAll read items = .ok xs ↔ List.Forall₂ (fun v x => read v = .ok x) items xs := by
  induction items generalizing xs with
  | nil => cases xs <;> simp [readAll]
  | cons v items ih =>
    rw [readAll]
    cases hv : read v with
    | error e => cases xs <;> simp [hv]
    | ok x =>
      cases hr : readAll read items with
      | error e => cases xs <;> simp [Except.map, hv, ← ih, hr]
      | ok ys => cases xs <;> simp [Except.map, hv, ← ih, hr]

theorem readSample_eq_ok_iff (raw : Json) (s : Sample Float) :
    readSample raw = .ok s ↔ SampleGives raw s := by
  constructor
  · intro h
    unfold readSample at h
    split at h
    · split at h
      · cases h
      · cases h
      · split at h
        · cases h
        · cases h
        · cases h
          exact .mk ‹_› ‹_›
    · cases h
  · rintro ⟨ht, hv⟩
    simp only [readSample, ht, hv]

theorem readSamples_eq_ok_iff (raw : List Json) (samples : List (Sample Float)) :
    readAll readSample raw = .ok samples ↔ List.Forall₂ SampleGives raw samples := by
  simp only [readAll_eq_ok_iff, readSample_eq_ok_iff]

theorem readLabels_eq_ok_iff {series : Json} (hd : series.Distinct) (labels : Table Text) :
    readLabels series = .ok labels ↔ LabelsGive series labels := by
  unfold readLabels
  cases hm : series.member? "metric" with
  | none =>
    constructor
    · intro h
      cases h
      exact .missing hm
    · rintro (_ | ⟨h, -⟩ | ⟨h, -⟩)
      · rfl
      · cases hm.symm.trans h
      · cases hm.symm.trans h
  | some metric =>
    by_cases hn : metric.isNothing = true
    · simp only [hn, if_true]
      constructor
      · intro h
        cases h
        exact .nothing hm hn
      · rintro (h | _ | ⟨h, he⟩)
        · cases hm.symm.trans h
        · rfl
        · -- an object that counts as nothing has no members
          cases hm.symm.trans h
          rw [List.isEmpty_iff.mp hn] at he
          exact congrArg Except.ok (Table.eq_of_entries he).symm
    · simp only [hn, Bool.false_eq_true, if_false]
      cases metric with
      | object members =>
        have he : (Table.ofList (members.map fun m => (m.1, m.2.plainText))).entries =
            members.map fun m => (m.1, m.2.plainText) := by
          apply Table.entries_ofList
          rw [List.map_map]
          exact (hd.of_member hm).names_nodup
        constructor
        · intro h
          cases h
          exact .members hm he
        · rintro (h | ⟨h, h'⟩ | ⟨h, h'⟩)
          · cases hm.symm.trans h
          · cases hm.symm.trans h
            exact absurd h' hn
          · cases hm.symm.trans h
            exact congrArg Except.ok (Table.eq_of_entries (he.trans h'.symm))
      | _ =>
        refine iff_of_false nofun ?_
        rintro (h | ⟨h, h'⟩ | ⟨h, -⟩)
        · cases hm.symm.trans h
        · cases hm.symm.trans h
          exact hn h'
        · cases hm.symm.trans h

theorem not_sampleGives_string (s : Text) (sample : Sample Float) :
    ¬ SampleGives (.string s) sample :=
  nofun

theorem rawSamples_of_holds {type : ResultType} {series : Json} {raw : List Json}
    (h : Holds type series raw) : rawSamples type series = .ok raw := by
  cases h with
  | noValue hv => rw [rawSamples, hv]; rfl
  | value hv => rw [rawSamples, hv]; rfl
  | noValues hv =>
    unfold rawSamples
    cases hm : series.member? "values" with
    | none => rfl
    | some values => exact if_pos (hv values hm)
  | values hv =>
    simp only [rawSamples, hv]
    split_ifs with hn
    · rw [List.isEmpty_iff.mp hn]
    · rfl

/-- Besides the raw samples that it holds a series may have the items of a text or of an object for
them, which are texts. -/
theorem holds_or_string_of_rawSamples {type : ResultType} {series : Json} {raw : List Json}
    (h : rawSamples type series = .ok raw) :
    Holds type series raw ∨ ∃ s items, raw = .string s :: items := by
  cases type with
  | vector =>
    obtain rfl := Except.ok.inj h
    cases hv : series.member? "value" with
    | none => exact .inl (.noValue hv)
    | some value => exact .inl (.value hv)
  | matrix =>
    unfold rawSamples at h
    cases hv : series.member? "values" with
    | none =>
      rw [hv] at h
      cases h
      exact .inl (.noValues (by simp [hv]))
    | some values =>
      simp only [hv] at h
      split_ifs at h with hn
      · cases h
        exact .inl (.noValues (by simp [hv, hn]))
      · obtain ⟨items, rfl⟩ | ⟨-, failure, hf⟩ | ⟨-, -, s, items, hs⟩ :=
          itemsOf_cases (Bool.not_eq_true _ ▸ hn)
        · cases h
          exact .inl (.values hv)
        · cases hf.symm.trans h
        · exact .inr ⟨s, items, Except.ok.inj (h.symm.trans hs)⟩

theorem rawSamples_iff_holds (type : ResultType) (series : Json) (samples : List (Sample Float)) :
    (∃ raw, rawSamples type series = .ok raw ∧ List.Forall₂ SampleGives raw samples) ↔
      ∃ raw, Holds type series raw ∧ List.Forall₂ SampleGives raw samples := by
  constructor
  · rintro ⟨raw, hr, hs⟩
    obtain hh | ⟨s, items, rfl⟩ := holds_or_string_of_rawSamples hr
    · exact ⟨raw, hh, hs⟩
    · cases hs with
      | cons h _ => exact absurd h (not_sampleGives_string s _)
  · rintro ⟨raw, hh, hs⟩
    exact ⟨raw, rawSamples_of_holds hh, hs⟩

theorem readSeries_eq_ok_iff {raw : Json} (hd : raw.Distinct) (type : ResultType)
    (s : Series Float) : readSeries type raw = .ok s ↔ SeriesGives type raw s := by
  cases raw with
  | object members =>
    have hiff : readSeries type (.object members) = .ok s ↔
        readLabels (.object members) = .ok s.labels ∧ ∃ raw,
          rawSamples type (.object members) = .ok raw ∧ readAll readSample raw = .ok s.samples := by
      rw [readSeries]
      cases readLabels (.object members) with
      | error e => simp
      | ok labels =>
        cases rawSamples type (.object members) with
        | error e => simp
        | ok raw =>
          obtain ⟨labels', samples'⟩ := s
          cases hr : readAll readSample raw <;> simp [Except.map, hr]
    simp only [hiff, readLabels_eq_ok_iff hd, readSamples_eq_ok_iff, rawSamples_iff_holds]
    constructor
    · rintro ⟨hl, raw, hr, hs⟩
      exact .mk hl hr hs
    · rintro ⟨hl, hr, hs⟩
      exact ⟨hl, _, hr, hs⟩
  | _ =>
    constructor
    · intro h
      cases h
    · intro h
      cases h

theorem readSeriesList_eq_ok_iff {items : List Json} (hd : ∀ v ∈ items, v.Distinct)
    (type : ResultType) (series : List (Series Float)) :
    readAll (readSeries type) items = .ok series ↔
      List.Forall₂ (SeriesGives type) items series := by
  rw [readAll_eq_ok_iff]
  induction items generalizing series with
  | nil => cases series <;> simp
  | cons v items ih =>
    obtain ⟨hv, hd⟩ := List.forall_mem_cons.mp hd
    cases series <;> simp [readSeries_eq_ok_iff hv, ih hd]

theorem readResult_eq_ok_iff {result : Json} (hd : result.Distinct) (type : ResultType)
    (series : List (Series Float)) : readResult type result = .ok series ↔
      result = .null ∧ series = [] ∨
        ∃ items, result = .array items ∧ List.Forall₂ (SeriesGives type) items series := by
  cases result with
  | null => simp [readResult, eq_comm]
  | array items => simp [readResult, readSeriesList_eq_ok_iff fun v => hd.of_mem]
  | _ => simp [readResult]

theorem noResult_iff (data : Json) :
    NoResult data ↔ (data.member? "result").getD .null = .null := by
  unfold NoResult
  cases data.member? "result" <;> simp

/-- A body that does not carry a scalar is read as the result of the data that it carries. -/
theorem readAnswer_eq_ok_iff_carries {body : Json} (hs : ∀ data, ¬ Carries body data "scalar")
    (series : List (Series Float)) : readAnswer body = .ok series ↔
      ∃ data type, Carries body data (ResultType.word type) ∧
        readResult type ((data.member? "result").getD .null) = .ok series := by
  obtain ⟨data, hst, hdata, hr⟩ | ⟨⟨cause, hc⟩, hn⟩ := readAnswer_cases body
  · have hs : data.member? "resultType" ≠ some (.string "scalar") :=
      fun h => hs data ⟨hst, hdata, h⟩
    rw [hr]
    constructor
    · intro h
      by_cases ht : ∃ type : ResultType, data.member? "resultType" = some (.string type.word)
      · obtain ⟨type, ht⟩ := ht
        rw [readData_series ht] at h
        exact ⟨data, type, ⟨hst, hdata, ht⟩, h⟩
      · obtain ⟨cause, hc⟩ := readData_other hs (not_exists.mp ht)
        cases hc.symm.trans h
    · rintro ⟨data', type, ⟨-, hd', ht⟩, h⟩
      cases hdata.symm.trans hd'
      rw [readData_series ht, h]
  · rw [hc]
    refine iff_of_false nofun ?_
    rintro ⟨data, type, h, -⟩
    exact hn ⟨data, _, h⟩

theorem distinct_result {body data : Json} {type : Text} (hd : body.Distinct)
    (hc : Carries body data type) : ((data.member? "result").getD .null).Distinct := by
  cases hr : data.member? "result" with
  | none => exact .null
  | some result => exact (hd.of_member hc.2.1).of_member hr

theorem readAnswer_eq_ok_iff_lists {body : Json} (hd : body.Distinct)
    (hs : ∀ data, ¬ Carries body data "scalar") (series : List (Series Float)) :
    readAnswer body = .ok series ↔ Lists body series := by
  rw [readAnswer_eq_ok_iff_carries hs]
  constructor
  · rintro ⟨data, type, hc, h⟩
    obtain ⟨hn, rfl⟩ | ⟨items, hi, h⟩ := (readResult_eq_ok_iff (distinct_result hd hc) ..).mp h
    · exact .nothing hc ((noResult_iff data).mpr hn)
    · obtain ⟨_, hresult, rfl⟩ := (getD_null_iff (p := (· = .array items)) nofun _).mp hi
      exact .series hc hresult h
  · rintro (⟨hc, hn⟩ | ⟨hc, hi, h⟩)
    · refine ⟨_, _, hc, ?_⟩
      rw [(noResult_iff _).mp hn]
      rfl
    · refine ⟨_, _, hc, (readResult_eq_ok_iff (distinct_result hd hc) ..).mpr (.inr ⟨_, ?_, h⟩)⟩
      rw [hi, Option.getD_some]

theorem reads_readAnswer_iff {body : Json} (hs : ∀ data, ¬ Carries body data "scalar") :
    Reads (readAnswer body) ↔ Acceptable body := by
  have hr (type : ResultType) (items : List Json) :
      Reads (readResult type (.array items)) ↔ ∀ series ∈ items, SeriesReads type series := by
    simp only [readResult, reads_readAll_iff, reads_readSeries_iff]
  unfold Reads
  simp only [readAnswer_eq_ok_iff_carries hs]
  constructor
  · rintro ⟨series, data, type, hc, h⟩
    cases hresult : data.member? "result" with
    | none => exact .nothing hc (by simp [NoResult, hresult])
    | some result =>
      rw [hresult, Option.getD_some] at h
      cases result with
      | null => exact .nothing hc (by simp [NoResult, hresult])
      | array items => exact .series hc hresult ((hr type items).mp ⟨series, h⟩)
      | _ => cases h
  · rintro (⟨hc, hn⟩ | ⟨hc, hi, h⟩)
    · exact ⟨[], _, _, hc, by rw [(noResult_iff _).mp hn]; rfl⟩
    · obtain ⟨series, h⟩ := (hr _ _).mpr h
      exact ⟨series, _, _, hc, by rw [hi, Option.getD_some, h]⟩

/-- A sample as a time and a value. -/
def rawSample (s : Sample Float) : Json := .array [.float s.time, .float s.value]

/-- The labels of a series as a metric. -/
def metricOf (s : Series Float) : Json :=
  .object (s.labels.entries.map fun e => (e.1, .string e.2))

/-- A series as an item of a result. In a vector only its first sample counts. -/
def seriesItem (type : ResultType) (s : Series Float) : Json :=
  match type with
  | .vector =>
    match s.samples with
    | [] => .object [("metric", metricOf s)]
    | sample :: _ => .object [("metric", metricOf s), ("value", rawSample sample)]
  | .matrix =>
    .object [("metric", metricOf s), ("values", .array (s.samples.map rawSample))]

/-- The body that tells of success and lists the series. -/
def listing (type : ResultType) (series : List (Series Float)) : Json :=
  .object [("status", .string "success"), ("data", .object [("resultType", .string type.word),
    ("result", .array (series.map (seriesItem type)))])]

theorem rawSample_gives (s : Sample Float) : SampleGives (rawSample s) s := .mk rfl rfl

theorem rawSample_distinct (s : Sample Float) : (rawSample s).Distinct := by
  refine .array ?_
  simp only [List.forall_mem_cons]
  exact ⟨.float _, .float _, by simp⟩

theorem metricOf_distinct (s : Series Float) : (metricOf s).Distinct := by
  refine .object ?_ ?_
  · rw [List.map_map]
    exact s.labels.nodup
  · intro m hm
    obtain ⟨e, -, rfl⟩ := List.mem_map.mp hm
    exact .string _

theorem seriesItem_distinct (type : ResultType) (s : Series Float) :
    (seriesItem type s).Distinct := by
  have hm := metricOf_distinct s
  cases type with
  | vector =>
    unfold seriesItem
    cases s.samples with
    | nil => exact hm.single _
    | cons sample _ => exact hm.pair (rawSample_distinct sample) (by decide)
  | matrix =>
    have hs : (Json.array (s.samples.map rawSample)).Distinct :=
      .array (List.forall_mem_map.mpr fun sample _ => rawSample_distinct sample)
    exact hm.pair hs (by decide)

theorem listing_distinct (type : ResultType) (series : List (Series Float)) :
    (listing type series).Distinct := by
  have hitems : (Json.array (series.map (seriesItem type))).Distinct :=
    .array (List.forall_mem_map.mpr fun s _ => seriesItem_distinct type s)
  exact (Json.Distinct.string _).pair ((Json.Distinct.string _).pair hitems (by decide)) (by decide)

/-- The metric of a series gives its labels. -/
theorem labelsGive_metricOf {members : List (Text × Json)} {s : Series Float}
    (h : (Json.object members).member? "metric" = some (metricOf s)) :
    LabelsGive (.object members) s.labels := by
  refine .members h ?_
  rw [List.map_map]
  exact (List.map_id _).symm

theorem rawSamples_give (samples : List (Sample Float)) :
    List.Forall₂ SampleGives (samples.map rawSample) samples :=
  List.forall₂_map_left_iff.mpr (List.forall₂_same.mpr fun s _ => rawSample_gives s)

theorem seriesItem_matrix_gives (s : Series Float) : SeriesGives .matrix (seriesItem .matrix s) s :=
  .mk (labelsGive_metricOf rfl) (.values rfl) (rawSamples_give s.samples)

theorem seriesItem_vector_gives {s : Series Float} (hs : s.samples.length ≤ 1) :
    SeriesGives .vector (seriesItem .vector s) s := by
  obtain ⟨labels, samples⟩ := s
  match samples, hs with
  | [], _ =>
    have hl := @labelsGive_metricOf [("metric", metricOf ⟨labels, []⟩)] ⟨labels, []⟩ rfl
    exact .mk hl (.noValue rfl) .nil
  | [sample], _ =>
    have hl := @labelsGive_metricOf [("metric", metricOf ⟨labels, [sample]⟩),
      ("value", rawSample sample)] ⟨labels, [sample]⟩ rfl
    exact .mk hl (.value rfl) (.cons (rawSample_gives sample) .nil)

/-- A listing of series of which each item gives its own is read as these. -/
theorem readAnswer_listing {type : ResultType} {series : List (Series Float)}
    (h : ∀ s ∈ series, SeriesGives type (seriesItem type s) s) :
    readAnswer (listing type series) = .ok series := by
  have hc : Carries (listing type series) (.object [("resultType", .string type.word),
      ("result", .array (series.map (seriesItem type)))]) type.word := ⟨rfl, rfl, rfl⟩
  refine (readAnswer_eq_ok_iff_lists (listing_distinct type series) ?_ series).mpr ?_
  · rintro data ⟨-, hd, ht⟩
    cases hc.2.1.symm.trans hd
    exact type.word_ne_scalar (Json.string.inj (Option.some.inj ht))
  · exact .series hc rfl (List.forall₂_map_left_iff.mpr (List.forall₂_same.mpr h))

/-- A vector or a matrix is read just if it is acceptable, and as what it lists; and what is listed
as a matrix, or as a vector if no series has more than one sample, is read back. -/
theorem answers_read_as_listed :
    (∀ body : Json, body.Distinct → (∀ data, ¬ Carries body data "scalar") →
      ((∃ series, readAnswer body = .ok series) ↔ Acceptable body) ∧
      ∀ series, readAnswer body = .ok series ↔ Lists body series) ∧
    (∀ series, readAnswer (listing .matrix series) = .ok series) ∧
    ∀ series : List (Series Float), (∀ s ∈ series, s.samples.length ≤ 1) →
      readAnswer (listing .vector series) = .ok series := by
  refine ⟨fun body hd hs => ⟨reads_readAnswer_iff hs, readAnswer_eq_ok_iff_lists hd hs⟩, ?_, ?_⟩
  · intro series
    exact readAnswer_listing fun s _ => seriesItem_matrix_gives s
  · intro series hs
    exact readAnswer_listing fun s hm => seriesItem_vector_gives (hs s hm)

/-- A vector of a series with two labels and of one with neither labels nor a sample. -/
theorem answers_read_as_listed_sharded :
    let item : Json :=
      .object [("metric", .object [("cluster_id", .string "a"), ("shard", .integer 7)]),
        ("value", .array [.integer 1700000000, .string "2.5"])]
    let body : Json := .object [("status", .string "success"),
      ("data", .object [("resultType", .string "vector"),
        ("result", .array [item, .object [("metric", .integer 0)]])])]
    let series : List (Series Float) :=
      [⟨⟨[("cluster_id", "a"), ("shard", "7")], by decide⟩, [⟨1700000000, 2.5⟩]⟩, ⟨∅, []⟩]
    body.Distinct ∧ (∀ data, ¬ Carries body data "scalar") ∧ readAnswer body = .ok series ∧
      (∀ s ∈ series, s.samples.length ≤ 1) ∧ readAnswer (listing .vector series) = .ok series := by
  intro item body series
  have hitem : item.Distinct :=
    .pair (.pair (.string _) (.integer _) (by decide))
      (.array (by simpa using ⟨.integer _, .string _⟩)) (by decide)
  have hitems : (Json.array [item, .object [("metric", .integer 0)]]).Distinct :=
    .array (by simpa using ⟨hitem, Json.Distinct.single (.integer 0) "metric"⟩)
  have hd : body.Distinct :=
    .pair (.string _) (.pair (.string _) hitems (by decide)) (by decide)
  have hc : Carries body _ ResultType.vector.word := ⟨rfl, rfl, rfl⟩
  have hs (data : Json) : ¬ Carries body data "scalar" := by
    rintro ⟨-, h, ht⟩
    cases hc.2.1.symm.trans h
    exact ResultType.word_ne_scalar .vector (Json.string.inj (Option.some.inj ht))
  have hl : ∀ s ∈ series, s.samples.length ≤ 1 := by
    simp [series]
  obtain ⟨hread, -, hvector⟩ := answers_read_as_listed
  refine ⟨hd, hs, ((hread body hd hs).2 series).mpr (.series hc rfl ?_), hl, hvector series hl⟩
  refine .cons ?_ (.cons (.mk (.nothing rfl rfl) (.noValue rfl) .nil) .nil)
  exact .mk (.members rfl rfl) (.value rfl) (.cons (.mk rfl rfl) .nil)

end ClusterBilling.Prometheus
