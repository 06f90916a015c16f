import ClusterBilling.Proofs.Encoding.Inflation
import ClusterBilling.Proofs.Encoding.Refusals
import ClusterBilling.Proofs.Prometheus.Breakage
import ClusterBilling.Proofs.Prometheus.Replies

/-!
Which faults of queries are told on a single line. All texts of the program's own are, and so are
those that quote what came; a text that is passed on as it came may have more lines.
-/
namespace ClusterBilling
open Text

/-- What is told of a fault is a single line. -/
def Fault.InLine (f : Fault) : Prop := (f.toQueryFault "").detail.OneLine

theorem Fault.detail_toQueryFault (f : Fault) (name : Text) :
    (f.toQueryFault name).detail = (f.toQueryFault "").detail := by
  cases f <;> rfl

theorem Fault.name_toQueryFault (f : Fault) (name : Text) : (f.toQueryFault name).name = name := by
  cases f <;> rfl

theorem QueryFault.oneLine_message_iff (f : QueryFault) :
    f.message.OneLine ↔ f.name.OneLine ∧ f.detail.OneLine := by
  unfold message
  split_ifs with hn
  · have hname : f.name.OneLine := by
      rw [Text.isEmpty, List.isEmpty_iff] at hn
      simp [OneLine, hn]
    exact (and_iff_right hname).symm
  · simp

/-- The text of a fault is a single line if the name of its query and what is told of it are. -/
theorem Fault.oneLine_message_iff (f : Fault) (name : Text) :
    (f.toQueryFault name).message.OneLine ↔ name.OneLine ∧ f.InLine := by
  rw [QueryFault.oneLine_message_iff, name_toQueryFault, detail_toQueryFault]
  rfl

theorem Fault.inLine_foreign_iff (label text : Text) :
    (foreign label text).InLine ↔ (if text.isEmpty then label else text).OneLine := Iff.rfl

/-- What is no fault of a query is told by its text where its label is a single line. -/
theorem Fault.inLine_iff_message {f : Fault} (hl : f.label.OneLine) (hq : ∀ q, f ≠ .query q) :
    f.InLine ↔ f.message.OneLine := by
  rw [InLine, toQueryFault_of_ne hq]
  split_ifs with he
  · refine iff_of_true hl ?_
    rw [Text.isEmpty, List.isEmpty_iff] at he
    simp [OneLine, he]
  · rfl

theorem Fault.inLine_reading_iff (failure : ReadingFailure) :
    (reading failure).InLine ↔ '\n' ∉ failure.message.toList := by
  have hlabel : (reading failure).label.OneLine := by
    unfold label
    split <;> simp_all
  rw [inLine_iff_message hlabel nofun, message, oneLine_ofString]

theorem Fault.inLine_unsendable (e : Encoding.EncodeError) : (unsendable e).InLine := by
  have hlabel : (unsendable e).label.OneLine := by simp [label]
  rw [inLine_iff_message hlabel nofun, message, oneLine_ofString]
  exact e.newline_not_mem_message

namespace Prometheus

section answers

/-- The reading of an answer fails with a text of a single line. -/
def AnswerError.InLine : AnswerError → Prop
  | malformed cause => cause.message.OneLine
  | broken failure => '\n' ∉ failure.message.toList

theorem AnswerError.inLine_toFault_iff (e : AnswerError) (query : Text) :
    (e.toFault query).InLine ↔ e.InLine := by
  cases e with
  | malformed cause => rfl
  | broken failure => exact Fault.inLine_reading_iff failure

/-- If the reading fails, it does so with a text of a single line. -/
def TellsInLine {α : Type} (r : Except AnswerError α) : Prop := ∀ e, r = .error e → e.InLine

section
variable {α β : Type}

theorem tellsInLine_ok (x : α) : TellsInLine (.ok x) := nofun

theorem tellsInLine_error {e : AnswerError} (h : e.InLine) :
    TellsInLine (.error e : Except AnswerError α) := by
  intro e' he
  cases he
  exact h

theorem TellsInLine.map {r : Except AnswerError α} (h : TellsInLine r) (f : α → β) :
    TellsInLine (r.map f) := by
  cases r with
  | ok x => exact tellsInLine_ok (f x)
  | error e => exact tellsInLine_error (h e rfl)

theorem readAll_tellsInLine {read : Json → Except AnswerError α} (h : ∀ v, TellsInLine (read v))
    (items : List Json) : TellsInLine (readAll read items) := by
  induction items with
  | nil => exact tellsInLine_ok []
  | cons v items ih =>
    rw [readAll]
    cases hv : read v with
    | ok x => exact ih.map _
    | error e => exact tellsInLine_error (h v e hv)

end

theorem inLine_notNumeric (v : Json) : (AnswerError.malformed (.notNumeric v)).InLine := by
  simp [AnswerError.InLine, Malformed.message, v.oneLine_display]

theorem inLine_malformedSample (v : Json) :
    (AnswerError.malformed (.malformedSample v)).InLine := by
  simp [AnswerError.InLine, Malformed.message, v.oneLine_display]

theorem inLine_unknownResultType (v : Json) :
    (AnswerError.malformed (.unknownResultType v)).InLine := by
  simp [AnswerError.InLine, Malformed.message, v.oneLine_display]

theorem inLine_noItems (v : Json) : (AnswerError.broken (.noItems v.kindName)).InLine := by
  have hkind := (oneLine_ofString _).mp v.oneLine_kindName
  simp [AnswerError.InLine, ReadingFailure.message, hkind]

theorem inLine_integerTooLarge : (AnswerError.broken .integerTooLarge).InLine := by
  simp [AnswerError.InLine, ReadingFailure.message]

theorem readSample_tellsInLine (raw : Json) : TellsInLine (readSample raw) := by
  unfold readSample
  split
  · split
    · exact tellsInLine_error (inLine_notNumeric _)
    · exact tellsInLine_error inLine_integerTooLarge
    · split
      · exact tellsInLine_error (inLine_notNumeric _)
      · exact tellsInLine_error inLine_integerTooLarge
      · exact tellsInLine_ok _
  · exact tellsInLine_error (inLine_malformedSample _)

theorem itemsOf_tellsInLine (v : Json) : TellsInLine (itemsOf v) := by
  unfold itemsOf
  split
  · exact tellsInLine_ok _
  · exact tellsInLine_ok _
  · exact tellsInLine_ok _
  · exact tellsInLine_error (inLine_noItems v)

theorem rawSamples_tellsInLine (type : ResultType) (series : Json) :
    TellsInLine (rawSamples type series) := by
  unfold rawSamples
  split
  · exact tellsInLine_ok _
  · split
    · exact tellsInLine_ok _
    · split_ifs
      · exact tellsInLine_ok _
      · exact itemsOf_tellsInLine _

theorem readLabels_tellsInLine (series : Json) : TellsInLine (readLabels series) := by
  obtain ⟨-, labels, h⟩ | ⟨-, h⟩ := readLabels_cases series
  · rw [h]
    exact tellsInLine_ok labels
  · rw [h]
    exact tellsInLine_error (by decide : (Malformed.metricNotAnObject).message.OneLine)

theorem readSeries_tellsInLine (type : ResultType) (series : Json) :
    TellsInLine (readSeries type series) := by
  unfold readSeries
  split
  · split
    · next e he => exact tellsInLine_error (readLabels_tellsInLine _ e he)
    · split
      · next e he => exact tellsInLine_error (rawSamples_tellsInLine _ _ e he)
      · exact (readAll_tellsInLine readSample_tellsInLine _).map _
  · exact tellsInLine_error (by decide : (Malformed.seriesNotAnObject).message.OneLine)

theorem readResult_tellsInLine (type : ResultType) (result : Json) :
    TellsInLine (readResult type result) := by
  unfold readResult
  split
  · exact tellsInLine_ok _
  · exact readAll_tellsInLine (readSeries_tellsInLine type) _
  · exact tellsInLine_error (by decide : (Malformed.resultNotAList).message.OneLine)

theorem readData_tellsInLine (data : Json) : TellsInLine (readData data) := by
  unfold readData
  dsimp only
  split_ifs
  · exact (readSample_tellsInLine _).map _
  · exact readResult_tellsInLine .vector _
  · exact readResult_tellsInLine .matrix _
  · exact tellsInLine_error (inLine_unknownResultType _)

/-- The body says that its query failed, and why, which takes more than a line. -/
def FailsAtLength (body : Json) : Prop :=
  body.member? "status" ≠ some (.string "success") ∧
    ∃ s, body.member? "error" = some (.string s) ∧ ¬ s.OneLine

theorem isNothing_of_not_oneLine {s : Text} (h : ¬ s.OneLine) :
    (Json.string s).isNothing = false := by
  rw [Json.isNothing, Text.isEmpty, List.isEmpty_eq_false_iff]
  intro hs
  exact h (by simp [OneLine, hs])

theorem oneLine_failureText_iff {body : Json}
    (hs : body.member? "status" ≠ some (.string "success")) :
    (failureText body).OneLine ↔ ¬ FailsAtLength body := by
  obtain ⟨x, hx, he⟩ | ⟨hn, he⟩ := tells_cases body "error"
  · rw [failureText, he, hx.2, if_neg Bool.false_ne_true, Json.oneLine_plainText_iff]
    constructor
    · rintro h ⟨-, s, hstring, hlines⟩
      exact hlines (h _ (Option.some.inj (hx.1.symm.trans hstring)))
    · intro h s hxs
      by_contra hlines
      exact h ⟨hs, s, hxs ▸ hx.1, hlines⟩
  · rw [failureText, he, if_pos rfl]
    refine iff_of_true (by simp [Json.oneLine_display]) ?_
    rintro ⟨-, s, hstring, hlines⟩
    exact hn _ ⟨hstring, isNothing_of_not_oneLine hlines⟩

/-- The reading of an answer fails with more than a line just if the body says so itself. -/
theorem failsAtLength_iff (body : Json) :
    FailsAtLength body ↔ ∃ e, readAnswer body = .error e ∧ ¬ e.InLine := by
  cases body with
  | object members =>
    rw [readAnswer]
    by_cases hs : (Json.object members).member? "status" = some (.string "success")
    · rw [if_pos ((isText_getD_iff ..).mpr hs)]
      refine iff_of_false (fun h => h.1 hs) ?_
      rintro ⟨e, he, hlines⟩
      split at he
      · exact hlines (readData_tellsInLine _ e he)
      · cases he
        exact hlines (by decide : (Malformed.noData).message.OneLine)
    · rw [if_neg ((isText_getD_iff ..).not.mpr hs), ← not_iff_not, ← oneLine_failureText_iff hs]
      simp [AnswerError.InLine, Malformed.message]
  | _ =>
    refine iff_of_false (by rintro ⟨-, s, h, -⟩; cases h) ?_
    rintro ⟨e, he, hlines⟩
    cases he
    apply hlines
    simp [AnswerError.InLine, Malformed.message, Json.kindName]

end answers

/-- Why a body cannot be unpacked, or cannot be read as text, is told on a single line. -/
structure Platform.TellsInLine (p : Platform) : Prop where
  unpacked {headers : Headers} {body : List UInt8} {reason : String} :
    p.unpacked headers body = .error reason → '\n' ∉ reason.toList
  bodyText {headers : Headers} {body : List UInt8} {fault : Encoding.CharsetFault} :
    p.bodyText headers body = .error fault → '\n' ∉ fault.message.toList

theorem Platform.standard_tellsInLine : standard.TellsInLine where
  unpacked {headers body reason} h := by
    change Platform.unpackedAs headers body = .error reason at h
    unfold Platform.unpackedAs at h
    cases hu : Encoding.Compression.unpackAll headers.compressions body with
    | ok body' =>
      rw [hu] at h
      cases h
    | error reason' =>
      rw [hu] at h
      obtain rfl := Except.error.inj h
      have hreason := Encoding.Compression.newline_not_mem_of_unpackAll hu
      rw [String.toList_append, List.mem_append, not_or]
      exact ⟨by decide, hreason⟩
  bodyText {headers body fault} h := by
    change Platform.textOf headers body = .error fault at h
    unfold Platform.textOf at h
    split_ifs at h
    dsimp only at h
    have htells := Encoding.Charset.ofContentType_tellsInLine (headers.value? "content-type") body
    cases hl : (Encoding.Charset.ofContentType (headers.value? "content-type")).lossy body with
    | ok points =>
      rw [hl] at h
      cases h
    | error fault' =>
      rw [hl] at h
      obtain rfl := Except.error.inj h
      exact htells fault' hl

section exchanges
variable (c : Client) (q : Query)

/-- What passes on a text of more than a line: the reason of a loss, beside the address; a backend's
own account of a failed request, or of a query that failed; a failure of another kind. -/
inductive Sprawls : Exchange → Prop where
  | lost {reason : Text} : ¬ (c.url.OneLine ∧ reason.OneLine) → Sprawls (.lost reason)
  | damaged {r : Reply} : (∀ body, ¬ c.HasBody r body) → ¬ c.url.OneLine → Sprawls (.reply r)
  | rejected {r : Reply} {body : List UInt8} {text : Text} : c.HasBody r body → 400 ≤ r.status →
    ¬ TooDeep c body → OwnAccount c r.headers body text → ¬ text.OneLine →
    Sprawls (.reply r)
  | failed {r : Reply} {body : List UInt8} {v : Json} : c.HasBody r body → r.status < 400 →
    c.decode body = .ok v → FailsAtLength v → Sprawls (.reply r)
  | broken {label text : Text} : ¬ (if text.isEmpty then label else text).OneLine →
    Sprawls (.broken label text)

/-- The query ends with a fault that takes more than a line. -/
def EndsAtLength (body : Except Fault Json) : Prop :=
  ∃ f, (readBody q.text body).1 = .error f ∧ ¬ f.InLine

variable {c q}

theorem endsAtLength_error_iff (f : Fault) : EndsAtLength q (.error f) ↔ ¬ f.InLine := by
  unfold EndsAtLength readBody
  simp

theorem endsAtLength_ok_iff (v : Json) : EndsAtLength q (.ok v) ↔ FailsAtLength v := by
  rw [failsAtLength_iff]
  unfold EndsAtLength readBody
  cases hv : readAnswer v with
  | ok series => simp [hv]
  | error e => simp [hv, e.inLine_toFault_iff]

theorem oneLine_path (q : Query) : (Client.path q).OneLine := by
  unfold Client.path
  split <;> decide

theorem inLine_query_iff (kind : FailureKind) (detail query name : Text) :
    (Fault.query ⟨kind, detail, query, name⟩).InLine ↔ detail.OneLine := Iff.rfl

theorem errorText_of_statesError {headers : Headers} {body : List UInt8} {text : Text}
    (h : StatesError c body text) : c.errorText headers body = .ok text := by
  cases h with
  | @plain v error hv he hn =>
    obtain ⟨type, ht, -⟩ | ⟨-, ht⟩ := tells_cases v "errorType"
    · exact absurd ht (hn type)
    · simp [Client.errorText, hv, he.1, he.2, ht]
  | typed hv he ht => simp [Client.errorText, hv, he.1, he.2, ht.1, ht.2]

/-- A failed request is told by the backend's own account of it. -/
theorem ownAccount_iff {headers : Headers} {body : List UInt8} (hd : ¬ TooDeep c body)
    (text : Text) : OwnAccount c headers body text ↔
      c.errorText headers body = .ok text := by
  obtain ⟨text', ht, he⟩ | ⟨hn, he⟩ := errorText_cases headers hd
  · constructor
    · intro h
      cases h with
      | stated hs => exact errorText_of_statesError hs
      | raw hn _ => exact absurd ht (hn text')
    · intro h
      obtain rfl := Except.ok.inj (he.symm.trans h)
      exact .stated ht
  · rw [he]
    constructor
    · intro h
      cases h with
      | stated hs => exact absurd hs (hn text)
      | raw _ hb => exact hb
    · exact .raw hn

theorem newline_not_mem_of_bodyText (hp : c.platform.TellsInLine) {headers : Headers}
    {body : List UInt8} {e : ReadingFailure} (h : c.bodyText headers body = .error e) :
    '\n' ∉ e.message.toList := by
  unfold Client.bodyText at h
  cases ht : c.platform.bodyText headers body with
  | ok text =>
    rw [ht] at h
    cases h
  | error fault =>
    rw [ht] at h
    obtain rfl := Except.error.inj h
    exact hp.bodyText ht

theorem newline_not_mem_tooDeep (container : Json.Container) :
    '\n' ∉ (ReadingFailure.tooDeep container).message.toList :=
  (oneLine_ofString _).mp (Json.ReadError.oneLine_message (.tooDeep container))

theorem newline_not_mem_of_errorText (hp : c.platform.TellsInLine) {headers : Headers}
    {body : List UInt8} {e : ReadingFailure} (h : c.errorText headers body = .error e) :
    '\n' ∉ e.message.toList := by
  unfold Client.errorText at h
  split at h
  · cases h
    exact newline_not_mem_tooDeep _
  · exact newline_not_mem_of_bodyText hp h
  · dsimp only at h
    split_ifs at h
    exact newline_not_mem_of_bodyText hp h

section replies
variable {r : Reply} {body : List UInt8}

theorem sprawls_rejected_iff (hp : c.platform.TellsInLine) (hb : c.HasBody r body) (hs : 400 ≤ r.status) :
    Sprawls c (.reply r) ↔ EndsAtLength q (c.receive q (.reply r)) := by
  rw [receive_of_rejected c q hb hs]
  cases he : c.errorText r.headers body with
  | error e =>
    dsimp only
    rw [endsAtLength_error_iff, Fault.inLine_reading_iff]
    refine iff_of_false ?_ (not_not.mpr (newline_not_mem_of_errorText hp he))
    intro h
    cases h with
    | damaged hn _ => exact hn body hb
    | rejected hb' _ hd ho _ =>
      obtain rfl := hb.unique hb'
      cases he.symm.trans ((ownAccount_iff hd _).mp ho)
    | failed _ hlt _ _ => omega
  | ok text =>
    have hd : ¬ TooDeep c body := by
      rintro ⟨container, hc⟩
      rw [Client.errorText, hc] at he
      cases he
    have hdetail : (toString r.status ++ " from " ++ Client.path q ++ ": " ++ text).OneLine ↔
        text.OneLine := by simp [oneLine_path q]
    dsimp only
    rw [endsAtLength_error_iff, inLine_query_iff, hdetail]
    refine ⟨?_, .rejected hb hs hd ((ownAccount_iff hd text).mpr he)⟩
    intro h
    cases h with
    | damaged hn _ => exact absurd hb (hn body)
    | rejected hb' _ _ ho hlines =>
      obtain rfl := hb.unique hb'
      obtain rfl := Except.ok.inj (he.symm.trans ((ownAccount_iff hd _).mp ho))
      exact hlines
    | failed _ hlt _ _ => omega

theorem sprawls_accepted_iff (hb : c.HasBody r body) (hs : r.status < 400) :
    Sprawls c (.reply r) ↔ EndsAtLength q (c.receive q (.reply r)) := by
  have hv' : Sprawls c (.reply r) ↔ ∃ v, c.decode body = .ok v ∧ FailsAtLength v := by
    constructor
    · intro h
      cases h with
      | damaged hn _ => exact absurd hb (hn body)
      | rejected _ hle _ _ _ => omega
      | @failed _ _ v hb' _ hv hf =>
        obtain rfl := hb.unique hb'
        exact ⟨v, hv, hf⟩
    · rintro ⟨v, hv, hf⟩
      exact .failed hb hs hv hf
  rw [hv', receive_of_accepted c q hb (not_le.mpr hs)]
  cases hv : c.decode body with
  | ok v => simp [endsAtLength_ok_iff]
  | error e =>
    refine iff_of_false nofun ?_
    split
    · next h => cases h
    · rw [endsAtLength_error_iff, Fault.inLine_reading_iff, not_not]
      exact newline_not_mem_tooDeep _
    · next h =>
      cases h
      have hmessage := Json.newline_not_mem_of_readBytes hv
      rw [endsAtLength_error_iff, inLine_query_iff]
      simp [hmessage]

theorem sprawls_damaged_iff (hp : c.platform.TellsInLine) (hn : ∀ body, ¬ c.HasBody r body) :
    Sprawls c (.reply r) ↔ EndsAtLength q (c.receive q (.reply r)) := by
  cases hu : c.platform.unpacked r.headers r.body with
  | ok body => exact absurd hu (hn body)
  | error reason =>
    have hreason := hp.unpacked hu
    have hdetail : ("request to " ++ c.url ++ Client.path q ++ " failed: " ++
        ofString reason).OneLine ↔ c.url.OneLine := by
      simp [oneLine_path q, hreason]
    rw [Client.receive, hu]
    change _ ↔ EndsAtLength q (.error (.query ⟨_, _, _, _⟩))
    rw [endsAtLength_error_iff, inLine_query_iff, hdetail]
    refine ⟨?_, .damaged hn⟩
    intro h
    cases h with
    | damaged _ hurl => exact hurl
    | rejected hb _ _ _ _ => exact absurd hb (hn _)
    | failed hb _ _ _ => exact absurd hb (hn _)

end replies

/-- A query ends with more than a line just if it met with an exchange that passes one on. -/
theorem sprawls_iff (hp : c.platform.TellsInLine) (x : Exchange) : Sprawls c x ↔ EndsAtLength q (c.receive q x) := by
  cases x with
  | lost reason =>
    have hpath := oneLine_path q
    have hdetail : ("request to " ++ c.url ++ Client.path q ++ " failed: " ++ reason).OneLine ↔
        c.url.OneLine ∧ reason.OneLine := by simp [hpath]
    change _ ↔ EndsAtLength q (.error (.query ⟨_, _, _, _⟩))
    rw [endsAtLength_error_iff, inLine_query_iff, hdetail]
    exact ⟨fun h => by cases h with | lost h => exact h, .lost⟩
  | broken label text =>
    change _ ↔ EndsAtLength q (.error (.foreign label text))
    rw [endsAtLength_error_iff, Fault.inLine_foreign_iff]
    exact ⟨fun h => by cases h with | broken h => exact h, .broken⟩
  | reply r =>
    by_cases hb : ∃ body, c.HasBody r body
    · obtain ⟨body, hb⟩ := hb
      obtain hs | hs := le_or_gt 400 r.status
      · exact sprawls_rejected_iff hp hb hs
      · exact sprawls_accepted_iff hb hs
    · exact sprawls_damaged_iff hp (not_exists.mp hb)

end exchanges
end Prometheus
end ClusterBilling
