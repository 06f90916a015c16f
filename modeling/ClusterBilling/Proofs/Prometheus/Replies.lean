import Mathlib
import ClusterBilling.Prometheus.Client
import ClusterBilling.Proofs.Json.Decoded

/-!
What a client makes of what its requests meet with. A success gives its value, all else a fault
that is told by the query; the replies for which this fails are known. A value that is given was read
from a body, with all that this entails.
-/
namespace ClusterBilling.Prometheus

/-- The status of a success. -/
def Reply.Succeeds (r : Reply) : Prop := 200 ≤ r.status ∧ r.status < 300

section
variable (c : Client)

/-- The body of a reply once it is unpacked. -/
def Client.HasBody (r : Reply) (body : List UInt8) : Prop :=
  c.platform.unpacked r.headers r.body = .ok body

/-- The value has a member of that name which does not count as nothing. -/
def Tells (v : Json) (name : Text) (x : Json) : Prop :=
  v.member? name = some x ∧ x.isNothing = false

/-- The body states an error, and its type in front if it tells one. -/
inductive StatesError (body : List UInt8) : Text → Prop where
  | plain {v error : Json} : c.decode body = .ok v → Tells v "error" error →
    (∀ type, ¬ Tells v "errorType" type) → StatesError body error.plainText
  | typed {v error type : Json} : c.decode body = .ok v → Tells v "error" error →
    Tells v "errorType" type → StatesError body (type.plainText ++ ": " ++ error.plainText)

/-- The backend's own account of a failure: the error that the body states, or else all of its
text. -/
inductive OwnAccount (headers : Headers) (body : List UInt8) : Text → Prop where
  | stated {text : Text} : StatesError c body text → OwnAccount headers body text
  | raw {text : Text} : (∀ text, ¬ StatesError c body text) →
    c.bodyText headers body = .ok text → OwnAccount headers body text

/-- Values of the body are nested too deeply to be read. -/
def TooDeep (body : List UInt8) : Prop :=
  ∃ container, c.decode body = .error (.text (.tooDeep container))

/-- How a query ends that met with this exchange. Whether a body is JSON is for the decoder to say:
beyond the grammar it takes words for infinities and for what is not a number, and it takes no
integer of more digits than `Json.maxIntegerDigits`. -/
inductive EndsAs (q : Query) : Exchange → Except Fault Json → Prop where
  | lost (reason detail : Text) :
    EndsAs q (.lost reason) (.error (.query ⟨.transport, detail, q.text, ""⟩))
  /-- A body that cannot be unpacked did not come through. -/
  | damaged {r : Reply} (detail : Text) : (∀ body, ¬ c.HasBody r body) →
    EndsAs q (.reply r) (.error (.query ⟨.transport, detail, q.text, ""⟩))
  | rejected {r : Reply} {body : List UInt8} {text : Text} : c.HasBody r body → ¬ r.Succeeds →
    OwnAccount c r.headers body text →
    EndsAs q (.reply r) (.error (.query
      ⟨.transport, toString r.status ++ " from " ++ Client.path q ++ ": " ++ text, q.text, ""⟩))
  | value {r : Reply} {body : List UInt8} {v : Json} : c.HasBody r body → r.Succeeds →
    c.decode body = .ok v → EndsAs q (.reply r) (.ok v)
  | flawed {r : Reply} {body : List UInt8} (detail : Text) : c.HasBody r body → r.Succeeds →
    (∀ v, c.decode body ≠ .ok v) →
    EndsAs q (.reply r) (.error (.query ⟨.parse, detail, q.text, ""⟩))
  /-- What is neither a reply nor the loss of one stays as it is. -/
  | broken (label text : Text) : EndsAs q (.broken label text) (.error (.foreign label text))

/-- Replies that are not told as they should be. -/
inductive Strays : Exchange → Prop where
  /-- Neither a success nor an error of the request or of the backend, such as a redirection. -/
  | between {r : Reply} {body : List UInt8} : c.HasBody r body → ¬ r.Succeeds → r.status < 400 →
    Strays (.reply r)
  | deep {r : Reply} {body : List UInt8} : c.HasBody r body → TooDeep c body → Strays (.reply r)
  /-- A failure that is told by the text of the body, which its encoding refuses to read. -/
  | unreadable {r : Reply} {body : List UInt8} {e : ReadingFailure} : c.HasBody r body →
    400 ≤ r.status → (∀ text, ¬ StatesError c body text) →
    c.bodyText r.headers body = .error e → Strays (.reply r)

end

theorem tells_cases (v : Json) (name : Text) :
    (∃ x, Tells v name x ∧ (v.member? name).getD .null = x) ∨
    ((∀ x, ¬ Tells v name x) ∧ ((v.member? name).getD .null).isNothing = true) := by
  unfold Tells
  cases hm : v.member? name with
  | none => exact .inr ⟨by simp, rfl⟩
  | some x =>
    cases hx : x.isNothing with
    | true =>
      refine .inr ⟨?_, hx⟩
      rintro y ⟨hy, hn⟩
      obtain rfl := Option.some.inj hy
      cases hx.symm.trans hn
    | false => exact .inl ⟨x, ⟨rfl, hx⟩, rfl⟩

section
variable {c : Client} {headers : Headers} {body : List UInt8}

theorem not_statesError_of_error {e : Json.BytesError} (he : c.decode body = .error e)
    (text : Text) : ¬ StatesError c body text := by
  rintro (⟨hv, -⟩ | ⟨hv, -⟩) <;> cases he.symm.trans hv

theorem not_statesError_of_value {v : Json} (hv : c.decode body = .ok v)
    (hn : ∀ error, ¬ Tells v "error" error) (text : Text) : ¬ StatesError c body text := by
  rintro (⟨hv', he, -⟩ | ⟨hv', he, -⟩) <;> cases hv.symm.trans hv' <;> exact hn _ he

/-- A failure is told by the error that the body states; if it states none, by the text of the
body, whether that can be read or not. -/
theorem errorText_cases (headers : Headers) (hd : ¬ TooDeep c body) :
    (∃ text, StatesError c body text ∧ c.errorText headers body = .ok text) ∨
    ((∀ text, ¬ StatesError c body text) ∧
      c.errorText headers body = c.bodyText headers body) := by
  unfold Client.errorText
  cases hv : c.decode body with
  | error e =>
    refine .inr ⟨not_statesError_of_error hv, ?_⟩
    split
    · next h => cases h; exact absurd ⟨_, hv⟩ hd
    · rfl
    · next h => cases h
  | ok v =>
    obtain ⟨error, he, hme⟩ | ⟨hne, hme⟩ := tells_cases v "error"
    · obtain ⟨type, ht, hmt⟩ | ⟨hnt, hmt⟩ := tells_cases v "errorType"
      · exact .inl ⟨_, .typed hv he ht, by simp [hme, hmt, he.2, ht.2]⟩
      · exact .inl ⟨_, .plain hv he hnt, by simp [hme, hmt, he.2]⟩
    · exact .inr ⟨not_statesError_of_value hv hne, by simp [hme]⟩

end

section
variable (c : Client) (q : Query) {r : Reply} {body : List UInt8}

theorem Client.HasBody.unique {c : Client} {body' : List UInt8} (h : c.HasBody r body)
    (h' : c.HasBody r body') : body = body' :=
  Except.ok.inj (h.symm.trans h')

theorem receive_of_rejected (hb : c.HasBody r body) (hs : 400 ≤ r.status) :
    c.receive q (.reply r) = match c.errorText r.headers body with
      | .ok text => .error (.query ⟨.transport,
          toString r.status ++ " from " ++ Client.path q ++ ": " ++ text, q.text, ""⟩)
      | .error e => .error (.reading e) := by
  unfold Client.HasBody at hb
  simp only [Client.receive, hb, if_pos hs]
  rfl

theorem receive_of_accepted (hb : c.HasBody r body) (hs : ¬ 400 ≤ r.status) :
    c.receive q (.reply r) = match c.decode body with
      | .ok v => .ok v
      | .error (.text (.tooDeep container)) => .error (.reading (.tooDeep container))
      | .error e => .error (.query
          ⟨.parse, "response is not valid JSON: " ++ e.message, q.text, ""⟩) := by
  unfold Client.HasBody at hb
  simp only [Client.receive, hb, if_neg hs]
  rfl

theorem endsAs_of_rejected (hb : c.HasBody r body) (hs : 400 ≤ r.status)
    (hx : ¬ Strays c (.reply r)) :
    EndsAs c q (.reply r) (c.receive q (.reply r)) := by
  have hn : ¬ r.Succeeds := fun h => absurd h.2 (by omega)
  have hd : ¬ TooDeep c body := fun h => hx (.deep hb h)
  rw [receive_of_rejected c q hb hs]
  obtain ⟨text, ht, he⟩ | ⟨ht, he⟩ := errorText_cases r.headers hd
  · rw [he]
    exact .rejected hb hn (.stated ht)
  · rw [he]
    cases hr : c.bodyText r.headers body with
    | ok text => exact .rejected hb hn (.raw ht hr)
    | error e => exact absurd (.unreadable hb hs ht hr) hx

theorem endsAs_of_accepted (hb : c.HasBody r body) (hs : ¬ 400 ≤ r.status)
    (hx : ¬ Strays c (.reply r)) :
    EndsAs c q (.reply r) (c.receive q (.reply r)) := by
  have hn : r.Succeeds := by
    by_contra h
    exact hx (.between hb h (not_le.mp hs))
  rw [receive_of_accepted c q hb hs]
  cases hv : c.decode body with
  | ok v => exact .value hb hn hv
  | error e =>
    split
    · next h => cases h
    · next h => cases h; exact absurd (.deep hb ⟨_, hv⟩) hx
    · exact .flawed _ hb hn (by rw [hv]; exact nofun)

/-- A value that a client gives was read from a body. -/
theorem exists_decode_of_receive {x : Exchange} {v : Json} (h : c.receive q x = .ok v) :
    ∃ body, c.decode body = .ok v := by
  cases x with
  | lost reason => cases h
  | broken label text => cases h
  | reply r =>
    cases hu : c.platform.unpacked r.headers r.body with
    | error reason =>
      simp only [Client.receive, hu] at h
      cases h
    | ok body =>
      refine ⟨body, ?_⟩
      by_cases hs : 400 ≤ r.status
      · rw [receive_of_rejected c q hu hs] at h
        split at h <;> cases h
      · rw [receive_of_accepted c q hu hs] at h
        split at h
        · next hv => rwa [← Except.ok.inj h]
        · cases h
        · cases h

/-- Such a value has no object with two members of one name, and no integer with more digits than are
ever written. -/
theorem decoded_of_receive {x : Exchange} {v : Json} (h : c.receive q x = .ok v) :
    v.Distinct ∧ v.ShortIntegers := by
  obtain ⟨body, hv⟩ := exists_decode_of_receive c q h
  exact ⟨Json.distinct_of_readBytes hv, Json.shortIntegers_of_readBytes hv⟩

theorem EndsAs.reply_cases {y : Except Fault Json} (h : EndsAs c q (.reply r) y)
    (hb : c.HasBody r body) :
    (¬ r.Succeeds ∧ ∃ f : QueryFault, f.kind = .transport ∧ y = .error (.query f)) ∨
    (r.Succeeds ∧ ∀ failure, y ≠ .error (.reading failure)) := by
  cases h with
  | damaged detail hn => exact absurd hb (hn body)
  | rejected _ hn _ => exact .inl ⟨hn, _, rfl, rfl⟩
  | value _ hs _ => exact .inr ⟨hs, nofun⟩
  | flawed _ _ hs _ => exact .inr ⟨hs, nofun⟩

theorem receive_of_tooDeep (hb : c.HasBody r body) (hd : TooDeep c body) :
    ∃ failure, c.receive q (.reply r) = .error (.reading failure) := by
  obtain ⟨container, hc⟩ := hd
  by_cases hs : 400 ≤ r.status
  · rw [receive_of_rejected c q hb hs, Client.errorText, hc]
    exact ⟨_, rfl⟩
  · rw [receive_of_accepted c q hb hs, hc]
    exact ⟨_, rfl⟩

/-- A reply that strays breaks off with what is no fault of a query; or its status is none of a
success, and yet it comes to no fault of the transport. -/
theorem Strays.receive_cases (h : Strays c (.reply r)) (hb : c.HasBody r body) :
    (∃ failure, c.receive q (.reply r) = .error (.reading failure)) ∨
    (¬ r.Succeeds ∧ ∀ f : QueryFault, f.kind = .transport →
      c.receive q (.reply r) ≠ .error (.query f)) := by
  cases h with
  | between _ hn hs =>
    by_cases hd : TooDeep c body
    · exact .inl (receive_of_tooDeep c q hb hd)
    · refine .inr ⟨hn, fun f hf => ?_⟩
      rw [receive_of_accepted c q hb (not_le.mpr hs)]
      split
      · exact nofun
      · exact nofun
      · intro h
        cases h
        cases hf
  | deep hb' hd =>
    obtain rfl := hb.unique hb'
    exact .inl (receive_of_tooDeep c q hb hd)
  | unreadable hb' hs hn hr =>
    obtain rfl := hb.unique hb'
    by_cases hd : TooDeep c body
    · exact .inl (receive_of_tooDeep c q hb hd)
    · rw [receive_of_rejected c q hb hs]
      obtain ⟨text, ht, -⟩ | ⟨-, he⟩ := errorText_cases r.headers hd
      · exact absurd ht (hn text)
      · rw [he, hr]
        exact .inl ⟨_, rfl⟩

/-- What does not come through, and every failed reply, ends the query with a fault of the transport
under the text of the query, which gives the backend's own account; a success gives its value, or a
fault of reading. This holds of all exchanges but those that stray. -/
theorem endsAs_iff_not_strays (x : Exchange) : EndsAs c q x (c.receive q x) ↔ ¬ Strays c x := by
  cases x with
  | lost reason => exact ⟨fun _ => nofun, fun _ => .lost reason _⟩
  | broken label text => exact ⟨fun _ => nofun, fun _ => .broken label text⟩
  | reply r =>
    by_cases hb : ∃ body, c.HasBody r body
    · obtain ⟨body, hb⟩ := hb
      constructor
      · intro ht hx
        obtain ⟨hn, f, hf, ht⟩ | ⟨hs, ht⟩ := ht.reply_cases c q hb <;>
          obtain ⟨failure, hr⟩ | ⟨hn', hr⟩ := hx.receive_cases c q hb
        · cases ht.symm.trans hr
        · exact hr f hf ht
        · exact ht failure hr
        · exact hn' hs
      · intro hx
        by_cases hs : 400 ≤ r.status
        · exact endsAs_of_rejected c q hb hs hx
        · exact endsAs_of_accepted c q hb hs hx
    · have hn (body : List UInt8) : ¬ c.HasBody r body := not_exists.mp hb body
      refine iff_of_true ?_ ?_
      · cases hu : c.platform.unpacked r.headers r.body with
        | ok body => exact absurd hu (hn body)
        | error reason =>
          simp only [Client.receive, hu]
          exact .damaged _ hn
      · rintro (⟨hb, -⟩ | ⟨hb, -⟩ | ⟨hb, -⟩) <;> exact hn _ hb

end

/-- A reply without headers is not packed. -/
theorem Client.hasBody_plain (c : Client) (hc : c.platform = .standard) (status : ℕ)
    (body : List UInt8) : c.HasBody ⟨status, [], body⟩ body := by
  have hnone : Headers.compressions [] = [] := by decide +kernel
  change c.platform.unpacked [] body = .ok body
  rw [hc]
  change Platform.unpackedAs [] body = .ok body
  rw [Platform.unpackedAs, hnone]
  rfl

/-- A redirection whose body is the text of an empty object gives this object. -/
theorem not_endsAs_redirection :
    let c : Client := ⟨"http://prometheus.test:9090", [], .standard⟩
    let r : Reply := ⟨302, [], [0x7b, 0x7d]⟩
    c.receive ⟨"up", none⟩ (.reply r) = .ok (.object []) ∧
      ¬ EndsAs c ⟨"up", none⟩ (.reply r) (c.receive ⟨"up", none⟩ (.reply r)) := by
  intro c r
  have hv : c.receive ⟨"up", none⟩ (.reply r) = .ok (.object []) :=
    receive_of_accepted c ⟨"up", none⟩ (c.hasBody_plain rfl 302 _) (by decide)
  refine ⟨hv, ?_⟩
  rw [hv]
  rintro (_ | _ | _ | ⟨-, hs, -⟩)
  exact absurd hs.2 (by decide)

end ClusterBilling.Prometheus
