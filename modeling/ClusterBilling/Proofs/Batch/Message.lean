import ClusterBilling.Proofs.Batch.Promotion
import ClusterBilling.Proofs.Prometheus.Wording
import ClusterBilling.Proofs.Report.Failures
import ClusterBilling.Proofs.Report.Sending

/-!
The message of a batch that failed. It has a line for each failure just if no query breaks its line:
by a name of several lines, or by a text of several lines that its backend or its network told.
-/
namespace ClusterBilling
open Progress Prometheus

/-- The text of a failure under its name. -/
def failureLine (failure : Text × Fault) : Text := (failure.2.toQueryFault failure.1).message

/-- A failure that is told by texts, with newlines between them. Every text is a line of its own,
and there are as many lines as texts, just if none of them is `broken`. -/
structure Fault.ToldBy (e : Fault) (texts : List Text) (broken : Prop) : Prop where
  message : e.message = .join "\n" texts
  lines : e.message.lines = texts ↔ ¬ broken
  count : e.message.lines.length = texts.length ↔ ¬ broken

/-- A promotion fails if there are failures to tell, and tells them. -/
structure PromotesInLines (listed : List (Text × Fault)) (broken : Prop)
    (result : Except Fault Unit) : Prop where
  fails : (∃ e, result = .error e) ↔ listed ≠ []
  told : ∀ e, result = .error e → e.ToldBy (listed.map failureLine) broken

theorem Fault.messages_eq (faults : List Fault) : messages faults = faults.map message := by
  induction faults with
  | nil => rfl
  | cons f faults ih => rw [messages, ih, List.map_cons]

theorem faults_eq_failures (tasks : List Settled) :
    tasks.filterMap Settled.fault? = (failures tasks).map fun x => x.2.toQueryFault x.1 := by
  rw [failures, List.map_filterMap]
  apply List.filterMap_congr
  intro s _
  cases ho : s.outcome <;> simp [Settled.fault?, ho]

/-- A promotion tells each failure that it is for. -/
theorem promotesInLines {listed : List (Text × Fault)} {broken : Prop} {result : Except Fault Unit}
    (h : Batch.Promotes (listed.map fun x => x.2.toQueryFault x.1) result)
    (hb : broken ↔ ∃ x ∈ listed, ¬ (failureLine x).OneLine) :
    PromotesInLines listed broken result where
  fails := by
    simp only [h _, exists_and_left, exists_eq, and_true, ne_eq, List.map_eq_nil_iff]
  told e he := by
    obtain ⟨hne, rfl⟩ := (h e).mp he
    have hne : listed.map failureLine ≠ [] := fun h => hne (by simpa using h)
    have hm : (Fault.batch ((listed.map fun x => x.2.toQueryFault x.1).map .query)).message =
        .join "\n" (listed.map failureLine) := by
      rw [Fault.message, Fault.messages_eq, List.map_map, List.map_map]
      rfl
    have hbroken : (∀ t ∈ listed.map failureLine, t.OneLine) ↔ ¬ broken := by
      rw [hb, List.forall_mem_map]
      simp
    exact ⟨hm, by rw [hm, Text.lines_join_eq_iff hne, hbroken],
      by rw [hm, Text.length_lines_join_eq_iff hne, hbroken]⟩

namespace Prometheus

/-- A query as it ends that met with a delivery. -/
def Client.settled (c : Client) (x : NamedQuery × Delivery) : Settled :=
  (settle (c.backend fun _ => x.2) x.1).1

/-- A query whose failure takes more than a line: it fails under a name of several lines, or it is
sent and meets with a text of several lines. -/
inductive BreaksLine (c : Client) (x : NamedQuery × Delivery) : Prop where
  | name {f : Fault} : (c.settled x).outcome = .error f → ¬ x.1.1.OneLine → BreaksLine c x
  | text : Client.unsendable? x.1.2 = none → Sprawls c x.2.exchange → BreaksLine c x

section
variable {c : Client}

theorem outcome_settled_of_unsendable {x : NamedQuery × Delivery} {e : Encoding.EncodeError}
    (h : Client.unsendable? x.1.2 = some e) : (c.settled x).outcome = .error (.unsendable e) := by
  rw [Client.settled, outcome_settle, Backend.outcome, Client.backend]
  simp only [h]
  rfl

theorem outcome_settled_of_sendable {x : NamedQuery × Delivery}
    (h : Client.unsendable? x.1.2 = none) :
    (c.settled x).outcome = (readBody x.1.2.text (c.receive x.1.2 x.2.exchange)).1 := by
  rw [Client.settled, outcome_settle, Backend.outcome, Client.backend]
  simp only [h]

theorem breaksLine_iff (hp : c.platform.TellsInLine) (x : NamedQuery × Delivery) :
    BreaksLine c x ↔
    ∃ f, (c.settled x).outcome = .error f ∧ ¬ (failureLine (x.1.1, f)).OneLine := by
  simp only [failureLine, Fault.oneLine_message_iff, not_and_or]
  cases hu : Client.unsendable? x.1.2 with
  | some e =>
    have ho := outcome_settled_of_unsendable (c := c) hu
    have he := Fault.inLine_unsendable e
    constructor
    · intro h
      cases h with
      | name hf hn => exact ⟨_, hf, .inl hn⟩
      | text hs _ => cases hu.symm.trans hs
    · rintro ⟨f, hf, hn | hn⟩
      · exact .name hf hn
      · obtain rfl := Except.error.inj (ho.symm.trans hf)
        exact absurd he hn
  | none =>
    have ho := outcome_settled_of_sendable (c := c) hu
    constructor
    · intro h
      cases h with
      | name hf hn => exact ⟨_, hf, .inl hn⟩
      | text _ hs =>
        obtain ⟨f, hf, hn⟩ := (sprawls_iff (q := x.1.2) hp _).mp hs
        exact ⟨f, ho.trans hf, .inr hn⟩
    · rintro ⟨f, hf, hn | hn⟩
      · exact .name hf hn
      · exact .text hu ((sprawls_iff (q := x.1.2) hp _).mpr ⟨f, ho.symm.trans hf, hn⟩)

variable {asked : List (NamedQuery × Delivery)} {order : List ℕ}

theorem mem_failures_ended (ho : order.Perm (List.range (asked.map c.settled).length))
    (failure : Text × Fault) :
    failure ∈ failures (ended (asked.map c.settled) order) ↔
      ∃ x ∈ asked, x.1.1 = failure.1 ∧ (c.settled x).outcome = .error failure.2 := by
  rw [(failures_perm (ended_perm ho)).mem_iff]
  constructor
  · intro h
    obtain ⟨s, hs, hn, hf⟩ := mem_failures h
    obtain ⟨x, hx, rfl⟩ := List.mem_map.mp hs
    exact ⟨x, hx, hn, hf⟩
  · rintro ⟨x, hx, hn, hf⟩
    refine List.mem_filterMap.mpr ⟨c.settled x, List.mem_map_of_mem hx, ?_⟩
    rw [hf]
    exact congrArg some (Prod.ext hn rfl)

/-- A query breaks its line just if one of the failures takes more than a line. -/
theorem exists_breaksLine_iff (hc : c.platform.TellsInLine)
    (ho : order.Perm (List.range (asked.map c.settled).length))
    (p : Text → Prop) :
    (∃ x ∈ asked, p x.1.1 ∧ BreaksLine c x) ↔
      ∃ failure ∈ failures (ended (asked.map c.settled) order), p failure.1 ∧
        ¬ (failureLine failure).OneLine := by
  simp only [mem_failures_ended ho, breaksLine_iff hc]
  constructor
  · rintro ⟨x, hx, hp, f, hf, hn⟩
    exact ⟨(x.1.1, f), ⟨x, hx, rfl, hf⟩, hp, hn⟩
  · rintro ⟨failure, ⟨x, hx, hname, hf⟩, hp, hn⟩
    exact ⟨x, hx, hname ▸ hp, failure.2, hf, hname ▸ hn⟩

/-- However the queries of a batch end, in whatever order, and whatever they meet with, the failure
that is promoted for some names, or for all, tells the failures under them in the order in which
they ended. Each has a line of its own, so that the lines are as many as the failures, just if no
query breaks its line. What the platform tells of bodies has to be in line for this. -/
theorem message_has_line_for_each_iff {c : Client} (hc : c.platform.TellsInLine)
    (metrics : Metrics) {asked : List (NamedQuery × Delivery)} {order : List ℕ}
    (ho : order.Perm (List.range (asked.map c.settled).length)) :
    ∃ p batch, run? (asked.map c.settled) (start metrics (asked.map c.settled)) order = some p ∧
      p.join? (asked.map c.settled) = some batch ∧
      (∀ names, PromotesInLines (failuresUnder names (ended (asked.map c.settled) order))
        (∃ x ∈ asked, x.1.1 ∈ names ∧ BreaksLine c x) (batch.raiseFor names)) ∧
      PromotesInLines (failures (ended (asked.map c.settled) order))
        (∃ x ∈ asked, BreaksLine c x) batch.raiseForAny := by
  obtain ⟨p, hp, hr⟩ := run_ended metrics ho
  refine ⟨p, _, hp, hr.join ho, fun names => ?_, ?_⟩
  · apply promotesInLines
    · rw [failuresUnder_eq, ← faults_eq_failures, ← filter_faults]
      exact Batch.raise_promotes _
    · rw [exists_breaksLine_iff hc ho]
      simp [failuresUnder, and_assoc]
  · apply promotesInLines
    · rw [← faults_eq_failures]
      exact Batch.raise_promotes _
    · simpa using exists_breaksLine_iff hc ho fun _ => True

/-- Two queries of which both fail, the later one first. -/
theorem message_has_line_for_each_out_of_order :
    let c : Client := ⟨"http://prometheus.test:9090", [], .standard⟩
    let asked : List (NamedQuery × Delivery) :=
      [(("cpu", ⟨"up", none⟩), { exchange := .lost "timed out" }),
        (("ram", ⟨"up", none⟩), { exchange := .broken "KeyError" "" })]
    ∃ p batch e, run? (asked.map c.settled) (start ∅ (asked.map c.settled)) [1, 0] = some p ∧
      p.join? (asked.map c.settled) = some batch ∧ batch.raiseForAny = .error e ∧
      e.message.lines = [.ofString "query ram: KeyError", .ofString
        "query cpu: request to http://prometheus.test:9090/api/v1/query failed: timed out"] := by
  intro c asked
  obtain ⟨p, batch, hp, hb, -, hall⟩ :=
    @message_has_line_for_each_iff c Platform.standard_tellsInLine ∅ asked [1, 0] (by decide)
  have hfailures : (failures (ended (asked.map c.settled) [1, 0])).map failureLine =
      [.ofString "query ram: KeyError", .ofString
        "query cpu: request to http://prometheus.test:9090/api/v1/query failed: timed out"] := by
    decide +kernel
  have hcpu : ¬ BreaksLine c (("cpu", ⟨"up", none⟩), { exchange := .lost "timed out" }) := by
    intro h
    cases h with
    | name _ hname => exact hname (by decide)
    | text _ hs => cases hs with | lost h => exact h ⟨by decide, by decide⟩
  have hram : ¬ BreaksLine c (("ram", ⟨"up", none⟩), { exchange := .broken "KeyError" "" }) := by
    intro h
    cases h with
    | name _ hname => exact hname (by decide)
    | text _ hs => cases hs with | broken h => exact h (by decide)
  have hbreaks : ¬ ∃ x ∈ asked, BreaksLine c x := by
    simpa [asked] using ⟨hcpu, hram⟩
  obtain ⟨e, he⟩ := hall.fails.mpr fun h => by simp [h] at hfailures
  exact ⟨p, batch, e, hp, hb, he, hfailures ▸ (hall.told e he).lines.mpr hbreaks⟩

/-- Without a content type a body is read as UTF-8. -/
theorem ofContentType_none : Encoding.Charset.ofContentType none = .ofCodec Encoding.utf8 := by
  have hall : Encoding.Parameter.all [] = [⟨"", []⟩] := rfl
  have hlower : "".toLower = "" := by simp [String.toLower]
  have hname : Encoding.statedName [] = .ok none := by
    unfold Encoding.statedName
    rw [hall]
    simp [hlower]
  have hchars : ((none : Option Text).getD "").chars = [] := rfl
  unfold Encoding.Charset.ofContentType
  simp only [hchars, hname]
  rfl

theorem errorText_overloaded {c : Client} (hc : c.platform = .standard) :
    c.errorText [] ("overloaded\nretry later".toList.map fun c => UInt8.ofNat c.toNat) =
      .ok "overloaded\nretry later" := by
  have hnone : Headers.value? [] "content-type" = none := rfl
  generalize hbody : "overloaded\nretry later".toList.map (fun c => UInt8.ofNat c.toNat) = body
  have hread : (((c.decode body).map fun _ => "").tryCatch fun e => .ok e.message).toOption =
      some "Expecting value: line 1 column 1 (char 0)" := by
    rw [Client.decode, hc, ← hbody]
    decide +kernel
  have hd : ¬ TooDeep c body := by
    rintro ⟨container, h⟩
    rw [h] at hread
    cases container <;> exact absurd hread (by decide)
  obtain ⟨text, ht, -⟩ | ⟨-, he⟩ := errorText_cases [] hd
  · obtain ⟨hv, -⟩ | ⟨hv, -⟩ := ht <;>
    · rw [hv] at hread
      change some "" = some _ at hread
      exact absurd hread (by decide)
  · rw [he, Client.bodyText, hc]
    change (Platform.textOf [] body).mapError _ = _
    rw [Platform.textOf, hnone, ofContentType_none, ← hbody]
    rfl

/-- A backend that is overloaded says so in two lines, and one failure takes both. -/
theorem message_lines_overloaded :
    let c : Client := ⟨"http://prometheus.test:9090", [], .standard⟩
    let body := "overloaded\nretry later".toList.map fun c => UInt8.ofNat c.toNat
    let tasks := [c.settled (("total_cpu", ⟨"up", none⟩), { exchange := .reply ⟨503, [], body⟩ })]
    ∃ p batch e, run? tasks (start ∅ tasks) [0] = some p ∧ p.join? tasks = some batch ∧
      batch.raiseForAny = .error e ∧ batch.faults.length = 1 ∧
      e.message.lines = [.ofString "query total_cpu: 503 from /api/v1/query: overloaded",
        .ofString "retry later"] := by
  intro c body tasks
  let f : QueryFault :=
    ⟨.transport, "503 from /api/v1/query: overloaded\nretry later", "up", ""⟩
  have hdetail : (toString 503 ++ " from " ++ Client.path ⟨"up", none⟩ ++ ": " ++
      "overloaded\nretry later" : Text) = f.detail := by decide +kernel
  have hreceive : c.receive ⟨"up", none⟩ (.reply ⟨503, [], body⟩) = .error (.query f) := by
    rw [receive_of_rejected c _ (c.hasBody_plain rfl 503 body) (by decide)]
    simp only [body, @errorText_overloaded c rfl, hdetail]
    rfl
  have hsettled : tasks =
      [⟨"total_cpu", .error (.query f), [Client.requestEvent ⟨"up", none⟩], 0⟩] := by
    have hu : Client.unsendable? ⟨"up", none⟩ = none := rfl
    simp only [tasks, Client.settled, settle_eq, Client.backend, hu, hreceive]
    rfl
  have hfaults : tasks.filterMap Settled.fault? =
      [⟨.transport, "503 from /api/v1/query: overloaded\nretry later", "up", "total_cpu"⟩] := by
    rw [hsettled]
    rfl
  have hended : ended tasks [0] = tasks := rfl
  obtain ⟨p, hp, hr⟩ := @run_ended ∅ tasks [0] (by decide)
  have hjoin := hr.join (by decide)
  rw [hended] at hjoin
  refine ⟨p, _, .batch ((tasks.filterMap Settled.fault?).map .query), hp, hjoin, ?_, ?_, ?_⟩
  · exact (Batch.raise_promotes _ _).mpr ⟨by simp [Batch.gather, hfaults], rfl⟩
  · simp [Batch.gather, hfaults]
  · rw [hfaults]
    decide +kernel

end
end Prometheus
end ClusterBilling
