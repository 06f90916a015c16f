import Mathlib
import ClusterBilling.Proofs.Batch.Order
import ClusterBilling.Report.Inquiry

/-!
The records that a batch keeps of its failures agree: collected faults, counters, events and the
event that sums them up.
-/
namespace ClusterBilling
open Progress

theorem Histogram.sum_countUnder {x : Float} (hx : x.isNaN = false) {bounds : List Float}
    {counts : List ℕ} (hl : counts.length = bounds.length + 1) :
    (countUnder x bounds counts).foldr (· + ·) 0 = counts.foldr (· + ·) 0 + 1 := by
  induction bounds generalizing counts with
  | nil =>
    obtain ⟨count, rfl⟩ := List.length_eq_one_iff.mp hl
    rw [countUnder, if_neg (by rw [hx]; exact Bool.false_ne_true)]
    exact Nat.add_right_comm ..
  | cons bound bounds ih =>
    obtain ⟨count, counts, rfl⟩ := List.exists_cons_of_length_eq_add_one hl
    have hs := ih (Nat.succ.inj hl)
    rw [countUnder]
    split_ifs
    · simp only [List.foldr_cons]
      omega
    · simp only [List.foldr_cons, hs]
      omega

/-- A duration that is a number counts once. -/
theorem Histogram.count_observe {h : Histogram} {x : Float}
    (hl : h.counts.length = durationBounds.length + 1) (hx : x.isNaN = false) :
    (h.observe x).count = h.count + 1 :=
  sum_countUnder hx hl

theorem Metrics.countFailure_of_not_mem {key : FailureKey} {counters : List (FailureKey × ℕ)}
    (hk : key ∉ counters.map Prod.fst) : countFailure key counters = counters ++ [(key, 1)] := by
  induction counters with
  | nil => rfl
  | cons c counters ih =>
    rw [List.map_cons, List.mem_cons, not_or] at hk
    rw [countFailure, if_neg (Ne.symm hk.1), ih hk.2, List.cons_append]

/-- The word under which a failure counts. -/
inductive CountedAs : Fault → Text → Prop where
  | transport (f : QueryFault) (hf : f.kind = .transport) : CountedAs (.query f) "transport"
  | parse (f : QueryFault) (hf : f.kind = .parse) : CountedAs (.query f) "parse"
  | other (f : QueryFault) (hf : f.kind = .other) : CountedAs (.query f) "other"
  /-- What is no fault of a query counts as one of the last kind. -/
  | crash (f : Fault) (hf : ∀ q, f ≠ .query q) : CountedAs f "other"

theorem Fault.toQueryFault_countedAs (name : Text) (f : Fault) :
    CountedAs f (f.toQueryFault name).kind.word := by
  by_cases hf : ∃ q, f = .query q
  · obtain ⟨q, rfl⟩ := hf
    cases hk : q.kind with
    | transport => simpa [toQueryFault, hk, FailureKind.word] using CountedAs.transport q hk
    | parse => simpa [toQueryFault, hk, FailureKind.word] using CountedAs.parse q hk
    | other => simpa [toQueryFault, hk, FailureKind.word] using CountedAs.other q hk
  · rw [toQueryFault_of_ne (not_exists.mp hf)]
    exact .crash f (not_exists.mp hf)

theorem CountedAs.eq_word {f : Fault} {word : Text} (h : CountedAs f word) (name : Text) :
    word = (f.toQueryFault name).kind.word := by
  cases h with
  | transport f hf | parse f hf | other f hf => simp [Fault.toQueryFault, hf, FailureKind.word]
  | crash f hf => rw [Fault.toQueryFault_of_ne hf, FailureKind.word]

/-- A counter that has counted one failure, of a query under its name, and no other. -/
structure CountedOnce (failure : Text × Fault) (counter : FailureKey × ℕ) : Prop where
  query : counter.1.query = failure.1
  kind : CountedAs failure.2 counter.1.kind
  once : counter.2 = 1

/-- The event tells of one query that failed. -/
def Event.TellsFailure (e : Event) : Prop :=
  e.origin = .batches ∧ (e.name = "query_failed" ∨ e.name = "query_crashed")

/-- The event sums up the failures of a batch. -/
def Event.SumsUp (e : Event) : Prop := e.origin = .batches ∧ e.name = "query_batch_errors"

instance : DecidablePred Event.TellsFailure := fun _ => inferInstanceAs (Decidable (_ ∧ _))

theorem failures_append (tasks tasks' : List Settled) :
    failures (tasks ++ tasks') = failures tasks ++ failures tasks' :=
  List.filterMap_append ..

theorem mem_failures {tasks : List Settled} {name : Text} {f : Fault}
    (h : (name, f) ∈ failures tasks) : ∃ s ∈ tasks, s.name = name ∧ s.outcome = .error f := by
  obtain ⟨s, hs, he⟩ := List.mem_filterMap.mp h
  cases ho : s.outcome with
  | ok series => simp [ho] at he
  | error g =>
    simp only [ho, Option.some.injEq, Prod.mk.injEq] at he
    exact ⟨s, hs, he.1, ho.trans (congrArg _ he.2)⟩

theorem failures_perm {tasks tasks' : List Settled} (h : tasks.Perm tasks') :
    (failures tasks).Perm (failures tasks') :=
  h.filterMap _

theorem failures_names_sublist (tasks : List Settled) :
    ((failures tasks).map Prod.fst).Sublist (tasks.map Settled.name) := by
  induction tasks with
  | nil => exact .slnil
  | cons s tasks ih =>
    cases ho : s.outcome with
    | ok series => simpa [failures, ho] using ih.cons s.name
    | error f => simpa [failures, ho] using ih.cons_cons s.name

/-- The failures leave no choice of their counters. -/
theorem CountedOnce.counters_eq {failed : List (Text × Fault)} {counters : List (FailureKey × ℕ)}
    (h : List.Forall₂ CountedOnce failed counters) :
    counters = failed.map fun x => (⟨x.1, (x.2.toQueryFault x.1).kind.word⟩, 1) := by
  induction h with
  | nil => rfl
  | cons hc _ ih =>
    obtain ⟨hq, hk, ho⟩ := hc
    rw [List.map_cons, ← ih, ← hk.eq_word, ← hq, ← ho]

theorem CountedOnce.queries {failed : List (Text × Fault)} {counters : List (FailureKey × ℕ)}
    (h : List.Forall₂ CountedOnce failed counters) :
    counters.map (·.1.query) = failed.map Prod.fst := by
  rw [counters_eq h, List.map_map]
  rfl

theorem CountedOnce.sum {failed : List (Text × Fault)} {counters : List (FailureKey × ℕ)}
    (h : List.Forall₂ CountedOnce failed counters) :
    (counters.map Prod.snd).sum = failed.length := by
  rw [counters_eq h]
  simp [Function.comp_def]

namespace Settled

/-- What is said at the end of a query tells of its failure, once, and of nothing else. -/
theorem countP_endEvents (s : Settled) :
    s.endEvents.countP Event.TellsFailure = (failures [s]).length := by
  obtain ⟨name, outcome, events, elapsed⟩ := s
  rcases outcome with f | series
  · cases f <;> rfl
  · rfl

theorem not_sumsUp_endEvents (s : Settled) : ∀ e ∈ s.endEvents, ¬ e.SumsUp := by
  obtain ⟨name, outcome, events, elapsed⟩ := s
  rcases outcome with f | series
  · cases f <;> simp [endEvents, Event.SumsUp] <;> decide
  · simp [endEvents]

end Settled

namespace Progress

/-- The records of a batch of which these tasks have ended: every duration counts once, and every
failure stands once in each of the records of failures. -/
structure Accounts (past : List Settled) (p : Progress) : Prop where
  durations (name : Text) : (p.metrics.durations.get? name).map Histogram.count =
    if name ∈ past.map Settled.name then some 1 else none
  counters : List.Forall₂ CountedOnce (failures past) p.metrics.failures
  collected : p.collector.faults.length = (failures past).length
  told : p.events.countP Event.TellsFailure = (failures past).length
  notSummed : ∀ e ∈ p.events, ¬ e.SumsUp

theorem start_accounts (tasks : List Settled) : Accounts [] (start ∅ tasks) where
  durations _ := rfl
  counters := .nil
  collected := rfl
  told := rfl
  notSummed := by simp [start]

section
variable {past : List Settled} {p : Progress} {s : Settled}

theorem Accounts.counters_settle (h : Accounts past p) (hs : s.name ∉ past.map Settled.name) :
    List.Forall₂ CountedOnce (failures (past ++ [s])) (s.record p.metrics).failures := by
  rw [failures_append]
  cases ho : s.outcome with
  | ok series =>
    have hf : failures [s] = [] := by simp [failures, ho]
    have hm : (s.record p.metrics).failures = p.metrics.failures := by
      simp [Settled.record, Settled.fault?, ho, Metrics.observeDuration]
    rw [hf, hm, List.append_nil]
    exact h.counters
  | error f =>
    have hk : ⟨s.name, (f.toQueryFault s.name).kind.word⟩ ∉ p.metrics.failures.map Prod.fst := by
      intro hk
      have hq := List.mem_map_of_mem (f := FailureKey.query) hk
      rw [List.map_map] at hq
      exact hs ((failures_names_sublist past).subset (CountedOnce.queries h.counters ▸ hq))
    have hf : failures [s] = [(s.name, f)] := by simp [failures, ho]
    have hm : (s.record p.metrics).failures =
        p.metrics.failures ++ [(⟨s.name, (f.toQueryFault s.name).kind.word⟩, 1)] := by
      rw [← Metrics.countFailure_of_not_mem hk]
      simp [Settled.record, Settled.fault?, ho, Metrics.observeDuration, Metrics.addFailure]
    rw [hf, hm]
    exact List.rel_append h.counters (.cons ⟨rfl, f.toQueryFault_countedAs s.name, rfl⟩ .nil)

theorem Accounts.durations_settle (h : Accounts past p) (hs : s.name ∉ past.map Settled.name)
    (he : s.elapsed.isNaN = false) (name : Text) :
    ((s.record p.metrics).durations.get? name).map Histogram.count =
      if name ∈ (past ++ [s]).map Settled.name then some 1 else none := by
  have hd : (s.record p.metrics).durations = p.metrics.durations.alter s.name
      fun h? => (h?.getD .empty).observe s.elapsed := by
    cases ho : s.outcome <;>
      simp [Settled.record, Settled.fault?, ho, Metrics.observeDuration, Metrics.addFailure]
  have hnew : p.metrics.durations.get? s.name = none := by
    have hn := h.durations s.name
    rwa [if_neg hs, Option.map_eq_none_iff] at hn
  rw [hd, Table.get?_alter]
  by_cases hname : name = s.name
  · have hc : (Histogram.empty.observe s.elapsed).count = 1 := Histogram.count_observe rfl he
    simp [hname, hnew, hc]
  · simpa [hname] using h.durations name

/-- One more task ends, of a name that has not ended before. -/
theorem Accounts.settle (h : Accounts past p) (hs : s.name ∉ past.map Settled.name)
    (he : s.elapsed.isNaN = false) (hq : ∀ e ∈ s.events, e.origin ≠ .batches) (i : ℕ) :
    Accounts (past ++ [s]) (p.settle i s) where
  durations := h.durations_settle hs he
  counters := h.counters_settle hs
  collected := by
    change (p.collector.report _).faults.length = _
    rw [faults_report, List.length_append, h.collected, failures_append, List.length_append]
    cases ho : s.outcome <;> simp [Settled.fault?, failures, ho]
  told := by
    have hown : s.events.countP Event.TellsFailure = 0 :=
      List.countP_eq_zero.mpr fun e hm => by simp [Event.TellsFailure, hq e hm]
    change (p.events ++ (s.events ++ s.endEvents)).countP _ = _
    rw [List.countP_append, List.countP_append, h.told, hown, Settled.countP_endEvents, zero_add,
      failures_append, List.length_append]
  notSummed e hm := by
    rcases List.mem_append.mp hm with hm | hm
    · exact h.notSummed e hm
    · rcases List.mem_append.mp hm with hm | hm
      · exact fun hsum => hq e hm hsum.1
      · exact s.not_sumsUp_endEvents e hm

variable {tasks : List Settled} {p' : Progress}

/-- The records agree at every moment of a run. -/
theorem Accounts.run {done order : List ℕ} (h : Accounts (ended tasks done) p)
    (hn : ((ended tasks (done ++ order)).map Settled.name).Nodup)
    (he : ∀ s ∈ tasks, s.elapsed.isNaN = false)
    (hq : ∀ s ∈ tasks, ∀ e ∈ s.events, e.origin ≠ .batches)
    (hr : run? tasks p order = some p') : Accounts (ended tasks (done ++ order)) p' := by
  induction order generalizing done p with
  | nil =>
    obtain rfl := Option.some.inj hr
    rwa [List.append_nil]
  | cons i order ih =>
    rw [run?, List.foldlM_cons] at hr
    obtain ⟨q, hi, hr⟩ := Option.bind_eq_some_iff.mp hr
    obtain ⟨s, hs, rfl⟩ := finish?_eq_some hi
    have hlast : ended tasks [i] = [s] := by simp [ended, hs]
    have hmem : s ∈ tasks := List.mem_of_getElem? hs
    rw [List.append_cons] at hn ⊢
    refine ih ?_ hn hr
    rw [ended_append, hlast]
    refine h.settle ?_ (he s hmem) (hq s hmem) i
    rw [ended_append, ended_append, hlast, List.append_assoc, List.map_append,
      List.nodup_append] at hn
    exact fun hd => hn.2.2 s.name hd s.name (by simp) rfl

end
end Progress

/-- The client and the reader of answers leave the events of a batch to the batch. -/
theorem Prometheus.Client.settle_origins (c : Client) (network : Network) (q : NamedQuery) :
    ∀ e ∈ (settle (c.backend network) q).1.events, e.origin ≠ .batches := by
  have hread (body : Except Fault Json) :
      ∀ e ∈ (readBody q.2.text body).2, e.origin ≠ .batches := by
    unfold readBody
    repeat' split
    all_goals simp
  intro e he
  rcases List.mem_append.mp he with he | he
  · unfold backend at he
    split at he <;> simp only [List.mem_singleton] at he <;> subst he <;>
      exact (by decide : Origin.backend ≠ .batches)
  · exact hread _ e he

section
variable {tasks : List Settled}

theorem not_counted_of_ok {past : List Settled} {counters : List (FailureKey × ℕ)}
    (h : List.Forall₂ CountedOnce (failures past) counters)
    (hn : (past.map Settled.name).Nodup) {s : Settled} (hs : s ∈ past)
    {series : List (Series Float)} (ho : s.outcome = .ok series) :
    ∀ c ∈ counters, c.1.query ≠ s.name := by
  intro c hc hname
  have hq : c.1.query ∈ (failures past).map Prod.fst := by
    rw [← CountedOnce.queries h]
    exact List.mem_map_of_mem hc
  obtain ⟨⟨name, f⟩, hf, hfn⟩ := List.mem_map.mp hq
  obtain ⟨t, ht, htn, hto⟩ := mem_failures hf
  obtain rfl : t = s := List.inj_on_of_nodup_map hn ht hs (htn.trans (hfn.trans hname))
  cases hto.symm.trans ho

/-- Whatever the queries of a batch come to, and in whatever order they end, the batch observes one
duration for each of them, and its failures stand in all of its records alike: each in the
collector, under one counter of its own and in one event; and their number ends the events if there
are any. -/
theorem failures_are_accounted_for (hn : (tasks.map Settled.name).Nodup)
    (he : ∀ s ∈ tasks, s.elapsed.isNaN = false)
    (hq : ∀ s ∈ tasks, ∀ e ∈ s.events, e.origin ≠ .batches) {order : List ℕ}
    (ho : order.Perm (List.range tasks.length)) :
    ∃ p batch, run? tasks (start ∅ tasks) order = some p ∧ p.join? tasks = some batch ∧
      (∀ name, (batch.metrics.durations.get? name).map Histogram.count =
        if name ∈ tasks.map Settled.name then some 1 else none) ∧
      List.Forall₂ CountedOnce (failures (ended tasks order)) batch.metrics.failures ∧
      (batch.metrics.failures.map (·.1.query)).Nodup ∧
      (∀ s ∈ tasks, ∀ series, s.outcome = .ok series →
        ∀ c ∈ batch.metrics.failures, c.1.query ≠ s.name) ∧
      ∃ n running, n = (failures tasks).length ∧
        p.collector.faults.length = n ∧
        (batch.metrics.failures.map Prod.snd).sum = n ∧
        batch.events.countP Event.TellsFailure = n ∧
        batch.events = running ++ (if n = 0 then [] else
          [⟨.warning, .batches, "query_batch_errors",
            [("failed", .integer n), ("total", .integer tasks.length)]⟩]) ∧
        ∀ e ∈ running, ¬ e.SumsUp := by
  have hperm := ended_perm ho
  have hnames : ((ended tasks order).map Settled.name).Nodup :=
    (hperm.map Settled.name).nodup_iff.mpr hn
  obtain ⟨p, hp, hr⟩ := run_ended ∅ ho
  have hstart : Accounts (ended tasks []) (start ∅ tasks) := start_accounts tasks
  have ha : Accounts (ended tasks order) p := hstart.run hnames he hq hp
  have hlen : (failures (ended tasks order)).length = (failures tasks).length :=
    (failures_perm hperm).length_eq
  have hfaults :
      ((ended tasks order).filterMap Settled.fault?).length = (failures tasks).length := by
    rw [← hlen, ← ha.collected, hr.faults, List.length_map]
  refine ⟨p, _, hp, hr.join ho, ?_, ?_, ?_, ?_, (failures tasks).length, p.events, rfl,
    ha.collected.trans hlen, ?_, ?_, ?_, ha.notSummed⟩
  all_goals simp only [Batch.gather, ← hr.metrics, ← hr.events, hfaults, Batch.summaryEvents]
  · intro name
    simp only [ha.durations, (hperm.map Settled.name).mem_iff]
  · exact ha.counters
  · rw [CountedOnce.queries ha.counters]
    exact (failures_names_sublist _).nodup hnames
  · intro s hs series hok
    exact not_counted_of_ok ha.counters hnames (hperm.mem_iff.mpr hs) hok
  · rw [CountedOnce.sum ha.counters, hlen]
  · rw [List.countP_append, ha.told, hlen, Nat.add_eq_left]
    split_ifs <;> rfl

end

/-- Four queries, one of them answered; the three others fail in three ways and out of order. -/
theorem failures_are_accounted_for_out_of_order :
    let tasks : List Settled := [
      ⟨"cpu", .error (.query ⟨.parse, "no data", "up", ""⟩), [⟨.debug, .backend, "sent", []⟩], 0.5⟩,
      ⟨"ram", .ok [], [], 0.25⟩,
      ⟨"disk", .error (.query ⟨.transport, "timeout", "up", ""⟩), [], 20⟩,
      ⟨"rent", .error (.foreign "KeyError" ""), [], 0⟩]
    ∃ p batch, run? tasks (start ∅ tasks) [3, 0, 1, 2] = some p ∧ p.join? tasks = some batch ∧
      (batch.metrics.durations.get? "rent").map Histogram.count = some 1 ∧
      batch.metrics.failures = [(⟨"rent", "other"⟩, 1), (⟨"cpu", "parse"⟩, 1),
        (⟨"disk", "transport"⟩, 1)] ∧
      p.collector.faults.length = 3 ∧ batch.events.countP Event.TellsFailure = 3 ∧
      ∃ running, batch.events = running ++ [⟨.warning, .batches, "query_batch_errors",
        [("failed", .integer 3), ("total", .integer 4)]⟩] := by
  intro tasks
  obtain ⟨p, batch, hp, hb, hd, hc, -, -, n, running, hn, hf, -, he, hs, -⟩ :=
    @failures_are_accounted_for tasks (by decide) (by decide) (by decide) [3, 0, 1, 2] (by decide)
  obtain rfl : n = 3 := hn
  exact ⟨p, batch, hp, hb, hd "rent", CountedOnce.counters_eq hc, hf, he, running, hs⟩

end ClusterBilling
