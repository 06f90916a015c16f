import ClusterBilling.Proofs.Batch.Order
import ClusterBilling.Proofs.Report.Inquiry

/-!
The event loop that a batch runs in. The tasks that can go on do so first come, first served, each
of them up to its end or to a call of the backend. So the backend is called with the queries in the
order of the batch and with each of them once, whatever fails and in whatever order the responses
come.
-/
namespace ClusterBilling

/-- A task of a batch: the place of its slot, and what it has still to do. -/
abbrev Task := ℕ × Inquiry (Settled × ℕ)

structure Dispatch where
  /-- The tasks that can go on, in the order in which they will. -/
  ready : List Task
  /-- The tasks that wait for the response to a call, with what they do once they have it. -/
  waiting : List Task
  /-- The queries that the backend was called with, in the order of the calls. -/
  calls : List NamedQuery
  progress : Progress

/-- The tasks of some queries, as a backend ends them. -/
def tasksOf (backend : Backend) (queries : List NamedQuery) : List Settled :=
  (queries.map (settle backend)).map Prod.fst

namespace Dispatch

/-- What happens next to a batch. -/
inductive Turn where
  /-- The first task that can go on does so. If it calls the backend and the response is at hand it
  stays the first, and else it waits. -/
  | next (atHand : Bool)
  /-- One of the tasks that wait gets its response, and can go on after those that already can. -/
  | wake (k : ℕ)

/-- A task that has not called the backend yet. -/
def fresh (x : NamedQuery × ℕ) : Task := (x.2, inquire x.1)

/-- A task that has the response to its call. -/
def answered (backend : Backend) (x : NamedQuery × ℕ) : Task :=
  (x.2, .done (settle backend x.1))

/-- All tasks are submitted. -/
def start (backend : Backend) (metrics : Metrics) (queries : List NamedQuery) : Dispatch :=
  ⟨queries.zipIdx.map fresh, [], [], .start metrics (tasksOf backend queries)⟩

def turn? (backend : Backend) (d : Dispatch) : Turn → Option Dispatch
  | .next atHand =>
    match d.ready with
    | [] => none
    | (i, .done (s, _)) :: ready => some { d with ready, progress := d.progress.settle i s }
    | (i, .call q next) :: ready =>
      let task : Task := (i, next (backend q.2))
      if atHand then some { d with ready := task :: ready, calls := d.calls ++ [q] }
      else some { d with ready, waiting := d.waiting ++ [task], calls := d.calls ++ [q] }
  | .wake k =>
    d.waiting[k]?.map fun task =>
      { d with ready := d.ready ++ [task], waiting := d.waiting.eraseIdx k }

/-- The batch takes these turns. -/
def run? (backend : Backend) (d : Dispatch) (turns : List Turn) : Option Dispatch :=
  turns.foldlM (turn? backend) d

section
variable {backend : Backend} {metrics : Metrics} {queries : List NamedQuery} {n : ℕ}
  {ended : List (NamedQuery × ℕ)} {ready waiting : List Task} {task : Task} {d d' : Dispatch}

/-- Where the tasks of a batch stand once the first `n` queries have gone out and the tasks of
`ended` have ended. Those that have not called the backend are next, but for the ones that had their
responses at hand; the others that have not ended wait, or come behind them. -/
def Placed (backend : Backend) (queries : List NamedQuery) (n : ℕ) (ended : List (NamedQuery × ℕ))
    (ready waiting : List Task) : Prop :=
  ∃ prompt resumed asleep, ready = prompt.map (answered backend) ++
      ((queries.zipIdx.drop n).map fresh ++ resumed.map (answered backend)) ∧
    waiting = asleep.map (answered backend) ∧
    (prompt ++ (resumed ++ (asleep ++ ended))).Perm (queries.zipIdx.take n)

theorem Placed.mem (h : Placed backend queries n ended ready waiting) {x : NamedQuery × ℕ}
    (hx : x ∈ ended) : x ∈ queries.zipIdx.take n := by
  obtain ⟨prompt, resumed, asleep, -, -, hp⟩ := h
  exact hp.subset (by simp [hx])

/-- The first task that can go on has its response, and then it ends. -/
inductive Placed.First (backend : Backend) (queries : List NamedQuery) (n : ℕ)
    (ended : List (NamedQuery × ℕ)) (ready waiting : List Task) : Task → Prop
  | ends (x : NamedQuery × ℕ) (h : Placed backend queries n (ended ++ [x]) ready waiting) :
    First backend queries n ended ready waiting (answered backend x)
  /-- Or else it is the next to call the backend. -/
  | calls (hn : n < queries.length)
    (prompt : Placed backend queries (n + 1) ended (answered backend (queries[n], n) :: ready)
      waiting)
    (waits : Placed backend queries (n + 1) ended ready
      (waiting ++ [answered backend (queries[n], n)])) :
    First backend queries n ended ready waiting (fresh (queries[n], n))

theorem Placed.first (h : Placed backend queries n ended (task :: ready) waiting) :
    First backend queries n ended ready waiting task := by
  obtain ⟨prompt, resumed, asleep, hready, rfl, hp⟩ := h
  cases prompt with
  | cons x prompt =>
    rw [List.map_cons, List.cons_append] at hready
    obtain ⟨rfl, rfl⟩ := List.cons.inj hready
    refine .ends x ⟨prompt, resumed, asleep, rfl, rfl, ?_⟩
    simp only [← List.append_assoc] at hp ⊢
    exact (List.perm_append_singleton _ _).trans hp
  | nil =>
    rw [List.map_nil, List.nil_append] at hready
    rcases lt_or_ge n queries.length with hn | hn
    · have hz : queries.zipIdx.drop n = (queries[n], n) :: queries.zipIdx.drop (n + 1) := by
        rw [List.drop_eq_getElem_cons (by simpa using hn)]
        simp
      have htake : queries.zipIdx.take (n + 1) = queries.zipIdx.take n ++ [(queries[n], n)] := by
        rw [List.take_succ_eq_append_getElem (by simpa using hn)]
        simp
      rw [hz, List.map_cons, List.cons_append] at hready
      obtain ⟨rfl, rfl⟩ := List.cons.inj hready
      refine .calls hn ⟨[(queries[n], n)], resumed, asleep, rfl, rfl, ?_⟩
        ⟨[], resumed, asleep ++ [(queries[n], n)], rfl, by simp, ?_⟩
      · rw [htake]
        exact (hp.cons _).trans (List.perm_append_singleton _ _).symm
      · rw [htake]
        refine .trans ?_ (hp.append_right _)
        simp only [List.nil_append, List.append_assoc]
        exact .append_left _ (.append_left _ List.perm_append_comm)
    · -- all queries have gone out, so the task goes on with what it has heard
      rw [List.drop_eq_nil_of_le (by simpa using hn), List.map_nil, List.nil_append] at hready
      cases resumed with
      | nil => cases hready
      | cons x resumed =>
        obtain ⟨rfl, rfl⟩ := List.cons.inj hready
        refine .ends x ⟨[], resumed, asleep, ?_, rfl, ?_⟩
        · rw [List.drop_eq_nil_of_le (by simpa using hn)]
          rfl
        · simp only [List.nil_append, ← List.append_assoc] at hp ⊢
          exact (List.perm_append_singleton _ _).trans hp

theorem Placed.wake (h : Placed backend queries n ended ready waiting) {k : ℕ}
    (hk : waiting[k]? = some task) :
    Placed backend queries n ended (ready ++ [task]) (waiting.eraseIdx k) := by
  obtain ⟨prompt, resumed, asleep, rfl, rfl, hp⟩ := h
  rw [List.getElem?_map] at hk
  obtain ⟨x, hx, rfl⟩ := Option.map_eq_some_iff.mp hk
  obtain ⟨hlt, rfl⟩ := List.getElem?_eq_some_iff.mp hx
  refine ⟨prompt, resumed ++ [asleep[k]], asleep.eraseIdx k, by simp, List.eraseIdx_map .., ?_⟩
  refine .trans (.append_left _ ?_) hp
  rw [List.append_assoc, ← List.append_assoc [_]]
  exact .append_left _ ((List.getElem_cons_eraseIdx_perm hlt).append_right _)

/-- What holds once the first `n` queries have gone out and the tasks of `ended` have ended, in that
order. -/
structure Underway (backend : Backend) (metrics : Metrics) (queries : List NamedQuery) (n : ℕ)
    (ended : List (NamedQuery × ℕ)) (d : Dispatch) : Prop where
  calls : d.calls = queries.take n
  placed : Placed backend queries n ended d.ready d.waiting
  progress : Progress.Reached metrics (tasksOf backend queries) (ended.map Prod.snd) d.progress

theorem tasksOf_getElem? {x : NamedQuery × ℕ} (hx : x ∈ queries.zipIdx) :
    (tasksOf backend queries)[x.2]? = some (settle backend x.1).1 := by
  simp [tasksOf, List.mem_zipIdx_iff_getElem?.mp hx]

theorem Underway.next (h : Underway backend metrics queries n ended d) {atHand : Bool}
    (ht : turn? backend d (.next atHand) = some d') :
    ∃ n' ended', Underway backend metrics queries n' ended' d' := by
  obtain ⟨hcalls, hplaced, hprogress⟩ := h
  cases hr : d.ready with
  | nil =>
    rw [turn?, hr] at ht
    cases ht
  | cons task ready =>
    rw [hr] at hplaced
    cases hplaced.first with
    | ends x hx =>
      simp only [turn?, hr, answered] at ht
      obtain rfl := Option.some.inj ht
      have hmem := List.mem_of_mem_take (hx.mem (List.mem_append_right _ List.mem_cons_self))
      obtain ⟨hi, hs⟩ := List.getElem?_eq_some_iff.mp (@tasksOf_getElem? backend _ _ hmem)
      refine ⟨n, ended ++ [x], hcalls, hx, ?_⟩
      rw [List.map_append]
      exact hs ▸ hprogress.settle hi
    | calls hn prompt waits =>
      have htake : d.calls ++ [queries[n]] = queries.take (n + 1) := by
        rw [hcalls, List.take_succ_eq_append_getElem hn]
      simp only [turn?, hr, fresh, inquire] at ht
      cases atHand with
      | true =>
        obtain rfl := Option.some.inj ht
        exact ⟨n + 1, ended, htake, prompt, hprogress⟩
      | false =>
        obtain rfl := Option.some.inj ht
        exact ⟨n + 1, ended, htake, waits, hprogress⟩

theorem Underway.wake (h : Underway backend metrics queries n ended d) {k : ℕ}
    (ht : turn? backend d (.wake k) = some d') : Underway backend metrics queries n ended d' := by
  obtain ⟨task, hk, rfl⟩ := Option.map_eq_some_iff.mp ht
  exact ⟨h.calls, h.placed.wake hk, h.progress⟩

theorem Underway.turn (h : Underway backend metrics queries n ended d) {turn : Turn}
    (ht : turn? backend d turn = some d') :
    ∃ n' ended', Underway backend metrics queries n' ended' d' := by
  cases turn with
  | next atHand => exact h.next ht
  | wake k => exact ⟨n, ended, h.wake ht⟩

theorem Underway.run (h : Underway backend metrics queries n ended d) {turns : List Turn}
    (hr : run? backend d turns = some d') :
    ∃ n' ended', Underway backend metrics queries n' ended' d' := by
  induction turns generalizing d n ended with
  | nil =>
    obtain rfl := Option.some.inj hr
    exact ⟨n, ended, h⟩
  | cons turn turns ih =>
    rw [run?, List.foldlM_cons] at hr
    obtain ⟨d₁, ht, hr⟩ := Option.bind_eq_some_iff.mp hr
    obtain ⟨n₁, ended₁, h₁⟩ := h.turn ht
    exact ih h₁ hr

end

section
variable {backend : Backend} {metrics : Metrics} {queries : List NamedQuery} {d : Dispatch}

end

end Dispatch
end ClusterBilling
