import Mathlib.Tactic
import ClusterBilling.Batch

/-!
A batch while its tasks run. They end one after the other in any order; a failure goes to the
collector that they share, and its slot stays empty.
-/
namespace ClusterBilling

theorem filterMap_range_getElem? {α : Type} (l : List α) (n : ℕ) :
    (List.range n).filterMap (l[·]?) = l.take n := by
  induction n with
  | zero => rfl
  | succ n ih =>
    rw [List.range_succ, List.filterMap_append, ih, List.take_add_one]
    cases hn : l[n]? <;> simp [hn]

structure Progress where
  /-- What each task gave back; nothing yet while it runs. -/
  slots : List (Option (List (Series Float)))
  collector : Collector
  events : List Event
  metrics : Metrics

namespace Progress

/-- All tasks run. -/
def start (metrics : Metrics) (tasks : List Settled) : Progress :=
  ⟨tasks.map fun _ => none, ∅, [], metrics⟩

/-- The task of a slot ends as `s`. -/
def settle (p : Progress) (i : ℕ) (s : Settled) : Progress where
  slots := p.slots.set i (some s.series)
  collector := p.collector.report (s.fault?.map .query)
  events := p.events ++ (s.events ++ s.endEvents)
  metrics := s.record p.metrics

/-- Task `i` ends, which only a task that runs can do. -/
def finish? (tasks : List Settled) (p : Progress) (i : ℕ) : Option Progress :=
  match tasks[i]?, p.slots[i]? with
  | some s, some none => some (p.settle i s)
  | _, _ => none

/-- Tasks end in this order. -/
def run? (tasks : List Settled) (p : Progress) (order : List ℕ) : Option Progress :=
  order.foldlM (finish? tasks) p

/-- The batch, once no task runs any more. -/
def join? (tasks : List Settled) (p : Progress) : Option Batch :=
  (p.slots.mapM id).map fun series => {
    answers := .ofList ((tasks.map Settled.name).zip series)
    faults := p.collector.faults.filterMap fun
      | .query f => some f
      | _ => none
    events := p.events ++ Batch.summaryEvents p.collector.faults.length tasks.length
    metrics := p.metrics }

/-- The tasks of an order. -/
def ended (tasks : List Settled) (order : List ℕ) : List Settled := order.filterMap (tasks[·]?)

/-- What holds once the tasks of `order` have ended, in that order and no others. -/
structure Reached (metrics : Metrics) (tasks : List Settled) (order : List ℕ) (p : Progress) :
    Prop where
  slots : p.slots = tasks.mapIdx fun i s => if i ∈ order then some s.series else none
  faults : p.collector.faults = ((ended tasks order).filterMap Settled.fault?).map .query
  events : p.events = (ended tasks order).flatMap fun s => s.events ++ s.endEvents
  metrics : p.metrics = (ended tasks order).foldl Settled.record metrics

section
variable {metrics : Metrics} {tasks : List Settled} {order : List ℕ} {p p' : Progress} {i : ℕ}

theorem ended_append (order order' : List ℕ) :
    ended tasks (order ++ order') = ended tasks order ++ ended tasks order' :=
  List.filterMap_append ..

theorem start_reached : Reached metrics tasks [] (start metrics tasks) where
  slots := by
    apply List.ext_getElem?
    intro i
    simp only [start, List.getElem?_map, List.getElem?_mapIdx, List.not_mem_nil, if_false]
  faults := rfl
  events := rfl
  metrics := rfl

theorem faults_report (c : Collector) (f? : Option Fault) :
    (c.report f?).faults = c.faults ++ f?.toList := by
  cases f? with
  | none => exact (List.append_nil _).symm
  | some f => rfl

theorem Reached.slot (h : Reached metrics tasks order p) (hi : i < tasks.length) :
    p.slots[i]? = some (if i ∈ order then some tasks[i].series else none) := by
  rw [h.slots, List.getElem?_mapIdx, List.getElem?_eq_getElem hi, Option.map_some]

theorem finish?_eq_some (h : finish? tasks p i = some p') :
    ∃ s, tasks[i]? = some s ∧ p' = p.settle i s := by
  unfold finish? at h
  split at h
  · next s hs _ => exact ⟨s, hs, (Option.some.inj h).symm⟩
  · cases h

/-- A task can end just if it is one of the batch and has not ended before. -/
theorem Reached.finish?_eq (h : Reached metrics tasks order p) (i : ℕ) :
    finish? tasks p i =
      if hi : i < tasks.length ∧ i ∉ order then some (p.settle i tasks[i]) else none := by
  unfold finish?
  by_cases hi : i < tasks.length
  · rw [h.slot hi, List.getElem?_eq_getElem hi]
    by_cases ho : i ∈ order <;> simp [ho, hi]
  · rw [List.getElem?_eq_none (not_lt.mp hi)]
    simp [hi]

theorem Reached.settle (h : Reached metrics tasks order p) (hi : i < tasks.length) :
    Reached metrics tasks (order ++ [i]) (p.settle i tasks[i]) := by
  have he : ended tasks (order ++ [i]) = ended tasks order ++ [tasks[i]] := by
    rw [ended_append]
    simp [ended, hi]
  refine ⟨?_, ?_, ?_, ?_⟩
  · apply List.ext_getElem?
    intro j
    change (p.slots.set i (some tasks[i].series))[j]? = _
    rw [List.getElem?_set, h.slots, List.length_mapIdx, List.getElem?_mapIdx, List.getElem?_mapIdx]
    by_cases hj : i = j
    · subst hj
      simp [hi]
    · simp [hj, Ne.symm hj]
  · change (p.collector.report _).faults = _
    rw [faults_report, h.faults, he, List.filterMap_append, List.map_append]
    congr 1
    cases hf : tasks[i].fault? <;> simp [hf]
  · change p.events ++ _ = _
    rw [h.events, he, List.flatMap_append, List.flatMap_singleton]
  · change tasks[i].record p.metrics = _
    rw [h.metrics, he, List.foldl_append, List.foldl_cons, List.foldl_nil]

/-- Tasks that still run can end in any order. -/
theorem Reached.run {done : List ℕ} (h : Reached metrics tasks done p)
    (hlt : ∀ i ∈ order, i < tasks.length) (hn : (done ++ order).Nodup) :
    ∃ p', run? tasks p order = some p' ∧ Reached metrics tasks (done ++ order) p' := by
  induction order generalizing done p with
  | nil => exact ⟨p, rfl, by rwa [List.append_nil]⟩
  | cons i order ih =>
    have hi : i < tasks.length ∧ i ∉ done := by
      refine ⟨hlt i List.mem_cons_self, fun hd => ?_⟩
      exact (List.nodup_append.mp hn).2.2 i hd i List.mem_cons_self rfl
    rw [List.append_cons] at hn ⊢
    obtain ⟨p', hp, hr⟩ := ih (h.settle hi.1) (fun j hj => hlt j (List.mem_cons_of_mem i hj)) hn
    exact ⟨p', by rw [run?, List.foldlM_cons, h.finish?_eq, dif_pos hi]; exact hp, hr⟩

theorem ended_range (tasks : List Settled) : ended tasks (List.range tasks.length) = tasks := by
  rw [ended, filterMap_range_getElem?, List.take_length]

theorem ended_perm (h : order.Perm (List.range tasks.length)) : (ended tasks order).Perm tasks :=
  (h.filterMap (tasks[·]?)).trans (.of_eq (ended_range tasks))

/-- A batch of which all tasks have ended is gathered from them. -/
theorem Reached.join (h : Reached metrics tasks order p)
    (ho : order.Perm (List.range tasks.length)) :
    p.join? tasks = some (Batch.gather metrics tasks (ended tasks order)) := by
  have hs : p.slots = tasks.map fun s => some s.series := by
    rw [h.slots]
    apply List.ext_getElem?
    intro i
    rw [List.getElem?_mapIdx, List.getElem?_map]
    by_cases hi : i < tasks.length
    · rw [List.getElem?_eq_getElem hi, Option.map_some, Option.map_some,
        if_pos (ho.mem_iff.mpr (List.mem_range.mpr hi))]
    · rw [List.getElem?_eq_none (not_lt.mp hi)]
      rfl
  have hm : p.slots.mapM id = some (tasks.map Settled.series) := by
    rw [hs, List.mapM_map]
    exact List.mapM_pure ..
  have hz : (tasks.map Settled.name).zip (tasks.map Settled.series) =
      tasks.map fun s => (s.name, s.series) := by
    exact List.zip_map' ..
  rw [join?, hm, Option.map_some, hz, h.faults, h.events, h.metrics, List.filterMap_map,
    List.length_map]
  congr 2
  exact List.filterMap_some

end
end Progress
end ClusterBilling
