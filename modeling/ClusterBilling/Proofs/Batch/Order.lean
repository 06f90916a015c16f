import ClusterBilling.Proofs.Batch.Progress

/-!
What a batch gives back does not depend on the order in which its tasks end, save for the order of
its faults; and every order is that of some rounds.
-/
namespace ClusterBilling
open Progress

/-- How a fault stands in the collector of a batch after it ended the query `name`. -/
inductive Collected (name : Text) : Fault → Fault → Prop where
  /-- A fault of a query is kept under the name of its slot. -/
  | own (f : QueryFault) : Collected name (.query f) (.query ⟨f.kind, f.detail, f.query, name⟩)
  /-- Any other fault becomes one of the query, by its text. -/
  | told (f : Fault) (hf : ∀ q, f ≠ .query q) (ht : ¬ f.message.isEmpty) :
    Collected name f (.query ⟨.other, f.message, "", name⟩)
  /-- A fault without a text goes by its label. -/
  | silent (f : Fault) (hf : ∀ q, f ≠ .query q) (ht : f.message.isEmpty) :
    Collected name f (.query ⟨.other, f.label, "", name⟩)

theorem Fault.toQueryFault_collected (name : Text) (f : Fault) :
    Collected name f (.query (f.toQueryFault name)) := by
  by_cases hf : ∃ q, f = .query q
  · obtain ⟨q, rfl⟩ := hf
    exact .own q
  · have hq : ∀ q, f ≠ .query q := not_exists.mp hf
    rw [Fault.toQueryFault_of_ne hq]
    split_ifs with ht
    · exact .silent f hq ht
    · exact .told f hq ht

/-- What the entry of a task in a batch holds: its own series, or none if it failed. -/
inductive Answered (s : Settled) : Text × List (Series Float) → Prop where
  | ok {series : List (Series Float)} (h : s.outcome = .ok series) : Answered s (s.name, series)
  | failed {f : Fault} (h : s.outcome = .error f) : Answered s (s.name, [])

theorem Settled.answered (s : Settled) : Answered s (s.name, s.series) := by
  unfold Settled.series
  cases ho : s.outcome with
  | ok series => exact .ok ho
  | error f => exact .failed ho

theorem Answered.eq_of_ok {s : Settled} {entry : Text × List (Series Float)}
    {series : List (Series Float)} (h : Answered s entry) (ho : s.outcome = .ok series) :
    entry = (s.name, series) := by
  cases h with
  | ok h => rw [Except.ok.inj (h.symm.trans ho)]
  | failed h => cases h.symm.trans ho

theorem Answered.eq_of_error {s : Settled} {entry : Text × List (Series Float)} {f : Fault}
    (h : Answered s entry) (ho : s.outcome = .error f) : entry = (s.name, []) := by
  cases h with
  | ok h => cases h.symm.trans ho
  | failed _ => rfl

/-- The names of the tasks that failed, each with its fault, in the order of `tasks`. -/
def failures (tasks : List Settled) : List (Text × Fault) :=
  tasks.filterMap fun s => match s.outcome with
    | .ok _ => none
    | .error f => some (s.name, f)

/-- There is one fault for each task that failed. -/
theorem failures_collected (tasks : List Settled) :
    List.Forall₂ (fun failure f => Collected failure.1 failure.2 f) (failures tasks)
      ((tasks.filterMap Settled.fault?).map .query) := by
  induction tasks with
  | nil => exact .nil
  | cons s tasks ih =>
    unfold failures Settled.fault? at *
    cases ho : s.outcome with
    | ok series => simpa only [List.filterMap_cons, ho] using ih
    | error f =>
      simp only [List.filterMap_cons, ho, List.map_cons]
      exact .cons (f.toQueryFault_collected s.name) ih

section
variable (metrics : Metrics) {tasks : List Settled}

/-- Every order in which the tasks of a batch end is a run of it to its end. -/
theorem run_ended {order : List ℕ} (ho : order.Perm (List.range tasks.length)) :
    ∃ p, run? tasks (start metrics tasks) order = some p ∧ Reached metrics tasks order p := by
  have hlt (i : ℕ) (hi : i ∈ order) : i < tasks.length := List.mem_range.mp (ho.mem_iff.mp hi)
  exact start_reached.run hlt (ho.nodup_iff.mpr List.nodup_range)

/-- However the tasks of a batch end, and in whatever order, it has an entry under each submitted
name, with what this task was answered with, and one fault for each task that failed. -/
theorem completes_in_any_order (hn : (tasks.map Settled.name).Nodup) {order : List ℕ}
    (ho : order.Perm (List.range tasks.length)) :
    ∃ p batch, run? tasks (start metrics tasks) order = some p ∧ p.join? tasks = some batch ∧
      batch = Batch.gather metrics tasks (ended tasks order) ∧
      List.Forall₂ Answered tasks batch.answers.entries ∧
      List.Forall₂ (fun failure f => Collected failure.1 failure.2 f)
        (failures (ended tasks order)) p.collector.faults ∧
      ∀ order' : List ℕ, order'.Perm (List.range tasks.length) →
        ∃ p' batch', run? tasks (start metrics tasks) order' = some p' ∧
          p'.join? tasks = some batch' ∧ batch'.answers = batch.answers ∧
          p'.collector.faults.Perm p.collector.faults := by
  obtain ⟨p, hp, hr⟩ := run_ended metrics ho
  refine ⟨p, _, hp, hr.join ho, rfl, ?_, ?_, ?_⟩
  · have hentries : (Batch.gather metrics tasks (ended tasks order)).answers.entries =
        tasks.map fun s => (s.name, s.series) := by
      apply Table.entries_ofList
      rwa [List.map_map]
    rw [hentries, List.forall₂_map_right_iff]
    exact List.forall₂_same.mpr fun s _ => s.answered
  · rw [hr.faults]
    exact failures_collected _
  · intro order' ho'
    obtain ⟨p', hp', hr'⟩ := run_ended metrics ho'
    refine ⟨p', _, hp', hr'.join ho', rfl, ?_⟩
    rw [hr.faults, hr'.faults]
    have hperm : (ended tasks order').Perm (ended tasks order) :=
      (ended_perm ho').trans (ended_perm ho).symm
    exact (hperm.filterMap _).map _

end

/-- One task that is answered between two that fail; they end from the last to the first. -/
theorem completes_out_of_order :
    let answer : List (Series Float) := [⟨.ofList [("cluster_id", "east")], [⟨0, 2.5⟩]⟩]
    let tasks : List Settled := [⟨"cpu", .error (.foreign "KeyError" ""), [], 0⟩,
      ⟨"gpu", .ok answer, [], 0⟩,
      ⟨"ram", .error (.query ⟨.parse, "no data", "up", ""⟩), [], 0⟩]
    ∃ p batch, run? tasks (start ∅ tasks) [2, 1, 0] = some p ∧ p.join? tasks = some batch ∧
      batch.answers.entries =
        [(.ofString "cpu", []), (.ofString "gpu", answer), (.ofString "ram", [])] ∧
      p.collector.faults = [.query ⟨.parse, "no data", "up", "ram"⟩,
        .query ⟨.other, "KeyError", "", "cpu"⟩] := by
  intro answer tasks
  obtain ⟨p, batch, hp, hb, -, he, hf, -⟩ :=
    @completes_in_any_order ∅ tasks (by decide) [2, 1, 0] (by decide)
  refine ⟨p, batch, hp, hb, ?_, ?_⟩
  · obtain ⟨_, _, hcpu, he₁, hentries⟩ := List.forall₂_cons_left_iff.mp he
    obtain ⟨_, _, hgpu, he₂, rfl⟩ := List.forall₂_cons_left_iff.mp he₁
    obtain ⟨_, _, hram, he₃, rfl⟩ := List.forall₂_cons_left_iff.mp he₂
    obtain rfl := List.forall₂_nil_left_iff.mp he₃
    rw [hentries, hcpu.eq_of_error rfl, hgpu.eq_of_ok rfl, hram.eq_of_error rfl]
  · obtain ⟨_, _, hram, hf₁, hfaults⟩ := List.forall₂_cons_left_iff.mp hf
    obtain ⟨_, _, hcpu, hf₂, rfl⟩ := List.forall₂_cons_left_iff.mp hf₁
    obtain rfl := List.forall₂_nil_left_iff.mp hf₂
    rw [hfaults]
    cases hram with
    | own => cases hcpu with
      | told _ _ ht => exact absurd (by decide) ht
      | silent => rfl
    | told _ hq => exact absurd rfl (hq _)
    | silent _ hq => exact absurd rfl (hq _)

theorem ended_of_forall₂ {tasks finished : List Settled} {order : List ℕ}
    (h : List.Forall₂ (fun s i => tasks[i]? = some s) finished order) :
    ended tasks order = finished := by
  induction h with
  | nil => rfl
  | cons hs _ ih => rw [ended, List.filterMap_cons_some hs, ← ended, ih]

/-- Tasks in another order are those of an order of their places. -/
theorem exists_order {tasks finished : List Settled} (h : finished.Perm tasks) :
    ∃ order : List ℕ, order.Perm (List.range tasks.length) ∧ ended tasks order = finished := by
  have hr : List.Forall₂ (fun s i => tasks[i]? = some s) tasks (List.range tasks.length) := by
    refine List.forall₂_iff_get.mpr ⟨List.length_range.symm, fun i hi _ => ?_⟩
    simp [hi]
  obtain ⟨order, ho, hp⟩ := List.perm_comp_forall₂ h hr
  exact ⟨order, hp, ended_of_forall₂ ho⟩

theorem map_fst_of_forall₂ {tasks : List Settled} {rounds : List (Settled × ℕ)}
    (h : List.Forall₂ (fun s x => Prod.fst x = s) tasks rounds) : rounds.map Prod.fst = tasks := by
  induction h with
  | nil => rfl
  | cons hs _ ih => rw [List.map_cons, hs, ih]

/-- Rounds that are the places of an order sort the tasks into this order. -/
theorem mergeSort_eq_zipIdx {finished : List Settled} {rounds : List (Settled × ℕ)}
    (h : rounds.Perm finished.zipIdx) :
    rounds.mergeSort (fun a b => a.2 ≤ b.2) = finished.zipIdx := by
  have hs := (List.mergeSort_perm rounds fun a b => a.2 ≤ b.2).trans h
  refine @List.Perm.eq_of_pairwise _ (fun a b => decide (a.2 ≤ b.2) = true) _ _ ?_ ?_ ?_ hs
  · intro a b ha hb hab hba
    have ha := List.mem_zipIdx_iff_getElem?.mp (hs.subset ha)
    have hb := List.mem_zipIdx_iff_getElem?.mp hb
    have he : a.2 = b.2 := le_antisymm (of_decide_eq_true hab) (of_decide_eq_true hba)
    rw [he] at ha
    exact Prod.ext (Option.some.inj (ha.symm.trans hb)) he
  · apply List.pairwise_mergeSort
    · intro a b c hab hbc
      exact decide_eq_true ((of_decide_eq_true hab).trans (of_decide_eq_true hbc))
    · intro a b
      simpa using le_total a.2 b.2
  · rw [List.pairwise_iff_getElem]
    intro i j hi hj hij
    simpa using hij.le

/-- Tasks end in any order that one likes if their rounds are chosen for it. So what holds of a batch
for all rounds holds for all orders. -/
theorem exists_rounds {tasks finished : List Settled} (h : finished.Perm tasks) :
    ∃ rounds : List (Settled × ℕ), rounds.map Prod.fst = tasks ∧
      Batch.byRound rounds = finished := by
  have hz : List.Forall₂ (fun s x => Prod.fst x = s) finished finished.zipIdx := by
    rw [List.forall₂_iff_get]
    exact ⟨List.length_zipIdx.symm, fun i _ _ => by simp⟩
  obtain ⟨rounds, hr, hp⟩ := List.perm_comp_forall₂ h.symm hz
  refine ⟨rounds, map_fst_of_forall₂ hr, ?_⟩
  rw [Batch.byRound, mergeSort_eq_zipIdx hp, List.zipIdx_map_fst]

end ClusterBilling
