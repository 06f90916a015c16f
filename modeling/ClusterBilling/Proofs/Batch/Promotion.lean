import ClusterBilling.Proofs.Batch.Order

/-!
Which failures end what is done with a batch. The faults under some names and those under the other
names of the batch make up all that its collector holds, and every promotion of faults raises just
those that it is asked for.
-/
namespace ClusterBilling
open Progress

namespace Settled

theorem fault?_of_error {s : Settled} {f : Fault} (h : s.outcome = .error f) :
    s.fault? = some (f.toQueryFault s.name) := by
  rw [fault?, h]

theorem fault?_of_ok {s : Settled} {series : List (Series Float)} (h : s.outcome = .ok series) :
    s.fault? = none := by
  rw [fault?, h]

theorem name_of_fault? {s : Settled} {f : QueryFault} (h : s.fault? = some f) :
    f.name = s.name := by
  cases ho : s.outcome with
  | ok series => rw [fault?_of_ok ho] at h; cases h
  | error g =>
    rw [fault?_of_error ho] at h
    obtain rfl := Option.some.inj h
    cases g <;> rfl

theorem fault?_eq_none_iff {s : Settled} :
    s.fault? = none ↔ ∃ series, s.outcome = .ok series := by
  cases ho : s.outcome with
  | ok series => simp [fault?_of_ok ho]
  | error f => simp [fault?_of_error ho]

end Settled

/-- The faults of some queries are those of the tasks under their names. -/
theorem filter_faults (names : List Text) (finished : List Settled) :
    (finished.filterMap Settled.fault?).filter (fun f => names.contains f.name) =
      (finished.filter fun s => names.contains s.name).filterMap Settled.fault? := by
  rw [List.filter_filterMap, List.filterMap_filter]
  apply List.filterMap_congr
  intro s _
  cases hf : s.fault? with
  | none => rw [Option.filter_none, ite_self]
  | some f => rw [Option.filter_some, Settled.name_of_fault? hf]

/-- The failures of tasks under some names. -/
def failuresUnder (names : List Text) (tasks : List Settled) : List (Text × Fault) :=
  (failures tasks).filter fun failure => names.contains failure.1

theorem failuresUnder_eq (names : List Text) (tasks : List Settled) :
    failuresUnder names tasks = failures (tasks.filter fun s => names.contains s.name) := by
  unfold failuresUnder failures
  rw [List.filter_filterMap, List.filterMap_filter]
  apply List.filterMap_congr
  intro s _
  cases s.outcome with
  | ok series => rw [Option.filter_none, ite_self]
  | error f => rw [Option.filter_some]

/-- The names of faults are those of their tasks, in the same order. -/
theorem names_faults_sublist (tasks : List Settled) :
    ((tasks.filterMap Settled.fault?).map QueryFault.name).Sublist (tasks.map Settled.name) := by
  induction tasks with
  | nil => exact .slnil
  | cons s tasks ih =>
    cases hf : s.fault? with
    | none => simpa [hf] using ih.cons s.name
    | some f => simpa [hf, Settled.name_of_fault? hf] using ih.cons_cons s.name

namespace Batch

/-- The names of a batch besides the given ones. -/
def otherNames (submitted names : List Text) : List Text :=
  submitted.filter fun name => !names.contains name

/-- The faults of a batch fall into those under some names and those under the other names that were
submitted: each stands on one side alone, and in the order in which it was reported. -/
structure SplitsFaults (batch : Batch) (submitted names : List Text) : Prop where
  all : (batch.faultsFor names ++ batch.faultsFor (otherNames submitted names)).Perm batch.faults
  apart : List.Disjoint (batch.faultsFor names) (batch.faultsFor (otherNames submitted names))
  named : (batch.faultsFor names).Sublist batch.faults
  others : (batch.faultsFor (otherNames submitted names)).Sublist batch.faults

/-- What comes of a promotion: a failure that holds just these faults, and none without them. -/
def Promotes (faults : List QueryFault) (result : Except Fault Unit) : Prop :=
  ∀ e, result = .error e ↔ faults ≠ [] ∧ e = .batch (faults.map .query)

section
variable {batch : Batch} {submitted names : List Text}

theorem raise_promotes (faults : List QueryFault) : Promotes faults (raise faults) := by
  intro e
  cases faults with
  | nil => simp [raise]
  | cons f faults => simp [raise, eq_comm]

/-- Where every fault has a name of the batch, those without a name that is asked for have one of
the others. -/
theorem faultsFor_otherNames (h : ∀ f ∈ batch.faults, f.name ∈ submitted) :
    batch.faultsFor (otherNames submitted names) =
      batch.faults.filter fun f => !names.contains f.name := by
  unfold faultsFor otherNames
  apply List.filter_congr
  intro f hf
  have hs : f.name ∈ submitted := h f hf
  simp [hs]

theorem splitsFaults (h : ∀ f ∈ batch.faults, f.name ∈ submitted) :
    batch.SplitsFaults submitted names where
  all := by
    rw [faultsFor_otherNames h]
    exact List.filter_append_perm _ _
  apart := by
    rw [faultsFor_otherNames h]
    intro f hf hf'
    have hin : names.contains f.name = true := (List.mem_filter.mp hf).2
    have hout : (!names.contains f.name) = true := (List.mem_filter.mp hf').2
    rw [hin] at hout
    cases hout
  named := List.filter_sublist
  others := List.filter_sublist

/-- To ask for all names of a batch is to ask for all of its faults. -/
theorem faultsFor_submitted (h : ∀ f ∈ batch.faults, f.name ∈ submitted) :
    batch.faultsFor submitted = batch.faults := by
  apply List.filter_eq_self.mpr
  intro f hf
  exact List.contains_iff_mem.mpr (h f hf)

theorem raiseForAny_eq (h : ∀ f ∈ batch.faults, f.name ∈ submitted) :
    batch.raiseForAny = batch.raiseFor submitted := by
  rw [raiseForAny, raiseFor, faultsFor_submitted h]

end
end Batch

section
variable (metrics : Metrics) {tasks finished : List Settled}

/-- There are faults just if some task failed. -/
theorem faults_ne_nil_iff (tasks : List Settled) :
    tasks.filterMap Settled.fault? ≠ [] ↔ ∃ s ∈ tasks, ∃ f, s.outcome = .error f := by
  rw [ne_eq, List.filterMap_eq_nil_iff]
  simp only [Settled.fault?_eq_none_iff]
  constructor
  · intro h
    by_contra hnone
    apply h
    intro s hs
    cases ho : s.outcome with
    | ok series => exact ⟨series, rfl⟩
    | error f => exact absurd ⟨s, hs, f, ho⟩ hnone
  · rintro ⟨s, hs, f, hf⟩ h
    obtain ⟨series, hseries⟩ := h s hs
    cases hf.symm.trans hseries

/-- The faults of a batch have names of the batch. -/
theorem name_mem_of_gather {f : QueryFault} (hp : finished.Perm tasks)
    (hf : f ∈ (Batch.gather metrics tasks finished).faults) : f.name ∈ tasks.map Settled.name := by
  have hmem : f.name ∈ finished.map Settled.name :=
    (names_faults_sublist finished).subset (List.mem_map_of_mem hf)
  exact (hp.map Settled.name).subset hmem

/-- The faults under some names are those of the failures under them, one each and in the order in
which the tasks ended. -/
theorem faultsFor_gather_collected (names : List Text) :
    List.Forall₂ (fun failure f => Collected failure.1 failure.2 (.query f))
      (failuresUnder names finished) ((Batch.gather metrics tasks finished).faultsFor names) := by
  have h := failures_collected (finished.filter fun s => names.contains s.name)
  rw [List.forall₂_map_right_iff, ← failuresUnder_eq, ← filter_faults] at h
  exact h

/-- However the tasks of a batch end, and in whatever order, the faults that it gives for some names
are those of the failures under these names, each once and as they were reported; those for the
other names are the rest of what was collected; and promotion raises the faults that it is asked
for, if there are any. -/
theorem faults_split_by_name (hn : (tasks.map Settled.name).Nodup) {order : List ℕ}
    (ho : order.Perm (List.range tasks.length)) :
    ∃ p batch, run? tasks (start metrics tasks) order = some p ∧ p.join? tasks = some batch ∧
      p.collector.faults = batch.faults.map .query ∧
      (batch.faults.map QueryFault.name).Nodup ∧
      (∀ names : List Text,
        List.Forall₂ (fun failure f => Collected failure.1 failure.2 (.query f))
          (failuresUnder names (ended tasks order)) (batch.faultsFor names) ∧
        batch.SplitsFaults (tasks.map Settled.name) names ∧
        Batch.Promotes (batch.faultsFor names) (batch.raiseFor names)) ∧
      ((∃ e, batch.raiseForAny = .error e) ↔ ∃ s ∈ tasks, ∃ f, s.outcome = .error f) ∧
      (∀ e, batch.raiseForAny = .error e → e = .batch p.collector.faults) ∧
      batch.raiseForAny = batch.raiseFor (tasks.map Settled.name) := by
  obtain ⟨p, hp, hr⟩ := run_ended metrics ho
  have hperm : (ended tasks order).Perm tasks := ended_perm ho
  let batch := Batch.gather metrics tasks (ended tasks order)
  have hnames : ∀ f ∈ batch.faults, f.name ∈ tasks.map Settled.name :=
    fun f hf => name_mem_of_gather metrics hperm hf
  have hraise : Batch.Promotes batch.faults batch.raiseForAny := Batch.raise_promotes _
  refine ⟨p, batch, hp, hr.join ho, hr.faults, ?_, ?_, ?_, ?_, Batch.raiseForAny_eq hnames⟩
  · apply (names_faults_sublist (ended tasks order)).nodup
    exact (hperm.map Settled.name).nodup_iff.mpr hn
  · intro names
    exact ⟨faultsFor_gather_collected metrics names, Batch.splitsFaults hnames,
      Batch.raise_promotes _⟩
  · have hfaults : batch.faults.Perm (tasks.filterMap Settled.fault?) := hperm.filterMap _
    have hnil : batch.faults = [] ↔ tasks.filterMap Settled.fault? = [] := by
      rw [← List.length_eq_zero_iff, hfaults.length_eq, List.length_eq_zero_iff]
    rw [← faults_ne_nil_iff tasks, ne_eq, ← hnil]
    simp only [hraise _, exists_and_left, exists_eq, and_true, ne_eq]
  · intro e he
    rw [hr.faults]
    exact ((hraise e).mp he).2

end

/-- Three queries of which two fail, the later one first; asked for are one of the two, twice, and a
name that the batch does not have. -/
theorem faults_split_by_name_out_of_order :
    let tasks : List Settled := [⟨"cpu", .error (.foreign "KeyError" ""), [], 0⟩,
      ⟨"disk", .ok [], [], 0⟩, ⟨"ram", .error (.query ⟨.parse, "no data", "up", "cpu"⟩), [], 0⟩]
    ∃ p batch, run? tasks (start ∅ tasks) [1, 2, 0] = some p ∧ p.join? tasks = some batch ∧
      (∀ e, batch.raiseFor ["disk"] ≠ .error e) ∧
      (∃ f, Collected "ram" (.query ⟨.parse, "no data", "up", "cpu"⟩) (.query f) ∧
        batch.raiseFor ["ram", "rent", "ram"] = .error (.batch [.query f])) ∧
      batch.raiseForAny = batch.raiseFor ["cpu", "disk", "ram"] := by
  intro tasks
  obtain ⟨p, batch, hp, hb, -, -, hnames, -, -, hall⟩ :=
    @faults_split_by_name ∅ tasks (by decide) [1, 2, 0] (by decide)
  obtain ⟨hnone, -, hdisk⟩ := hnames ["disk"]
  obtain ⟨hram, -, hraise⟩ := hnames ["ram", "rent", "ram"]
  obtain ⟨f, faults, hf, hnil, he⟩ := List.forall₂_cons_left_iff.mp hram
  rw [List.forall₂_nil_left_iff.mp hnil] at he
  rw [he] at hraise
  refine ⟨p, batch, hp, hb, ?_, ⟨f, hf, (hraise _).mpr ⟨by simp, rfl⟩⟩, hall⟩
  intro e h
  exact ((hdisk e).mp h).1 (List.forall₂_nil_left_iff.mp hnone)

end ClusterBilling
