import ClusterBilling.Proofs.Cost.Composition
import ClusterBilling.Proofs.Cost.Exact

/-!
Where the leading value of a series goes when a resource is broken down by what uses it: to one mode
of one cluster. A share is the sum of what goes there, and where nothing is rounded the shares of
all clusters make up what was measured.
-/
namespace ClusterBilling

/-- The mode that a label stands for: three have a word of their own, and the fourth takes all other
words and series without the label. -/
def Mode.Takes (word? : Option Text) : Mode → Prop
  | .idle => word? = some "idle"
  | .system => word? = some "system"
  | .user => word? = some "user"
  | .other => word? ≠ some "idle" ∧ word? ≠ some "system" ∧ word? ≠ some "user"

instance (word? : Option Text) (mode : Mode) : Decidable (mode.Takes word?) := by
  cases mode <;> unfold Mode.Takes <;> infer_instance

theorem Mode.takes_iff_ofLabel (word? : Option Text) (mode : Mode) :
    mode.Takes word? ↔ mode = Mode.ofLabel (word?.getD "") := by
  have hsystem : Text.ofString "system" ≠ "idle" := by decide
  have huser : Text.ofString "user" ≠ "idle" := by decide
  have huser' : Text.ofString "user" ≠ "system" := by decide
  cases word? with
  | none => cases mode <;> simp [Takes] <;> decide
  | some word =>
    simp only [Option.getD_some, Mode.ofLabel]
    split_ifs with hi hs hu
    · subst hi
      cases mode <;> simp [Takes, hsystem.symm, huser.symm]
    · subst hs
      cases mode <;> simp [Takes, hsystem, huser'.symm]
    · subst hu
      cases mode <;> simp [Takes, huser, huser']
    · cases mode <;> simp [Takes, hi, hs, hu]

/-- Processor time is broken down by the mode on the label. -/
def TakenByLabel {α : Type} (s : Series α) (mode : Mode) : Prop := mode.Takes (s.labels.get? "mode")

/-- All memory that is measured is that of the system. -/
def TakenBySystem {α : Type} (_ : Series α) (mode : Mode) : Prop := mode = .system

instance {α : Type} (s : Series α) (mode : Mode) : Decidable (TakenByLabel s mode) := by
  unfold TakenByLabel
  infer_instance

instance {α : Type} (s : Series α) (mode : Mode) : Decidable (TakenBySystem s mode) := by
  unfold TakenBySystem
  infer_instance

section
variable {α : Type} (Takes : Series α → Mode → Prop) [∀ s mode, Decidable (Takes s mode)]
  (fallback : Text)

/-- The series counts for this mode of this cluster. -/
def Series.CountsFor (s : Series α) (slot : Text × Mode) : Prop :=
  s.clusterId fallback = slot.1 ∧ Takes s slot.2

instance (s : Series α) (slot : Text × Mode) : Decidable (s.CountsFor Takes fallback slot) := by
  unfold Series.CountsFor
  infer_instance

/-- What counts for a mode of a cluster: leading values, in the order of the series. -/
def contributions (series : List (Series α)) (slot : Text × Mode) : List α :=
  (series.filter fun s => s.CountsFor Takes fallback slot).filterMap fun s =>
    s.leading?.map Sample.value

variable [Arithmetic α]

/-- A table of shares in which every series with a sample counts once: the clusters are those of the
series, in the order in which they first come, and each share is the sum, from zero and from left to
right, of what counts for it. -/
structure SharesOut (series : List (Series α)) (table : Table (Breakdown α)) : Prop where
  clusters : table.keys = (series.map fun s => s.clusterId fallback).eraseDups
  once : ∀ s ∈ series, ∃! slot : Text × Mode, slot.1 ∈ table.keys ∧ s.CountsFor Takes fallback slot
  shares : ∀ clusterId ∈ table.keys, ∃ b, table.get? clusterId = some b ∧ ∀ mode,
    b.get mode = (contributions Takes fallback series (clusterId, mode)).foldl (· + ·)
      (Arithmetic.ofNat 0)
  unsampled : ∀ clusterId ∈ table.keys,
    (∀ s ∈ series, s.clusterId fallback = clusterId → s.samples = []) →
      table.get? clusterId = some .zero

end

namespace Breakdown
variable {α : Type} [Arithmetic α]

theorem get_zero (mode : Mode) : (zero : Breakdown α).get mode = Arithmetic.ofNat 0 := by
  cases mode <;> rfl

/-- A series changes the share of its mode alone, by its leading value. -/
theorem get_addSeries (b : Breakdown α) (mode mode' : Mode) (s : Series α) :
    (b.addSeries mode s).get mode' =
      if mode' = mode then (s.leading?.map Sample.value).toList.foldl (· + ·) (b.get mode')
      else b.get mode' := by
  unfold addSeries
  cases s.leading? with
  | none => exact (ite_self _).symm
  | some sample =>
    rw [get_add]
    split_ifs with h
    · rw [h]
      rfl
    · rfl

/-- Series one after the other add their leading values to the share of their mode. -/
theorem get_foldl_addSeries (mode : Series α → Mode) (mode' : Mode) (series : List (Series α))
    (b : Breakdown α) :
    (series.foldl (fun b s => b.addSeries (mode s) s) b).get mode' =
      ((series.filter fun s => mode' = mode s).filterMap fun s =>
        s.leading?.map Sample.value).foldl (· + ·) (b.get mode') := by
  induction series generalizing b with
  | nil => rfl
  | cons s series ih =>
    rw [List.foldl_cons, ih, get_addSeries]
    by_cases h : mode' = mode s
    · rw [if_pos h, List.filter_cons_of_pos (by simpa using h)]
      cases hs : s.leading? with
      | none => rw [List.filterMap_cons_none (by rw [hs]; rfl)]; rfl
      | some sample => rw [List.filterMap_cons_some (by rw [hs]; rfl)]; rfl
    · rw [if_neg h, List.filter_cons_of_neg (by simpa using h)]

/-- The shares of one cluster. -/
theorem get?_byCluster_of_mem {mode : Series α → Mode} {series : List (Series α)}
    {fallback clusterId : Text} (h : clusterId ∈ (byCluster mode series fallback).keys) :
    (byCluster mode series fallback).get? clusterId =
      some ((attributed fallback clusterId series).foldl
        (fun b s => b.addSeries (mode s) s) .zero) := by
  obtain ⟨b, hb⟩ := Option.isSome_iff_exists.mp ((Table.isSome_get?_iff ..).mpr h)
  have hfold := foldl_some_getD (fun b s => addSeries b (mode s) s) zero
    (attributed fallback clusterId series) none
  rw [← get?_byCluster, hb] at hfold
  rw [hb]
  exact congrArg some hfold

variable {mode : Series α → Mode} {Takes : Series α → Mode → Prop}
  [∀ s mode, Decidable (Takes s mode)]

/-- A breakdown by a mode for each series shares out by this mode. -/
theorem byCluster_sharesOut (hm : ∀ s m, Takes s m ↔ m = mode s) (series : List (Series α))
    (fallback : Text) : SharesOut Takes fallback series (byCluster mode series fallback) where
  clusters := Table.keys_foldl_alter (Series.clusterId · fallback) _ series ∅
  once s hs := by
    refine ⟨(s.clusterId fallback, mode s), ⟨?_, rfl, (hm s _).mpr rfl⟩, ?_⟩
    · have hkeys := Table.keys_foldl_alter (Series.clusterId · fallback)
        (fun s b? => (b?.getD zero).addSeries (mode s) s) series ∅
      have hmem : s.clusterId fallback ∈ series.map (Series.clusterId · fallback) :=
        List.mem_map_of_mem hs
      unfold byCluster
      rw [hkeys]
      exact List.mem_eraseDups.mpr hmem
    · rintro ⟨clusterId, m⟩ ⟨-, hc, ht⟩
      exact Prod.ext hc.symm ((hm s m).mp ht)
  shares clusterId hc := by
    refine ⟨_, get?_byCluster_of_mem hc, fun m => ?_⟩
    have hslot (s : Series α) : s.CountsFor Takes fallback (clusterId, m) ↔
        m = mode s ∧ s.clusterId fallback = clusterId := by
      rw [Series.CountsFor, hm, and_comm]
    have hfilter : (attributed fallback clusterId series).filter (fun s => m = mode s) =
        series.filter fun s => m = mode s ∧ s.clusterId fallback = clusterId := by
      unfold attributed
      rw [List.filter_filter]
      simp
    rw [get_foldl_addSeries, get_zero, hfilter, contributions]
    simp only [hslot]
  unsampled clusterId hc hs := by
    rw [get?_byCluster_of_mem hc]
    congr 1
    apply List.foldlRecOn (motive := (· = zero)) _ _ rfl
    rintro b rfl s hmem
    obtain ⟨hmem, hcluster⟩ := List.mem_filter.mp hmem
    have hempty : s.leading? = none := by
      rw [Series.leading?, hs s hmem (of_decide_eq_true hcluster)]
      rfl
    rw [addSeries, hempty]

/-- The shares taken together. -/
def total (b : Breakdown α) : α := b.idle + b.other + b.system + b.user

/-- Exact shares taken together grow by what a series adds. -/
theorem total_addSeries (b : Breakdown ℚ) (mode : Mode) (s : Series ℚ) :
    (b.addSeries mode s).total = b.total + (s.leading?.map Sample.value).getD 0 := by
  unfold addSeries
  cases s.leading? with
  | none => exact (add_zero _).symm
  | some sample => cases mode <;> simp only [add, total, Option.map_some, Option.getD_some] <;> ring

theorem total_zero : (zero : Breakdown ℚ).total = 0 := by
  simp [zero, total]

end Breakdown

section
variable {α : Type}

/-- The leading values of all series that have samples. -/
def leadingValues (series : List (Series α)) : List α :=
  series.filterMap fun s => s.leading?.map Sample.value

theorem sum_leadingValues (series : List (Series ℚ)) :
    (leadingValues series).sum = (series.map fun s => (s.leading?.map Sample.value).getD 0).sum := by
  induction series with
  | nil => rfl
  | cons s series ih =>
    rw [List.map_cons, List.sum_cons, ← ih, leadingValues]
    cases hs : s.leading? with
    | none => rw [List.filterMap_cons_none (by rw [hs]; rfl)]; exact (zero_add _).symm
    | some sample => rw [List.filterMap_cons_some (by rw [hs]; rfl), List.sum_cons]; rfl

/-- Every leading value is in just one share. -/
theorem sum_byCluster (mode : Series ℚ → Mode) (series : List (Series ℚ)) (fallback : Text) :
    ((Breakdown.byCluster mode series fallback).entries.map fun e => e.2.total).sum =
      (leadingValues series).sum := by
  have hadd (s : Series ℚ) (b? : Option (Breakdown ℚ)) :
      ((b?.getD .zero).addSeries (mode s) s).total =
        (b?.map Breakdown.total).getD 0 + (s.leading?.map Sample.value).getD 0 := by
    rw [Breakdown.total_addSeries]
    cases b? with
    | none => rw [Option.getD_none, Breakdown.total_zero]; rfl
    | some b => rfl
  unfold Breakdown.byCluster
  rw [Table.sum_foldl_alter Breakdown.total _ hadd, sum_leadingValues]
  exact zero_add _

variable [Arithmetic α]

theorem cpuBreakdowns_sharesOut (series : List (Series α)) (fallback : Text) :
    SharesOut TakenByLabel fallback series (cpuBreakdowns series fallback) := by
  apply Breakdown.byCluster_sharesOut
  intro s mode
  exact Mode.takes_iff_ofLabel _ mode

theorem ramBreakdowns_sharesOut (series : List (Series α)) (fallback : Text) :
    SharesOut TakenBySystem fallback series (ramBreakdowns series fallback) :=
  Breakdown.byCluster_sharesOut (fun _ _ => .rfl) series fallback

/-- Memory has no share but that of the system. -/
theorem get_of_mem_ramBreakdowns {series : List (Series α)} {fallback : Text}
    {e : Text × Breakdown α} (he : e ∈ (ramBreakdowns series fallback).entries) {mode : Mode}
    (hm : mode ≠ .system) : e.2.get mode = Arithmetic.ofNat 0 := by
  have hkey : e.1 ∈ (ramBreakdowns series fallback).keys := List.mem_map_of_mem he
  obtain ⟨b, hb, hshare⟩ := (ramBreakdowns_sharesOut series fallback).shares e.1 hkey
  rw [Table.get?_of_mem he] at hb
  obtain rfl := Option.some.inj hb
  have hnone : contributions TakenBySystem fallback series (e.1, mode) = [] := by
    simp [contributions, Series.CountsFor, TakenBySystem, hm]
  rw [hshare mode, hnone, List.foldl_nil]

end

/-- Processor time and memory are shared out alike, the one by the mode on the label and the other
to the system alone; and exact shares lose nothing of what was measured, nor do they count it
twice. -/
theorem breakdowns_share_out :
    (∀ (α : Type) [Arithmetic α] (series : List (Series α)) (fallback : Text),
      SharesOut TakenByLabel fallback series (cpuBreakdowns series fallback) ∧
      SharesOut TakenBySystem fallback series (ramBreakdowns series fallback) ∧
      ∀ e ∈ (ramBreakdowns series fallback).entries,
        e.2.idle = Arithmetic.ofNat 0 ∧ e.2.other = Arithmetic.ofNat 0 ∧
          e.2.user = Arithmetic.ofNat 0) ∧
    ∀ (series : List (Series ℚ)) (fallback : Text),
      ((cpuBreakdowns series fallback).entries.map fun e => e.2.total).sum =
        (leadingValues series).sum ∧
      ((ramBreakdowns series fallback).entries.map fun e => e.2.total).sum =
        (leadingValues series).sum := by
  refine ⟨fun α _ series fallback => ⟨?_, ?_, ?_⟩, fun series fallback => ⟨?_, ?_⟩⟩
  · exact cpuBreakdowns_sharesOut series fallback
  · exact ramBreakdowns_sharesOut series fallback
  · intro e he
    exact ⟨get_of_mem_ramBreakdowns he (by decide : Mode.idle ≠ .system),
      get_of_mem_ramBreakdowns he (by decide : Mode.other ≠ .system),
      get_of_mem_ramBreakdowns he (by decide : Mode.user ≠ .system)⟩
  · exact sum_byCluster _ series fallback
  · exact sum_byCluster _ series fallback

/-- A cluster without samples stands where its series does, with no shares. -/
example :
    (cpuBreakdowns (α := ℚ) [⟨.ofList [("mode", "idle")], [⟨0, 1 / 2⟩, ⟨60, 1⟩]⟩,
      ⟨.ofList [("cluster_id", "east"), ("mode", "user")], []⟩,
      ⟨.ofList [("mode", "iowait")], [⟨0, 1 / 8⟩]⟩, ⟨∅, [⟨0, 1 / 4⟩]⟩] "west").entries =
      [(Text.ofString "west", ⟨1 / 2, 3 / 8, 0, 0⟩), (Text.ofString "east", .zero)] := by
  decide +kernel

end ClusterBilling
