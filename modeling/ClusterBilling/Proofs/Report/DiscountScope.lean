import ClusterBilling.Proofs.Cost.Composition
import ClusterBilling.Proofs.Report.Refusal

/-!
What a discount has no say in: which clusters are billed, the hours that their bills divide by, what
storage costs and how processors and memory are shared. The standard discount has none in what
graphics processors cost either.
-/
namespace ClusterBilling
open Time

namespace Discounts
variable {α : Type}

/-- Two pairs of discounts that take the same off a price under a policy. -/
def AgreeUnder (d d' : Discounts α) : DiscountPolicy → Prop
  | .both => d.standard = d'.standard ∧ d.negotiated = d'.negotiated
  | .negotiatedOnly => d.negotiated = d'.negotiated
  | .none => True

theorem AgreeUnder.remaining [Arithmetic α] {d d' : Discounts α} {policy : DiscountPolicy}
    (h : d.AgreeUnder d' policy) : d.remaining policy = d'.remaining policy := by
  cases policy with
  | both =>
    obtain ⟨hs, hn⟩ := h
    rw [Discounts.remaining, Discounts.remaining, hs, hn]
  | negotiatedOnly =>
    have hn : d.negotiated = d'.negotiated := h
    rw [Discounts.remaining, Discounts.remaining, hn]
  | none => rfl

end Discounts

/-- A category costs a cluster the same under discounts that agree on it. -/
theorem cumulativeCost_eq {α : Type} [Arithmetic α] {d d' : Discounts α} {c : Category}
    (h : d.AgreeUnder d' c.policy) (answers : Answers α) (fallback clusterId : Text) :
    cumulativeCost answers fallback d clusterId c =
      cumulativeCost answers fallback d' clusterId c := by
  rw [cumulativeCost, cumulativeCost, Discounts.multiplier, Discounts.multiplier, h.remaining]

/-- The hours that all bills over a window divide by. -/
def IsDivisor (answers : Answers Float) (start finish : Moment) (hours : Float) : Prop :=
  ∃ minutes, dataMinutes? (answers.of "data_count") start finish = some minutes ∧
    billedHours start finish (minutes / 60) = .ok hours

/-- Two bills over the same hours that differ by their discounts alone, and on graphics processors
only if their negotiated discounts differ. -/
structure Bill.SameBesidesDiscounts (hours : Float) (sameNegotiated : Prop) (a b : Bill Float) :
    Prop where
  start : a.start = b.start
  finish : a.finish = b.finish
  monthly : ∀ c, a.monthly.get c = a.cumulative.get c / hours * 730
  monthly' : ∀ c, b.monthly.get c = b.cumulative.get c / hours * 730
  storage : a.cumulative.storage = b.cumulative.storage
  monthlyStorage : a.monthly.storage = b.monthly.storage
  gpu : sameNegotiated → a.cumulative.gpu = b.cumulative.gpu
  monthlyGpu : sameNegotiated → a.monthly.gpu = b.monthly.gpu
  cpuBreakdown : a.cpuBreakdown? = b.cpuBreakdown?
  ramBreakdown : a.ramBreakdown? = b.ramBreakdown?

/-- The same clusters in the same order, each with two such bills. -/
structure SameBesidesDiscounts (hours : Float) (sameNegotiated : Prop) (t t' : Table (Bill Float)) :
    Prop where
  keys : t.keys = t'.keys
  bills : ∀ clusterId ∈ t.keys, ∃ b b', t.get? clusterId = some b ∧ t'.get? clusterId = some b' ∧
    b.SameBesidesDiscounts hours sameNegotiated b'

section
variable {start finish : Moment} (answers : Answers Float) (fallback : Text)
  (d d' : Discounts Float)

theorem billOver_sameBesidesDiscounts (hours : Float) (clusterId : Text) :
    (billOver answers fallback d start finish hours clusterId).SameBesidesDiscounts hours
      (d.negotiated = d'.negotiated)
      (billOver answers fallback d' start finish hours clusterId) := by
  have hstorage : cumulativeCost answers fallback d clusterId .storage =
      cumulativeCost answers fallback d' clusterId .storage :=
    cumulativeCost_eq (c := .storage) trivial answers fallback clusterId
  have hgpu (h : d.negotiated = d'.negotiated) : cumulativeCost answers fallback d clusterId .gpu =
      cumulativeCost answers fallback d' clusterId .gpu :=
    cumulativeCost_eq (c := .gpu) h answers fallback clusterId
  exact {
    start := rfl
    finish := rfl
    monthly := (billOver_composed answers fallback d hours clusterId).monthly
    monthly' := (billOver_composed answers fallback d' hours clusterId).monthly
    storage := hstorage
    monthlyStorage := congrArg (monthlyRate hours) hstorage
    gpu := hgpu
    monthlyGpu := fun h => congrArg (monthlyRate hours) (hgpu h)
    cpuBreakdown := rfl
    ramBreakdown := rfl }

/-- A window is billed under any two pairs of discounts, over the same hours. -/
theorem bills_sameBesidesDiscounts (h : start.Before finish) :
    ∃ t t' hours, bills answers start finish fallback d = .ok t ∧
      bills answers start finish fallback d' = .ok t' ∧
      IsDivisor answers start finish hours ∧
      SameBesidesDiscounts hours (d.negotiated = d'.negotiated) t t' := by
  obtain ⟨minutes, hours, hm, hh⟩ := dataHours_billed h (answers.of "data_count")
  obtain ⟨t, t', ht, ht', hk, hbills⟩ := bills_of_hours_both answers fallback hm hh d d'
  refine ⟨t, t', hours, ht, ht', ⟨minutes, hm, hh⟩, hk, ?_⟩
  intro clusterId hc
  obtain ⟨hb, hb'⟩ := hbills clusterId hc
  exact ⟨_, _, hb, hb', billOver_sameBesidesDiscounts answers fallback d d' hours clusterId⟩

end

/-- A report on bills fails alike whatever the discounts, or gives bills over the same hours. -/
theorem reportBills_sameBesidesDiscounts (backend : Backend) (source source' : DiscountSource)
    (metrics : Metrics) (r : ReportRequest) :
    (∃ f, (reportBills backend source metrics r).outcome = .error f ∧
      (reportBills backend source' metrics r).outcome = .error f) ∨
    ∃ w t t' hours, Window.resolve r.window r.offset r.now = .ok w ∧
      (reportBills backend source metrics r).outcome = .ok t ∧
      (reportBills backend source' metrics r).outcome = .ok t' ∧
      IsDivisor (ask backend metrics r.billQueries).answers w.start w.finish hours ∧
      SameBesidesDiscounts hours
        (source.resolve.1.negotiated = source'.resolve.1.negotiated) t t' := by
  cases hw : Window.resolve r.window r.offset r.now with
  | error e =>
    left
    rw [reportBills_of_refused hw, reportBills_of_refused hw]
    exact ⟨.range e, rfl, rfl⟩
  | ok w =>
    by_cases hf : endedFaults backend essentialQueries r.billQueries = []
    · right
      obtain ⟨t, t', hours, ht, ht', hd, hs⟩ := bills_sameBesidesDiscounts
        (ask backend metrics r.billQueries).answers r.clusterId source.resolve.1
        source'.resolve.1 (Window.resolve_before hw)
      refine ⟨w, t, t', hours, rfl, ?_, ?_, hd, hs⟩
      · rw [reportBills_of_no_faults hw backend source metrics hf, ht]
        rfl
      · rw [reportBills_of_no_faults hw backend source' metrics hf, ht']
        rfl
    · left
      exact ⟨_, reportBills_of_faults hw backend source metrics hf,
        reportBills_of_faults hw backend source' metrics hf⟩

/-- Bills of the same batch under two pairs of discounts have the same clusters, hours, storage
costs and shares, and the same costs of graphics processors if the negotiated discount is the same.
So have two reports that differ only in the text of the standard discount, unless both fail, and
with the same fault. -/
theorem discounts_do_not_interfere {start finish : Moment} (h : start.Before finish)
    (answers : Answers Float) (fallback : Text) (d d' : Discounts Float) (backend : Backend)
    (metrics : Metrics) (r : ReportRequest) (standard standard' negotiated : Text) :
    (∃ t t' hours, bills answers start finish fallback d = .ok t ∧
      bills answers start finish fallback d' = .ok t' ∧
      IsDivisor answers start finish hours ∧
      SameBesidesDiscounts hours (d.negotiated = d'.negotiated) t t') ∧
    ((∃ f, (reportBills backend (.texts standard negotiated) metrics r).outcome = .error f ∧
        (reportBills backend (.texts standard' negotiated) metrics r).outcome = .error f) ∨
      ∃ w t t' hours, Window.resolve r.window r.offset r.now = .ok w ∧
        (reportBills backend (.texts standard negotiated) metrics r).outcome = .ok t ∧
        (reportBills backend (.texts standard' negotiated) metrics r).outcome = .ok t' ∧
        IsDivisor (ask backend metrics r.billQueries).answers w.start w.finish hours ∧
        SameBesidesDiscounts hours True t t') := by
  constructor
  · exact bills_sameBesidesDiscounts answers fallback d d' h
  · have hn : ((DiscountSource.texts standard negotiated).resolve.1.negotiated =
        (DiscountSource.texts standard' negotiated).resolve.1.negotiated) = True := by
      rw [DiscountSource.resolve_texts, DiscountSource.resolve_texts, eq_self]
    rw [← hn]
    exact reportBills_sameBesidesDiscounts backend _ _ metrics r

/-- A batch of two clusters under different standard discounts. -/
theorem discounts_do_not_interfere_gpu :
    let answers : Answers Float := .ofList [("total_gpu", [⟨∅, [⟨0, 2.5⟩]⟩]),
      ("total_storage", [⟨.ofList [("cluster_id", "east")], [⟨0, 4⟩]⟩, ⟨∅, [⟨0, 1⟩]⟩])]
    let finish : Moment := ⟨719163 * Time.day, some 0, by decide⟩
    ∃ t t' hours, bills answers .epoch finish "west" ⟨0.25, 0.5⟩ = .ok t ∧
      bills answers .epoch finish "west" ⟨0.75, 0.5⟩ = .ok t' ∧
      IsDivisor answers .epoch finish hours ∧ SameBesidesDiscounts hours True t t' := by
  intro answers finish
  obtain ⟨t, t', hours, ht, ht', hd, hs⟩ :=
    (@discounts_do_not_interfere .epoch finish ⟨86400000000, by decide, by decide⟩ answers "west"
      ⟨0.25, 0.5⟩ ⟨0.75, 0.5⟩ (fun _ => ⟨.ok emptyVector, 0, 0, []⟩) ∅
      ⟨"1h", "", "main", "", .epoch⟩ "10%" "20%" "30%").1
  exact ⟨t, t', hours, ht, ht', hd, eq_true rfl ▸ hs⟩

end ClusterBilling
