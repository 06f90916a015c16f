import ClusterBilling.Proofs.Query.Template
import ClusterBilling.Proofs.Text
import ClusterBilling.Query.Catalog

/-!
The queries for costs are their templates filled in, for any texts at all: a window as it is, an
offset and a query for local storage without the blanks around them. So no two queries of a batch
have the same text, and local storage is in those for volumes alone.
-/
namespace ClusterBilling
open Text

/-- The templates of bills, under the names of their queries. -/
def billTemplates : List (Text × String) :=
  [("data_count", dataCountTemplate), ("total_gpu", gpuCostTemplate),
    ("total_cpu", cpuCostTemplate), ("total_ram", ramCostTemplate),
    ("total_storage", storageCostTemplate), ("cpu_mode_pct", cpuModeTemplate),
    ("ram_system_pct", ramSystemTemplate), ("ram_other_pct", ramOtherTemplate)]

/-- The templates of monthly rates, with or without the overall total. -/
def rateTemplates (withTotal : Bool) : List (Text × String) :=
  let parts : List (Text × String) :=
    [("cluster_cores", cpuRateTemplate), ("cluster_ram", memoryRateTemplate),
      ("cluster_storage", storageRateTemplate)]
  let total : List (Text × String) := [("cluster_total", totalRateTemplate)]
  parts ++ if withTotal then total else []

/-- The queries that local storage is a part of. -/
def storageNames : List Text := ["total_storage", "cluster_storage", "cluster_total"]

/-- The pieces of a template. -/
def pieces (template : String) : List Piece := readPieces none template.toList

/-- What is put in front of a text without the blanks around it; nothing where it is blank. -/
def clause (lead : String) (text : Text) : Text :=
  if isAllBlank text then "" else lead ++ strip text

/-- What the places are filled with. The templates of bills leave the blank in front of an offset to
it, those of rates have one of their own. -/
def placeValues (offsetLead : String) (window offset localStorage : Text) : Place → Text
  | .window => window
  | .offset => clause offsetLead offset
  | .storage => clause " + " localStorage

/-- The local storage comes last, and once. -/
def EndsWithStorage (ps : List Piece) : Prop :=
  ps.getLast? = some (.place .storage) ∧ .place .storage ∉ ps.dropLast

/-- Local storage has a place at the end of the templates that it is a part of, and in no other. -/
def PlacesStorage (name : Text) (ps : List Piece) : Prop :=
  if name ∈ storageNames then EndsWithStorage ps else .place .storage ∉ ps

instance (name : Text) (ps : List Piece) : Decidable (PlacesStorage name ps) := by
  unfold PlacesStorage EndsWithStorage
  infer_instance

/-- Templates, by their characters, that can be filled in and told apart. -/
def WellFormed (templates : List (Text × List Char)) : Prop :=
  (∀ t ∈ templates, IsMadeOf t.2 (readPieces none t.2) ∧ PlacesStorage t.1 (readPieces none t.2)) ∧
    templates.Pairwise fun t u => OpenApart (readPieces none t.2) (readPieces none u.2)

instance (templates : List (Text × List Char)) : Decidable (WellFormed templates) := by
  unfold WellFormed
  infer_instance

/-- Queries that are templates with their places filled. -/
structure Fills (values : Place → Text) (templates : List (Text × String))
    (queries : List NamedText) : Prop where
  texts : List.Forall₂ (fun t q => q.1 = t.1 ∧ IsMadeOf t.2.toList (pieces t.2) ∧
    q.2 = render values (pieces t.2)) templates queries
  storage : ∀ t ∈ templates, PlacesStorage t.1 (pieces t.2)
  distinct : (queries.map Prod.snd).Nodup

/-- Templates that can still be told apart when some are left out. -/
theorem WellFormed.sublist {templates templates' : List (Text × List Char)}
    (h : WellFormed templates) (hs : templates'.Sublist templates) : WellFormed templates' :=
  ⟨fun t ht => h.1 t (hs.subset ht), h.2.sublist hs⟩

theorem billTemplates_wellFormed :
    WellFormed (billTemplates.map fun t => (t.1, t.2.toList)) := by
  generalize h : billTemplates.map (fun t => (t.1, t.2.toList)) = chars
  unfold billTemplates dataCountTemplate gpuCostTemplate cpuCostTemplate ramCostTemplate
    storageCostTemplate cpuModeTemplate ramSystemTemplate ramOtherTemplate at h
  simp only [List.map_cons, List.map_nil] at h
  simp only [String.toList_append] at h
  repeat rw [String.toList_ofList] at h
  subst h
  decide +kernel

theorem rateTemplates_wellFormed (withTotal : Bool) :
    WellFormed ((rateTemplates withTotal).map fun t => (t.1, t.2.toList)) := by
  have hall : WellFormed ((rateTemplates true).map fun t => (t.1, t.2.toList)) := by
    generalize h : (rateTemplates true).map (fun t => (t.1, t.2.toList)) = chars
    unfold rateTemplates cpuRateTemplate memoryRateTemplate storageRateTemplate
      totalRateTemplate at h
    simp only [if_true, List.cons_append, List.nil_append, List.map_cons, List.map_nil] at h
    simp only [String.toList_append] at h
    repeat rw [String.toList_ofList] at h
    subst h
    decide +kernel
  cases withTotal with
  | true => exact hall
  | false => exact hall.sublist ((List.sublist_append_left _ _).map _)

section
variable {values values' : Place → Text} {templates : List (Text × String)}
  {queries queries' : List NamedText}

/-- Templates that are well formed are filled in. -/
theorem fills_of_wellFormed (h : WellFormed (templates.map fun t => (t.1, t.2.toList)))
    {filling : Filling} (hv : ∀ p : Place, filling p.name = values p) :
    Fills values templates (templates.map fun t => (t.1, fill t.2 filling)) := by
  obtain ⟨hall, happart⟩ := h
  rw [List.forall_mem_map] at hall
  have hfill (t : Text × String) (ht : t ∈ templates) :
      fill t.2 filling = render values (pieces t.2) := by
    have hrender := fill_eq_render filling (hall t ht).1
    simp only [hv] at hrender
    exact hrender
  refine ⟨?_, fun t ht => (hall t ht).2, ?_⟩
  · rw [List.forall₂_map_right_iff, List.forall₂_same]
    intro t ht
    exact ⟨rfl, (hall t ht).1, hfill t ht⟩
  · rw [List.pairwise_map] at happart
    rw [List.map_map, List.Nodup, List.pairwise_map]
    apply happart.imp_of_mem
    intro t u ht hu hopen he
    rw [Function.comp_apply, Function.comp_apply, hfill t ht, hfill u hu] at he
    exact hopen.render_ne values values he

theorem Fills.queries_eq (h : Fills values templates queries) :
    queries = templates.map fun t => (t.1, render values (pieces t.2)) := by
  have htexts := h.texts
  clear h
  induction htexts with
  | nil => rfl
  | cons hq _ ih => rw [List.map_cons, ← ih, ← hq.1, ← hq.2.2]

/-- Queries that local storage is no part of do not change with it. -/
theorem Fills.filter_eq (h : Fills values templates queries) (h' : Fills values' templates queries')
    (hv : ∀ p ≠ Place.storage, values p = values' p) :
    queries.filter (fun q => q.1 ∉ storageNames) =
      queries'.filter (fun q => q.1 ∉ storageNames) := by
  rw [h.queries_eq, h'.queries_eq, List.filter_map, List.filter_map]
  apply List.map_congr_left
  intro t ht
  obtain ⟨ht, hname⟩ := List.mem_filter.mp ht
  have hplace : Piece.place .storage ∉ pieces t.2 := by
    have hstorage := h.storage t ht
    rwa [PlacesStorage, if_neg (of_decide_eq_true hname)] at hstorage
  rw [render_congr fun p hp => hv p fun he => hplace (he ▸ hp)]

end

section
variable (window offset localStorage : Text) (withTotal : Bool)

theorem offsetClause_eq : offsetClause offset = clause " offset " offset := by
  rw [offsetClause, clause, isEmpty_strip]

theorem storageTerm_eq : storageTerm localStorage = clause " + " localStorage := by
  rw [storageTerm, clause, isEmpty_strip]

/-- The offset of a rate is that of a bill without the blank in front of it. -/
theorem strip_offsetClause : strip (offsetClause offset) = clause "offset " offset := by
  rw [offsetClause_eq, clause, clause]
  split_ifs with h
  · rfl
  · have hne : (strip offset).points ≠ [] := by
      intro hnil
      rw [← isEmpty_strip, Text.isEmpty, hnil] at h
      exact h rfl
    have hpoints : ((Text.ofString " offset " ++ strip offset).points) =
        .scalar ' ' :: (Text.ofString "offset " ++ strip offset).points := rfl
    have hlast : ∀ p ∈ (Text.ofString "offset " ++ strip offset).points.getLast?,
        CodePoint.satisfies isBlank p = false := by
      intro p hp
      rw [points_append, List.getLast?_append_of_ne_nil _ hne] at hp
      exact not_of_getLast?_stripWhile hp
    have hhead : ∀ p ∈ (Text.ofString "offset " ++ strip offset).points.head?,
        CodePoint.satisfies isBlank p = false := by
      intro p hp
      obtain rfl : CodePoint.scalar 'o' = p := Option.some.inj hp
      decide
    rw [strip, hpoints, stripWhile_cons (by decide) hhead hlast]

/-- Local storage has no say in the other places. -/
theorem placeValues_of_ne_storage {lead : String} {window offset localStorage localStorage' : Text}
    {p : Place} (hp : p ≠ .storage) :
    placeValues lead window offset localStorage p =
      placeValues lead window offset localStorage' p := by
  cases p with
  | window => rfl
  | offset => rfl
  | storage => exact absurd rfl hp

theorem billQueries_fill :
    Fills (placeValues " offset " window offset localStorage) billTemplates
      (billQueries window offset localStorage) := by
  apply fills_of_wellFormed billTemplates_wellFormed
  intro p
  cases p with
  | window => rfl
  | offset => exact offsetClause_eq offset
  | storage => exact storageTerm_eq localStorage

theorem rateQueries_fill :
    Fills (placeValues "offset " window offset localStorage) (rateTemplates withTotal)
      (rateQueries window offset localStorage withTotal) := by
  have hvalues (p : Place) :
      windowFilling window (strip (offsetClause offset)) (storageTerm localStorage) p.name =
        placeValues "offset " window offset localStorage p := by
    cases p with
    | window => rfl
    | offset => exact strip_offsetClause offset
    | storage => exact storageTerm_eq localStorage
  have hfills := fills_of_wellFormed (rateTemplates_wellFormed withTotal) hvalues
  cases withTotal <;> exact hfills

/-- Whatever the texts of a request are, the queries for costs are their templates with all places
filled at once, no two of a batch alike. Only the texts without the blanks around them matter to
them, apart from the window, and local storage only to the queries that it is a part of. -/
theorem queries_fill_templates :
    Fills (placeValues " offset " window offset localStorage) billTemplates
      (billQueries window offset localStorage) ∧
    Fills (placeValues "offset " window offset localStorage) (rateTemplates withTotal)
      (rateQueries window offset localStorage withTotal) ∧
    billQueries window (strip offset) (strip localStorage) =
      billQueries window offset localStorage ∧
    rateQueries window (strip offset) (strip localStorage) withTotal =
      rateQueries window offset localStorage withTotal ∧
    ∀ localStorage',
      (billQueries window offset localStorage').filter (fun q => q.1 ∉ storageNames) =
        (billQueries window offset localStorage).filter (fun q => q.1 ∉ storageNames) ∧
      (rateQueries window offset localStorage' withTotal).filter (fun q => q.1 ∉ storageNames) =
        (rateQueries window offset localStorage withTotal).filter
          (fun q => q.1 ∉ storageNames) := by
  have hoffset : offsetClause (strip offset) = offsetClause offset := by
    rw [offsetClause, offsetClause, strip_strip]
  have hstorage : storageTerm (strip localStorage) = storageTerm localStorage := by
    rw [storageTerm, storageTerm, strip_strip]
  refine ⟨billQueries_fill .., rateQueries_fill .., ?_, ?_, fun localStorage' => ⟨?_, ?_⟩⟩
  · rw [billQueries, billQueries, hoffset, hstorage]
  · rw [rateQueries, rateQueries, hoffset, hstorage]
  · exact (billQueries_fill ..).filter_eq (billQueries_fill ..) fun p => placeValues_of_ne_storage
  · exact (rateQueries_fill ..).filter_eq (rateQueries_fill ..) fun p => placeValues_of_ne_storage

end
end ClusterBilling
