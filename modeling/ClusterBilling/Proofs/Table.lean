import Mathlib
import ClusterBilling.Cost.Bill

/-! What a table holds after a fold over items, and after a map that may fail. -/
namespace ClusterBilling.Table
variable {α β γ ε : Type}

theorem eq_of_entries {t t' : Table α} (h : t.entries = t'.entries) : t = t' := by
  obtain ⟨es, _⟩ := t
  subst h
  rfl

/-- Items that each alter the value under a key of their own: the value under one key is that of
a fold over the items of this key, in their order. -/
theorem get?_foldl_alter (key : β → Text) (f : β → Option α → α) (items : List β) (t : Table α)
    (k : Text) :
    (items.foldl (fun t x => t.alter (key x) (f x)) t).get? k =
      (items.filter (key · = k)).foldl (fun v? x => some (f x v?)) (t.get? k) := by
  induction items generalizing t with
  | nil => rfl
  | cons x xs ih =>
    rw [List.foldl_cons, ih, get?_alter]
    by_cases hk : key x = k
    · rw [if_pos hk.symm, List.filter_cons_of_pos (by simpa using hk), List.foldl_cons, hk]
    · rw [if_neg (Ne.symm hk), List.filter_cons_of_neg (by simpa using hk)]

theorem eraseDups_of_nodup {ks : List Text} (h : ks.Nodup) : ks.eraseDups = ks := by
  induction ks with
  | nil => rfl
  | cons k ks ih =>
    obtain ⟨hk, hks⟩ := List.nodup_cons.mp h
    have hf : ks.filter (fun k' => !k' == k) = ks :=
      List.filter_eq_self.mpr fun k' hk' => by simpa using ne_of_mem_of_not_mem hk' hk
    rw [List.eraseDups_cons, hf, ih hks]

theorem eraseDups_filter (p : Text → Bool) (ks : List Text) :
    (ks.filter p).eraseDups = ks.eraseDups.filter p := by
  match ks with
  | [] => rfl
  | k :: ks =>
    have ih := eraseDups_filter p (ks.filter fun k' => !k' == k)
    rw [List.eraseDups_cons]
    by_cases hk : p k
    · rw [List.filter_cons_of_pos hk, List.filter_cons_of_pos hk, List.eraseDups_cons, ← ih,
        List.filter_comm]
    · have hne : (ks.filter p).filter (fun k' => !k' == k) = ks.filter p := by
        refine List.filter_eq_self.mpr fun k' hk' => ?_
        have : k' ≠ k := by
          rintro rfl
          exact hk (List.mem_filter.mp hk').2
        simpa using this
      rw [List.filter_cons_of_neg hk, List.filter_cons_of_neg hk, ← ih, List.filter_comm, hne]
termination_by ks.length
decreasing_by exact Nat.lt_succ_of_le (List.length_filter_le _ _)

theorem nodup_eraseDups (ks : List Text) : ks.eraseDups.Nodup := by
  induction ks with
  | nil => exact List.nodup_nil
  | cons k ks ih =>
    rw [List.eraseDups_cons, eraseDups_filter]
    exact List.nodup_cons.mpr ⟨by simp, ih.filter _⟩

/-- Keys that come twice may drop out of a part before they drop out of the whole. -/
theorem eraseDups_append_left (ks ks' : List Text) :
    (ks.eraseDups ++ ks').eraseDups = (ks ++ ks').eraseDups := by
  have hr : ks'.removeAll ks.eraseDups = ks'.removeAll ks := by
    refine List.filter_congr fun k _ => ?_
    simp only [List.elem_eq_mem, List.mem_eraseDups]
  rw [List.eraseDups_append, List.eraseDups_append, hr, eraseDups_of_nodup (nodup_eraseDups ks)]

theorem eraseDups_append_right (ks ks' : List Text) :
    (ks ++ ks'.eraseDups).eraseDups = (ks ++ ks').eraseDups := by
  have hr : ks'.eraseDups.removeAll ks = (ks'.removeAll ks).eraseDups :=
    (eraseDups_filter _ _).symm
  rw [List.eraseDups_append, List.eraseDups_append, hr, eraseDups_of_nodup (nodup_eraseDups _)]

/-- Items gathered under their keys are all there, each once. -/
theorem flatMap_filter_perm (key : β → Text) {ks : List Text} (hks : ks.Nodup) {items : List β}
    (h : ∀ x ∈ items, key x ∈ ks) :
    (ks.flatMap fun k => items.filter (key · = k)).Perm items := by
  induction ks generalizing items with
  | nil =>
    have hitems : items = [] := List.eq_nil_iff_forall_not_mem.mpr fun x hx => nomatch h x hx
    rw [hitems]
    exact .nil
  | cons k ks ih =>
    obtain ⟨hk, hks⟩ := List.nodup_cons.mp hks
    let rest := items.filter fun x => !decide (key x = k)
    have hrest : (ks.flatMap fun k' => items.filter (key · = k')) =
        ks.flatMap fun k' => rest.filter (key · = k') := by
      refine List.flatMap_congr fun k' hk' => ?_
      rw [List.filter_filter]
      refine List.filter_congr fun x _ => ?_
      have hne : k' ≠ k := ne_of_mem_of_not_mem hk' hk
      by_cases hx : key x = k' <;> simp [hx, hne]
    have hmem (x : β) (hx : x ∈ rest) : key x ∈ ks := by
      obtain ⟨hx, hne⟩ := List.mem_filter.mp hx
      exact (List.mem_cons.mp (h x hx)).resolve_left (by simpa using hne)
    rw [List.flatMap_cons, hrest]
    exact ((ih hks hmem).append_left _).trans (List.filter_append_perm _ items)

/-- Items that each alter the value under a key of their own leave the keys in the order in which
they first came. -/
theorem keys_foldl_alter (key : β → Text) (f : β → Option α → α) (items : List β) (t : Table α) :
    (items.foldl (fun t x => t.alter (key x) (f x)) t).keys =
      (t.keys ++ items.map key).eraseDups := by
  induction items generalizing t with
  | nil =>
    rw [List.foldl_nil, List.map_nil, List.append_nil]
    exact (eraseDups_of_nodup t.nodup).symm
  | cons x xs ih =>
    rw [List.foldl_cons, ih, keys_alter, List.map_cons]
    -- a key that is there already drops out of what the rest adds, a new one moves to the front
    split_ifs with hk
    · have hr : (key x :: xs.map key).removeAll t.keys = (xs.map key).removeAll t.keys := by
        simp [List.removeAll, hk]
      rw [List.eraseDups_append, List.eraseDups_append, hr]
    · rw [List.append_assoc, List.singleton_append]

theorem keys_ofList (es : List (Text × α)) :
    (ofList es).keys = (es.map Prod.fst).eraseDups :=
  keys_foldl_alter Prod.fst (fun e _ => e.2) es ∅

section
variable {M : Type} [AddCommMonoid M] (w : α → M)

/-- A change that adds the same to every value, and to a missing one as to zero, adds as much to the
sum over all keys. -/
theorem sum_alter (t : Table α) (k : Text) {f : Option α → α} {d : M}
    (hf : ∀ v?, w (f v?) = (v?.map w).getD 0 + d) :
    ((t.alter k f).entries.map fun e => w e.2).sum = (t.entries.map fun e => w e.2).sum + d := by
  obtain ⟨es, hn⟩ := t
  simp only [alter]
  clear hn
  induction es with
  | nil => simp [alterEntries, hf]
  | cons e es ih =>
    obtain ⟨k', v⟩ := e
    simp only [alterEntries]
    split
    · simp only [List.map_cons, List.sum_cons, hf, Option.map_some, Option.getD_some]
      rw [add_right_comm]
    · simp only [List.map_cons, List.sum_cons, ih]
      rw [add_assoc]

/-- Nothing is lost, and nothing counts twice, when items are added up under keys. -/
theorem sum_foldl_alter (key : β → Text) {f : β → Option α → α} {d : β → M}
    (hf : ∀ x v?, w (f x v?) = (v?.map w).getD 0 + d x) (items : List β) (t : Table α) :
    ((items.foldl (fun t x => t.alter (key x) (f x)) t).entries.map fun e => w e.2).sum =
      (t.entries.map fun e => w e.2).sum + (items.map d).sum := by
  induction items generalizing t with
  | nil => rw [List.foldl_nil, List.map_nil, List.sum_nil, add_zero]
  | cons x xs ih =>
    rw [List.foldl_cons, ih, sum_alter w t (key x) (hf x), List.map_cons, List.sum_cons, add_assoc]

end

theorem lookup_of_mapEntries {f : Text → β → Except ε γ} {es : List (Text × β)}
    {ws : List (Text × γ)} (h : mapEntries f es = .ok ws) (k : Text) :
    ws.lookup k = (es.lookup k).bind fun v => (f k v).toOption := by
  induction es generalizing ws with
  | nil => cases h; rfl
  | cons e es ih =>
    obtain ⟨k', v⟩ := e
    simp only [mapEntries] at h
    cases hv : f k' v with
    | error e => rw [hv] at h; cases h
    | ok w =>
      cases hr : mapEntries f es with
      | error e => rw [hv, hr] at h; cases h
      | ok vs =>
        rw [hv, hr] at h
        cases h
        rw [List.lookup_cons, List.lookup_cons]
        by_cases hk : k = k'
        · subst hk
          simp only [beq_self_eq_true, Option.bind_some, hv]
          rfl
        · simp only [beq_false_of_ne hk]
          exact ih hr

theorem mapM_eq_ok {t : Table β} {f : Text → β → Except ε γ} {t' : Table γ}
    (h : t.mapM f = .ok t') : mapEntries f t.entries = .ok t'.entries := by
  unfold Table.mapM at h
  split at h
  · cases h
  · next hes =>
    cases h
    exact hes

theorem get?_of_mapM {t : Table β} {f : Text → β → Except ε γ} {t' : Table γ}
    (h : t.mapM f = .ok t') (k : Text) :
    t'.get? k = (t.get? k).bind fun v => (f k v).toOption :=
  lookup_of_mapEntries (mapM_eq_ok h) k

theorem mapM_ok {f : Text → β → Except ε γ} (hf : ∀ k v, ∃ w, f k v = .ok w) (t : Table β) :
    ∃ t', t.mapM f = .ok t' := by
  have hes (es : List (Text × β)) : ∃ ws, mapEntries f es = .ok ws := by
    induction es with
    | nil => exact ⟨[], rfl⟩
    | cons e es ih =>
      obtain ⟨w, hw⟩ := hf e.1 e.2
      obtain ⟨ws, hws⟩ := ih
      exact ⟨(e.1, w) :: ws, by rw [mapEntries, hw, hws]; rfl⟩
  obtain ⟨ws, hws⟩ := hes t.entries
  unfold Table.mapM
  split
  · next h => rw [hws] at h; cases h
  · exact ⟨_, rfl⟩

theorem mapEntries_eq_ok {f : Text → β → Except ε γ} {g : Text → γ} {es : List (Text × β)}
    (h : ∀ e ∈ es, f e.1 e.2 = .ok (g e.1)) :
    mapEntries f es = .ok ((es.map Prod.fst).map fun k => (k, g k)) := by
  induction es with
  | nil => rfl
  | cons e es ih =>
    obtain ⟨he, hes⟩ := List.forall_mem_cons.mp h
    rw [mapEntries, he, ih hes]
    rfl

/-- A function that succeeds on every entry, with what only the key decides. -/
theorem mapM_eq_ok_of_forall {t : Table β} {f : Text → β → Except ε γ} {g : Text → γ}
    (h : ∀ e ∈ t.entries, f e.1 e.2 = .ok (g e.1)) :
    ∃ t', t.mapM f = .ok t' ∧ t'.entries = t.keys.map fun k => (k, g k) := by
  have hes := mapEntries_eq_ok h
  unfold Table.mapM
  split
  · next he => rw [hes] at he; cases he
  · next ws he =>
    rw [hes] at he
    cases he
    exact ⟨_, rfl, rfl⟩

/-- A function that fails on every entry alike. -/
theorem mapM_of_error {f : Text → β → Except ε γ} {e : ε} (h : ∀ k v, f k v = .error e)
    (t : Table β) : t.mapM f = if t.keys = [] then .ok ∅ else .error e := by
  obtain ⟨es, hn⟩ := t
  cases es with
  | nil => rfl
  | cons x es =>
    have hes : mapEntries f (x :: es) = .error e := by rw [mapEntries, h]
    have hk : (⟨x :: es, hn⟩ : Table β).keys ≠ [] := List.cons_ne_nil _ _
    rw [if_neg hk]
    unfold Table.mapM
    split
    · next he => exact congrArg _ (Except.error.inj (he.symm.trans hes))
    · next he => rw [hes] at he; cases he

theorem get?_of_mem {t : Table α} {k : Text} {v : α} (h : (k, v) ∈ t.entries) :
    t.get? k = some v := by
  obtain ⟨es, hn⟩ := t
  simp only [get?] at h ⊢
  induction es with
  | nil => cases h
  | cons e es ih =>
    obtain ⟨k', v'⟩ := e
    obtain ⟨hk', hes⟩ := List.nodup_cons.mp hn
    rw [List.lookup_cons]
    rcases List.mem_cons.mp h with he | he
    · obtain ⟨rfl, rfl⟩ := Prod.mk.inj he
      simp
    · have hk : k ≠ k' := ne_of_mem_of_not_mem (List.mem_map_of_mem he) hk'
      simp only [beq_false_of_ne hk]
      exact ih hes he

/-- The entries under one key are the one that it has, if it has one. -/
theorem filter_entries (t : Table α) (k : Text) :
    t.entries.filter (·.1 = k) = ((t.get? k).map (k, ·)).toList := by
  obtain ⟨es, hn⟩ := t
  simp only [get?]
  induction es with
  | nil => rfl
  | cons e es ih =>
    obtain ⟨k', v⟩ := e
    obtain ⟨hk', hes⟩ := List.nodup_cons.mp hn
    rw [List.lookup_cons]
    by_cases hk : k = k'
    · subst hk
      have hnone : es.filter (·.1 = k) = [] := by
        refine List.filter_eq_nil_iff.mpr fun e he => ?_
        simpa using ne_of_mem_of_not_mem (List.mem_map_of_mem he) hk'
      simp [hnone]
    · rw [List.filter_cons_of_neg (by simpa using Ne.symm hk), ih hes]
      simp [beq_false_of_ne hk]

theorem keys_of_entries_eq {t : Table α} {ks : List Text} {g : Text → α}
    (h : t.entries = ks.map fun k => (k, g k)) : t.keys = ks := by
  rw [keys, h, List.map_map]
  exact List.map_id ks

theorem get?_of_entries_eq {t : Table α} {ks : List Text} {g : Text → α}
    (h : t.entries = ks.map fun k => (k, g k)) (k : Text) :
    t.get? k = if k ∈ ks then some (g k) else none := by
  rw [get?, h]
  clear h
  induction ks with
  | nil => rfl
  | cons k' ks ih =>
    rw [List.map_cons, List.lookup_cons]
    by_cases hk : k = k'
    · subst hk
      simp
    · simp only [beq_false_of_ne hk, List.mem_cons, hk, false_or]
      exact ih

end ClusterBilling.Table
