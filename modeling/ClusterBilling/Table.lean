import ClusterBilling.Text.Basic

/-! Finite maps from text that keep the order in which their keys first came. -/
namespace ClusterBilling

/-- Entries in the order in which their keys first came; no key comes twice. -/
structure Table (α : Type) where
  entries : List (Text × α)
  nodup : (entries.map Prod.fst).Nodup

namespace Table
variable {α β : Type}

instance : EmptyCollection (Table α) := ⟨⟨[], List.nodup_nil⟩⟩

instance : Inhabited (Table α) := ⟨∅⟩

def keys (t : Table α) : List Text := t.entries.map Prod.fst

def get? (t : Table α) (k : Text) : Option α := t.entries.lookup k

/-- Give the value of `k` to `f`, and put the answer in its place, or at the end when there was
none. -/
def alterEntries (k : Text) (f : Option α → α) : List (Text × α) → List (Text × α)
  | [] => [(k, f none)]
  | (k', v) :: es => if k' = k then (k', f (some v)) :: es else (k', v) :: alterEntries k f es

theorem map_fst_alterEntries (k : Text) (f : Option α → α) (es : List (Text × α)) :
    (alterEntries k f es).map Prod.fst =
      if k ∈ es.map Prod.fst then es.map Prod.fst else es.map Prod.fst ++ [k] := by
  induction es with
  | nil => simp [alterEntries]
  | cons e es ih =>
    obtain ⟨k', v⟩ := e
    simp only [alterEntries]
    split
    · next h => simp [h]
    · next h =>
      simp only [List.map_cons, ih, List.mem_cons, Ne.symm h, false_or]
      split <;> simp

def alter (t : Table α) (k : Text) (f : Option α → α) : Table α where
  entries := alterEntries k f t.entries
  nodup := by
    rw [map_fst_alterEntries]
    split
    · exact t.nodup
    · next h => exact List.nodup_append.2 ⟨t.nodup, by simp, by grind⟩

def insert (t : Table α) (k : Text) (v : α) : Table α := t.alter k fun _ => v

/-- A later value takes the place of an earlier one under the same key. -/
def ofList (es : List (Text × α)) : Table α :=
  es.foldl (fun t (k, v) => t.insert k v) ∅

def map (f : α → β) (t : Table α) : Table β where
  entries := t.entries.map fun (k, v) => (k, f v)
  nodup := by simpa [Function.comp_def] using t.nodup

theorem keys_alter (t : Table α) (k : Text) (f : Option α → α) :
    (t.alter k f).keys = if k ∈ t.keys then t.keys else t.keys ++ [k] :=
  map_fst_alterEntries k f t.entries

@[simp] theorem entries_empty : (∅ : Table α).entries = [] := rfl

@[simp] theorem get?_empty (k : Text) : (∅ : Table α).get? k = none := rfl

theorem get?_alter (t : Table α) (k k' : Text) (f : Option α → α) :
    (t.alter k f).get? k' = if k' = k then some (f (t.get? k)) else t.get? k' := by
  obtain ⟨es, h⟩ := t
  simp only [get?, alter]
  clear h
  induction es with
  | nil => simp only [alterEntries, List.lookup_cons, List.lookup_nil]; grind
  | cons e es ih =>
    obtain ⟨k₀, v⟩ := e
    simp only [alterEntries]
    split
    · next h => subst h; simp only [List.lookup_cons, beq_self_eq_true]; grind
    · next h => simp only [List.lookup_cons]; grind

theorem get?_insert (t : Table α) (k k' : Text) (v : α) :
    (t.insert k v).get? k' = if k' = k then some v else t.get? k' :=
  t.get?_alter k k' _

theorem get?_map (f : α → β) (t : Table α) (k : Text) : (t.map f).get? k = (t.get? k).map f := by
  obtain ⟨es, h⟩ := t
  simp only [get?, map]
  clear h
  induction es with
  | nil => rfl
  | cons e es ih =>
    obtain ⟨k₀, v⟩ := e
    simp only [List.map_cons, List.lookup_cons]
    split <;> simp_all

/-- A key has a value exactly when it is among the keys. -/
theorem isSome_get?_iff (t : Table α) (k : Text) : (t.get? k).isSome ↔ k ∈ t.keys := by
  obtain ⟨es, h⟩ := t
  simp only [get?, keys]
  clear h
  induction es with
  | nil => simp
  | cons e es ih =>
    obtain ⟨k₀, v⟩ := e
    simp only [List.lookup_cons, List.map_cons, List.mem_cons]
    split <;> simp_all

theorem alterEntries_of_not_mem {k : Text} {f : Option α → α} {es : List (Text × α)}
    (h : k ∉ es.map Prod.fst) : alterEntries k f es = es ++ [(k, f none)] := by
  induction es with
  | nil => rfl
  | cons e es ih =>
    obtain ⟨k', v⟩ := e
    simp only [List.map_cons, List.mem_cons, not_or] at h
    rw [alterEntries, if_neg (Ne.symm h.1), ih h.2, List.cons_append]

theorem entries_foldl_insert (es : List (Text × α)) (t : Table α)
    (h : (t.entries.map Prod.fst ++ es.map Prod.fst).Nodup) :
    (es.foldl (fun t (k, v) => t.insert k v) t).entries = t.entries ++ es := by
  induction es generalizing t with
  | nil => simp
  | cons e es ih =>
    obtain ⟨k, v⟩ := e
    have hk : k ∉ t.entries.map Prod.fst := by
      intro hk
      exact (List.nodup_append.1 h).2.2 k hk k (by simp) rfl
    have he : (t.insert k v).entries = t.entries ++ [(k, v)] := alterEntries_of_not_mem hk
    rw [List.foldl_cons, ih (t.insert k v) (by rw [he]; simpa using h), he]
    simp

/-- Entries under different keys are kept as they are. -/
theorem entries_ofList {es : List (Text × α)} (h : (es.map Prod.fst).Nodup) :
    (ofList es).entries = es := by
  rw [ofList, entries_foldl_insert es ∅ (by simpa using h), entries_empty, List.nil_append]

end Table
end ClusterBilling
