import Mathlib
import ClusterBilling.Text.Blank

/-! Rows of members of one kind, at the two ends of a list. -/
namespace ClusterBilling.Text
variable {α : Type} {p : α → Bool} {xs ys : List α}

section front

theorem takeWhile_append_stop (h : ∀ x ∈ xs, p x = true) (hr : ∀ x ∈ ys.head?, p x = false) :
    (xs ++ ys).takeWhile p = xs := by
  rw [List.takeWhile_append_of_pos h]
  cases ys with
  | nil => simp
  | cons y ys => simp [hr y rfl]

theorem dropWhile_append_stop (h : ∀ x ∈ xs, p x = true) (hr : ∀ x ∈ ys.head?, p x = false) :
    (xs ++ ys).dropWhile p = ys := by
  rw [List.dropWhile_append_of_pos h]
  cases ys with
  | nil => simp
  | cons y ys => simp [hr y rfl]

theorem dropWhile_eq_self (h : ∀ x ∈ xs.head?, p x = false) : xs.dropWhile p = xs := by
  cases xs with
  | nil => rfl
  | cons x xs => simp [h x rfl]

end front

section back

/-- What is dropped from the end is a row of members that satisfy the condition. -/
theorem exists_append_dropEndWhile (p : α → Bool) (xs : List α) :
    ∃ ys, (∀ y ∈ ys, p y = true) ∧ xs = dropEndWhile p xs ++ ys :=
  ⟨xs.rtakeWhile p, fun _ => List.mem_rtakeWhile_imp, List.rdropWhile_append_rtakeWhile.symm⟩

theorem dropEndWhile_eq_self (h : ∀ x ∈ xs.getLast?, p x = false) : dropEndWhile p xs = xs := by
  rw [dropEndWhile, dropWhile_eq_self (by simpa using h), List.reverse_reverse]

theorem dropEndWhile_append (h : ∀ y ∈ ys, p y = true) :
    dropEndWhile p (xs ++ ys) = dropEndWhile p xs := by
  have hys : ∀ y ∈ ys.reverse, p y = true := by simpa using h
  rw [dropEndWhile, dropEndWhile, List.reverse_append, List.dropWhile_append_of_pos hys]

end back

section ends

/-- What neither begins nor ends with a member to strip stays as it is. -/
theorem stripWhile_eq_self (hhead : ∀ x ∈ xs.head?, p x = false)
    (hlast : ∀ x ∈ xs.getLast?, p x = false) : stripWhile p xs = xs := by
  rw [stripWhile, dropWhile_eq_self hhead, dropEndWhile_eq_self hlast]

theorem not_of_head?_stripWhile {x : α} (h : (stripWhile p xs).head? = some x) :
    p x = false := by
  obtain ⟨ys, -, hys⟩ := exists_append_dropEndWhile p (xs.dropWhile p)
  have hstrip : (dropEndWhile p (xs.dropWhile p)).head? = some x := h
  have hhead : (xs.dropWhile p).head? = some x := by
    rw [hys, List.head?_append, hstrip, Option.some_or]
  have hnot := List.head?_dropWhile_not p xs
  rw [hhead] at hnot
  simpa using hnot

/-- A row that ends otherwise keeps all but what is stripped after it. -/
theorem stripWhile_append (hhead : ∀ x ∈ (xs ++ ys).head?, p x = false)
    (hlast : ∀ x ∈ xs.getLast?, p x = false) (h : ∀ y ∈ ys, p y = true) :
    stripWhile p (xs ++ ys) = xs := by
  rw [stripWhile, dropWhile_eq_self hhead, dropEndWhile_append h, dropEndWhile_eq_self hlast]

/-- Nothing is left to strip. -/
theorem stripWhile_stripWhile (p : α → Bool) (xs : List α) :
    stripWhile p (stripWhile p xs) = stripWhile p xs :=
  stripWhile_eq_self (fun _ => not_of_head?_stripWhile) (fun _ => not_of_getLast?_stripWhile)

/-- All that can be stripped is stripped just if nothing else is there. -/
theorem stripWhile_eq_nil_iff : stripWhile p xs = [] ↔ ∀ x ∈ xs, p x = true := by
  constructor
  · intro h
    obtain ⟨ys, hys, he⟩ := exists_append_dropEndWhile p (xs.dropWhile p)
    have hnil : dropEndWhile p (xs.dropWhile p) = [] := h
    rw [hnil, List.nil_append] at he
    rw [← List.takeWhile_append_dropWhile (p := p) (l := xs), he]
    exact List.forall_mem_append.mpr ⟨fun _ => List.mem_takeWhile_imp, hys⟩
  · intro h
    have hdrop : xs.dropWhile p = [] := List.dropWhile_eq_nil_iff.mpr h
    rw [stripWhile, hdrop]
    rfl

/-- Members to strip in front of a row that begins otherwise and is not stripped at its end. -/
theorem stripWhile_cons {x : α} (hx : p x = true) (hhead : ∀ y ∈ ys.head?, p y = false)
    (hlast : ∀ y ∈ ys.getLast?, p y = false) : stripWhile p (x :: ys) = ys := by
  have hdrop : (x :: ys).dropWhile p = ys := by
    rw [List.dropWhile_cons_of_pos hx, dropWhile_eq_self hhead]
  rw [stripWhile, hdrop, dropEndWhile_eq_self hlast]

end ends

theorem strip_strip (t : Text) : strip (strip t) = strip t := by
  unfold strip
  rw [stripWhile_stripWhile]

theorem isEmpty_strip (t : Text) : (strip t).isEmpty = isAllBlank t := by
  rw [Bool.eq_iff_iff, isAllBlank, List.all_eq_true, ← stripWhile_eq_nil_iff]
  exact List.isEmpty_iff

/-- Characters that are no surrogates are the whole text. -/
theorem eq_ofChars_of_chars {t : Text} {cs : List Char} (h : t.chars = cs) (hc : '\ufffd' ∉ cs) :
    t = ofChars cs := by
  subst h
  obtain ⟨points⟩ := t
  have hpoint : ∀ p ∈ points, CodePoint.scalar p.char = p := by
    intro p hp
    cases p with
    | scalar c => rfl
    | surrogate n => exact absurd (List.mem_map.mpr ⟨_, hp, rfl⟩) hc
  simp only [ofChars, chars, List.map_map, Text.mk.injEq]
  exact ((List.map_congr_left hpoint).trans (List.map_id points)).symm

end ClusterBilling.Text
