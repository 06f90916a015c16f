import Mathlib
import ClusterBilling.Text.Quoted

/-!
The lines of a text. Texts that are joined by newlines can be read back from their lines just if
each of them is a single line.
-/
namespace ClusterBilling.Text

/-- The texts between newlines. -/
def lines (t : Text) : List Text := (t.points.splitOn (.scalar '\n')).map Text.mk

/-- The text is a single line. -/
def OneLine (t : Text) : Prop := .scalar '\n' ∉ t.points

instance : DecidablePred OneLine := fun _ => inferInstanceAs (Decidable (_ ∉ _))

section joined
variable {ts : List Text}

theorem points_join (ts : List Text) :
    (Text.join "\n" ts).points = [.scalar '\n'].intercalate (ts.map points) := rfl

theorem length_lines (t : Text) : t.lines.length = t.points.count (.scalar '\n') + 1 := by
  obtain ⟨ps⟩ := t
  rw [lines, List.length_map]
  induction ps with
  | nil => rfl
  | cons p ps ih =>
    rw [List.splitOn_cons_eq_if_modifyHead, List.count_cons]
    split_ifs with hp
    · rw [List.length_cons, ih]
    · rw [List.length_modifyHead, ih, add_zero]

theorem oneLine_iff_length {t : Text} : t.OneLine ↔ t.lines.length = 1 := by
  rw [length_lines, Nat.add_eq_right, List.count_eq_zero]
  rfl

theorem count_join (hne : ts ≠ []) :
    (Text.join "\n" ts).points.count (.scalar '\n') + 1 =
      (ts.map fun t => t.points.count (.scalar '\n') + 1).sum := by
  rw [points_join]
  induction ts with
  | nil => exact absurd rfl hne
  | cons t ts ih =>
    cases ts with
    | nil => simp
    | cons t' ts =>
      have ih := ih (List.cons_ne_nil _ _)
      simp only [List.map_cons] at ih ⊢
      rw [List.intercalate_cons_cons, List.count_append, List.count_append, List.sum_cons, ← ih,
        List.count_singleton_self]
      omega

/-- Joined texts have all lines of their parts. -/
theorem length_lines_join (hne : ts ≠ []) :
    (Text.join "\n" ts).lines.length = (ts.map fun t => t.lines.length).sum := by
  simp only [length_lines]
  exact count_join hne

theorem lines_join (hne : ts ≠ []) (h : ∀ t ∈ ts, t.OneLine) : (Text.join "\n" ts).lines = ts := by
  rw [lines, points_join,
    List.splitOn_intercalate _ (List.forall_mem_map.mpr h) (List.map_eq_nil_iff.not.mpr hne),
    List.map_map]
  exact List.map_id ts

/-- There are as many lines as texts just if each text is one. -/
theorem length_lines_join_eq_iff (hne : ts ≠ []) :
    (Text.join "\n" ts).lines.length = ts.length ↔ ∀ t ∈ ts, t.OneLine := by
  refine ⟨fun h => ?_, fun h => by rw [lines_join hne h]⟩
  rw [length_lines_join hne] at h
  clear hne
  induction ts with
  | nil => exact nofun
  | cons t ts ih =>
    have hle : ts.length ≤ (ts.map fun t => t.lines.length).sum := by
      have hone : ∀ n ∈ ts.map fun t => t.lines.length, 1 ≤ n :=
        List.forall_mem_map.mpr fun t _ => by rw [length_lines]; omega
      simpa using List.card_nsmul_le_sum _ 1 hone
    have ht : 1 ≤ t.lines.length := by
      rw [length_lines]
      omega
    rw [List.map_cons, List.sum_cons, List.length_cons] at h
    refine List.forall_mem_cons.mpr ⟨oneLine_iff_length.mpr (by omega), ih (by omega)⟩

/-- The lines are the texts just if each text is one. -/
theorem lines_join_eq_iff (hne : ts ≠ []) :
    (Text.join "\n" ts).lines = ts ↔ ∀ t ∈ ts, t.OneLine :=
  ⟨fun h => (length_lines_join_eq_iff hne).mp (congrArg _ h), lines_join hne⟩

end joined

section parts

@[simp] theorem oneLine_append (s t : Text) : (s ++ t).OneLine ↔ s.OneLine ∧ t.OneLine := by
  simp [OneLine]

theorem oneLine_ofChars (cs : List Char) : (ofChars cs).OneLine ↔ '\n' ∉ cs := by
  simp [OneLine, ofChars]

@[simp] theorem oneLine_ofString (s : String) : (ofString s).OneLine ↔ '\n' ∉ s.toList :=
  oneLine_ofChars _

theorem OneLine.join {separator : Text} {ts : List Text} (hs : separator.OneLine)
    (h : ∀ t ∈ ts, t.OneLine) : (Text.join separator ts).OneLine := by
  unfold OneLine Text.join at *
  induction ts with
  | nil => exact List.not_mem_nil
  | cons t ts ih =>
    obtain ⟨ht, hts⟩ := List.forall_mem_cons.mp h
    have ih := ih hts
    cases ts with
    | nil => simpa using ht
    | cons t' ts =>
      simp only [List.map_cons] at ih ⊢
      rw [List.intercalate_cons_cons, List.mem_append, List.mem_append, not_or, not_or]
      exact ⟨⟨ht, hs⟩, ih⟩

end parts

section written

theorem digitChar_ne_newline {n : ℕ} (h : n < 16) : Nat.digitChar n ≠ '\n' := by
  decide +revert

@[simp] theorem newline_not_mem_toDigits {b : ℕ} (h1 : 1 < b) (h16 : b ≤ 16) (n : ℕ) :
    '\n' ∉ Nat.toDigits b n := by
  induction n using Nat.strong_induction_on with
  | _ n ih =>
    by_cases h : n < b
    · rw [Nat.toDigits_of_lt_base h, List.mem_singleton]
      exact (digitChar_ne_newline (h.trans_le h16)).symm
    · have hlast : n % b < 16 := (Nat.mod_lt n (by omega)).trans_le h16
      rw [Nat.toDigits_of_base_le h1 (not_lt.mp h), List.mem_append, List.mem_singleton, not_or]
      exact ⟨ih (n / b) (Nat.div_lt_self (by omega) h1), (digitChar_ne_newline hlast).symm⟩

@[simp] theorem newline_not_mem_toString (n : ℕ) : '\n' ∉ (toString n).toList := by
  change '\n' ∉ (Nat.repr n).toList
  rw [Nat.toList_repr]
  exact newline_not_mem_toDigits (by decide) (by decide) n

@[simp] theorem newline_not_mem_hex (width n : ℕ) : '\n' ∉ hex width n := by
  unfold hex
  simp

theorem newline_not_mem_escapeCode (n : ℕ) : '\n' ∉ escapeCode n := by
  unfold escapeCode
  split_ifs <;> simp

theorem newline_not_mem_quoteChar {q : Char} (hq : q ≠ '\n') (c : Char) :
    '\n' ∉ quoteChar q c := by
  by_cases hc : c = '\n'
  · subst hc
    simp [quoteChar, hq.symm]
  · unfold quoteChar
    split_ifs <;> simp [newline_not_mem_escapeCode, Ne.symm hc]

theorem quoteFor_ne_newline (t : Text) : quoteFor t ≠ '\n' := by
  unfold quoteFor
  split_ifs <;> decide

/-- A quoted text is a single line, whatever it holds. -/
theorem oneLine_quote (t : Text) : (quote t).OneLine := by
  have hq : '\n' ≠ quoteFor t := (quoteFor_ne_newline t).symm
  have hpoints : '\n' ∉ t.points.flatMap (quotePoint (quoteFor t)) := by
    rw [List.mem_flatMap]
    rintro ⟨p, -, hp⟩
    cases p with
    | scalar c => exact newline_not_mem_quoteChar hq.symm c hp
    | surrogate n => exact newline_not_mem_escapeCode _ hp
  rw [quote, oneLine_ofChars]
  simp [hq, hpoints]

end written
end ClusterBilling.Text
