import ClusterBilling.Proofs.Text
import ClusterBilling.Time.Duration

/-!
The text of a duration says which terms it is made of: there is at most one way to write it as a row
of numbers with units, and reading from left to right finds that one.
-/
namespace ClusterBilling.Time
open Text

namespace TimeUnit
variable {unit : TimeUnit} {cs rest : List Char}

/-- A unit is what the text begins with, but no minute has the letter of the second after it. -/
theorem take?_eq_some : take? cs = some (unit, rest) ↔
    cs = unit.letters ++ rest ∧ (unit = .minute → rest.head? ≠ some 's') := by
  constructor
  · intro h
    unfold take? at h
    split at h
    case h_3 hs =>
      obtain ⟨rfl, rfl⟩ := Prod.mk.inj (Option.some.inj h)
      refine ⟨rfl, fun _ hhead => ?_⟩
      obtain ⟨tail, rfl⟩ := List.head?_eq_some_iff.mp hhead
      exact hs tail rfl
    case h_8 => cases h
    all_goals
      obtain ⟨rfl, rfl⟩ := Prod.mk.inj (Option.some.inj h)
      exact ⟨rfl, by simp⟩
  · rintro ⟨rfl, hminute⟩
    cases unit with
    | minute =>
      cases rest with
      | nil => rfl
      | cons c tail =>
        have hc : c ≠ 's' := by simpa using hminute rfl
        simp [take?, letters, hc]
    | _ => rfl

/-- No unit begins with a digit or a point. -/
theorem head_letters (unit : TimeUnit) (rest : List Char) :
    ∀ c ∈ (unit.letters ++ rest).head?, isDigit c = false ∧ c ≠ '.' := by
  cases unit <;> simp [letters] <;> decide

end TimeUnit

namespace DurationTerm
variable {t t' : DurationTerm} {terms terms' : List DurationTerm} {cs rest : List Char}

/-- Digits before the unit, and none but digits around the point. -/
structure WellFormed (t : DurationTerm) : Prop where
  nonempty : t.whole ≠ []
  whole : ∀ c ∈ t.whole, isDigit c = true
  places : ∀ c ∈ t.places, isDigit c = true

theorem take?_text (h : t.WellFormed) (hr : t.unit = .minute → rest.head? ≠ some 's') :
    take? (t.text ++ rest) = some (t, rest) := by
  obtain ⟨whole, places, unit⟩ := t
  obtain ⟨hne, hw, hp⟩ := h
  have hunit : TimeUnit.take? (unit.letters ++ rest) = some (unit, rest) :=
    TimeUnit.take?_eq_some.mpr ⟨rfl, hr⟩
  have hhead := unit.head_letters rest
  have hempty : whole.isEmpty = false := by simpa using hne
  unfold take? text
  cases places with
  | nil =>
    have hstop : ∀ c ∈ (unit.letters ++ rest).head?, isDigit c = false := fun c hc => (hhead c hc).1
    have hpoint (ds : List Char) : unit.letters ++ rest ≠ '.' :: ds :=
      fun h => (hhead '.' (by rw [h]; rfl)).2 rfl
    simp only [List.isEmpty_nil, if_true, List.append_nil, List.append_assoc,
      takeWhile_append_stop hw hstop, dropWhile_append_stop hw hstop, hempty, Bool.false_eq_true,
      if_false]
    rw [hunit]
    rfl
  | cons d ds =>
    have hstop : ∀ c ∈ (unit.letters ++ rest).head?, isDigit c = false := fun c hc => (hhead c hc).1
    have hdot : ∀ c ∈ ('.' :: (d :: ds ++ (unit.letters ++ rest))).head?, isDigit c = false := by
      simp
      decide
    simp only [List.isEmpty_cons, Bool.false_eq_true, if_false, List.append_assoc,
      List.cons_append] at hdot ⊢
    rw [takeWhile_append_stop hw hdot, dropWhile_append_stop hw hdot, ← List.cons_append]
    simp only [hempty, takeWhile_append_stop hp hstop, dropWhile_append_stop hp hstop,
      Bool.false_eq_true, if_false, List.isEmpty_cons, hunit, Option.map_some]

theorem text_of_take? (h : take? cs = some (t, rest)) :
    t.WellFormed ∧ cs = t.text ++ rest ∧ (t.unit = .minute → rest.head? ≠ some 's') := by
  have hdigits (l : List Char) : ∀ c ∈ l.takeWhile isDigit, isDigit c = true :=
    fun c hc => List.mem_takeWhile_imp hc
  have hcs := List.takeWhile_append_dropWhile (p := isDigit) (l := cs)
  unfold take? at h
  dsimp only at h
  split_ifs at h with hempty
  have hne : cs.takeWhile isDigit ≠ [] := by simpa using hempty
  split at h
  · next ds hrest =>
    have hds := List.takeWhile_append_dropWhile (p := isDigit) (l := ds)
    obtain ⟨⟨unit, after⟩, htake, heq⟩ := Option.map_eq_some_iff.mp h
    obtain ⟨rfl, rfl⟩ := Prod.mk.inj heq
    obtain ⟨hletters, hminute⟩ := TimeUnit.take?_eq_some.mp htake
    refine ⟨⟨hne, hdigits cs, hdigits ds⟩, ?_, hminute⟩
    simp only [text, List.append_assoc, ← hletters]
    split_ifs
    · exact hcs.symm
    · rw [List.cons_append, hds, ← hrest, hcs]
  · obtain ⟨⟨unit, after⟩, htake, heq⟩ := Option.map_eq_some_iff.mp h
    obtain ⟨rfl, rfl⟩ := Prod.mk.inj heq
    obtain ⟨hletters, hminute⟩ := TimeUnit.take?_eq_some.mp htake
    refine ⟨⟨hne, hdigits cs, by simp⟩, ?_, hminute⟩
    simp only [text, List.isEmpty_nil, if_true, List.append_nil, List.append_assoc, ← hletters, hcs]

/-- The term at the beginning of a text is the one that it can be read as there. -/
theorem take?_eq_some : take? cs = some (t, rest) ↔
    t.WellFormed ∧ cs = t.text ++ rest ∧ (t.unit = .minute → rest.head? ≠ some 's') := by
  refine ⟨text_of_take?, ?_⟩
  rintro ⟨h, rfl, hr⟩
  exact take?_text h hr

theorem WellFormed.head_text (h : t.WellFormed) (rest : List Char) :
    ∃ c, (t.text ++ rest).head? = some c ∧ isDigit c = true := by
  obtain ⟨c, ds, hw⟩ := List.exists_cons_of_ne_nil h.nonempty
  exact ⟨c, by simp [DurationTerm.text, hw], h.whole c (by simp [hw])⟩

/-- The terms, written one after the other, are the text. -/
structure Spells (terms : List DurationTerm) (cs : List Char) : Prop where
  wellFormed : ∀ t ∈ terms, t.WellFormed
  text : terms.flatMap text = cs

theorem spells_nil : Spells [] cs ↔ cs = [] :=
  ⟨fun h => h.text.symm, fun h => ⟨by simp, h.symm⟩⟩

theorem spells_cons :
    Spells (t :: terms) cs ↔ t.WellFormed ∧ ∃ rest, cs = t.text ++ rest ∧ Spells terms rest := by
  constructor
  · rintro ⟨h, rfl⟩
    obtain ⟨ht, hts⟩ := List.forall_mem_cons.mp h
    exact ⟨ht, _, List.flatMap_cons, hts, rfl⟩
  · rintro ⟨ht, rest, rfl, hts, rfl⟩
    exact ⟨List.forall_mem_cons.mpr ⟨ht, hts⟩, List.flatMap_cons⟩

/-- What is left to read is over or begins with a digit. -/
theorem Spells.head (h : Spells terms cs) : ∀ c ∈ cs.head?, isDigit c = true := by
  cases terms with
  | nil => simp [spells_nil.mp h]
  | cons t terms =>
    obtain ⟨ht, rest, rfl, -⟩ := spells_cons.mp h
    obtain ⟨c, hhead, hc⟩ := ht.head_text rest
    rw [hhead]
    rintro _ ⟨⟩
    exact hc

/-- Nothing but the row of no terms is written as no text. -/
theorem Spells.eq_nil (h : Spells terms []) : terms = [] := by
  cases terms with
  | nil => rfl
  | cons t terms =>
    obtain ⟨ht, rest, hnil, -⟩ := spells_cons.mp h
    obtain ⟨c, hhead, -⟩ := ht.head_text rest
    rw [← hnil] at hhead
    cases hhead

/-- The next term of a row is the one that is read: a second after minutes would be a letter where
the row goes on with a digit. -/
theorem spells_iff_take? (hne : cs ≠ []) : Spells terms cs ↔
    ∃ t rest terms', take? cs = some (t, rest) ∧ Spells terms' rest ∧ terms = t :: terms' := by
  constructor
  · intro h
    cases terms with
    | nil => exact absurd (spells_nil.mp h) hne
    | cons t terms =>
      obtain ⟨ht, rest, rfl, hrest⟩ := spells_cons.mp h
      have hnot : isDigit 's' = false := by decide
      exact ⟨t, rest, terms, take?_eq_some.mpr ⟨ht, rfl, fun _ hs => by
        simp [hrest.head 's' hs] at hnot⟩, hrest, rfl⟩
  · rintro ⟨t, rest, terms', htake, hrest, rfl⟩
    obtain ⟨ht, rfl, -⟩ := take?_eq_some.mp htake
    exact spells_cons.mpr ⟨ht, rest, rfl, hrest⟩

theorem length_lt_of_take? (h : take? cs = some (t, rest)) : rest.length < cs.length := by
  obtain ⟨ht, rfl, -⟩ := take?_eq_some.mp h
  have := List.length_pos_of_ne_nil ht.nonempty
  simp only [text, List.length_append]
  omega

/-- A search that skips nothing reads the term that the text begins with. -/
theorem find?_eq_nil_iff : find? cs = some ([], t, rest) ↔ take? cs = some (t, rest) := by
  cases cs with
  | nil => exact iff_of_false (fun h => nomatch h) (fun h => nomatch h)
  | cons c cs =>
    rw [find?]
    cases htake : take? (c :: cs) with
    | some read => simp [Prod.ext_iff]
    | none => simp

/-- To search for each term and check where it begins is to read it there at once. -/
theorem readAll?_succ (fuel : ℕ) (hne : cs ≠ []) :
    readAll? (fuel + 1) cs =
      (take? cs).bind fun (t, rest) => (readAll? fuel rest).map (t :: ·) := by
  rw [readAll?]
  · cases htake : take? cs with
    | some read =>
      obtain ⟨t, rest⟩ := read
      rw [find?_eq_nil_iff.mpr htake]
      rfl
    | none =>
      split
      · next t rest hfind => cases htake.symm.trans (find?_eq_nil_iff.mp hfind)
      · rfl
  · exact hne

/-- Terms that spell a text are read from it, and what is read spells it. -/
theorem readAll?_eq_some {fuel : ℕ} (hfuel : cs.length ≤ fuel) :
    readAll? fuel cs = some terms ↔ Spells terms cs := by
  induction fuel generalizing cs terms with
  | zero =>
    obtain rfl := List.eq_nil_of_length_eq_zero (Nat.le_zero.mp hfuel)
    exact ⟨fun h => Option.some.inj h ▸ spells_nil.mpr rfl, fun h => h.eq_nil ▸ rfl⟩
  | succ fuel ih =>
    rcases eq_or_ne cs [] with rfl | hne
    · exact ⟨fun h => Option.some.inj h ▸ spells_nil.mpr rfl, fun h => h.eq_nil ▸ rfl⟩
    · rw [spells_iff_take? hne, readAll?_succ fuel hne]
      cases htake : take? cs with
      | none => simp
      | some read =>
        obtain ⟨t, rest⟩ := read
        have hlt := length_lt_of_take? htake
        simp only [Option.bind_some, Option.map_eq_some_iff, ih (by omega : rest.length ≤ fuel)]
        constructor
        · rintro ⟨terms', hrest, rfl⟩
          exact ⟨t, rest, terms', rfl, hrest, rfl⟩
        · rintro ⟨_, _, terms', ⟨⟩, hrest, rfl⟩
          exact ⟨terms', hrest, rfl⟩

theorem Spells.unique (h : Spells terms cs) (h' : Spells terms' cs) : terms = terms' :=
  Option.some.inj <|
    ((readAll?_eq_some (le_refl _)).mpr h).symm.trans ((readAll?_eq_some (le_refl _)).mpr h')

end DurationTerm
end ClusterBilling.Time
