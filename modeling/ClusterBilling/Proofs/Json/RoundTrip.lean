import ClusterBilling.Proofs.Json.Validity
import ClusterBilling.Proofs.Table

/-!
What is written is read back: each number as itself, each string with its halves of characters
joined, and the last of the members of an object that have one name.
-/
namespace ClusterBilling.Json
open Decimal Grammar

mutual

/-- The value that is read where this one was written. -/
def decoded : Json → Json
  | string s => .string s.joined
  | array items => .array (decodedItems items)
  | object members => .object (Table.ofList (decodedMembers members)).entries
  | v => v

def decodedItems : List Json → List Json
  | [] => []
  | v :: vs => v.decoded :: decodedItems vs

def decodedMembers : List (Text × Json) → List (Text × Json)
  | [] => []
  | (k, v) :: ms => (k.joined, v.decoded) :: decodedMembers ms

end

/-- No more than `n` arrays and objects are nested in one another, and no integer is too long to be
read. -/
inductive Within : ℕ → Json → Prop where
  | null {n : ℕ} : Within n .null
  | bool {n : ℕ} (b : Bool) : Within n (.bool b)
  | integer {n : ℕ} {i : ℤ} : (digitChars i.natAbs).length ≤ maxIntegerDigits →
    Within n (.integer i)
  | float {n : ℕ} (x : Float) : Within n (.float x)
  | string {n : ℕ} (s : Text) : Within n (.string s)
  | array {n : ℕ} {items : List Json} : (∀ v ∈ items, Within n v) → Within (n + 1) (.array items)
  | object {n : ℕ} {members : List (Text × Json)} : (∀ m ∈ members, Within n m.2) →
    Within (n + 1) (.object members)

/-- What follows a text in which `cs` is read as `v`, whatever the reader has read before. -/
structure ReadAs (n : ℕ) (cs : List Char) (v : Json) : Prop where
  begins : ∃ c cs', cs = c :: cs' ∧ Reader.isSpace c = false ∧ c ≠ ']'
  reads : ∀ room fuel rest, n ≤ room → cs.length ≤ fuel → Ended rest →
    Reader.value room fuel (scalars cs ++ rest) = .ok (v, rest)

section atoms

theorem value_of_atom {room fuel : ℕ} {c : Char} {ps : List CodePoint}
    (hc : c ≠ '"' ∧ c ≠ '[' ∧ c ≠ '\x7b') :
    Reader.value room (fuel + 1) (.scalar c :: ps) = Reader.atom (.scalar c :: ps) := by
  obtain ⟨hquote, hbracket, hbrace⟩ := hc
  unfold Reader.value
  split
  · next h => exact absurd (CodePoint.scalar.inj (List.cons.inj h).1) hquote
  · next h => exact absurd (CodePoint.scalar.inj (List.cons.inj h).1) hbracket
  · next h => exact absurd (CodePoint.scalar.inj (List.cons.inj h).1) hbrace
  · rfl

theorem atom_null (rest : List CodePoint) :
    Reader.atom (scalars ['n', 'u', 'l', 'l'] ++ rest) = .ok (.null, rest) := by
  rfl

theorem atom_true (rest : List CodePoint) :
    Reader.atom (scalars ['t', 'r', 'u', 'e'] ++ rest) = .ok (.bool true, rest) := by
  rfl

theorem atom_false (rest : List CodePoint) :
    Reader.atom (scalars ['f', 'a', 'l', 's', 'e'] ++ rest) = .ok (.bool false, rest) := by
  rfl

/-- A number is none of the words. -/
theorem atom_numeral (n : Numeral) (rest : List CodePoint) :
    Reader.atom (scalars n.chars ++ rest) = Reader.number (scalars n.chars ++ rest) := by
  obtain ⟨c, cs, hw, hc⟩ := n.exists_whole
  have hne (d : Char) (hd : d.isDigit = false) : d ≠ c := by
    rintro rfl
    exact Bool.false_ne_true (hd.symm.trans hc)
  -- no word begins with what a number begins with
  rw [Reader.atom, List.find?_eq_none.mpr]
  unfold Numeral.chars numeral
  rw [hw]
  cases n.negative <;>
    simp [Reader.words, Text.ofString, Text.ofChars, scalars, hne]

end atoms

section values

theorem skip_spaces {w : List Char} (hw : Spaces w) {c : Char} (hc : Reader.isSpace c = false)
    (rest : List CodePoint) :
    Reader.skip (scalars w ++ .scalar c :: rest) = .scalar c :: rest := by
  have hspace : ∀ c ∈ w, Reader.isSpace c := by
    intro c hc
    rcases hw c hc with rfl | rfl | rfl | rfl <;> rfl
  unfold Reader.skip
  rw [List.dropWhile_append_of_pos (by simpa [CodePoint.satisfies] using hspace)]
  simp [CodePoint.satisfies, hc]

/-- Spaces are skipped up to a text that begins with none. -/
theorem skip_text {w cs : List Char} (hw : Spaces w)
    (h : ∃ c cs', cs = c :: cs' ∧ Reader.isSpace c = false) (rest : List CodePoint) :
    Reader.skip (scalars w ++ (scalars cs ++ rest)) = scalars cs ++ rest := by
  obtain ⟨c, cs', rfl, hc⟩ := h
  exact skip_spaces hw hc _

theorem ended_spaces {w : List Char} (hw : Spaces w) {c : Char} (hc : Reader.isNumeric c = false)
    (rest : List CodePoint) : Ended (scalars w ++ .scalar c :: rest) := by
  cases w with
  | nil =>
    intro p hp
    rw [← Option.some.inj hp]
    exact hc
  | cons c' w =>
    intro p hp
    rw [← Option.some.inj hp]
    rcases hw c' List.mem_cons_self with rfl | rfl | rfl | rfl <;> decide

variable {n room fuel : ℕ} {rest : List CodePoint}

theorem readAs_atom {c : Char} {cs : List Char} {v : Json} (hspace : Reader.isSpace c = false)
    (hc : c ≠ '"' ∧ c ≠ '[' ∧ c ≠ '\x7b' ∧ c ≠ ']')
    (h : ∀ rest, Ended rest → Reader.atom (scalars (c :: cs) ++ rest) = .ok (v, rest)) :
    ReadAs n (c :: cs) v := by
  refine ⟨⟨c, cs, rfl, hspace, hc.2.2.2⟩, fun room fuel rest _ hf hr => ?_⟩
  obtain ⟨fuel, rfl⟩ := Nat.exists_eq_add_one_of_ne_zero (Nat.ne_zero_of_lt hf)
  exact (value_of_atom ⟨hc.1, hc.2.1, hc.2.2.1⟩).trans (h rest hr)

theorem readAs_numeral (numeral : Numeral) {v : Json}
    (h : ∀ rest, Ended rest → Reader.number (scalars numeral.chars ++ rest) = .ok (v, rest)) :
    ReadAs n numeral.chars v := by
  obtain ⟨c, cs, hchars, hc⟩ := numeral.exists_chars
  have hne (d : Char) (hd : d.isDigit = false) (hm : d ≠ '-') : c ≠ d := by
    rintro rfl
    rcases hc with rfl | hc
    · exact hm rfl
    · exact Bool.false_ne_true (hd.symm.trans hc)
  have hspace : Reader.isSpace c = false := by
    simp [Reader.isSpace, hne]
  have hatom (rest : List CodePoint) (hr : Ended rest) :
      Reader.atom (scalars numeral.chars ++ rest) = .ok (v, rest) :=
    (atom_numeral numeral rest).trans (h rest hr)
  rw [hchars] at hatom ⊢
  exact readAs_atom hspace ⟨hne _ rfl (by decide), hne _ rfl (by decide), hne _ rfl (by decide),
    hne _ rfl (by decide)⟩ hatom

theorem readAs_string (s : Text) : ReadAs n (writeString s).toList (.string s.joined) := by
  refine ⟨⟨'"', _, toList_writeString s, rfl, by decide⟩, fun room fuel rest _ hf hr => ?_⟩
  rw [toList_writeString, List.length_cons] at hf
  obtain ⟨fuel, rfl⟩ := Nat.exists_eq_add_one_of_ne_zero (Nat.ne_zero_of_lt hf)
  obtain ⟨body, hbody, hread⟩ :=
    stringBody_writeString (scalars (writeString s).toList ++ rest) rest s
  unfold Reader.value
  rw [hbody] at hread ⊢
  simp only
  rw [hread]

/-- Parts with something between them begin like the first of them. -/
theorem intercalate_begins (separator : List Char) {P : Char → Prop} {parts : List (List Char)}
    (hne : parts ≠ []) (h : ∀ p ∈ parts, ∃ c cs, p = c :: cs ∧ P c) :
    ∃ c cs, separator.intercalate parts = c :: cs ∧ P c := by
  obtain ⟨p, ps, rfl⟩ := List.exists_cons_of_ne_nil hne
  obtain ⟨c, cs, rfl, hc⟩ := h p List.mem_cons_self
  cases ps with
  | nil => exact ⟨c, cs, List.intercalate_singleton, hc⟩
  | cons q qs => exact ⟨c, _, List.intercalate_cons_cons, hc⟩

section items
variable {w w' : List Char}

/-- A comma and `w` stand between the first of several parts and the others. -/
theorem scalars_separated (p q : List Char) (ps : List (List Char)) (more : List CodePoint) :
    scalars ((',' :: w).intercalate (p :: q :: ps)) ++ more =
      scalars p ++ .scalar ',' :: (scalars w ++ (scalars ((',' :: w).intercalate (q :: ps)) ++
        more)) := by
  rw [List.intercalate_cons_cons]
  simp [scalars]

/-- A comma ends a number and is no space, and `w` is nothing but spaces. -/
theorem comma_separated (hw : Spaces w) {parts : List (List Char)} (hne : parts ≠ [])
    (h : ∀ p ∈ parts, ∃ c cs, p = c :: cs ∧ Reader.isSpace c = false) {tail more : List CodePoint}
    (ht : tail = scalars ((',' :: w).intercalate parts) ++ more) :
    Ended (.scalar ',' :: (scalars w ++ tail)) ∧
      Reader.skip (.scalar ',' :: (scalars w ++ tail)) = .scalar ',' :: (scalars w ++ tail) ∧
      Reader.skip (scalars w ++ tail) = tail := by
  refine ⟨ended_spaces (w := []) spaces_nil (by decide) _, ?_, ?_⟩
  · exact skip_spaces (w := []) spaces_nil (by decide) _
  · rw [ht]
    exact skip_text hw (intercalate_begins (',' :: w) hne h) more

/-- The items of an array are read one after the other. -/
theorem items_separated (hw : Spaces w) (hw' : Spaces w') {parts : List (List Char × Json)}
    (hne : parts ≠ []) (h : ∀ p ∈ parts, ReadAs n p.1 p.2) (hroom : n ≤ room)
    (done : List Json) (rest : List CodePoint)
    (hf : ((',' :: w).intercalate (parts.map Prod.fst)).length < fuel) :
    Reader.items room fuel done
        (scalars ((',' :: w).intercalate (parts.map Prod.fst)) ++
          (scalars w' ++ .scalar ']' :: rest)) =
      .ok (.array (done.reverse ++ parts.map Prod.snd), rest) := by
  induction parts generalizing done fuel with
  | nil => exact absurd rfl hne
  | cons p ps ih =>
    obtain ⟨hp, hps⟩ := List.forall_mem_cons.mp h
    obtain ⟨fuel, rfl⟩ := Nat.exists_eq_add_one_of_ne_zero (Nat.ne_zero_of_lt hf)
    cases ps with
    | nil =>
      rw [List.map_singleton, List.intercalate_singleton] at hf ⊢
      rw [Reader.items, hp.reads room fuel _ hroom (by omega)
        (ended_spaces hw' (by decide) rest)]
      simp only
      rw [skip_spaces hw' (by decide)]
      simp
    | cons q qs =>
      obtain ⟨tail, htail⟩ : ∃ tail, tail = scalars ((',' :: w).intercalate
        (q.1 :: qs.map Prod.fst)) ++ (scalars w' ++ .scalar ']' :: rest) := ⟨_, rfl⟩
      have hbegin : ∀ p ∈ (q :: qs).map Prod.fst, ∃ c cs, p = c :: cs ∧
          Reader.isSpace c = false := by
        refine List.forall_mem_map.mpr fun p hp => ?_
        obtain ⟨c, cs, hcs, hc, -⟩ := (hps p hp).begins
        exact ⟨c, cs, hcs, hc⟩
      obtain ⟨hends, hcomma, hskip⟩ := comma_separated hw (List.cons_ne_nil _ _) hbegin htail
      rw [List.map_cons, List.map_cons] at hf ⊢
      rw [scalars_separated, ← htail]
      rw [List.intercalate_cons_cons] at hf
      simp only [List.length_append, List.length_cons] at hf
      rw [Reader.items, hp.reads room fuel _ hroom (by omega) hends]
      simp only
      rw [hcomma]
      simp only
      rw [hskip, htail]
      refine (ih (List.cons_ne_nil _ _) hps _ (by rw [List.map_cons]; omega)).trans ?_
      simp

/-- A member of an object: its name, and a text that is read as its value. -/
structure Member where
  name : Text
  chars : List Char
  value : Json

def Member.text (m : Member) : List Char := (writeString m.name).toList ++ ':' :: ' ' :: m.chars

/-- The text of a member begins with the quotation mark of its name. -/
theorem Member.text_eq (m : Member) : m.text = '"' :: (m.name.points.flatMap escapePoint ++
    '"' :: ':' :: ' ' :: m.chars) := by
  rw [text, toList_writeString]
  simp

/-- Add a member, or put it in the place of one of its name. -/
def Member.add (m : Member) (done : List (Text × Json)) : List (Text × Json) :=
  Table.alterEntries m.name.joined (fun _ => m.value) done

theorem members_text {m : Member} (hm : ReadAs n m.chars m.value) {done : List (Text × Json)}
    {more : List CodePoint} (hroom : n ≤ room) (hf : m.chars.length ≤ fuel)
    (hr : Ended more) :
    Reader.members room (fuel + 1) done (scalars m.text ++ more) =
      match Reader.skip more with
      | .scalar '\x7d' :: rest => .ok (.object (m.add done), rest)
      | .scalar ',' :: rest => Reader.members room fuel (m.add done) (Reader.skip rest)
      | rest => .error (.flaw .expectingComma rest) := by
  obtain ⟨c, cs, hcs, hc, -⟩ := hm.begins
  have htext : scalars m.text ++ more = scalars (writeString m.name).toList ++
      .scalar ':' :: (scalars [' '] ++ (scalars m.chars ++ more)) := by
    simp [Member.text, scalars]
  obtain ⟨body, hbody, hname⟩ := stringBody_writeString (scalars m.text ++ more)
    (.scalar ':' :: (scalars [' '] ++ (scalars m.chars ++ more))) m.name
  have hcolon : Reader.skip (.scalar ':' :: (scalars [' '] ++ (scalars m.chars ++ more))) =
      .scalar ':' :: (scalars [' '] ++ (scalars m.chars ++ more)) :=
    skip_spaces (w := []) spaces_nil (by decide) _
  have hskip : Reader.skip (scalars [' '] ++ (scalars m.chars ++ more)) =
      scalars m.chars ++ more := skip_text (by simp [Spaces]) ⟨c, cs, hcs, hc⟩ more
  rw [htext, hbody] at hname ⊢
  conv_lhs => unfold Reader.members
  simp only
  rw [hname]
  simp only
  rw [hcolon]
  simp only
  rw [hskip, hm.reads room fuel more hroom hf hr]
  rfl

/-- The members of an object are read one after the other. -/
theorem members_separated (hw : Spaces w) (hw' : Spaces w') {parts : List Member}
    (hne : parts ≠ []) (h : ∀ p ∈ parts, ReadAs n p.chars p.value) (hroom : n ≤ room)
    (done : List (Text × Json)) (rest : List CodePoint)
    (hf : ((',' :: w).intercalate (parts.map Member.text)).length < fuel) :
    Reader.members room fuel done
        (scalars ((',' :: w).intercalate (parts.map Member.text)) ++
          (scalars w' ++ .scalar '\x7d' :: rest)) =
      .ok (.object (parts.foldl (fun done m => m.add done) done), rest) := by
  have hlength (m : Member) : m.chars.length ≤ m.text.length := by
    simp only [Member.text, List.length_append, List.length_cons]
    omega
  induction parts generalizing done fuel with
  | nil => exact absurd rfl hne
  | cons p ps ih =>
    obtain ⟨hp, hps⟩ := List.forall_mem_cons.mp h
    obtain ⟨fuel, rfl⟩ := Nat.exists_eq_add_one_of_ne_zero (Nat.ne_zero_of_lt hf)
    have hchars := hlength p
    cases ps with
    | nil =>
      rw [List.map_singleton, List.intercalate_singleton] at hf ⊢
      rw [members_text hp hroom (by omega) (ended_spaces hw' (by decide) rest),
        skip_spaces hw' (by decide)]
      rfl
    | cons q qs =>
      obtain ⟨tail, htail⟩ : ∃ tail, tail = scalars ((',' :: w).intercalate
        (q.text :: qs.map Member.text)) ++ (scalars w' ++ .scalar '\x7d' :: rest) := ⟨_, rfl⟩
      have hbegin : ∀ p ∈ (q :: qs).map Member.text, ∃ c cs, p = c :: cs ∧
          Reader.isSpace c = false := by
        refine List.forall_mem_map.mpr fun m _ => ?_
        exact ⟨'"', _, m.text_eq, by decide⟩
      obtain ⟨hends, hcomma, hskip⟩ := comma_separated hw (List.cons_ne_nil _ _) hbegin htail
      rw [List.map_cons, List.map_cons] at hf ⊢
      rw [scalars_separated, ← htail]
      rw [List.intercalate_cons_cons] at hf
      simp only [List.length_append, List.length_cons] at hf
      rw [members_text hp hroom (by omega) hends, hcomma]
      simp only
      rw [hskip, htail]
      exact ih (List.cons_ne_nil _ _) hps _ (by rw [List.map_cons]; omega)

end items

section blocks

theorem value_array (ps : List CodePoint) :
    Reader.value (room + 1) (fuel + 1) (.scalar '[' :: ps) =
      match Reader.skip ps with
      | .scalar ']' :: rest => .ok (.array [], rest)
      | rest => Reader.items room fuel [] rest := by
  conv_lhs => unfold Reader.value
  rfl

theorem value_object (ps : List CodePoint) :
    Reader.value (room + 1) (fuel + 1) (.scalar '\x7b' :: ps) =
      match Reader.skip ps with
      | .scalar '\x7d' :: rest => .ok (.object [], rest)
      | rest => Reader.members room fuel [] rest := by
  conv_lhs => unfold Reader.value
  rfl

/-- Between the brackets there are two line breaks, and the parts with commas between them. -/
theorem scalars_block (opening closing : Char) (indent : ℕ) {parts : List (List Char)}
    (hne : parts ≠ []) (rest : List CodePoint) :
    scalars (block opening closing indent parts) ++ rest =
      .scalar opening :: (scalars (breakChars (indent + 1)) ++
        (scalars ((',' :: breakChars (indent + 1)).intercalate parts) ++
          (scalars (breakChars indent) ++ .scalar closing :: rest))) := by
  rw [block, if_neg hne]
  simp [scalars]

theorem length_block (opening closing : Char) (indent : ℕ) {parts : List (List Char)}
    (hne : parts ≠ []) :
    ((',' :: breakChars (indent + 1)).intercalate parts).length + 2 ≤
      (block opening closing indent parts).length := by
  rw [block, if_neg hne]
  simp only [List.length_cons, List.length_append, List.length_nil]
  omega

theorem exists_block (opening closing : Char) (indent : ℕ) (parts : List (List Char)) :
    ∃ cs, block opening closing indent parts = opening :: cs := by
  unfold block
  split_ifs
  · exact ⟨_, rfl⟩
  · exact ⟨_, rfl⟩

theorem readAs_array (parts : List (List Char × Json)) (h : ∀ p ∈ parts, ReadAs n p.1 p.2)
    (indent : ℕ) :
    ReadAs (n + 1) (block '[' ']' indent (parts.map Prod.fst)) (.array (parts.map Prod.snd)) := by
  obtain ⟨cs, hcs⟩ := exists_block '[' ']' indent (parts.map Prod.fst)
  refine ⟨⟨'[', cs, hcs, rfl, by decide⟩, fun room fuel rest hroom hf _ => ?_⟩
  obtain ⟨room, rfl⟩ := Nat.exists_eq_add_one_of_ne_zero (Nat.ne_zero_of_lt hroom)
  have hlt : 0 < fuel := lt_of_lt_of_le (by rw [hcs]; simp) hf
  obtain ⟨fuel, rfl⟩ := Nat.exists_eq_add_one_of_ne_zero hlt.ne'
  rcases eq_or_ne parts [] with rfl | hne
  · have hskip : Reader.skip (.scalar ']' :: rest) = .scalar ']' :: rest :=
      skip_spaces (w := []) spaces_nil (by decide) rest
    refine (value_array (.scalar ']' :: rest)).trans ?_
    rw [hskip]
    rfl
  · have hparts : parts.map Prod.fst ≠ [] := List.map_eq_nil_iff.not.mpr hne
    have hlength := length_block '[' ']' indent hparts
    have hread := @items_separated _ room fuel _ _ (spaces_breakChars (indent + 1))
      (spaces_breakChars indent) parts hne h (by omega) [] rest (by omega)
    obtain ⟨c, cs, hcs, hspace, hc⟩ := intercalate_begins (',' :: breakChars (indent + 1)) hparts
      (List.forall_mem_map.mpr fun p hp => (h p hp).begins)
    rw [scalars_block _ _ _ hparts, value_array,
      skip_text (spaces_breakChars _) ⟨c, cs, hcs, hspace⟩]
    rw [hcs] at hread ⊢
    split
    · next hbracket => exact absurd (CodePoint.scalar.inj (List.cons.inj hbracket).1) hc
    · exact hread

theorem readAs_object (parts : List Member) (h : ∀ p ∈ parts, ReadAs n p.chars p.value)
    (indent : ℕ) :
    ReadAs (n + 1) (block '\x7b' '\x7d' indent (parts.map Member.text))
      (.object (parts.foldl (fun done m => m.add done) [])) := by
  obtain ⟨cs, hcs⟩ := exists_block '\x7b' '\x7d' indent (parts.map Member.text)
  refine ⟨⟨'\x7b', cs, hcs, rfl, by decide⟩, fun room fuel rest hroom hf _ => ?_⟩
  obtain ⟨room, rfl⟩ := Nat.exists_eq_add_one_of_ne_zero (Nat.ne_zero_of_lt hroom)
  have hlt : 0 < fuel := lt_of_lt_of_le (by rw [hcs]; simp) hf
  obtain ⟨fuel, rfl⟩ := Nat.exists_eq_add_one_of_ne_zero hlt.ne'
  rcases eq_or_ne parts [] with rfl | hne
  · have hskip : Reader.skip (.scalar '\x7d' :: rest) = .scalar '\x7d' :: rest :=
      skip_spaces (w := []) spaces_nil (by decide) rest
    refine (value_object (.scalar '\x7d' :: rest)).trans ?_
    rw [hskip]
    rfl
  · have hparts : parts.map Member.text ≠ [] := List.map_eq_nil_iff.not.mpr hne
    have hlength := length_block '\x7b' '\x7d' indent hparts
    have hread := @members_separated _ room fuel _ _ (spaces_breakChars (indent + 1))
      (spaces_breakChars indent) parts hne h (by omega) [] rest (by omega)
    obtain ⟨c, cs, hcs, rfl⟩ := intercalate_begins (',' :: breakChars (indent + 1))
      (P := (· = '"')) hparts (List.forall_mem_map.mpr fun m _ => ⟨'"', _, m.text_eq, rfl⟩)
    rw [scalars_block _ _ _ hparts, value_object,
      skip_text (spaces_breakChars _) ⟨'"', cs, hcs, rfl⟩]
    rw [hcs] at hread ⊢
    exact hread

end blocks

end values

section decoding

theorem decodedItems_eq (items : List Json) : decodedItems items = items.map decoded := by
  induction items with
  | nil => rfl
  | cons v vs ih => rw [decodedItems, ih, List.map_cons]

theorem decodedMembers_eq (members : List (Text × Json)) :
    decodedMembers members = members.map fun m => (m.1.joined, m.2.decoded) := by
  induction members with
  | nil => rfl
  | cons m ms ih => rw [decodedMembers, ih, List.map_cons]

theorem entries_foldl_insert_eq {α : Type} (es : List (Text × α)) (t : Table α) :
    (es.foldl (fun t (k, v) => t.insert k v) t).entries =
      es.foldl (fun done e => Table.alterEntries e.1 (fun _ => e.2) done) t.entries := by
  induction es generalizing t with
  | nil => rfl
  | cons e es ih => exact ih _

/-- A value with finite numbers is read as its decoded form, wherever it stands. -/
theorem readAs_indented {n : ℕ} {v : Json} (hw : Within n v) (hf : v.Finite) (depth : ℕ) :
    ReadAs n (v.indented depth).toList v.decoded := by
  induction hw generalizing depth with
  | null =>
    rw [toList_null]
    exact readAs_atom rfl (by decide) fun rest _ => atom_null rest
  | bool b =>
    cases b with
    | true =>
      rw [toList_true]
      exact readAs_atom rfl (by decide) fun rest _ => atom_true rest
    | false =>
      rw [toList_false]
      exact readAs_atom rfl (by decide) fun rest _ => atom_false rest
  | @integer _ i hi =>
    obtain ⟨numeral, hchars, hwhole, hinteger, hdigits⟩ := exists_toString i
    rw [indented, hchars]
    refine readAs_numeral numeral fun rest hr => ?_
    rw [numeral.number_eq hr, if_pos hwhole, if_neg (by rw [hdigits]; exact not_lt.mpr hi),
      hinteger]
    rfl
  | float x =>
    cases hf with
    | float hx =>
      obtain ⟨b, hb⟩ := isFinite_iff.mp hx
      obtain ⟨numeral, hchars, hwhole, hfloat⟩ := exists_writeFloat hb
      rw [indented, hchars]
      refine readAs_numeral numeral fun rest hr => ?_
      rw [numeral.number_eq hr, if_neg hwhole, hfloat]
      rfl
  | string s => exact readAs_string s
  | @array n items _ ih =>
    cases hf with
    | array hf =>
      have hparts := readAs_array (n := n)
        (items.map fun v => ((v.indented (depth + 1)).toList, v.decoded))
        (List.forall_mem_map.mpr fun v hv => ih v hv (hf v hv) (depth + 1)) depth
      rw [List.map_map, List.map_map] at hparts
      rw [toList_array, decoded, decodedItems_eq]
      exact hparts
  | @object n members _ ih =>
    cases hf with
    | object hf =>
      have hparts := readAs_object (n := n)
        (members.map fun m => ⟨m.1, (m.2.indented (depth + 1)).toList, m.2.decoded⟩)
        (List.forall_mem_map.mpr fun m hm => ih m hm (hf m hm) (depth + 1)) depth
      rw [List.map_map, List.foldl_map] at hparts
      rw [toList_object, decoded, decodedMembers_eq, Table.ofList, entries_foldl_insert_eq,
        List.foldl_map]
      exact hparts

/-- What is written is read as its decoded form. -/
theorem read_indented {n maxDepth : ℕ} {v : Json} (hw : Within n v) (hn : n ≤ maxDepth)
    (hf : v.Finite) : read (Text.ofString (v.indented 0 ++ "\n")) maxDepth = .ok v.decoded := by
  have hread := readAs_indented hw hf 0
  obtain ⟨c, cs, hcs, hspace, -⟩ := hread.begins
  have hpoints : (Text.ofString (v.indented 0 ++ "\n")).points =
      scalars (v.indented 0).toList ++ scalars ['\n'] := by
    simp [Text.ofString, Text.ofChars, scalars]
  have hfront : Reader.skip (scalars (v.indented 0).toList ++ scalars ['\n']) =
      scalars (v.indented 0).toList ++ scalars ['\n'] :=
    skip_text (w := []) spaces_nil ⟨c, cs, hcs, hspace⟩ _
  have hvalue := hread.reads maxDepth (2 * (scalars (v.indented 0).toList ++ scalars ['\n']).length + 1)
    (scalars ['\n']) hn (by simp [scalars]; omega)
    (ended_spaces (w := []) spaces_nil (by decide) [])
  rw [read, Text.length, hpoints, hfront, hvalue]
  rfl

/-- Nothing in the value is changed by writing and reading it: its texts hold no halves of
characters side by side, and no object has two members of one name. -/
inductive Faithful : Json → Prop where
  | null : Faithful .null
  | bool (b : Bool) : Faithful (.bool b)
  | integer (n : ℤ) : Faithful (.integer n)
  | float (x : Float) : Faithful (.float x)
  | string {s : Text} : s.Unpaired → Faithful (.string s)
  | array {items : List Json} : (∀ v ∈ items, Faithful v) → Faithful (.array items)
  | object {members : List (Text × Json)} : (members.map Prod.fst).Nodup →
    (∀ m ∈ members, m.1.Unpaired) → (∀ m ∈ members, Faithful m.2) → Faithful (.object members)

theorem Faithful.decoded_eq {v : Json} (h : v.Faithful) : v.decoded = v := by
  induction h with
  | null => rfl
  | bool b => rfl
  | integer n => rfl
  | float x => rfl
  | string hs => rw [decoded, (Text.joined_eq_self_iff _).mpr hs]
  | array _ ih => rw [decoded, decodedItems_eq, List.map_congr_left ih, List.map_id']
  | @object members hn hu _ ih =>
    have hsame : members.map (fun m => (m.1.joined, m.2.decoded)) = members := by
      refine (List.map_congr_left fun m hin => ?_).trans (List.map_id' members)
      rw [(Text.joined_eq_self_iff _).mpr (hu m hin), ih m hin]
    rw [decoded, decodedMembers_eq, hsame, Table.entries_ofList hn]

/-- Any other value is changed. -/
theorem decoded_eq_self_iff (v : Json) : v.decoded = v ↔ v.Faithful := by
  refine ⟨fun h => ?_, Faithful.decoded_eq⟩
  induction v using induct with
  | null => exact .null
  | bool b => exact .bool b
  | integer n => exact .integer n
  | float x => exact .float x
  | string s => exact .string ((Text.joined_eq_self_iff s).mp (Json.string.inj h))
  | array items ih =>
    rw [decoded, decodedItems_eq, Json.array.injEq] at h
    refine .array fun v hv => ih v hv ?_
    exact List.map_eq_map_iff.mp (h.trans (List.map_id' items).symm) v hv
  | object members ih =>
    rw [decoded, decodedMembers_eq, Json.object.injEq] at h
    have hkeys : (members.map fun m => m.1.joined).eraseDups = members.map Prod.fst := by
      have := Table.keys_ofList (members.map fun m => (m.1.joined, m.2.decoded))
      rw [Table.keys, h, List.map_map] at this
      exact this.symm
    have hnodup : (members.map Prod.fst).Nodup := by
      rw [← h]
      exact (Table.ofList _).nodup
    -- the names that are read are joined ones, so they were joined before
    have hunpaired : ∀ m ∈ members, m.1.Unpaired := by
      intro m hm
      have hname := List.mem_map_of_mem (f := Prod.fst) hm
      rw [← hkeys, List.mem_eraseDups] at hname
      obtain ⟨m', -, hm'⟩ := List.mem_map.mp hname
      exact hm' ▸ Text.unpaired_joined m'.1
    have hsame : members.map (fun m => (m.1.joined, m.2.decoded)) = members := by
      rw [Table.entries_ofList] at h
      · exact h
      · rw [List.map_map]
        refine (List.map_congr_left fun m hm => ?_) ▸ hnodup
        exact ((Text.joined_eq_self_iff _).mpr (hunpaired m hm)).symm
    refine .object hnodup hunpaired fun m hm => ih m hm ?_
    have := List.map_eq_map_iff.mp (hsame.trans (List.map_id' members).symm) m hm
    exact (Prod.mk.inj this).2

/-- So what is written is read back just if the value is faithful. -/
theorem read_indented_eq_self_iff {n maxDepth : ℕ} {v : Json} (hw : Within n v)
    (hn : n ≤ maxDepth) (hf : v.Finite) :
    read (Text.ofString (v.indented 0 ++ "\n")) maxDepth = .ok v ↔ v.Faithful := by
  rw [read_indented hw hn hf, Except.ok.injEq, decoded_eq_self_iff]

end decoding

end ClusterBilling.Json
