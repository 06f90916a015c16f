import ClusterBilling.Proofs.Json.Strings

/-!
Which values are written as JSON text: those in which every floating-point number is finite. The
words for the others stand outside of strings, where the grammar derives none of them.
-/
namespace ClusterBilling.Json
open Decimal Grammar

/-- A property of values holds of all if it passes from the parts of arrays and objects to them. -/
@[elab_as_elim]
theorem induct {P : Json → Prop} (null : P .null) (bool : ∀ b, P (.bool b))
    (integer : ∀ i, P (.integer i)) (float : ∀ x, P (.float x)) (string : ∀ s, P (.string s))
    (array : ∀ items, (∀ v ∈ items, P v) → P (.array items))
    (object : ∀ members, (∀ m ∈ members, P m.2) → P (.object members)) (v : Json) : P v :=
  @Json.rec P (fun items => ∀ v ∈ items, P v) (fun members => ∀ m ∈ members, P m.2)
    (fun m => P m.2) null bool integer float string array object
    nofun (fun _ _ hv hvs => List.forall_mem_cons.mpr ⟨hv, hvs⟩)
    nofun (fun _ _ hm hms => List.forall_mem_cons.mpr ⟨hm, hms⟩) (fun _ _ hv => hv) v

/-- The text of a JSON value and blanks around it. -/
def IsText (text : String) : Prop := Derives .element text.toList

/-- Every floating-point number in the value is finite. -/
inductive Finite : Json → Prop where
  | null : Finite .null
  | bool (b : Bool) : Finite (.bool b)
  | integer (n : ℤ) : Finite (.integer n)
  | float {x : Float} : x.isFinite → Finite (.float x)
  | string (s : Text) : Finite (.string s)
  | array {items : List Json} : (∀ v ∈ items, Finite v) → Finite (.array items)
  | object {members : List (Text × Json)} : (∀ m ∈ members, Finite m.2) →
    Finite (.object members)

theorem finite_float_iff {x : Float} : Finite (.float x) ↔ x.isFinite :=
  ⟨fun h => by cases h with | float h => exact h, .float⟩

theorem finite_object_iff {members : List (Text × Json)} :
    Finite (.object members) ↔ ∀ m ∈ members, m.2.Finite :=
  ⟨fun h => by cases h with | object h => exact h, .object⟩

section layout

theorem indentedItems_eq (depth : ℕ) (items : List Json) :
    indentedItems depth items = items.map (·.indented depth) := by
  induction items with
  | nil => rfl
  | cons v vs ih => rw [indentedItems, ih, List.map_cons]

theorem indentedMembers_eq (depth : ℕ) (members : List (Text × Json)) :
    indentedMembers depth members =
      members.map fun m => writeString m.1 ++ ": " ++ m.2.indented depth := by
  induction members with
  | nil => rfl
  | cons m ms ih => rw [indentedMembers, ih, List.map_cons]

theorem toList_null (depth : ℕ) : (Json.null.indented depth).toList = ['n', 'u', 'l', 'l'] := by
  simp [indented]

theorem toList_true (depth : ℕ) :
    ((Json.bool true).indented depth).toList = ['t', 'r', 'u', 'e'] := by
  simp [indented]

theorem toList_false (depth : ℕ) :
    ((Json.bool false).indented depth).toList = ['f', 'a', 'l', 's', 'e'] := by
  simp [indented]

/-- The characters of a line break. -/
def breakChars (depth : ℕ) : List Char := '\n' :: List.replicate (2 * depth) ' '

theorem spaces_nil : Spaces [] := List.forall_mem_nil _

theorem spaces_breakChars (depth : ℕ) : Spaces (breakChars depth) := by
  refine List.forall_mem_cons.mpr ⟨by decide, fun c hc => ?_⟩
  rw [List.eq_of_mem_replicate hc]
  decide

/-- Parts between two lines of brackets, or the brackets alone. -/
def block (opening closing : Char) (depth : ℕ) (parts : List (List Char)) : List Char :=
  if parts = [] then [opening, closing]
  else opening :: (breakChars (depth + 1) ++ (',' :: breakChars (depth + 1)).intercalate parts ++
    breakChars depth ++ [closing])

theorem toList_bracketed (opening closing : Char) (depth : ℕ) (parts : List String) :
    (bracketed opening.toString closing.toString depth parts).toList =
      block opening closing depth (parts.map String.toList) := by
  unfold bracketed block
  cases parts with
  | nil => simp
  | cons p ps => simp [lineBreak, breakChars, String.toList_intercalate]

theorem toList_array (depth : ℕ) (items : List Json) :
    ((Json.array items).indented depth).toList =
      block '[' ']' depth (items.map fun v => (v.indented (depth + 1)).toList) := by
  rw [indented, indentedItems_eq]
  exact (toList_bracketed '[' ']' depth _).trans (by rw [List.map_map]; rfl)

/-- The characters of a member of an object. -/
def memberChars (depth : ℕ) (m : Text × Json) : List Char :=
  (writeString m.1).toList ++ ':' :: ' ' :: (m.2.indented depth).toList

theorem toList_object (depth : ℕ) (members : List (Text × Json)) :
    ((Json.object members).indented depth).toList =
      block '\x7b' '\x7d' depth (members.map (memberChars (depth + 1))) := by
  rw [indented, indentedMembers_eq]
  refine (toList_bracketed '\x7b' '\x7d' depth _).trans ?_
  rw [List.map_map]
  congr 1
  refine List.map_congr_left fun m _ => ?_
  simp [memberChars]

end layout

section valid

/-- Parts with commas between them, and the same spaces in front of each. -/
theorem derives_separated {one many : Part} {w w' : List Char} {parts : List (List Char)}
    (last : ∀ cs, Derives one cs → Derives many cs)
    (more : ∀ cs ds, Derives one cs → Derives many ds → Derives many (cs ++ ',' :: ds))
    (hne : parts ≠ []) (hw' : Spaces w')
    (h : ∀ p ∈ parts, ∀ w', Spaces w' → Derives one (w ++ p ++ w')) :
    Derives many (w ++ (',' :: w).intercalate parts ++ w') := by
  induction parts with
  | nil => exact absurd rfl hne
  | cons p ps ih =>
    obtain ⟨hp, hps⟩ := List.forall_mem_cons.mp h
    cases ps with
    | nil =>
      rw [List.intercalate_singleton]
      exact last _ (hp w' hw')
    | cons q qs =>
      have htail := more _ _ (hp [] spaces_nil) (ih (List.cons_ne_nil _ _) hps)
      rw [List.intercalate_cons_cons]
      simpa using htail

theorem derives_block {one many : Part} {opening closing : Char} {depth : ℕ}
    {parts : List (List Char)} (last : ∀ cs, Derives one cs → Derives many cs)
    (more : ∀ cs ds, Derives one cs → Derives many ds → Derives many (cs ++ ',' :: ds))
    (empty : Derives .value [opening, closing])
    (full : ∀ cs, Derives many cs → Derives .value (opening :: (cs ++ [closing])))
    (h : ∀ p ∈ parts, ∀ w w', Spaces w → Spaces w' → Derives one (w ++ p ++ w')) :
    Derives .value (block opening closing depth parts) := by
  unfold block
  split_ifs with hp
  · exact empty
  · exact full _ (derives_separated last more hp (spaces_breakChars depth) fun p hp w' =>
      h p hp _ w' (spaces_breakChars _))

/-- A value whose numbers are finite is written as the grammar has it. -/
theorem Finite.derives {v : Json} (h : v.Finite) (depth : ℕ) :
    Derives .value (v.indented depth).toList := by
  induction h generalizing depth with
  | null => exact toList_null depth ▸ .null
  | bool b =>
    cases b with
    | true => exact toList_true depth ▸ .true
    | false => exact toList_false depth ▸ .false
  | integer n =>
    obtain ⟨numeral, hchars, -⟩ := exists_toString n
    rw [indented, hchars]
    exact .number numeral.number_chars
  | float h =>
    obtain ⟨b, hb⟩ := isFinite_iff.mp h
    obtain ⟨numeral, hchars, -⟩ := exists_writeFloat hb
    rw [indented, hchars]
    exact .number numeral.number_chars
  | string s => exact .string (quoted_writeString s)
  | array _ ih =>
    rw [toList_array]
    refine derives_block (fun _ => .lastElement) (fun _ _ => .elements) (.emptyArray spaces_nil)
      (fun _ => .array) fun p hp w w' hw hw' => ?_
    obtain ⟨v, hv, rfl⟩ := List.mem_map.mp hp
    exact .element hw (ih v hv (depth + 1)) hw'
  | object _ ih =>
    rw [toList_object]
    refine derives_block (fun _ => .lastMember) (fun _ _ => .members) (.emptyObject spaces_nil)
      (fun _ => .object) fun p hp w w' hw hw' => ?_
    obtain ⟨m, hm, rfl⟩ := List.mem_map.mp hp
    have hspace : Spaces [' '] := by simp [Spaces]
    have hmember := Derives.member hw (quoted_writeString m.1) spaces_nil
      (.element hspace (ih m hm (depth + 1)) hw')
    simpa [memberChars] using hmember

end valid

section invalid

/-- Unless `Q` holds, the text names a number that is none or an infinite one. -/
def Tells (cs : List Char) (Q : Prop) : Prop :=
  ∃ bs, HasBare cs bs ∧ ((∀ c ∈ bs, isPlain c) → Q)

namespace Tells
variable {cs ds : List Char} {Q R : Prop}

theorem of_forall_ne (h : ∀ c ∈ cs, c ≠ '"') (hq : (∀ c ∈ cs, isPlain c) → Q) : Tells cs Q :=
  ⟨cs, .of_forall_ne h, hq⟩

theorem of_holds (h : ∀ c ∈ cs, c ≠ '"') (hq : Q) : Tells cs Q := of_forall_ne h fun _ => hq

theorem of_quoted (h : Quoted cs) (hq : Q) : Tells cs Q := ⟨[], h.hasBare, fun _ => hq⟩

theorem append (h : Tells cs Q) (h' : Tells ds R) : Tells (cs ++ ds) (Q ∧ R) := by
  obtain ⟨bs, hb, hq⟩ := h
  obtain ⟨bs', hb', hr⟩ := h'
  exact ⟨bs ++ bs', hb.append hb', fun h =>
    ⟨hq (List.forall_mem_append.mp h).1, hr (List.forall_mem_append.mp h).2⟩⟩

theorem imp (h : Tells cs Q) (hqr : Q → R) : Tells cs R := by
  obtain ⟨bs, hb, hq⟩ := h
  exact ⟨bs, hb, hqr ∘ hq⟩

theorem holds (h : Tells cs Q) (hn : NoWords cs) : Q := by
  obtain ⟨bs, hb, hq⟩ := h
  obtain ⟨bs', hb', hplain⟩ := hn
  rw [← hb'.eq.trans hb.eq.symm] at hq
  exact hq hplain

theorem intercalate {α : Type} {separator : List Char} {f : α → List Char} {Q : α → Prop}
    (hs : ∀ c ∈ separator, c ≠ '"') {items : List α} (h : ∀ i ∈ items, Tells (f i) (Q i)) :
    Tells (separator.intercalate (items.map f)) (∀ i ∈ items, Q i) := by
  induction items with
  | nil => exact of_holds (List.forall_mem_nil _) (List.forall_mem_nil _)
  | cons i items ih =>
    obtain ⟨hi, his⟩ := List.forall_mem_cons.mp h
    rw [List.forall_mem_cons]
    cases items with
    | nil =>
      rw [List.map_singleton, List.intercalate_singleton]
      exact hi.imp fun hq => ⟨hq, List.forall_mem_nil _⟩
    | cons j items =>
      have hall := (hi.append (of_holds hs trivial)).append (ih his)
      rw [List.map_cons, List.map_cons, List.intercalate_cons_cons]
      exact hall.imp fun ⟨⟨hq, _⟩, hqs⟩ => ⟨hq, hqs⟩

theorem block {α : Type} {opening closing : Char} (ho : opening ≠ '"') (hc : closing ≠ '"')
    (depth : ℕ) {f : α → List Char} {Q : α → Prop} {items : List α}
    (h : ∀ i ∈ items, Tells (f i) (Q i)) :
    Tells (Json.block opening closing depth (items.map f)) (∀ i ∈ items, Q i) := by
  have hbreak (depth : ℕ) : ∀ c ∈ breakChars depth, c ≠ '"' := by
    intro c hc
    rcases spaces_breakChars depth c hc with rfl | rfl | rfl | rfl <;> decide
  have hopening : Tells [opening] True := of_holds (by simpa using ho) trivial
  have hclosing : Tells [closing] True := of_holds (by simpa using hc) trivial
  unfold Json.block
  split_ifs with hempty
  · rw [List.map_eq_nil_iff.mp hempty]
    exact (hopening.append hclosing).imp fun _ => List.forall_mem_nil _
  · have hseparator : ∀ c ∈ ',' :: breakChars (depth + 1), c ≠ '"' :=
      List.forall_mem_cons.mpr ⟨by decide, hbreak _⟩
    have hparts := intercalate hseparator h
    have hall := hopening.append ((((of_holds (hbreak (depth + 1)) trivial).append hparts).append
      (of_holds (hbreak depth) trivial)).append hclosing)
    exact hall.imp fun h => h.2.1.1.2

theorem numeral (n : Numeral) (hq : Q) : Tells n.chars Q := by
  refine of_holds (fun c hc => ?_) hq
  rintro rfl
  exact absurd (n.number_chars.isNumeric _ hc) (by decide)

end Tells

/-- What a value is written as tells whether its numbers are finite. -/
theorem tells_indented (v : Json) (depth : ℕ) : Tells (v.indented depth).toList v.Finite := by
  induction v using induct generalizing depth with
  | null => exact toList_null depth ▸ .of_holds (by simp) .null
  | bool b =>
    cases b with
    | true => exact toList_true depth ▸ .of_holds (by simp) (.bool true)
    | false => exact toList_false depth ▸ .of_holds (by simp) (.bool false)
  | integer i =>
    obtain ⟨numeral, hchars, -⟩ := exists_toString i
    rw [indented, hchars]
    exact .numeral numeral (.integer i)
  | float x =>
    rw [indented]
    cases h : Reading.ofFloat x with
    | finite b =>
      obtain ⟨numeral, hchars, -⟩ := exists_writeFloat h
      rw [hchars]
      exact .numeral numeral (.float (isFinite_iff.mpr ⟨b, h⟩))
    | nan =>
      rw [writeFloat, h]
      exact .of_forall_ne (by simp) (by simp [isPlain])
    | infinite negative =>
      rw [writeFloat, h]
      cases negative <;> exact .of_forall_ne (by simp) (by simp [isPlain])
  | string s => exact .of_quoted (quoted_writeString s) (.string s)
  | array items ih =>
    rw [toList_array]
    exact (Tells.block (by decide) (by decide) depth fun v hv => ih v hv (depth + 1)).imp .array
  | object members ih =>
    rw [toList_object]
    refine (Tells.block (by decide) (by decide) depth fun m hm => ?_).imp .object
    have hcolon : Tells [':', ' '] True := .of_holds (by simp) trivial
    have hmember := (Tells.of_quoted (quoted_writeString m.1) trivial).append
      (hcolon.append (ih m hm (depth + 1)))
    exact hmember.imp fun h => h.2.2

end invalid

/-- A value is written as JSON text exactly if its numbers are finite. -/
theorem isText_indented_iff (v : Json) : IsText (v.indented 0 ++ "\n") ↔ v.Finite := by
  have hend : ("\n" : String).toList = ['\n'] := by simp
  rw [IsText, String.toList_append, hend]
  constructor
  · intro h
    have hnewline : Tells ['\n'] True := .of_holds (by simp) trivial
    exact (((tells_indented v 0).append hnewline).holds h.noWords).1
  · intro h
    have hspace : Spaces ['\n'] := by simp [Spaces]
    exact .element spaces_nil (h.derives 0) hspace

end ClusterBilling.Json
