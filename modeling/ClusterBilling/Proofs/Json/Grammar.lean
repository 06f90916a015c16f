import Mathlib
import ClusterBilling.Json.Reader

/-!
The grammar of JSON text, as RFC 8259 gives it. What stands outside of the strings of such a text
is told by a scan of the text, and none of it is the `N` of a missing number or the `I` of an
infinite one.
-/
namespace ClusterBilling.Json.Grammar

/-- Blanks, tabs and the two characters that end lines. -/
def Spaces (cs : List Char) : Prop := ∀ c ∈ cs, c = ' ' ∨ c = '\t' ∨ c = '\n' ∨ c = '\r'

def Digits (cs : List Char) : Prop := cs ≠ [] ∧ ∀ c ∈ cs, c.isDigit

/-- No zero stands in front of other digits. -/
def Whole (cs : List Char) : Prop := Digits cs ∧ (cs.head? = some '0' → cs = ['0'])

inductive Places : List Char → Prop where
  | none : Places []
  | some {ds : List Char} : Digits ds → Places ('.' :: ds)

inductive Exponent : List Char → Prop where
  | none : Exponent []
  | some {mark : Char} {sign ds : List Char} : mark = 'e' ∨ mark = 'E' →
    sign = [] ∨ sign = ['-'] ∨ sign = ['+'] → Digits ds → Exponent (mark :: (sign ++ ds))

inductive Number : List Char → Prop where
  | mk {sign whole places exponent : List Char} : sign = [] ∨ sign = ['-'] → Whole whole →
    Places places → Exponent exponent → Number (sign ++ whole ++ places ++ exponent)

def IsHexDigit (c : Char) : Prop := (Text.hexValue? c).isSome

theorem Number.isNumeric {cs : List Char} (h : Number cs) : ∀ c ∈ cs, Reader.isNumeric c := by
  have hdigits {ds : List Char} (hd : Digits ds) : ∀ c ∈ ds, Reader.isNumeric c := by
    intro c hc
    simp [Reader.isNumeric, hd.2 c hc]
  obtain ⟨hsign, hwhole, hplaces, hexponent⟩ := h
  refine List.forall_mem_append.mpr ⟨List.forall_mem_append.mpr
    ⟨List.forall_mem_append.mpr ⟨?sign, hdigits hwhole.1⟩, ?places⟩, ?exponent⟩
  case sign => rcases hsign with rfl | rfl <;> simp [Reader.isNumeric]
  case places =>
    cases hplaces with
    | none => nofun
    | some hd => exact List.forall_mem_cons.mpr ⟨by decide, hdigits hd⟩
  case exponent =>
    cases hexponent with
    | none => nofun
    | some hmark hsign hd =>
      refine List.forall_mem_cons.mpr ⟨?_, List.forall_mem_append.mpr ⟨?_, hdigits hd⟩⟩
      · rcases hmark with rfl | rfl <;> decide
      · rcases hsign with rfl | rfl | rfl <;> simp [Reader.isNumeric]

/-- What stands between the quotation marks of a string. -/
inductive Chars : List Char → Prop where
  | nil : Chars []
  | plain {c : Char} {cs : List Char} : 32 ≤ c.toNat → c ≠ '"' → c ≠ '\\' → Chars cs →
    Chars (c :: cs)
  | letter {c : Char} {cs : List Char} : c ∈ ['"', '\\', '/', 'b', 'f', 'n', 'r', 't'] →
    Chars cs → Chars ('\\' :: c :: cs)
  | unicode {a b c d : Char} {cs : List Char} : IsHexDigit a → IsHexDigit b → IsHexDigit c →
    IsHexDigit d → Chars cs → Chars ('\\' :: 'u' :: a :: b :: c :: d :: cs)

inductive Quoted : List Char → Prop where
  | mk {cs : List Char} : Chars cs → Quoted ('"' :: (cs ++ ['"']))

/-- What a piece of a text is. An element is a value with spaces around it. -/
inductive Part where
  | value
  | element
  | elements
  | member
  | members

inductive Derives : Part → List Char → Prop where
  | null : Derives .value ['n', 'u', 'l', 'l']
  | true : Derives .value ['t', 'r', 'u', 'e']
  | false : Derives .value ['f', 'a', 'l', 's', 'e']
  | number {cs : List Char} : Number cs → Derives .value cs
  | string {cs : List Char} : Quoted cs → Derives .value cs
  | emptyArray {w : List Char} : Spaces w → Derives .value ('[' :: (w ++ [']']))
  | array {cs : List Char} : Derives .elements cs → Derives .value ('[' :: (cs ++ [']']))
  | emptyObject {w : List Char} : Spaces w → Derives .value ('\x7b' :: (w ++ ['\x7d']))
  | object {cs : List Char} : Derives .members cs → Derives .value ('\x7b' :: (cs ++ ['\x7d']))
  | element {w cs w' : List Char} : Spaces w → Derives .value cs → Spaces w' →
    Derives .element (w ++ cs ++ w')
  | lastElement {cs : List Char} : Derives .element cs → Derives .elements cs
  | elements {cs ds : List Char} : Derives .element cs → Derives .elements ds →
    Derives .elements (cs ++ ',' :: ds)
  | member {w name w' cs : List Char} : Spaces w → Quoted name → Spaces w' →
    Derives .element cs → Derives .member (w ++ name ++ w' ++ ':' :: cs)
  | lastMember {cs : List Char} : Derives .member cs → Derives .members cs
  | members {cs ds : List Char} : Derives .member cs → Derives .members ds →
    Derives .members (cs ++ ',' :: ds)

/-- Where a reader of a text stands. -/
inductive Place where
  | outside
  | inside
  /-- Inside of a string, after a backslash. -/
  | escaped

/-- The characters that are not part of a string. -/
def bare : Place → List Char → List Char
  | _, [] => []
  | .outside, c :: cs => if c = '"' then bare .inside cs else c :: bare .outside cs
  | .inside, c :: cs =>
    if c = '"' then bare .outside cs
    else if c = '\\' then bare .escaped cs
    else bare .inside cs
  | .escaped, _ :: cs => bare .inside cs

/-- All strings that begin in `cs` end there, and `bs` is what is not part of them. -/
def HasBare (cs bs : List Char) : Prop :=
  ∀ rest, bare .outside (cs ++ rest) = bs ++ bare .outside rest

namespace HasBare
variable {cs ds bs bs' : List Char}

theorem eq (h : HasBare cs bs) : bs = bare .outside cs := by
  have := h []
  rwa [List.append_nil, bare, List.append_nil, eq_comm] at this

theorem append (h : HasBare cs bs) (h' : HasBare ds bs') : HasBare (cs ++ ds) (bs ++ bs') := by
  intro rest
  rw [List.append_assoc, h, h', List.append_assoc]

theorem of_forall_ne (h : ∀ c ∈ cs, c ≠ '"') : HasBare cs cs := by
  intro rest
  induction cs with
  | nil => rfl
  | cons c cs ih =>
    obtain ⟨hc, hcs⟩ := List.forall_mem_cons.mp h
    rw [List.cons_append, bare, if_neg hc, ih hcs, List.cons_append]

end HasBare

section chars
variable {cs : List Char}

theorem IsHexDigit.ne {c : Char} (h : IsHexDigit c) : c ≠ '"' ∧ c ≠ '\\' := by
  unfold IsHexDigit at h
  constructor <;> rintro rfl <;> exact absurd h (by decide)

theorem bare_chars (h : Chars cs) (rest : List Char) :
    bare .inside (cs ++ '"' :: rest) = bare .outside rest := by
  induction h with
  | nil => rw [List.nil_append, bare, if_pos rfl]
  | plain _ hq hb _ ih => rw [List.cons_append, bare, if_neg hq, if_neg hb, ih]
  | letter _ _ ih =>
    rw [List.cons_append, List.cons_append, bare, if_neg (by decide), if_pos rfl, bare, ih]
  | unicode ha hb hc hd _ ih =>
    simp only [List.cons_append, bare, ha.ne, hb.ne, hc.ne, hd.ne, if_false, if_true]
    exact ih

theorem Quoted.hasBare (h : Quoted cs) : HasBare cs [] := by
  obtain ⟨hcs⟩ := h
  intro rest
  rw [List.cons_append, bare, if_pos rfl, List.append_assoc]
  exact bare_chars hcs rest

end chars

/-- Not the first character of a word that stands for no number or for an infinite one. -/
def isPlain (c : Char) : Bool := c != 'N' && c != 'I'

/-- No such word stands outside of the strings of the text. -/
def NoWords (cs : List Char) : Prop := ∃ bs, HasBare cs bs ∧ ∀ c ∈ bs, isPlain c

namespace NoWords
variable {cs ds : List Char}

theorem append (h : NoWords cs) (h' : NoWords ds) : NoWords (cs ++ ds) := by
  obtain ⟨bs, hb, hp⟩ := h
  obtain ⟨bs', hb', hp'⟩ := h'
  exact ⟨bs ++ bs', hb.append hb', List.forall_mem_append.mpr ⟨hp, hp'⟩⟩

theorem of_forall (h : ∀ c ∈ cs, c ≠ '"' ∧ isPlain c) : NoWords cs :=
  ⟨cs, .of_forall_ne fun c hc => (h c hc).1, fun c hc => (h c hc).2⟩

theorem cons {c : Char} (h : NoWords cs) (hc : c ≠ '"' ∧ isPlain c := by decide) :
    NoWords (c :: cs) :=
  (of_forall (List.forall_mem_singleton.mpr hc)).append h

theorem of_spaces (h : Spaces cs) : NoWords cs := by
  refine of_forall fun c hc => ?_
  rcases h c hc with rfl | rfl | rfl | rfl <;> decide

theorem of_quoted (h : Quoted cs) : NoWords cs := ⟨[], h.hasBare, nofun⟩

theorem of_number (h : Number cs) : NoWords cs := by
  refine of_forall fun c hc => ?_
  have hn := h.isNumeric c hc
  refine ⟨?_, ?_⟩
  · rintro rfl
    exact absurd hn (by decide)
  · unfold isPlain
    simp only [Bool.and_eq_true, bne_iff_ne]
    constructor <;> rintro rfl <;> exact absurd hn (by decide)

end NoWords

/-- No text that the grammar derives names a number that is none or an infinite one. -/
theorem Derives.noWords {part : Part} {cs : List Char} (h : Derives part cs) : NoWords cs := by
  have hclose (c : Char) (hc : c ≠ '"' ∧ isPlain c := by decide) : NoWords [c] :=
    .of_forall (List.forall_mem_singleton.mpr hc)
  induction h with
  | null => exact .of_forall (by simp [isPlain])
  | true => exact .of_forall (by simp [isPlain])
  | false => exact .of_forall (by simp [isPlain])
  | number h => exact .of_number h
  | string h => exact .of_quoted h
  | emptyArray hw => exact ((NoWords.of_spaces hw).append (hclose ']')).cons
  | array _ ih => exact (ih.append (hclose ']')).cons
  | emptyObject hw => exact ((NoWords.of_spaces hw).append (hclose '\x7d')).cons
  | object _ ih => exact (ih.append (hclose '\x7d')).cons
  | element hw _ hw' ih => exact ((NoWords.of_spaces hw).append ih).append (.of_spaces hw')
  | lastElement _ ih => exact ih
  | elements _ _ ih ih' => exact ih.append ih'.cons
  | member hw hname hw' _ ih =>
    exact (((NoWords.of_spaces hw).append (.of_quoted hname)).append (.of_spaces hw')).append
      ih.cons
  | lastMember _ ih => exact ih
  | members _ _ ih ih' => exact ih.append ih'.cons

end ClusterBilling.Json.Grammar
