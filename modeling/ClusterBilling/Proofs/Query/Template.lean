import Mathlib
import ClusterBilling.Query.Template

/-!
Query texts are filled in as a whole. A template is a row of characters and places, and its text is
that row with all places replaced at once: nothing that is filled in is read again. Texts of
templates that begin differently differ, whatever their places are filled with.
-/
namespace ClusterBilling

/-- What can be filled in. -/
inductive Place where
  | window
  | offset
  | storage
deriving DecidableEq, Repr

def Place.name : Place → String
  | window => "window"
  | offset => "offset"
  | storage => "local_storage"

def Place.ofName? (name : List Char) : Option Place :=
  [window, offset, storage].find? fun p => p.name.toList = name

/-- A part of a template. -/
inductive Piece where
  | char (c : Char)
  | place (p : Place)
deriving DecidableEq, Repr

namespace Piece

def isBrace (c : Char) : Bool := c = '\x7b' || c = '\x7d'

/-- How a piece is written in a template: a brace that is text is written twice, a place is a name
in braces. -/
def spelling : Piece → List Char
  | char c => if isBrace c then [c, c] else [c]
  | place p => '\x7b' :: (p.name.toList ++ ['\x7d'])

/-- What a piece says when the places are filled. -/
def rendering (values : Place → Text) : Piece → List CodePoint
  | char c => [.scalar c]
  | place p => (values p).points

end Piece

/-- The template is made of these pieces: it has no brace besides theirs, and no place that cannot
be filled. -/
def IsMadeOf (template : List Char) (pieces : List Piece) : Prop :=
  template = pieces.flatMap Piece.spelling

instance (template : List Char) (pieces : List Piece) : Decidable (IsMadeOf template pieces) := by
  unfold IsMadeOf
  infer_instance

/-- The text of the pieces with all places filled. -/
def render (values : Place → Text) (pieces : List Piece) : Text :=
  ⟨pieces.flatMap (Piece.rendering values)⟩

/-- The pieces that a template is made of, if it is made of pieces. `name?` holds the letters so far,
in reverse, while a name is read. -/
def readPieces : (name? : Option (List Char)) → List Char → List Piece
  | _, [] => []
  | some name, c :: cs =>
    if c = '\x7d' then
      ((Place.ofName? name.reverse).map Piece.place).toList ++ readPieces none cs
    else readPieces (some (c :: name)) cs
  | none, '\x7b' :: '\x7b' :: cs => .char '\x7b' :: readPieces none cs
  | none, '\x7d' :: '\x7d' :: cs => .char '\x7d' :: readPieces none cs
  | none, c :: cs => if c = '\x7b' then readPieces (some []) cs else .char c :: readPieces none cs

/-- The characters before the first place. -/
def opening : List Piece → List Char
  | .char c :: pieces => c :: opening pieces
  | _ => []

section
variable (filling : Filling) (cs : List Char)

theorem fillChars_brace {c : Char} (h : Piece.isBrace c) :
    fillChars filling none (c :: c :: cs) = .scalar c :: fillChars filling none cs := by
  simp only [Piece.isBrace, Bool.or_eq_true, decide_eq_true_eq] at h
  rcases h with rfl | rfl <;> simp only [fillChars]

theorem fillChars_plain {c : Char} (h : Piece.isBrace c = false) :
    fillChars filling none (c :: cs) = .scalar c :: fillChars filling none cs := by
  simp only [Piece.isBrace, Bool.or_eq_false_iff, decide_eq_false_iff_not] at h
  rw [fillChars, if_neg h.1]
  · exact fun _ hc _ => h.1 hc
  · exact fun _ hc _ => h.2 hc

/-- A name is read to its closing brace, and its place is filled. -/
theorem fillChars_name {name : List Char} (h : '\x7d' ∉ name) (read : List Char) :
    fillChars filling (some read) (name ++ '\x7d' :: cs) =
      (filling (String.ofList (read.reverse ++ name))).points ++ fillChars filling none cs := by
  induction name generalizing read with
  | nil => simp only [List.nil_append, fillChars, if_true, List.append_nil]
  | cons c name ih =>
    rw [List.mem_cons, not_or] at h
    obtain ⟨hc, hname⟩ := h
    rw [List.cons_append, fillChars, if_neg (Ne.symm hc), ih hname]
    simp

theorem fillChars_place (p : Place) :
    fillChars filling none ((Piece.place p).spelling ++ cs) =
      (filling p.name).points ++ fillChars filling none cs := by
  have hname : '\x7d' ∉ p.name.toList := by cases p <;> decide
  have hopen : fillChars filling none ((Piece.place p).spelling ++ cs) =
      fillChars filling (some []) (p.name.toList ++ '\x7d' :: cs) := by
    rw [Piece.spelling, List.cons_append, List.append_assoc, List.singleton_append]
    cases p <;> simp [fillChars, Place.name]
  rw [hopen, fillChars_name filling cs hname]
  simp

theorem fillChars_spelling (pieces : List Piece) :
    fillChars filling none (pieces.flatMap Piece.spelling) =
      pieces.flatMap (Piece.rendering fun p => filling p.name) := by
  induction pieces with
  | nil => simp only [List.flatMap_nil, fillChars]
  | cons piece pieces ih =>
    rw [List.flatMap_cons, List.flatMap_cons, ← ih]
    cases piece with
    | char c =>
      rw [Piece.spelling, Piece.rendering]
      cases hc : Piece.isBrace c with
      | true => exact fillChars_brace filling _ hc
      | false => exact fillChars_plain filling _ hc
    | place p => exact fillChars_place filling _ p

/-- A template says what its pieces say. -/
theorem fill_eq_render {template : String} {pieces : List Piece}
    (h : IsMadeOf template.toList pieces) :
    fill template filling = render (fun p => filling p.name) pieces := by
  rw [fill, render, h, fillChars_spelling]

end

section
variable {values values' : Place → Text} {ps qs : List Piece}

/-- Only the places of a template matter to its text. -/
theorem render_congr (h : ∀ p, .place p ∈ ps → values p = values' p) :
    render values ps = render values' ps := by
  unfold render
  congr 1
  apply List.flatMap_congr
  intro piece hpiece
  cases piece with
  | char c => rfl
  | place p => rw [Piece.rendering, Piece.rendering, h p hpiece]

theorem opening_prefix (values : Place → Text) (ps : List Piece) :
    (opening ps).map CodePoint.scalar <+: (render values ps).points := by
  induction ps with
  | nil => exact List.nil_prefix
  | cons piece ps ih =>
    cases piece with
    | char c =>
      have hrest : (render values (.char c :: ps)).points =
          .scalar c :: (render values ps).points := rfl
      rw [opening, List.map_cons, hrest]
      exact (List.prefix_cons_inj _).mpr ih
    | place p => exact List.nil_prefix

/-- Neither begins like the other. -/
def OpenApart (ps qs : List Piece) : Prop :=
  ¬ opening ps <+: opening qs ∧ ¬ opening qs <+: opening ps

instance : DecidableRel OpenApart := fun _ _ => inferInstanceAs (Decidable (_ ∧ _))

theorem OpenApart.render_ne (h : OpenApart ps qs) (values values' : Place → Text) :
    render values ps ≠ render values' qs := by
  intro he
  have hinj : Function.Injective CodePoint.scalar := fun _ _ => CodePoint.scalar.inj
  have hp := opening_prefix values ps
  have hq := opening_prefix values' qs
  rw [he] at hp
  rcases List.prefix_or_prefix_of_prefix hp hq with hpq | hqp
  · exact h.1 ((List.prefix_map_iff_of_injective hinj).mp hpq)
  · exact h.2 ((List.prefix_map_iff_of_injective hinj).mp hqp)

end
end ClusterBilling
