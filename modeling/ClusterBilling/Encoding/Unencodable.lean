import ClusterBilling.Text.Quoted

/-! Text that cannot be written as bytes: headers hold ASCII only, and UTF-8 has no surrogates. -/
namespace ClusterBilling.Encoding

/-- The repertoire that a code point is missing from. -/
inductive Repertoire where
  | ascii
  | unicode
deriving DecidableEq, Repr

namespace Repertoire

def contains : Repertoire → CodePoint → Bool
  | ascii, p => p.toNat < 128
  | unicode, .scalar _ => true
  | unicode, .surrogate _ => false

def codec : Repertoire → String
  | ascii => "ascii"
  | unicode => "utf-8"

/-- What is said of a code point outside of it. -/
def reason : Repertoire → String
  | ascii => "ordinal not in range(128)"
  | unicode => "surrogates not allowed"

end Repertoire

/-- A row of code points that cannot be encoded: as many as `points`, from position `start` on. -/
structure EncodeError where
  repertoire : Repertoire
  start : Nat
  points : List CodePoint
deriving DecidableEq, Repr

def EncodeError.message (e : EncodeError) : String :=
  let what := match e.points with
    | [p] => "character '" ++ String.ofList (Text.escapeCode p.toNat) ++ s!"' in position {e.start}"
    | ps => s!"characters in position {e.start}-{e.start + ps.length - 1}"
  s!"'{e.repertoire.codec}' codec can't encode {what}: {e.repertoire.reason}"

/-- The first row of code points that a repertoire does not contain. -/
def Repertoire.missing? (r : Repertoire) (t : Text) : Option EncodeError :=
  match (t.points.dropWhile r.contains).takeWhile (!r.contains ·) with
  | [] => none
  | row => some ⟨r, (t.points.takeWhile r.contains).length, row⟩

/-- The first fault in names and values of headers. -/
def headerFault? (headers : List (Text × Text)) : Option EncodeError :=
  headers.findSome? fun (name, value) =>
    Repertoire.ascii.missing? name <|> Repertoire.ascii.missing? value

/-- There is a fault exactly if some code point is outside of the repertoire. -/
theorem Repertoire.missing?_eq_none_iff (r : Repertoire) (t : Text) :
    r.missing? t = none ↔ ∀ p ∈ t.points, r.contains p := by
  have key : ∀ ps : List CodePoint,
      (ps.dropWhile r.contains).takeWhile (!r.contains ·) = [] ↔ ∀ p ∈ ps, r.contains p := by
    intro ps
    induction ps with
    | nil => simp
    | cons p ps ih => by_cases h : r.contains p <;> simp_all
  rw [← key]
  unfold missing?
  split <;> simp_all

end ClusterBilling.Encoding
