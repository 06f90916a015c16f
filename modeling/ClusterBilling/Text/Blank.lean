import ClusterBilling.Text.Basic

/-! Blank characters, and text without the blanks around it. -/
namespace ClusterBilling.Text

/-- Unicode white space and the four information separators, as inclusive ranges in increasing
order. -/
def blankRanges : List (Nat × Nat) :=
  [(0x09, 0x0d), (0x1c, 0x20), (0x85, 0x85), (0xa0, 0xa0), (0x1680, 0x1680), (0x2000, 0x200a),
    (0x2028, 0x2029), (0x202f, 0x202f), (0x205f, 0x205f), (0x3000, 0x3000)]

def isBlank (c : Char) : Bool :=
  blankRanges.any fun (lo, hi) => lo ≤ c.toNat && c.toNat ≤ hi

/-- Drop the longest run of members that satisfy `p` from the end. -/
def dropEndWhile {α : Type} (p : α → Bool) (xs : List α) : List α :=
  (xs.reverse.dropWhile p).reverse

/-- Drop the longest runs of members that satisfy `p` from both ends. -/
def stripWhile {α : Type} (p : α → Bool) (xs : List α) : List α :=
  dropEndWhile p (xs.dropWhile p)

/-- Text without the blanks at its two ends. -/
def strip (t : Text) : Text :=
  ⟨stripWhile (CodePoint.satisfies isBlank) t.points⟩

def isAllBlank (t : Text) : Bool :=
  t.points.all (CodePoint.satisfies isBlank)

/-- What is left after stripping does not end in a stripped member. -/
theorem not_of_getLast?_stripWhile {α : Type} {p : α → Bool} {xs : List α} {x : α}
    (h : (stripWhile p xs).getLast? = some x) : p x = false := by
  simp only [stripWhile, dropEndWhile, List.getLast?_reverse] at h
  have := List.head?_dropWhile_not p ((xs.dropWhile p).reverse)
  rw [h] at this
  simpa using this

end ClusterBilling.Text
