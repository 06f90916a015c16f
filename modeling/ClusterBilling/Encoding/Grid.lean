/-! Characters in rows and columns, as the encodings of several bytes arrange them. -/
namespace ClusterBilling.Encoding

/-- Rows of characters. A blank marks an empty cell. -/
structure Grid where
  rows : List String
  /-- The number of the first row. -/
  first : Nat
deriving DecidableEq, Repr

namespace Grid

/-- Rows that are counted from zero. -/
def ofRows (rows : List String) : Grid := ⟨rows, 0⟩

/-- Rows that are counted from `first`. -/
def ofRowsFrom (first : Nat) (rows : List String) : Grid := ⟨rows, first⟩

/-- The character in a cell. Columns are counted from zero. -/
def char? (g : Grid) (row column : Nat) : Option Char :=
  if row < g.first then none
  else (g.rows[row - g.first]?.bind (·.toList[column]?)).filter (· ≠ ' ')

/-- Characters side by side in one row. -/
structure Run where
  row : Nat
  /-- The column of the first one. -/
  column : Nat
  chars : String
deriving DecidableEq, Repr

/-- The character in a cell, if a run reaches it. -/
def charOfRuns? (runs : List Run) (row column : Nat) : Option Char :=
  runs.findSome? fun r =>
    if r.row = row ∧ r.column ≤ column then r.chars.toList[column - r.column]? else none

end Grid
end ClusterBilling.Encoding
