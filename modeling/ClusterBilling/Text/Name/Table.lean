/-! Tables of the names of characters. -/
namespace ClusterBilling.Text

structure NameTable where
  /-- The characters in rows without gaps: the number of the first one, and how many there are. -/
  rows : List (Nat × Nat)
  /-- Their names one after the other. Two letters count the words that a name shares with the one
  before it, at its beginning and at its end, from `a` for none on. The words between follow. -/
  entries : List String
deriving DecidableEq, Repr

namespace NameTable

/-- A name by its words. -/
abbrev Words := List (List Char)

def wordsOf (cs : List Char) : Words := if cs.isEmpty then [] else cs.splitOn ' '

/-- The number that a letter stands for. -/
def count (letter : Char) : Nat := letter.toNat - 'a'.toNat

/-- The names of entries that follow a name. -/
def names (previous : Words) : List Char → List Words
  | first :: last :: rest =>
    let words := wordsOf (rest.takeWhile (!·.isLower))
    let ending := previous.drop (previous.length - count last)
    let name := previous.take (count first) ++ words ++ ending
    name :: names name (rest.dropWhile (!·.isLower))
  | _ => []
termination_by cs => cs.length
decreasing_by
  have := (List.dropWhile_sublist (fun c : Char => !c.isLower) (l := rest)).length_le
  simp only [List.length_cons]
  omega

/-- The number of the character with a name. -/
def find? (t : NameTable) (name : Words) : Option Nat :=
  let numbers := t.rows.flatMap fun (first, count) => List.range' first count
  ((names [] (t.entries.flatMap String.toList)).zip numbers).lookup name

end NameTable
end ClusterBilling.Text
