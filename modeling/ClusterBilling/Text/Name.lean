import ClusterBilling.Text.Digit
import ClusterBilling.Text.Name.Alphabets
import ClusterBilling.Text.Name.Ancient
import ClusterBilling.Text.Name.Further
import ClusterBilling.Text.Name.Notations
import ClusterBilling.Text.Name.Pictographs
import ClusterBilling.Text.Name.Syllables
import ClusterBilling.Text.Name.Symbols

/-! Characters by their names. -/
namespace ClusterBilling.Text

def nameTables : List NameTable :=
  [.alphabets, .symbols, .syllables, .ancient, .notations, .pictographs]

/-- The consonants that begin a syllable. -/
def initials : List String :=
  ["G", "GG", "N", "D", "DD", "R", "M", "B", "BB", "S", "SS", "", "J", "JJ", "C", "K", "T", "P",
    "H"]

def vowels : List String :=
  ["A", "AE", "YA", "YAE", "EO", "E", "YEO", "YE", "O", "WA", "WAE", "OE", "YO", "U", "WEO", "WE",
    "WI", "YU", "EU", "YI", "I"]

/-- The consonants that end a syllable. -/
def finals : List String :=
  ["", "G", "GG", "GS", "N", "NJ", "NH", "D", "L", "LG", "LM", "LB", "LS", "LT", "LP", "LH", "M",
    "B", "BS", "S", "SS", "NG", "J", "C", "K", "T", "P", "H"]

/-- The place of the longest part that a text begins with, and the rest of the text. -/
def takeLongest? (parts : List String) (cs : List Char) : Option (Nat × List Char) :=
  let found := parts.zipIdx.filter fun (part, _) => part.toList.isPrefixOf cs
  let longest := found.foldl (fun best p => if best.length < p.1.length then p.1 else best) ""
  (found.lookup longest).map fun i => (i, cs.drop longest.length)

/-- The Korean syllable of a romanized one. -/
def syllable? (cs : List Char) : Option Nat := do
  let (i, cs) ← takeLongest? initials cs
  let (v, cs) ← takeLongest? vowels cs
  let (f, cs) ← takeLongest? finals cs
  if cs.isEmpty then some (0xac00 + (i * 21 + v) * 28 + f) else none

/-- The unified ideographs, as inclusive ranges. -/
def ideographs : List (Nat × Nat) :=
  [(0x3400, 0x4dbf), (0x4e00, 0x9fff), (0x20000, 0x2a6df), (0x2a700, 0x2b738), (0x2b740, 0x2b81d),
    (0x2b820, 0x2cea1), (0x2ceb0, 0x2ebe0), (0x30000, 0x3134a)]

def isInRanges (ranges : List (Nat × Nat)) (n : Nat) : Bool :=
  ranges.any fun (lo, hi) => lo ≤ n && n ≤ hi

/-- The number that digits in capitals denote in base 16. -/
def capitalHex? (cs : List Char) : Option Nat :=
  if cs.any Char.isLower then none
  else (cs.mapM hexValue?).map (·.foldl (fun n d => 16 * n + d) 0)

/-- A unified ideograph by the four or five digits of its number. -/
def ideograph? (cs : List Char) : Option Nat :=
  if cs.length = 4 ∨ cs.length = 5 then (capitalHex? cs).filter (isInRanges ideographs) else none

/-- The kinds of characters that are named by their numbers, as inclusive ranges. -/
def numberedNames : List (String × List (Nat × Nat)) :=
  [("CJK COMPATIBILITY IDEOGRAPH-", [(0xf900, 0xfa6d), (0xfa70, 0xfad9), (0x2f800, 0x2fa1d)]),
    ("KHITAN SMALL SCRIPT CHARACTER-", [(0x18b00, 0x18cd5)]),
    ("NUSHU CHARACTER-", [(0x1b170, 0x1b2fb)])]

/-- The text after a given beginning. -/
def after? (beginning : String) (cs : List Char) : Option (List Char) :=
  if beginning.toList.isPrefixOf cs then some (cs.drop beginning.length) else none

/-- A character that is named by its number. -/
def numbered? (cs : List Char) : Option Nat :=
  numberedNames.findSome? fun (beginning, ranges) => do
    let digits ← after? beginning cs
    if digits.head? = some '0' then none else (capitalHex? digits).filter (isInRanges ranges)

/-- One of the 256 variation selectors by its short name. -/
def variationSelector? (cs : List Char) : Option Nat :=
  let isNamed := fun (i : Nat) => s!"VS{i + 1}".toList = cs
  ((List.range 256).find? isNamed).map fun i => if i < 16 then 0xfe00 + i else 0xe0100 + (i - 16)

/-- The number of the character with a name. Names may be in any case, but for those of Korean
syllables and of unified ideographs. -/
def numberOfName? (name : List Char) : Option Nat :=
  match after? "HANGUL SYLLABLE " name, after? "CJK UNIFIED IDEOGRAPH-" name with
  | some rest, _ => syllable? rest
  | none, some rest => ideograph? rest
  | none, none =>
    let name := name.map Char.toUpper
    nameTables.findSome? (·.find? (NameTable.wordsOf name)) <|> numbered? name
      <|> variationSelector? name <|> furtherNames.lookup (String.ofList name)

end ClusterBilling.Text
