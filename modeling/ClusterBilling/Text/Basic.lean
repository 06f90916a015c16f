/-! Text as a row of code points. It may hold half of a surrogate pair, which no character is. -/
namespace ClusterBilling

inductive CodePoint where
  | scalar (c : Char)
  /-- The surrogate `0xd800 + n`. -/
  | surrogate (n : Fin 2048)
deriving DecidableEq, Repr

namespace CodePoint

instance : Coe Char CodePoint := ⟨scalar⟩

def toNat : CodePoint → Nat
  | scalar c => c.toNat
  | surrogate n => 0xd800 + n

def isHighSurrogate (n : Nat) : Bool := 0xd800 ≤ n && n < 0xdc00
def isLowSurrogate (n : Nat) : Bool := 0xdc00 ≤ n && n < 0xe000

/-- The number that a high and a low surrogate stand for. -/
def joinSurrogates (high low : Nat) : Nat := 0x10000 + (high - 0xd800) * 0x400 + (low - 0xdc00)

/-- The code point of a number, of which there are 1114112. -/
def ofNat? (n : Nat) : Option CodePoint :=
  if n.isValidChar then some (scalar (Char.ofNat n))
  else if h : n - 0xd800 < 2048 ∧ 0xd800 ≤ n then some (surrogate ⟨n - 0xd800, h.1⟩)
  else none

/-- The code point as a character: a surrogate becomes the replacement character. -/
def char : CodePoint → Char
  | scalar c => c
  | surrogate _ => '\ufffd'

/-- Whether it is a character of the kind `p`; a surrogate is of none. -/
def satisfies (p : Char → Bool) : CodePoint → Bool
  | scalar c => p c
  | surrogate _ => false

end CodePoint

structure Text where
  points : List CodePoint
deriving DecidableEq, Repr

namespace Text

def ofChars (cs : List Char) : Text := ⟨cs.map .scalar⟩

def ofString (s : String) : Text := ofChars s.toList

instance : Coe String Text := ⟨ofString⟩

instance : Inhabited Text := ⟨⟨[]⟩⟩

instance : Append Text := ⟨fun s t => ⟨s.points ++ t.points⟩⟩

protected def isEmpty (t : Text) : Bool := t.points.isEmpty

protected def length (t : Text) : Nat := t.points.length

/-- The characters, with the replacement character for each surrogate. -/
def chars (t : Text) : List Char := t.points.map CodePoint.char

/-- The text as a string, with the replacement character for each surrogate. -/
protected def toString (t : Text) : String := String.ofList t.chars

/-- The texts one after the other, with `separator` between them. -/
protected def join (separator : Text) (ts : List Text) : Text :=
  ⟨separator.points.intercalate (ts.map points)⟩

@[simp] theorem points_append (s t : Text) : (s ++ t).points = s.points ++ t.points := rfl

@[simp] theorem chars_ofChars (cs : List Char) : (ofChars cs).chars = cs := by
  have : CodePoint.char ∘ CodePoint.scalar = id := rfl
  simp [chars, ofChars, this]

theorem ofChars_inj {cs ds : List Char} : ofChars cs = ofChars ds ↔ cs = ds :=
  ⟨fun h => by simpa using congrArg chars h, fun h => h ▸ rfl⟩

/-- Different strings are different texts. -/
theorem ofString_inj {s t : String} : ofString s = ofString t ↔ s = t := by
  rw [ofString, ofString, ofChars_inj, String.toList_inj]

end Text
end ClusterBilling
