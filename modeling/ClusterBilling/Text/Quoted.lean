import ClusterBilling.Text.Basic
import ClusterBilling.Text.Printable

/-! Text between quotes, as messages show it. -/
namespace ClusterBilling.Text

/-- The lower case hexadecimal digits of `n`, padded with zeros to `width`. -/
def hex (width n : Nat) : List Char :=
  let ds := Nat.toDigits 16 n
  List.replicate (width - ds.length) '0' ++ ds

/-- An apostrophe encloses the text unless it occurs in it and the quotation mark does not. -/
def quoteFor (t : Text) : Char :=
  if t.chars.contains '\'' && !t.chars.contains '"' then '"' else '\''

/-- A code point by its number. -/
def escapeCode (n : Nat) : List Char :=
  if n < 0x100 then '\\' :: 'x' :: hex 2 n
  else if n < 0x10000 then '\\' :: 'u' :: hex 4 n
  else '\\' :: 'U' :: hex 8 n

/-- One character between two `q`: the mark and the backslash are escaped, as is what cannot be
printed. -/
def quoteChar (q c : Char) : List Char :=
  if c = q || c = '\\' then ['\\', c]
  else if c = '\n' then ['\\', 'n']
  else if c = '\t' then ['\\', 't']
  else if c = '\r' then ['\\', 'r']
  else if isPrintable c then [c]
  else escapeCode c.toNat

/-- One code point between two `q`; no surrogate can be printed. -/
def quotePoint (q : Char) : CodePoint → List Char
  | .scalar c => quoteChar q c
  | p => escapeCode p.toNat

def quote (t : Text) : Text :=
  let q := quoteFor t
  .ofChars (q :: t.points.flatMap (quotePoint q) ++ [q])

end ClusterBilling.Text
