import ClusterBilling.Decimal.Numeral
import ClusterBilling.Json.Basic
import ClusterBilling.Table

/-! JSON text read as a value, with the place of the first fault. -/
namespace ClusterBilling.Json

/-- Why a text is not JSON, where the fault has a place. -/
inductive Flaw where
  | expectingValue
  | expectingName
  | expectingColon
  | expectingComma
  | extraData
  | unterminatedString
  | controlCharacter
  | badEscape
  | badUnicodeEscape
deriving DecidableEq, Repr

def Flaw.message : Flaw → String
  | expectingValue => "Expecting value"
  | expectingName => "Expecting property name enclosed in double quotes"
  | expectingColon => "Expecting ':' delimiter"
  | expectingComma => "Expecting ',' delimiter"
  | extraData => "Extra data"
  | unterminatedString => "Unterminated string starting at"
  | controlCharacter => "Invalid control character at"
  | badEscape => "Invalid \\escape"
  | badUnicodeEscape => "Invalid \\uXXXX escape"

/-- The values that others are nested in. -/
inductive Container where
  | array
  | object
deriving DecidableEq, Repr

def Container.word : Container → String
  | array => "array"
  | object => "object"

/-- A text that is not JSON, or that exceeds what is read. -/
inductive ReadError where
  | flaw (flaw : Flaw) (line column index : Nat)
  /-- An integer has too many digits. -/
  | longInteger (digits : Nat)
  /-- Values are nested too deeply. -/
  | tooDeep (container : Container)
deriving DecidableEq, Repr

/-- The greatest number of digits of an integer. -/
def maxIntegerDigits : Nat := 4300

def ReadError.message : ReadError → String
  | flaw f line column index =>
    s!"{f.message}: line {line} column {column} (char {index})"
  | longInteger digits =>
    s!"Exceeds the limit ({maxIntegerDigits} digits) for integer string conversion: "
      ++ s!"value has {digits} digits; use sys.set_int_max_str_digits() to increase the limit"
  | tooDeep container =>
    s!"maximum recursion depth exceeded while decoding a JSON {container.word} "
      ++ "from a unicode string"

namespace Reader
open Text (hexValue?)

/-- A fault and the text from its place on. -/
inductive Failure where
  | flaw (flaw : Flaw) (rest : List CodePoint)
  | longInteger (digits : Nat)
  | tooDeep (container : Container)

/-- What was read, and the text after it. -/
abbrev Step (α : Type) := Except Failure (α × List CodePoint)

def isSpace (c : Char) : Bool :=
  c = ' ' || c = '\t' || c = '\n' || c = '\r'

def skip (ps : List CodePoint) : List CodePoint := ps.dropWhile (·.satisfies isSpace)

/-- The number that four hexadecimal digits denote. -/
def hex4? (a b c d : CodePoint) : Option Nat := do
  let a ← hexValue? a.char
  let b ← hexValue? b.char
  let c ← hexValue? c.char
  let d ← hexValue? d.char
  return ((a * 16 + b) * 16 + c) * 16 + d

/-- The code point of a number below 1114112. -/
def codePoint (n : Nat) : CodePoint := (CodePoint.ofNat? n).getD '\ufffd'

/-- An escape of four hexadecimal digits after its `u`. Two surrogates in a row are
one character. -/
def unicodeEscape (ps : List CodePoint) : Step CodePoint :=
  match ps with
  | a :: b :: c :: d :: more =>
    match more.isEmpty, hex4? a b c d with
    | false, some n =>
      if CodePoint.isHighSurrogate n then
        match more with
        | .scalar '\\' :: .scalar 'u' :: e :: f :: g :: h :: x :: rest =>
          match hex4? e f g h with
          | none => .error (.flaw .badUnicodeEscape more.tail)
          | some m =>
            if CodePoint.isLowSurrogate m then
              .ok (codePoint (CodePoint.joinSurrogates n m), x :: rest)
            else .ok (codePoint n, more)
        | _ => .ok (codePoint n, more)
      else .ok (codePoint n, more)
    | _, _ => .error (.flaw .badUnicodeEscape ('u' :: ps))
  | _ => .error (.flaw .badUnicodeEscape ('u' :: ps))

/-- The character that one letter after a backslash stands for. -/
def letterEscape? (c : Char) : Option Char :=
  if c = '"' || c = '\\' || c = '/' then some c
  else if c = 'b' then some (Char.ofNat 8)
  else if c = 'f' then some (Char.ofNat 12)
  else if c = 'n' then some '\n'
  else if c = 'r' then some '\r'
  else if c = 't' then some '\t'
  else none

/-- The rest of a string whose opening quotation mark is the head of `opening`. -/
def stringBody (opening : List CodePoint) :
    (fuel : Nat) → (done : List CodePoint) → List CodePoint → Step Text
  | 0, _, _ => .error (.flaw .unterminatedString opening)
  | fuel + 1, done, ps =>
    match ps with
    | [] => .error (.flaw .unterminatedString opening)
    | .scalar '"' :: rest => .ok (⟨done.reverse⟩, rest)
    | .scalar '\\' :: [] => .error (.flaw .unterminatedString opening)
    | .scalar '\\' :: .scalar 'u' :: rest =>
      match unicodeEscape rest with
      | .error e => .error e
      | .ok (p, rest) => stringBody opening fuel (p :: done) rest
    | .scalar '\\' :: p :: rest =>
      match letterEscape? p.char with
      | some c => stringBody opening fuel (c :: done) rest
      | none => .error (.flaw .badEscape ps)
    | p :: rest =>
      if p.toNat < 32 then .error (.flaw .controlCharacter ps)
      else stringBody opening fuel (p :: done) rest

/-- The sign of a negative number. -/
def signPart : List Char → Bool × List Char
  | '-' :: rest => (true, rest)
  | cs => (false, cs)

/-- The digits before the point: no others follow a zero. -/
def wholePart : List Char → List Char × List Char
  | '0' :: rest => (['0'], rest)
  | cs => Decimal.takeDigits cs

/-- A point and the digits after it, if there is at least one. -/
def fractionPart (cs : List Char) : List Char × List Char :=
  match cs with
  | '.' :: rest => if (Decimal.takeDigits rest).1.isEmpty then ([], cs) else Decimal.takeDigits rest
  | _ => ([], cs)

/-- A decimal exponent, if the text begins with a complete one. -/
def exponentPart (cs : List Char) : Option Int × List Char :=
  match cs with
  | [] => (none, cs)
  | c :: rest =>
    if c = 'e' || c = 'E' then
      let (negative, rest) := Decimal.takeSign rest
      let (ds, rest) := Decimal.takeDigits rest
      let n : Int := Text.digitsValue ds
      if ds.isEmpty then (none, cs) else (some (if negative then -n else n), rest)
    else (none, cs)

/-- The characters that numbers consist of. -/
def isNumeric (c : Char) : Bool := c.isDigit || "+-.eE".toList.contains c

/-- A number: an integer unless a point or an exponent follows its whole part. -/
def number (ps : List CodePoint) : Step Json :=
  let cs := (ps.takeWhile (·.satisfies isNumeric)).map CodePoint.char
  let (negative, body) := signPart cs
  let (whole, rest) := wholePart body
  if whole.isEmpty then .error (.flaw .expectingValue ps)
  else
    let (places, rest) := fractionPart rest
    let (exponent, rest) := exponentPart rest
    let rest := ps.drop (cs.length - rest.length)
    if places.isEmpty && exponent.isNone then
      if maxIntegerDigits < whole.length then .error (.longInteger whole.length)
      else
        let n : Int := Text.digitsValue whole
        .ok (.integer (if negative then -n else n), rest)
    else
      let power := exponent.getD 0 - places.length
      .ok (.float (Decimal.nearestFloat negative (Text.digitsValue (whole ++ places)) power), rest)

/-- The words that stand for values. -/
def words : List (String × Json) :=
  [("null", .null), ("true", .bool true), ("false", .bool false),
    ("NaN", .float (Float.ofBits 0x7FF8000000000000)),
    ("Infinity", .float (Float.ofBits 0x7FF0000000000000)),
    ("-Infinity", .float (Float.ofBits 0xFFF0000000000000))]

/-- A word or a number. -/
def atom (ps : List CodePoint) : Step Json :=
  match words.find? fun (w, _) => (Text.ofString w).points.isPrefixOf ps with
  | some (w, v) => .ok (v, ps.drop w.length)
  | none => number ps

mutual

/-- The value that the text begins with. There is room for as many containers, one in another. -/
def value (room : Nat) : (fuel : Nat) → List CodePoint → Step Json
  | 0, ps => .error (.flaw .expectingValue ps)
  | fuel + 1, ps =>
    match ps with
    | .scalar '"' :: rest =>
      match stringBody ps (rest.length + 1) [] rest with
      | .error e => .error e
      | .ok (s, rest) => .ok (.string s, rest)
    | .scalar '[' :: rest =>
      match room with
      | 0 => .error (.tooDeep .array)
      | room + 1 =>
        match skip rest with
        | .scalar ']' :: rest => .ok (.array [], rest)
        | rest => items room fuel [] rest
    | .scalar '\x7b' :: rest =>
      match room with
      | 0 => .error (.tooDeep .object)
      | room + 1 =>
        match skip rest with
        | .scalar '\x7d' :: rest => .ok (.object [], rest)
        | rest => members room fuel [] rest
    | _ => atom ps

/-- The items of an array from one of them on, after those in `done`, which are in reverse. -/
def items (room : Nat) : (fuel : Nat) → (done : List Json) → List CodePoint → Step Json
  | 0, _, ps => .error (.flaw .expectingValue ps)
  | fuel + 1, done, ps =>
    match value room fuel ps with
    | .error e => .error e
    | .ok (v, rest) =>
      match skip rest with
      | .scalar ']' :: rest => .ok (.array (v :: done).reverse, rest)
      | .scalar ',' :: rest => items room fuel (v :: done) (skip rest)
      | rest => .error (.flaw .expectingComma rest)

/-- The members of an object from one of them on; the last of those with one name counts. -/
def members (room : Nat) :
    (fuel : Nat) → (done : List (Text × Json)) → List CodePoint → Step Json
  | 0, _, ps => .error (.flaw .expectingValue ps)
  | fuel + 1, done, ps =>
    match ps with
    | .scalar '"' :: rest =>
      match stringBody ps (rest.length + 1) [] rest with
      | .error e => .error e
      | .ok (name, rest) =>
        match skip rest with
        | .scalar ':' :: rest =>
          match value room fuel (skip rest) with
          | .error e => .error e
          | .ok (v, rest) =>
            let done := Table.alterEntries name (fun _ => v) done
            match skip rest with
            | .scalar '\x7d' :: rest => .ok (.object done, rest)
            | .scalar ',' :: rest => members room fuel done (skip rest)
            | rest => .error (.flaw .expectingComma rest)
        | rest => .error (.flaw .expectingColon rest)
    | _ => .error (.flaw .expectingName ps)

end

/-- The line and the column, both from one, of the code point at `index`. -/
def lineColumn (text : List CodePoint) (index : Nat) : Nat × Nat :=
  let before := text.take index
  (before.count (.scalar '\n') + 1, (before.reverse.takeWhile (· != .scalar '\n')).length + 1)

def Failure.locate (text : List CodePoint) : Failure → ReadError
  | .flaw f rest =>
    let index := text.length - rest.length
    let (line, column) := lineColumn text index
    .flaw f line column index
  | .longInteger digits => .longInteger digits
  | .tooDeep container => .tooDeep container

end Reader

/-- How many arrays and objects may be nested in one another where a reader is told nothing else. -/
def usualDepth : Nat := 970

/-- A text that holds one value and blanks around it. No more than `maxDepth` arrays and objects may
be nested in one another. -/
def read (text : Text) (maxDepth : Nat := usualDepth) : Except ReadError Json :=
  match Reader.value maxDepth (2 * text.length + 1) (Reader.skip text.points) with
  | .error e => .error (e.locate text.points)
  | .ok (v, rest) =>
    match Reader.skip rest with
    | [] => .ok v
    | rest => .error ((Reader.Failure.flaw .extraData rest).locate text.points)

end ClusterBilling.Json
