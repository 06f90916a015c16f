import ClusterBilling.Encoding.Names
import ClusterBilling.Encoding.Percent

/-!
The encoding that a content type names. Its name may be given in numbered sections, and each
section in an encoding of its own with percent signs.
-/
namespace ClusterBilling.Encoding
open Text

/-- A parameter of a header: its name, in lower case unless it has no value, and its value. -/
structure Parameter where
  name : String
  value : List Char
deriving DecidableEq, Repr

namespace Parameter

/-- The text up to the first equals sign, and the text after it. -/
def ofChars (cs : List Char) : Parameter where
  name :=
    let name := String.ofList (stripWhile isBlank (cs.takeWhile (· != '=')))
    if cs.contains '=' then name.toLower else name
  value := stripWhile isBlank ((cs.dropWhile (· != '=')).drop 1)

/-- The parts of a text between semicolons that are not inside quotation marks. A quotation mark
counts unless a backslash stands in front of it. -/
def split : (quoted : Bool) → (part : List Char) → List Char → List (List Char)
  | _, part, [] => [part.reverse]
  | quoted, part, c :: cs =>
    if c = ';' && !quoted then part.reverse :: split false [] cs
    else
      let marks := c = '"' && part.head? != some '\\'
      split (if marks then !quoted else quoted) (c :: part) cs

/-- The parameters of a header, of which the first is its main value. -/
def all (header : List Char) : List Parameter := (split false [] header).map ofChars

end Parameter

/-- Each pair of backslashes as one. -/
def mergeBackslashes : List Char → List Char
  | '\\' :: '\\' :: cs => '\\' :: mergeBackslashes cs
  | c :: cs => c :: mergeBackslashes cs
  | [] => []

/-- Quotation marks without the backslash in front of them. -/
def bareMarks : List Char → List Char
  | '\\' :: '"' :: cs => '"' :: bareMarks cs
  | c :: cs => c :: bareMarks cs
  | [] => []

/-- A value without the quotation marks or the angle brackets that enclose it. -/
def unquoted (value : List Char) : List Char :=
  match value with
  | '"' :: rest =>
    if rest.getLast? = some '"' then bareMarks (mergeBackslashes rest.dropLast) else value
  | '<' :: rest => if rest.getLast? = some '>' then rest.dropLast else value
  | _ => value

/-- A section of a value. -/
structure Section where
  /-- Its number; a value in one section may have none. -/
  number? : Option Nat
  value : List Char
  /-- Whether percent signs in it stand for bytes. -/
  isEncoded : Bool
deriving DecidableEq, Repr

/-- The section that a parameter is, and the name of the value that it belongs to. -/
def Parameter.section? (p : Parameter) : Option (String × Section) := do
  let isWord := fun (c : Char) => c.isAlphanum || c = '_'
  let name := p.name.toList.takeWhile isWord
  let value := unquoted p.value
  if name.isEmpty then none
  match p.name.toList.dropWhile isWord with
  | ['*'] => return (String.ofList name, ⟨none, value, true⟩)
  | '*' :: marks =>
    let digits := marks.takeWhile Char.isDigit
    let rest := marks.dropWhile Char.isDigit
    if digits.isEmpty || !(rest.isEmpty || rest = ['*']) then none
    else return (String.ofList name, ⟨some (digitsValue digits), value, !rest.isEmpty⟩)
  | _ => none

namespace Section

/-- By number, then by value; an encoded section comes after another one of the same value. -/
def isBefore (a b : Section) : Bool :=
  let i := a.number?.getD 0
  let j := b.number?.getD 0
  if i ≠ j then i < j
  else if a.value ≠ b.value then a.value < b.value
  else !a.isEncoded || b.isEncoded

def decoded (s : Section) : List Char :=
  if s.isEncoded then percentDecoded s.value else s.value

/-- The fault of the first two neighbours of which just one has a number. -/
def mixed? : List Section → Option CharsetFault
  | a :: b :: ss =>
    if a.number?.isSome = b.number?.isSome then mixed? (b :: ss)
    else some (.mixedSections a.number?.isSome)
  | _ => none

end Section

/-- The parts before the first, between the first two, and after the second apostrophe. -/
def splitAtMarks (cs : List Char) : Option (List Char × List Char × List Char) :=
  match cs.dropWhile (· != '\'') with
  | [] => none
  | _ :: rest =>
    match rest.dropWhile (· != '\'') with
    | [] => none
    | _ :: value => some (cs.takeWhile (· != '\''), rest.takeWhile (· != '\''), value)

/-- Read an encoded name in the encoding that is stated in front of it, or else in ASCII. Where that
fails the name stands as it is. -/
def decodedName (cs : List Char) : Except CharsetFault (List Char) :=
  let (encoding, value) := match splitAtMarks cs with
    | some (encoding, _, value) => (encoding, value)
    | none => ([], cs)
  if encoding.contains '\x00' then .error .zeroInName
  else
    let charset? := Charset.ofName? (if encoding.isEmpty then "ascii".toList else encoding)
    let bytes := value.map fun c => UInt8.ofNat c.toNat
    match charset?.bind (·.strict? bytes) with
    | some points => .ok (points.map CodePoint.char)
    | none => .ok value

/-- The sections of the value of that name. -/
def sectionsOf (sections : List (String × Section)) (name : String) : List Section :=
  (sections.filter (·.1 = name)).map Prod.snd

/-- The name of the encoding as it is stated, if it is. A parameter without sections comes before
one with them. -/
def statedName (contentType : List Char) : Except CharsetFault (Option (List Char)) :=
  let parameters := Parameter.all contentType
  let sections := (parameters.drop 1).filterMap Parameter.section?
  match sections.findSome? fun (name, _) => Section.mixed? (sectionsOf sections name) with
  | some fault => .error fault
  | none =>
    match parameters.find? (·.name.toLower = "charset"),
        sections.find? (·.1.toLower = "charset") with
    | some p, _ => .ok (some (unquoted p.value))
    | none, none => .ok none
    | none, some (name, _) =>
      let parts := sectionsOf sections name
      let value := (parts.mergeSort Section.isBefore).flatMap Section.decoded
      if parts.any Section.isEncoded then (decodedName value).map some else .ok (some value)

/-- The encoding of a body: the stated one where its name is ASCII and known, and otherwise
UTF-8. -/
def Charset.ofContentType (contentType? : Option Text) : Charset :=
  match statedName (contentType?.getD "").chars with
  | .error fault => .refusing fault
  | .ok name? =>
    let known? := (name?.filter (·.all (·.toNat < 128))).bind Charset.ofName?
    known?.getD (.ofCodec utf8)

end ClusterBilling.Encoding
