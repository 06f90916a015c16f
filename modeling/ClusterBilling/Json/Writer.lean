import ClusterBilling.Decimal.Shortest
import ClusterBilling.Json.Basic
import ClusterBilling.Text.Quoted

/-! JSON text in ASCII. -/
namespace ClusterBilling.Json
open Text

/-- A UTF-16 unit as an escape of four hexadecimal digits. -/
def escapeUnit (unit : Nat) : List Char :=
  '\\' :: 'u' :: hex 4 unit

/-- One character inside a string; a character beyond 16 bits is written as its two surrogates. -/
def escapeChar (c : Char) : List Char :=
  if c = '"' || c = '\\' then ['\\', c]
  else if c = '\n' then ['\\', 'n']
  else if c = '\r' then ['\\', 'r']
  else if c = '\t' then ['\\', 't']
  else if c.toNat = 12 then ['\\', 'f']
  else if c.toNat = 8 then ['\\', 'b']
  else if 32 ≤ c.toNat && c.toNat ≤ 126 then [c]
  else if c.toNat < 0x10000 then escapeUnit c.toNat
  else
    let n := c.toNat - 0x10000
    escapeUnit (0xd800 + n / 0x400) ++ escapeUnit (0xdc00 + n % 0x400)

def escapePoint : CodePoint → List Char
  | .scalar c => escapeChar c
  | p => escapeUnit p.toNat

def writeString (s : Text) : String :=
  String.ofList ('"' :: s.points.flatMap escapePoint ++ ['"'])

/-- The shortest decimal, or one of three words that are no JSON numbers. -/
def writeFloat (x : Float) : String :=
  match Decimal.Reading.ofFloat x with
  | .nan => "NaN"
  | .infinite false => "Infinity"
  | .infinite true => "-Infinity"
  | .finite b => Decimal.plainLayout.render b.shortest

mutual

/-- On one line, with a blank after each comma and colon. -/
def compact : Json → String
  | null => "null"
  | bool true => "true"
  | bool false => "false"
  | integer n => toString n
  | float x => writeFloat x
  | string s => writeString s
  | array items => "[" ++ ", ".intercalate (compactItems items) ++ "]"
  | object members => "\x7b" ++ ", ".intercalate (compactMembers members) ++ "\x7d"

def compactItems : List Json → List String
  | [] => []
  | v :: vs => v.compact :: compactItems vs

def compactMembers : List (Text × Json) → List String
  | [] => []
  | (k, v) :: ms => (writeString k ++ ": " ++ v.compact) :: compactMembers ms

end

/-- A line break and two blanks for each level. -/
def lineBreak (depth : Nat) : String :=
  String.ofList ('\n' :: List.replicate (2 * depth) ' ')

/-- Parts on lines of their own, one level deeper than the brackets around them. -/
def bracketed (opening closing : String) (depth : Nat) (parts : List String) : String :=
  if parts.isEmpty then opening ++ closing
  else
    opening ++ lineBreak (depth + 1) ++ ("," ++ lineBreak (depth + 1)).intercalate parts
      ++ lineBreak depth ++ closing

mutual

/-- Every item and member on a line of its own, indented by its depth. -/
def indented (depth : Nat) : Json → String
  | null => "null"
  | bool true => "true"
  | bool false => "false"
  | integer n => toString n
  | float x => writeFloat x
  | string s => writeString s
  | array items => bracketed "[" "]" depth (indentedItems (depth + 1) items)
  | object members => bracketed "\x7b" "\x7d" depth (indentedMembers (depth + 1) members)

def indentedItems (depth : Nat) : List Json → List String
  | [] => []
  | v :: vs => v.indented depth :: indentedItems depth vs

def indentedMembers (depth : Nat) : List (Text × Json) → List String
  | [] => []
  | (k, v) :: ms => (writeString k ++ ": " ++ v.indented depth) :: indentedMembers depth ms

end

end ClusterBilling.Json
