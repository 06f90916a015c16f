import ClusterBilling.Decimal.Shortest
import ClusterBilling.Json.Basic
import ClusterBilling.Text.Quoted

/-!
JSON values as messages show them: text in quotes, the constants with capitals. Integers are written
with all of their digits. In a value that was read they are no more than `maxIntegerDigits`.
-/
namespace ClusterBilling.Json

/-- Parts joined by a comma and a space. -/
def commaSeparated (parts : List Text) : Text := .join ", " parts

mutual

/-- A value inside a message. -/
def display : Json → Text
  | null => "None"
  | bool true => "True"
  | bool false => "False"
  | integer n => toString n
  | float x => Decimal.shortest x
  | string s => Text.quote s
  | array items => "[" ++ commaSeparated (displayItems items) ++ "]"
  | object members => "\x7b" ++ commaSeparated (displayMembers members) ++ "\x7d"

def displayItems : List Json → List Text
  | [] => []
  | v :: vs => v.display :: displayItems vs

def displayMembers : List (Text × Json) → List Text
  | [] => []
  | (k, v) :: ms => (Text.quote k ++ ": " ++ v.display) :: displayMembers ms

end

/-- A value that is the message: text stands for itself, all else is displayed. -/
def plainText : Json → Text
  | string s => s
  | v => v.display

/-- The word that names the kind of a value. -/
def kindName : Json → String
  | null => "NoneType"
  | bool _ => "bool"
  | integer _ => "int"
  | float _ => "float"
  | string _ => "str"
  | array _ => "list"
  | object _ => "dict"

end ClusterBilling.Json
