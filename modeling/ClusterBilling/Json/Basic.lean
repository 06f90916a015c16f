import ClusterBilling.Text.Basic

/-! JSON values, with integers of any size beside floating-point numbers and members in their
written order. -/
namespace ClusterBilling

inductive Json where
  | null
  | bool (b : Bool)
  | integer (n : Int)
  | float (x : Float)
  | string (s : Text)
  | array (items : List Json)
  | object (members : List (Text × Json))
deriving Inhabited

namespace Json

/-- The member of that name, if the value is an object that has one. -/
def member? (name : Text) : Json → Option Json
  | object members => members.lookup name
  | _ => none

/-- Whether the value is just this text. -/
def isText (text : Text) : Json → Bool
  | string s => s = text
  | _ => false

/-- Null, false, zero and everything empty count as nothing. -/
def isNothing : Json → Bool
  | null => true
  | bool b => !b
  | integer n => n = 0
  | float x => x == 0
  | string s => s.isEmpty
  | array items => items.isEmpty
  | object members => members.isEmpty

end Json
end ClusterBilling
