import BeanGauge.Dict
/-!
JSON values. A number without point and exponent that fits 64 bits stays an integer, every other one
is a double. The members of an object that was read stand in the order of their names, one each; an
object that is built for writing keeps the order of its list.
-/

namespace BeanGauge

inductive Json where
  | null
  | bool (b : Bool)
  | int (n : Int)
  | float (x : Float)
  | string (s : String)
  | array (items : List Json)
  | object (members : List (String × Json))
  deriving Inhabited

namespace Json

/-- The object of some members, sorted by name; of several members with one name the last counts. -/
def ofMembers (members : List (String × Json)) : Json := .object (Entries.ofList members)

/-- The member `name` of an object; of several members with one name the last counts. -/
def member? (j : Json) (name : String) : Option Json :=
  match j with
  | .object members => (members.reverse.find? (·.1 == name)).map Prod.snd
  | _ => none

/-- What kind of value this is, in the words of error messages. -/
def kind : Json → String
  | .null => "null"
  | .bool _ => "boolean"
  | .int _ => "number"
  | .float _ => "number"
  | .string _ => "string"
  | .array _ => "array"
  | .object _ => "object"

def ofOption {α : Type} (f : α → Json) : Option α → Json
  | none => .null
  | some a => f a

def strings (xs : List String) : Json := .array (xs.map .string)

end Json

end BeanGauge
