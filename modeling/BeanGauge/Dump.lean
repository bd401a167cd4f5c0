import BeanGauge.BeanName
import BeanGauge.Json.Reader
/-!
Dumps: the attributes of all beans of a process at one moment.

A dump is decoded from a JSON object whose members are the beans, each an object of attributes.
Beans are visited in the order of their identifiers, so of several beans with no attribute object
the least one is reported.
-/

namespace BeanGauge

/-- The value of an attribute. The members of an object stand in the order of their names. -/
inductive Attribute where
  | integer (n : Int)
  | float (x : Float)
  | string (s : String)
  | bool (b : Bool)
  | null
  | object (members : List (String × Attribute))
  | array (items : List Attribute)

namespace Attribute

/-- Whether `n` fits 64 bits with a sign. -/
def fits (n : Int) : Bool := decide (-0x8000000000000000 ≤ n) && decide (n < 0x8000000000000000)

mutual

/-- The image of a JSON value: an integer that fits 64 bits with a sign stays one, every other
number is a double, and all else is kept as it is. -/
def ofJson : Json → Attribute
  | .null => .null
  | .bool b => .bool b
  | .int n => if fits n then .integer n else .float (Number.ofInt n)
  | .float x => .float x
  | .string s => .string s
  | .array items => .array (ofItems items)
  | .object members => .object (Entries.ofList (ofMembers members))

def ofItems : List Json → List Attribute
  | [] => []
  | j :: js => ofJson j :: ofItems js

/-- The images of the members of an object. -/
def ofMembers : List (String × Json) → List (String × Attribute)
  | [] => []
  | (name, j) :: ms => (name, ofJson j) :: ofMembers ms

end

/-- The number of an attribute. With `coerce`, a text that spells a finite number has one too. -/
def number? (coerce : Bool) : Attribute → Option Float
  | .integer n => some (Number.ofInt n)
  | .float x => some x
  | .string s =>
    if coerce then (Number.readFloat (Text.trim s)).filter Number.isFinite else none
  | _ => none

/-- The numbers an attribute contributes: its own, or those of its members. -/
def leaves (coerce : Bool) (name : String) (a : Attribute) : List (String × Float) :=
  match a.number? coerce with
  | some x => [(name, x)]
  | none =>
    match a with
    | .object members =>
      members.filterMap fun m => (m.2.number? coerce).map fun x => (name ++ "." ++ m.1, x)
    | _ => []

end Attribute

abbrev Attributes := Dict String Attribute

structure Dump where
  beans : Dict String Attributes
  deriving Inhabited

namespace Dump

inductive Error where
  | notJson (reason : String)
  | notObject (kind : String)
  | beanNotObject (bean kind : String)
  deriving DecidableEq

def Error.message : Error → String
  | .notJson reason => s!"Dump is not valid JSON: {reason}"
  | .notObject kind => s!"Dump payload must be an object of beans, got {kind}"
  | .beanNotObject bean kind => s!"Attributes of bean '{bean}' must be an object, got {kind}"

def decodeBean (bean : String × Json) : Except Error (String × Attributes) :=
  match bean.2 with
  | .object members => .ok (bean.1, Dict.ofList (Attribute.ofMembers members))
  | other => .error (.beanNotObject bean.1 other.kind)

def ofJson (j : Json) : Except Error Dump :=
  match j with
  | .object members => do
    let beans ← (Entries.ofList members).mapM decodeBean
    pure ⟨Dict.ofList beans⟩
  | other => .error (.notObject other.kind)

/-- The dump of a JSON text; `explain` says what another text lacks to be one. -/
def parse (explain : String → String) (text : String) : Except Error Dump :=
  match Json.parse text with
  | none => .error (.notJson (explain text))
  | some j => ofJson j

def empty : Dump := ⟨∅⟩

def size (d : Dump) : Nat := d.beans.size

/-- Puts a bean, in place of what was there. -/
def insert (d : Dump) (bean : String) (attributes : Attributes) : Dump :=
  ⟨d.beans.insert bean attributes⟩

/-- The beans whose identifiers satisfy `p`. -/
def filterBeans (d : Dump) (p : String → Bool) : Dump := ⟨d.beans.filter fun bean _ => p bean⟩

def ofDomain (d : Dump) (domain : String) : Dump :=
  d.filterBeans fun bean => BeanName.domainOf bean == domain

end Dump

end BeanGauge
