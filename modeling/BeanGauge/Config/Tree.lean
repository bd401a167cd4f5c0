import BeanGauge.Json.Basic
import BeanGauge.Yaml.Node
import BeanGauge.Yaml.Spelling
/-!
Settings as they are written down, before it is known what each of them has to be.

An unquoted scalar of a YAML text has no type of its own: where a text is asked for it is one, and
elsewhere its tag decides, or its spelling if it has none. Everything else says what it is.
-/

namespace BeanGauge

/-- A value as it is written down. -/
inductive Tree where
  | null
  | bool (b : Bool)
  | int (n : Int)
  | float (x : Float)
  | text (s : String)
  /-- An unquoted scalar with its tag. -/
  | plain (s : String) (tag : Option String)
  | list (items : List Tree)
  | table (rows : List (Tree × Tree))
  deriving Inhabited

namespace Tree

mutual

def ofJson : Json → Tree
  | .null => .null
  | .bool b => .bool b
  | .int n => .int n
  | .float x => .float x
  | .string s => .text s
  | .array items => .list (ofItems items)
  | .object members => .table (ofMembers members)

def ofItems : List Json → List Tree
  | [] => []
  | j :: js => ofJson j :: ofItems js

/-- The trees of the members of an object. -/
def ofMembers : List (String × Json) → List (Tree × Tree)
  | [] => []
  | (name, j) :: ms => (.text name, ofJson j) :: ofMembers ms

end

mutual

/-- The tree of a node. A quoted scalar is a text. Nothing asks for a truth value, so a node without
end, which nothing can be read from, counts as one. -/
def ofYaml : Yaml.Node → Tree
  | .scalar s isPlain tag => if isPlain then .plain s tag else .text s
  | .sequence items => .list (ofNodes items)
  | .mapping rows => .table (ofRows rows)
  | .endless => .bool false

/-- The trees of the items of a sequence. -/
def ofNodes : List Yaml.Node → List Tree
  | [] => []
  | n :: ns => ofYaml n :: ofNodes ns

def ofRows : List (Yaml.Node × Yaml.Node) → List (Tree × Tree)
  | [] => []
  | (k, n) :: rows => (ofYaml k, ofYaml n) :: ofRows rows

end

/-- An unquoted scalar with the type that its spelling gives it. -/
def ofSpelling (s : String) : Tree :=
  if Yaml.spellsNull s then .null
  else match Yaml.spelledBool? s with
    | some b => .bool b
    | none =>
      match Yaml.spelledInt? s with
      | some n => .int n
      | none => if Yaml.spellsFloat s then .float 0.0 else .text s

/-- Whether a tag is one that a document makes up, or that of a truth value or a number. -/
def isForeignTag (tag : String) : Bool :=
  tag.startsWith "!" || ["bool", "int", "float"].any fun kind => tag == Yaml.standardTag kind

/-- An unquoted scalar with the type that its tag gives it, or else its spelling. Nothing asks for a
scalar with a foreign tag, so it counts as a truth value. -/
def ofScalar (s : String) : Option String → Tree
  | none => ofSpelling s
  | some tag =>
    if isForeignTag tag then .bool false
    else if tag == Yaml.standardTag "null" then .null
    else .text s

mutual

/-- The tree in which the type of every unquoted scalar is decided. -/
def resolved : Tree → Tree
  | .plain s tag => ofScalar s tag
  | .list items => .list (resolvedItems items)
  | .table rows => .table (resolvedRows rows)
  | t => t

/-- The items of a list with their types decided. -/
def resolvedItems : List Tree → List Tree
  | [] => []
  | t :: ts => resolved t :: resolvedItems ts

/-- The rows of a table with their types decided. -/
def resolvedRows : List (Tree × Tree) → List (Tree × Tree)
  | [] => []
  | (k, t) :: rows => (resolved k, resolved t) :: resolvedRows rows

end

end Tree

end BeanGauge
