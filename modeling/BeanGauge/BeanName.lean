import BeanGauge.Dict
import BeanGauge.Text.Blank
import BeanGauge.Text.Split
/-!
Bean identifiers, `domain:key=value,key=value`.

The text before the first colon is the domain. The rest is cut at every comma, and each segment at
its first equals sign; keys and values lose the blanks around them, and of several segments with one
key the last counts. The tags of a name are held in key order, which is also the order of its
canonical text.
-/

namespace BeanGauge

abbrev Tags := Dict String String

structure BeanName where
  domain : String
  tags : Tags
  deriving DecidableEq

namespace BeanName

inductive Fault where
  | noColon
  | noEquals (segment : String)
  deriving DecidableEq

/-- The fault in the words of error messages. -/
def Fault.reason : Fault → String
  | .noColon => "missing ':' between domain and tags"
  | .noEquals segment => s!"tag segment '{segment}' has no '='"

structure Malformed where
  identifier : String
  fault : Fault
  deriving DecidableEq

def Malformed.message (e : Malformed) : String :=
  s!"Malformed bean identifier '{e.identifier}': {e.fault.reason}"

def tagOfSegment (segment : List Char) : Except Fault (String × String) :=
  match Text.splitOnce '=' segment with
  | none => .error (.noEquals (String.ofList segment))
  | some (key, value) =>
    .ok (String.ofList (Text.trimChars key), String.ofList (Text.trimChars value))

/-- The name an identifier spells, with the first fault otherwise. -/
def parseChars (identifier : List Char) : Except Fault BeanName :=
  match Text.splitOnce ':' identifier with
  | none => .error .noColon
  | some (domain, rest) => do
    let tags ← (Text.splitAll ',' rest).mapM tagOfSegment
    pure ⟨String.ofList domain, Dict.ofList tags⟩

def parse (identifier : String) : Except Malformed BeanName :=
  (parseChars identifier.toList).mapError fun fault => ⟨identifier, fault⟩

/-- The canonical identifier: tags by key, no blanks around them. -/
def canonical (b : BeanName) : String :=
  b.domain ++ ":" ++ ",".intercalate (b.tags.entries.map fun t => t.1 ++ "=" ++ t.2)

/-- The domain of an identifier: the text before the first colon, all of it when there is none. -/
def domainOf (identifier : String) : String :=
  match Text.splitOnce ':' identifier.toList with
  | none => identifier
  | some (domain, _) => String.ofList domain

end BeanName

end BeanGauge
