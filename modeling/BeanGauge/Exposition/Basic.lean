import BeanGauge.Sink
import BeanGauge.Text.Split
/-!
Expositions: samples, service checks and own counts as lines of a name, labels and a value.

A name keeps ASCII letters, digits, underscores and colons, a label key the same without colons; all
else becomes an underscore, and one more is put before a leading digit.
-/

namespace BeanGauge

structure Exposition where
  name : String
  kind : MetricKind
  help : Option String
  labels : Dict String String
  value : Float

namespace Exposition

/-- Whether a character may stand in a name; colons only where `colons` says so. -/
def keeps (colons : Bool) (c : Char) : Bool :=
  Metric.isLetter c || Metric.isDigit c || c == '_' || (colons && c == ':')

/-- The characters of a text as those of a name. -/
def sanitizeChars (colons : Bool) (cs : List Char) : List Char :=
  let body := cs.map fun c => if keeps colons c then c else '_'
  match cs with
  | [] => ['_']
  | c :: _ => if Metric.isDigit c then '_' :: body else body

/-- The text as a metric name. -/
def sanitizeName (s : String) : String := String.ofList (sanitizeChars true s.toList)

/-- The text as a label key. -/
def sanitizeLabel (s : String) : String := String.ofList (sanitizeChars false s.toList)

def ofValue (name : String) (value : Float) : Exposition :=
  ⟨sanitizeName name, .gauge, none, ∅, value⟩

/-- Gives a label its value, in place of an earlier one. -/
def withLabel (e : Exposition) (key value : String) : Exposition :=
  { e with labels := e.labels.insert (sanitizeLabel key) value }

/-- The key and the value of a tag: what stands before and after the first colon; a tag without a
colon has the value `true`. -/
def splitTag (tag : String) : String × String :=
  match Text.splitOnce ':' tag.toList with
  | some (key, value) => (String.ofList key, String.ofList value)
  | none => (tag, "true")

/-- Turns tags into labels; of several tags with one key the last counts. -/
def withTags (e : Exposition) (tags : List String) : Exposition :=
  tags.foldl (fun e tag => e.withLabel (splitTag tag).1 (splitTag tag).2) e

/-- The line of a sample; the device is a label. -/
def ofSample (s : Sample) : Exposition :=
  let e := { ofValue s.name s.value with kind := s.kind }.withTags s.tags
  match s.device with
  | some device => e.withLabel "device" device
  | none => e

/-- The line of a service check: one if all is well, zero otherwise. -/
def ofServiceCheck (c : ServiceCheck) : Exposition :=
  let value := if c.status = .ok then 1.0 else 0.0
  ({ ofValue c.name value with help := some "Service check status (1 = OK)" }.withTags
    c.tags).withLabel "status" c.status.text

end Exposition

end BeanGauge
