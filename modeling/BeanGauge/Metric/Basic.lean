import BeanGauge.BeanName
import BeanGauge.Metric.Name
import BeanGauge.Number.Text
import BeanGauge.Text.Debug
/-!
Metrics: one numeric leaf of a bean together with what has been decided about it: its name, kind and
device, and whether it is sent at all.
-/

namespace BeanGauge

/-- Whether a metric is a current value or a growing count. -/
inductive MetricKind where
  | gauge
  | counter
  deriving DecidableEq, Inhabited

def MetricKind.text : MetricKind → String
  | .gauge => "gauge"
  | .counter => "counter"

def MetricKind.ofText? (s : String) : Option MetricKind :=
  if s = "gauge" then some .gauge else if s = "counter" then some .counter else none

structure Metric where
  domain : String
  /-- The identifier of the bean as it was given. -/
  bean : String
  /-- The attribute, or the attribute and the member of it, joined by a dot. -/
  leaf : String
  value : Float
  tags : Tags
  /-- What default names start with. -/
  namePrefix : String
  /-- The name that replaces the default one. -/
  nameOverride : Option String
  kind : MetricKind
  device : Option String
  send : Bool

namespace Metric

/-- What default names start with when nothing else is said. -/
def defaultPrefix : String := "jmx"

/-- The metric of a leaf before any decision: a gauge with its default name, to be sent. -/
def ofLeaf (bean leaf : String) (value : Float) : Except BeanName.Malformed Metric := do
  let name ← BeanName.parse bean
  pure
    { domain := name.domain, bean, leaf, value, tags := name.tags
      namePrefix := defaultPrefix, nameOverride := none, kind := .gauge, device := none
      send := true }

/-- The name made of the start, the domain and the leaf. -/
def defaultName (m : Metric) : String :=
  normalize (m.namePrefix ++ "." ++ m.domain ++ "." ++ m.leaf)

def name (m : Metric) : String := m.nameOverride.getD m.defaultName

def tag? (m : Metric) (key : String) : Option String := m.tags.get? key

/-- The tags as `key:value`, by key. -/
def tagList (m : Metric) : List String := m.tags.entries.map fun t => t.1 ++ ":" ++ t.2

/-- Drops the tags with one of the keys or one of the values. -/
def dropTags (m : Metric) (keys values : List String) : Metric :=
  { m with tags := m.tags.filter fun k v => !keys.contains k && !values.contains v }

def snakeLeaf (m : Metric) : Metric := { m with leaf := camelToSnake m.leaf }

/-- Quoted keys and values between braces. -/
def debugTags (tags : Tags) : String :=
  "\x7b" ++ ", ".intercalate (tags.entries.map fun t => Text.debug t.1 ++ ": " ++ Text.debug t.2)
    ++ "\x7d"

def display (m : Metric) : String :=
  "domain:" ++ m.domain ++ ", bean_name:" ++ m.bean ++ ", " ++ m.leaf ++ "="
    ++ Number.plainStyle.write m.value ++ " tags=" ++ debugTags m.tags

end Metric

end BeanGauge
