import BeanGauge.Filter.Pattern
import BeanGauge.Metric.Basic
/-!
Filters choose metrics by their fields and may rename the leaves they choose.

A filter accepts a metric when every field it includes has a value that matches one of the field's
patterns, and no field it excludes has one.
-/

namespace BeanGauge

structure Alias where
  newName : Option String
  kind : Option MetricKind
  deriving DecidableEq

/-- The patterns for one field as they are configured: one, several, or the keys of a table of new
names. -/
inductive FilterValue where
  | one (pattern : String)
  | many (patterns : List String)
  | aliased (names : Dict String (Option Alias))
  deriving DecidableEq

def FilterValue.patterns : FilterValue → List String
  | .one p => [p]
  | .many ps => ps
  | .aliased names => names.keys

structure FilterSpec where
  includes : Dict String FilterValue
  excludes : Dict String FilterValue
  deriving DecidableEq

inductive Field where
  | domain
  | bean
  | leaf
  | tag (key : String)
  deriving DecidableEq

/-- The field a key names; any key without a meaning of its own names a tag. -/
def Field.ofKey (key : String) : Field :=
  if key = "domain" then .domain
  else if key = "bean" ∨ key = "bean_name" then .bean
  else if key = "attribute" ∨ key = "attribute_name" then .leaf
  else .tag key

/-- The value of a field; a metric need not have every tag. -/
def Field.value? (f : Field) (m : Metric) : Option String :=
  match f with
  | .domain => some m.domain
  | .bean => some m.bean
  | .leaf => some m.leaf
  | .tag key => m.tag? key

structure Matcher where
  field : Field
  patterns : List Regex
  deriving DecidableEq

/-- Whether the field has a value that matches one of the patterns. -/
def Matcher.accepts (x : Matcher) (m : Metric) : Bool :=
  (x.field.value? m).any fun v => x.patterns.any (·.isMatch v)

structure Filter where
  includes : List Matcher
  excludes : List Matcher
  aliases : Dict String Alias
  deriving DecidableEq

namespace Filter

def compileField [Regex.Builder] (field : String × FilterValue) : Except String Matcher := do
  let patterns ← field.2.patterns.mapM Pattern.compile
  pure ⟨Field.ofKey field.1, patterns⟩

/-- The new names of a filter: those in the table under the key `attribute`. -/
def aliasesOf (spec : FilterSpec) : Dict String Alias :=
  match spec.includes.get? "attribute" with
  | some (.aliased names) =>
    Dict.ofList (names.entries.filterMap fun e => e.2.map fun a => (e.1, a))
  | _ => ∅

/-- The filter of a configured one, or what is wrong with its first bad pattern. -/
def compile [Regex.Builder] (spec : FilterSpec) : Except String Filter := do
  let includes ← spec.includes.entries.mapM compileField
  let excludes ← spec.excludes.entries.mapM compileField
  pure ⟨includes, excludes, aliasesOf spec⟩

/-- Whether the filter accepts the metric. -/
def accepts (f : Filter) (m : Metric) : Bool :=
  f.includes.all (·.accepts m) && !f.excludes.any (·.accepts m)

end Filter

end BeanGauge
