import BeanGauge.Catalog
import BeanGauge.Sink
/-!
The standard measurements of a virtual machine: threads, memory and garbage collectors.

Each is looked up among the numeric leaves of the `java.lang` beans and has to be there exactly
once. All of them are looked up before any is emitted.
-/

namespace BeanGauge.Jvm

structure Collector where
  name : String
  label : String
  deriving DecidableEq

/-- The collectors that are looked for when none are configured. -/
def defaultCollectors : List Collector :=
  [⟨"ParNew", "parnew"⟩, ⟨"ConcurrentMarkSweep", "cms"⟩]

def domain : String := "java.lang"

structure Lookup where
  sample : String
  leaf : String
  tags : List (String × String)
  deriving DecidableEq

def Collector.lookups (c : Collector) : List Lookup :=
  let tags := [("type", "GarbageCollector"), ("name", c.name)]
  [⟨"jvm.gc." ++ c.label ++ ".count", "CollectionCount", tags⟩,
    ⟨"jvm.gc." ++ c.label ++ ".time", "CollectionTime", tags⟩]

/-- All lookups in the order of their samples. -/
def lookups (collectors : List Collector) : List Lookup :=
  [⟨"jvm.thread_count", "ThreadCount", [("type", "Threading")]⟩,
    ⟨"jvm.heap_memory", "HeapMemoryUsage.used", [("type", "Memory")]⟩,
    ⟨"jvm.non_heap_memory", "NonHeapMemoryUsage.used", [("type", "Memory")]⟩]
  ++ collectors.flatMap Collector.lookups

/-- A lookup that did not find exactly one leaf. -/
inductive Error where
  | missing (bean leaf : String)
  | ambiguous (bean leaf : String) (count : Nat)
  deriving DecidableEq

def Error.message : Error → String
  | .missing bean leaf => s!"Well-known JVM bean missing: {bean} attribute {leaf}"
  | .ambiguous bean leaf count =>
    s!"Well-known JVM bean ambiguous: {bean} attribute {leaf} matched {count} metrics"

def Lookup.bean (l : Lookup) : String :=
  domain ++ ":" ++ ",".intercalate (l.tags.map fun t => t.1 ++ "=" ++ t.2)

/-- The sample of a lookup with the given tags before those of the bean. -/
def Lookup.sampleFrom (l : Lookup) (c : Catalog) (tags : List String) : Except Error Sample :=
  match c.find { leaf := some l.leaf, tags := l.tags } with
  | [m] => .ok ⟨l.sample, m.value, tags ++ m.tagList, none, .gauge⟩
  | [] => .error (.missing l.bean l.leaf)
  | found => .error (.ambiguous l.bean l.leaf found.length)

/-- The catalog of the standard beans of a dump. -/
def catalog (d : Dump) : Catalog :=
  Catalog.build (MetricFactory.plain Metric.defaultPrefix) (d.ofDomain domain)

/-- The samples of all lookups, and the standard beans whose identifiers are malformed. -/
def extract (d : Dump) (tags : List String) (collectors : List Collector) :
    Except Error (List Sample × List BeanName.Malformed) := do
  let c := catalog d
  let samples ← (lookups collectors).mapM fun l => l.sampleFrom c tags
  pure (samples, c.rejected)

end BeanGauge.Jvm
