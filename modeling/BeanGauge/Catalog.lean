import BeanGauge.Dump
import BeanGauge.Metric.Basic
/-!
Catalogs: the numeric leaves of a dump as metrics, bean by bean.

A bean whose identifier is malformed contributes no metric; if it has a numeric leaf, its error is
kept beside the metrics.
-/

namespace BeanGauge

structure MetricFactory where
  /-- The metric of a bean, a leaf name and a value. -/
  wrap : String → String → Float → Except BeanName.Malformed Metric
  /-- Whether texts that spell numbers count as numbers. -/
  coerce : Bool

/-- The factory that decides nothing but what default names start with. -/
def MetricFactory.plain (namePrefix : String) : MetricFactory where
  wrap bean leaf value := (Metric.ofLeaf bean leaf value).map ({ · with namePrefix })
  coerce := false

/-- What to look for in a catalog; everything that is set has to agree. -/
structure MetricQuery where
  domain : Option String := none
  leaf : Option String := none
  bean : Option String := none
  tags : List (String × String) := []

/-- Whether the metric has all that the query asks for. -/
def MetricQuery.accepts (q : MetricQuery) (m : Metric) : Bool :=
  q.domain.all (m.domain == ·) && q.leaf.all (m.leaf == ·) && q.bean.all (m.bean == ·)
    && q.tags.all fun t => m.tag? t.1 == some t.2

/-- Metrics in the order of their beans and leaves, and the beans that were given up. -/
structure Catalog where
  metrics : List Metric
  rejected : List BeanName.Malformed

namespace Catalog

instance : Append Catalog := ⟨fun a b => ⟨a.metrics ++ b.metrics, a.rejected ++ b.rejected⟩⟩

/-- The leaves of a bean in the order of its attributes. -/
def beanLeaves (coerce : Bool) (attributes : Attributes) : List (String × Float) :=
  attributes.entries.flatMap fun a => a.2.leaves coerce a.1

/-- What the leaves of a bean contribute. The first one that is refused gives the bean up, but the
metrics before it stay. -/
def ofLeaves (f : MetricFactory) (bean : String) : List (String × Float) → Catalog
  | [] => ⟨[], []⟩
  | l :: leaves =>
    match f.wrap bean l.1 l.2 with
    | .ok m => ⟨[m], []⟩ ++ ofLeaves f bean leaves
    | .error e => ⟨[], [e]⟩

def ofBean (f : MetricFactory) (bean : String × Attributes) : Catalog :=
  ofLeaves f bean.1 (beanLeaves f.coerce bean.2)

def build (f : MetricFactory) (d : Dump) : Catalog :=
  d.beans.entries.foldr (fun bean rest => ofBean f bean ++ rest) ⟨[], []⟩

/-- The metrics that answer a query, in order. -/
def find (c : Catalog) (q : MetricQuery) : List Metric := c.metrics.filter q.accepts

end Catalog

end BeanGauge
