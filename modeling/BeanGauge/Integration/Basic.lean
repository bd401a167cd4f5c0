import BeanGauge.Catalog
import BeanGauge.Filter.Basic
import BeanGauge.Integration.Allow
/-!
Integrations: what is read from a kind of server, and what its metrics are called, which device they
belong to and whether they are sent.

Three integrations send what an allow list names. One sends all of its domains but a few attributes
and one keyspace. The generic one reads every domain and leaves the choice to filters.
-/

namespace BeanGauge

inductive Integration where
  | activemq
  | cassandra
  | jmx (filters : List Filter)
  | solr
  | tomcat
  deriving DecidableEq

/-- How a domain is compared with a wanted one. -/
inductive DomainMatch where
  | exact
  | contains
  deriving DecidableEq

/-- Whether `needle` occurs in `cs`. -/
def DomainMatch.occursIn (needle : List Char) : List Char → Bool
  | [] => needle.isEmpty
  | c :: cs => needle.isPrefixOf (c :: cs) || occursIn needle cs

/-- Whether `domain` is wanted by an entry of a domain list. -/
def DomainMatch.accepts (m : DomainMatch) (domain wanted : String) : Bool :=
  match m with
  | .exact => domain == wanted
  | .contains => occursIn wanted.toList domain.toList

namespace Integration

/-- Why there is no integration for a configured check. -/
inductive Error where
  | unknown (name : String)
  | invalidFilter (detail : String)
  deriving DecidableEq

def Error.message : Error → String
  | .unknown name => s!"Unknown integration '{name}'"
  | .invalidFilter detail => s!"Invalid conf filter: {detail}"

def knownNames : List String := ["activemq", "cassandra", "jmx", "solr", "tomcat"]

/-- The integration of a name; only the generic one looks at the filters. -/
def build [Regex.Builder] (name : String) (specs : List FilterSpec) : Except Error Integration :=
  if name = "activemq" then .ok .activemq
  else if name = "cassandra" then .ok .cassandra
  else if name = "jmx" then
    ((specs.mapM Filter.compile).map .jmx).mapError .invalidFilter
  else if name = "solr" then .ok .solr
  else if name = "tomcat" then .ok .tomcat
  else .error (.unknown name)

/-- The name of an integration, which its default metric names and its service check start with. -/
def name : Integration → String
  | .activemq => "activemq"
  | .cassandra => "cassandra"
  | .jmx _ => "jmx"
  | .solr => "solr"
  | .tomcat => "tomcat"

/-- The domains that are read; nothing stands for all of them. -/
def domains : Integration → Option (List String)
  | .activemq => some ["org.apache.activemq"]
  | .cassandra =>
    some ["org.apache.cassandra.db", "org.apache.cassandra.internal", "org.apache.cassandra.net"]
  | .jmx _ => none
  | .solr => some ["solr"]
  | .tomcat => some ["Catalina"]

/-- How domains are compared. The domain of a Solr server depends on its version and core. -/
def domainMatch : Integration → DomainMatch
  | .solr => .contains
  | _ => .exact

/-- Whether texts that spell numbers count as numbers. A Solr server reports every attribute as a
text. -/
def coerce : Integration → Bool
  | .solr => true
  | _ => false

/-- The allow list of an integration that has one. -/
def allowRules : Integration → Option (List AllowRule)
  | .activemq => some AllowRule.activemq
  | .solr => some AllowRule.solr
  | .tomcat => some AllowRule.tomcat
  | _ => none

/-- The attributes of a Cassandra server that are settings rather than measurements. -/
def deniedLeaves : List String :=
  ["MinimumCompactionThreshold", "MaximumCompactionThreshold", "RowCacheKeysToSave",
    "KeyCacheSavePeriodInSeconds", "RowCacheSavePeriodInSeconds", "PendingTasks", "Scores",
    "RpcTimeout", "Token"]

/-- The tag of a Cassandra server's own tables. -/
def deniedNamespace : String × String := ("keyspace", "system")

/-- Whether a leaf of a Cassandra server is left out. -/
def denies (m : Metric) : Bool :=
  deniedLeaves.contains m.leaf || m.tag? deniedNamespace.1 == some deniedNamespace.2

/-- Mends a metric before anything is decided. The `instance` tag of a Cassandra bean is an object
hash that changes from one process to the next. -/
def prepare : Integration → Metric → Metric
  | .cassandra, m => m.dropTags ["instance"] []
  | _, m => m

/-- What the domain of a Cassandra metric starts with. -/
def cassandraDomain : String := "org.apache.cassandra."

def withoutStart (start s : String) : String :=
  if start.toList.isPrefixOf s.toList then String.ofList (s.toList.drop start.length) else s

/-- The name and kind an integration gives to a metric; nothing leaves it a gauge with its default
name. -/
def naming (i : Integration) (m : Metric) : Option (String × MetricKind) :=
  match i with
  | .cassandra =>
    some (Metric.normalize ("cassandra." ++ withoutStart cassandraDomain m.domain ++ "." ++ m.leaf),
      .gauge)
  | .jmx filters =>
    ((filters.filter (·.accepts m)).findSome? (·.aliases.get? m.leaf)).map fun a =>
      (a.newName.getD m.defaultName, a.kind.getD .gauge)
  | .activemq => (AllowRule.lookup? AllowRule.activemq m).map fun r => (r.name, r.kind)
  | .solr => (AllowRule.lookup? AllowRule.solr m).map fun r => (r.name, r.kind)
  | .tomcat => (AllowRule.lookup? AllowRule.tomcat m).map fun r => (r.name, r.kind)

/-- The values of all the tags, joined by colons; nothing when one is missing. -/
def joinedTags (m : Metric) (keys : List String) : Option String :=
  (keys.mapM m.tag?).map fun values => ":".intercalate values

/-- The device a metric belongs to. -/
def device (i : Integration) (m : Metric) : Option String :=
  match i with
  | .activemq => joinedTags m ["BrokerName", "Destination"] <|> m.tag? "BrokerName"
  | .cassandra => joinedTags m ["keyspace", "columnfamily"] <|> m.tag? "keyspace"
  | .jmx _ => none
  | .solr => (m.tag? "type").filter (· != "searcher")
  | .tomcat =>
    if m.tag? "j2eeType" = some "Servlet" then
      joinedTags m ["J2EEApplication", "J2EEServer", "WebModule", "name"]
    else match m.tag? "type" with
      | some kind =>
        if kind = "ThreadPool" ∨ kind = "GlobalRequestProcessor" then m.tag? "name"
        else if kind = "Cache" then joinedTags m ["host", "path"]
        else if kind = "JspMonitor" then joinedTags m ["J2EEApplication", "J2EEServer", "WebModule"]
        else none
      | none => none

/-- Whether the integration sends a metric. -/
def includes (i : Integration) (m : Metric) : Bool :=
  match i with
  | .activemq => (AllowRule.lookup? AllowRule.activemq m).isSome
  | .cassandra => !denies m
  | .jmx filters => filters.isEmpty || filters.any (·.accepts m)
  | .solr => (AllowRule.lookup? AllowRule.solr m).isSome
  | .tomcat => (AllowRule.lookup? AllowRule.tomcat m).isSome

end Integration

/-- The metric of a leaf with all decisions of an integration; excluded leaves are never sent. -/
def Integration.wrap (i : Integration) (excluded : List String) (bean leaf : String)
    (value : Float) : Except BeanName.Malformed Metric := do
  let m ← Metric.ofLeaf bean leaf value
  let m := i.prepare { m with namePrefix := i.name }
  let m := match i.naming m with
    | some (name, kind) => { m with nameOverride := some name, kind }
    | none => m
  let m := { m with device := i.device m }
  pure { m with send := !excluded.contains m.leaf && i.includes m }

/-- The factory of an integration for one instance. -/
def Integration.factory (i : Integration) (excluded : List String) : MetricFactory where
  wrap := i.wrap excluded
  coerce := i.coerce

end BeanGauge
