import BeanGauge.Config.Basic
/-!
Checked instances: a configured virtual machine with its integration, and what a dump of it
yields.

The samples of a dump are the standard ones of the virtual machine, then those of the integration's
catalog. All of them carry a tag with the name of the instance.
-/

namespace BeanGauge

/-- The beans of a dump whose domain is wanted; without a list all of them are. -/
def Dump.keepDomains (d : Dump) (domains : Option (List String)) (m : DomainMatch) : Dump :=
  match domains with
  | none => d
  | some domains => d.filterBeans fun bean => domains.any (m.accepts (BeanName.domainOf bean))

structure CheckInstance where
  config : InstanceConfig
  integration : Integration
  deriving DecidableEq

namespace CheckInstance

/-- The domains that are read, in order and without repetitions: those of the integration and those
of the configuration. Without either all domains are read. -/
def domains (i : CheckInstance) : Option (List String) :=
  match i.integration.domains, i.config.domains with
  | none, none => none
  | base, extra =>
    some (Dict.ofList ((base.getD [] ++ extra.getD []).map fun d => (d, ()))).keys

def name (i : CheckInstance) : String := i.config.nameFor i.integration.name

/-- The tags of every sample: the name of the instance, and what the configuration adds. -/
def tags (i : CheckInstance) : List String := ("instance:" ++ i.name) :: i.config.tags

def serviceTags (i : CheckInstance) : List String :=
  ["host:" ++ i.config.host, "port:" ++ toString i.config.port.toNat, "instance:" ++ i.name]

def serviceCheckName (i : CheckInstance) : String := i.integration.name ++ ".can_connect"

/-- The service check of a cycle, with the text of its error if it failed. -/
def serviceCheck (i : CheckInstance) (failure : Option String) : ServiceCheck :=
  ⟨i.serviceCheckName, if failure.isSome then .critical else .ok, i.serviceTags, failure⟩

/-- The metrics of the integration in a dump. -/
def catalog (i : CheckInstance) (d : Dump) : Catalog :=
  Catalog.build (i.integration.factory i.config.excluded)
    (d.keepDomains i.domains i.integration.domainMatch)

def sampleOf (i : CheckInstance) (m : Metric) : Sample :=
  ⟨m.name, m.value, i.tags ++ m.tagList, m.device, m.kind⟩

def samples (i : CheckInstance) (d : Dump) : Except Jvm.Error (List Sample) := do
  let (standard, _) ← Jvm.extract d i.tags i.config.collectorList
  pure (standard ++ ((i.catalog d).metrics.filter (·.send)).map i.sampleOf)

end CheckInstance

end BeanGauge
