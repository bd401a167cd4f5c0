import BeanGauge.Endpoint
import BeanGauge.Integration.Basic
import BeanGauge.Jvm
/-!
Configurations: how consoles are launched, where the bridge is reached, and what is checked.
-/

namespace BeanGauge

structure LauncherConfig where
  program : String
  args : List String
  connectTimeout : UInt64
  dumpTimeout : UInt64
  deriving DecidableEq

structure ServerConfig where
  port : UInt16
  path : String
  bindAddress : String
  deriving DecidableEq

structure InstanceConfig where
  host : String
  port : UInt16
  user : Option String := none
  password : Option String := none
  name : Option String := none
  tags : List String := []
  /-- Domains read besides those of the integration. -/
  domains : Option (List String) := none
  /-- Attributes that are never sent. -/
  excluded : List String := []
  collectors : Option (List Jvm.Collector) := none
  filters : List FilterSpec := []
  deriving DecidableEq

structure CheckConfig where
  integration : String
  instances : List InstanceConfig
  deriving DecidableEq

structure Config where
  launcher : LauncherConfig
  server : ServerConfig
  checks : List CheckConfig
  deriving DecidableEq

/-- The launcher of a configuration that says nothing of it. -/
def LauncherConfig.default : LauncherConfig :=
  ⟨Launcher.default.program, Launcher.default.args, 20000, 30000⟩

/-- The server of a configuration that says nothing of it. -/
def ServerConfig.default : ServerConfig := ⟨9090, "/metrics", "0.0.0.0"⟩

def Config.default : Config := ⟨.default, .default, []⟩

def LauncherConfig.launcher (l : LauncherConfig) : Launcher := ⟨l.program, l.args⟩

namespace InstanceConfig

def endpoint (i : InstanceConfig) : Endpoint := ⟨i.host, i.port⟩

/-- Who connects to the instance; both parts are needed. -/
def credentials (i : InstanceConfig) : Option Credentials :=
  match i.user, i.password with
  | some user, some password => some ⟨user, password⟩
  | _, _ => none

/-- The name of the instance; unless it has one, it is made of the integration and the endpoint. -/
def nameFor (i : InstanceConfig) (integration : String) : String :=
  i.name.getD (integration ++ "-" ++ i.host ++ "-" ++ toString i.port.toNat)

def collectorList (i : InstanceConfig) : List Jvm.Collector :=
  i.collectors.getD Jvm.defaultCollectors

end InstanceConfig

def Config.instanceCount (c : Config) : Nat := (c.checks.flatMap (·.instances)).length

end BeanGauge
