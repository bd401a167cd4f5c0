import BeanGauge.Config.Basic
/-!
Writing configurations. Passwords are never written; a setting that says nothing is left away.
-/

namespace BeanGauge

/-- A member that is left away when there is no value. -/
def Json.optionalMember {α : Type} (name : String) (write : α → Json) (value : Option α) :
    List (String × Json) := value.toList.map fun a => (name, write a)

/-- A member that is left away when the list is empty. -/
def Json.listMember {α : Type} (name : String) (write : α → Json) (items : List α) :
    List (String × Json) :=
  if items.isEmpty then [] else [(name, .array (items.map write))]

def Alias.toJson (a : Alias) : Json :=
  .object (Json.optionalMember "alias" .string a.newName
    ++ Json.optionalMember "metric_type" (fun k => .string k.text) a.kind)

/-- The patterns of a field as they are written. -/
def FilterValue.toJson : FilterValue → Json
  | .one p => .string p
  | .many ps => Json.strings ps
  | .aliased names => .object (names.entries.map fun e => (e.1, Json.ofOption Alias.toJson e.2))

/-- The fields of a filter as they are written. -/
def FilterSpec.fieldsToJson (fields : Dict String FilterValue) : Json :=
  .object (fields.entries.map fun e => (e.1, e.2.toJson))

def FilterSpec.toJson (f : FilterSpec) : Json :=
  .object (("include", fieldsToJson f.includes)
    :: if f.excludes.isEmpty then [] else [("exclude", fieldsToJson f.excludes)])

def Jvm.Collector.toJson (c : Jvm.Collector) : Json :=
  .object [("name", .string c.name), ("alias", .string c.label)]

def InstanceConfig.toJson (i : InstanceConfig) : Json :=
  .object ([("host", .string i.host), ("port", .int i.port.toNat)]
    ++ Json.optionalMember "user" .string i.user
    ++ Json.optionalMember "name" .string i.name
    ++ Json.listMember "tags" .string i.tags
    ++ Json.optionalMember "domains" Json.strings i.domains
    ++ Json.listMember "exclude_attributes" .string i.excluded
    ++ Json.optionalMember "jvm_collectors"
      (fun cs => .array (cs.map Jvm.Collector.toJson)) i.collectors
    ++ Json.listMember "conf" FilterSpec.toJson i.filters)

def CheckConfig.toJson (c : CheckConfig) : Json :=
  .object [("integration", .string c.integration),
    ("instances", .array (c.instances.map InstanceConfig.toJson))]

def LauncherConfig.toJson (l : LauncherConfig) : Json :=
  .object [("program", .string l.program), ("args", Json.strings l.args),
    ("connect_timeout_ms", .int l.connectTimeout.toNat),
    ("dump_timeout_ms", .int l.dumpTimeout.toNat)]

def ServerConfig.toJson (s : ServerConfig) : Json :=
  .object [("port", .int s.port.toNat), ("path", .string s.path),
    ("bind_address", .string s.bindAddress)]

def Config.toJson (c : Config) : Json :=
  .object [("launcher", c.launcher.toJson), ("server", c.server.toJson),
    ("checks", .array (c.checks.map CheckConfig.toJson))]

end BeanGauge
