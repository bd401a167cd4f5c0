import BeanGauge.Config.Basic
import BeanGauge.Config.Tree
/-!
Reading configurations.

A missing setting has its default if it has one, unknown settings are passed over, and anything of
the wrong type refuses the whole configuration. Null stands for a missing value only where a value
may be missing.
-/

namespace BeanGauge

/-- Where a tree comes from. In JSON a record may also be written as the list of its settings. -/
inductive Origin where
  | json
  | yaml
  deriving DecidableEq

namespace Tree

/-- A text; an unquoted scalar is one whatever it spells. -/
def asText : Tree → Option String
  | .text s => some s
  | .plain s _ => some s
  | _ => none

/-- A value that may be missing. An unquoted scalar that spells null is missing, but under a tag
that is not the one of null it is a value. -/
def asOptional {α : Type} (read : Tree → Option α) : Tree → Option (Option α)
  | .null => some none
  | .plain s none =>
    if Yaml.spellsNull s then some none else (read (.plain s none)).map some
  | .plain s (some tag) =>
    if tag == Yaml.standardTag "null" then
      if Yaml.spellsNull s && s != "" then some none else none
    else (read (.plain s (some tag))).map some
  | t => (read t).map some

/-- A whole number from 0 to `max`. -/
def asNat (max : Nat) : Tree → Option Nat
  | .int n => if 0 ≤ n ∧ n ≤ max then some n.toNat else none
  | .plain s _ => (Yaml.spelledNat? s).filter (· ≤ max)
  | _ => none

def asPort (t : Tree) : Option UInt16 := (t.asNat (UInt16.size - 1)).map UInt16.ofNat

def asMillis (t : Tree) : Option UInt64 := (t.asNat (UInt64.size - 1)).map UInt64.ofNat

/-- A list; nothing at all is an empty one. -/
def asList {α : Type} (read : Tree → Option α) : Tree → Option (List α)
  | .list items => items.mapM read
  | .plain s _ => if s = "" then some [] else none
  | _ => none

/-- A dictionary; of several rows with one key the last counts. -/
def asDict {α : Type} (read : Tree → Option α) : Tree → Option (Dict String α)
  | .table rows => do
    let entries ← rows.mapM fun r => do
      let key ← r.1.asText
      let value ← read r.2
      pure (key, value)
    pure (Dict.ofList entries)
  | .plain s _ => if s = "" then some ∅ else none
  | _ => none

/-- The only value of a key; two of them are refused. -/
def onlyRow (rows : List (String × Tree)) (key : String) : Option (Option Tree) :=
  match rows.filter (·.1 == key) with
  | [] => some none
  | [r] => some (some r.2)
  | _ => none

/-- The settings of a record in the order of their names. -/
def asRecord (origin : Origin) (names : List String) : Tree → Option (List (Option Tree))
  | .table rows => do
    let rows ← rows.mapM fun r => r.1.asText.map fun key => (key, r.2)
    names.mapM (onlyRow rows)
  | .list items =>
    if origin = .json ∧ items.length ≤ names.length then
      some (items.map some ++ List.replicate (names.length - items.length) none)
    else none
  | .plain s _ => if s = "" then some (names.map fun _ => none) else none
  | _ => none

def required {α : Type} (read : Tree → Option α) (t : Option Tree) : Option α := t.bind read

def orDefault {α : Type} (read : Tree → Option α) (default : α) : Option Tree → Option α
  | none => some default
  | some t => read t

/-- A kind of metric, by its word or as a record with nothing but the word. -/
def asKind : Tree → Option MetricKind
  | .text s => MetricKind.ofText? s
  | .table [(.text s, .null)] => MetricKind.ofText? s
  | _ => none

/-- A new name, of a tree whose types are decided. -/
def asAlias (t : Tree) : Option Alias := do
  match ← t.asRecord .json ["alias", "metric_type"] with
  | [name, kind] =>
    let newName ← orDefault (asOptional asText) none name
    let kind ← orDefault (asOptional asKind) none kind
    pure ⟨newName, kind⟩
  | _ => none

/-- The patterns of a field. Here spelling decides: only texts are patterns. -/
def asFilterValue (t : Tree) : Option FilterValue :=
  match t.resolved with
  | .text s => some (.one s)
  | .list items => (items.mapM asText).map .many
  | .table rows => (asDict (asOptional asAlias) (.table rows)).map .aliased
  | _ => none

def asFilter (origin : Origin) (t : Tree) : Option FilterSpec := do
  match ← t.asRecord origin ["include", "exclude"] with
  | [includes, excludes] =>
    let includes ← orDefault (asDict asFilterValue) ∅ includes
    let excludes ← orDefault (asDict asFilterValue) ∅ excludes
    pure ⟨includes, excludes⟩
  | _ => none

def asFilters (origin : Origin) : Tree → Option (List FilterSpec) := asList (asFilter origin)

def asCollector (origin : Origin) (t : Tree) : Option Jvm.Collector := do
  match ← t.asRecord origin ["name", "alias"] with
  | [name, label] => pure ⟨← required asText name, ← required asText label⟩
  | _ => none

def asCollectors (origin : Origin) : Tree → Option (List Jvm.Collector) :=
  asList (asCollector origin)

def asInstance (origin : Origin) (t : Tree) : Option InstanceConfig := do
  match ← t.asRecord origin ["host", "port", "user", "password", "name", "tags", "domains",
      "exclude_attributes", "jvm_collectors", "conf"] with
  | [host, port, user, password, name, tags, domains, excluded, collectors, filters] =>
    let texts := asList asText
    pure
      { host := ← required asText host
        port := ← required asPort port
        user := ← orDefault (asOptional asText) none user
        password := ← orDefault (asOptional asText) none password
        name := ← orDefault (asOptional asText) none name
        tags := ← orDefault texts [] tags
        domains := ← orDefault (asOptional texts) none domains
        excluded := ← orDefault texts [] excluded
        collectors := ← orDefault (asOptional (asCollectors origin)) none collectors
        filters := ← orDefault (asFilters origin) [] filters }
  | _ => none

def asCheck (origin : Origin) (t : Tree) : Option CheckConfig := do
  match ← t.asRecord origin ["integration", "instances"] with
  | [integration, instances] =>
    pure ⟨← required asText integration, ← orDefault (asList (asInstance origin)) [] instances⟩
  | _ => none

def asLauncher (origin : Origin) (t : Tree) : Option LauncherConfig := do
  let d := LauncherConfig.default
  match ← t.asRecord origin ["program", "args", "connect_timeout_ms", "dump_timeout_ms"] with
  | [program, args, connectTimeout, dumpTimeout] =>
    pure ⟨← orDefault asText d.program program, ← orDefault (asList asText) d.args args,
      ← orDefault asMillis d.connectTimeout connectTimeout,
      ← orDefault asMillis d.dumpTimeout dumpTimeout⟩
  | _ => none

def asServer (origin : Origin) (t : Tree) : Option ServerConfig := do
  let d := ServerConfig.default
  match ← t.asRecord origin ["port", "path", "bind_address"] with
  | [port, path, bindAddress] =>
    pure ⟨← orDefault asPort d.port port, ← orDefault asText d.path path,
      ← orDefault asText d.bindAddress bindAddress⟩
  | _ => none

end Tree

def Config.ofTree (origin : Origin) (t : Tree) : Option Config := do
  match ← t.asRecord origin ["launcher", "server", "checks"] with
  | [launcher, server, checks] =>
    pure ⟨← Tree.orDefault (Tree.asLauncher origin) .default launcher,
      ← Tree.orDefault (Tree.asServer origin) .default server,
      ← Tree.orDefault (Tree.asList (Tree.asCheck origin)) [] checks⟩
  | _ => none

def Config.ofJson (j : Json) : Option Config := Config.ofTree .json (Tree.ofJson j)

def Config.ofYaml (s : String) : Option Config :=
  (Yaml.Node.parse s).bind fun n => Config.ofTree .yaml (Tree.ofYaml n)

end BeanGauge
