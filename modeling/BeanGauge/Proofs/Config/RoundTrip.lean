import BeanGauge.Proofs.Config.Settings
/-!
# Reading a configuration that was written

The text of a configuration is read as that configuration without its passwords, which are all that
the text does not say.
-/

namespace BeanGauge

open BeanGauge.Tree BeanGauge.Json

/-! ## Filters -/

def Alias.settings (a : Alias) : List (String × Option Json) :=
  [("alias", a.newName.map .string), ("metric_type", a.kind.map fun k => .string k.text)]

theorem Alias.toJson_eq (a : Alias) : a.toJson = .object (Json.present a.settings) := by
  rw [toJson, Json.optionalMember_eq, Json.optionalMember_eq, ← Json.present_append]
  rfl

/-- A new name that is written is read again. -/
theorem Alias.asAlias_reread (a : Alias) : asAlias (reread a.toJson) = some a := by
  have hrecord := asRecord_reread .json a.settings (by simp [settings])
  rw [← a.toJson_eq] at hrecord
  simp only [settings, List.map_cons, List.map_nil] at hrecord
  have hname := orDefault_optional (fun _ => Json.noConfusion) asText_reread a.newName
  have hkind := orDefault_optional (fun _ => Json.noConfusion) asKind_reread a.kind
  rw [asAlias, hrecord]
  simp only [Option.bind_eq_bind, Option.bind_some, hname, hkind]
  rfl

theorem FilterValue.asFilterValue_reread (v : FilterValue) :
    asFilterValue (reread v.toJson) = some v := by
  rw [asFilterValue, reread, resolved_ofJson, ← reread]
  cases v with
  | one p => rfl
  | many ps =>
    have hlist := asList_reread_self asText_reread ps
    rw [reread_array, asList] at hlist
    rw [toJson, Json.strings, reread_array]
    show Option.map FilterValue.many (List.mapM asText _) = _
    rw [hlist]
    rfl
  | aliased names =>
    have hnull : ∀ a : Alias, a.toJson ≠ .null := by
      intro a
      rw [a.toJson_eq]
      exact Json.noConfusion
    have hdict := asDict_reread (asOptional_reread hnull Alias.asAlias_reread) names
    rw [reread_object] at hdict
    rw [toJson, reread_object]
    show Option.map FilterValue.aliased (asDict (asOptional asAlias) _) = _
    rw [hdict]
    rfl

theorem FilterSpec.asFields_reread (fields : Dict String FilterValue) :
    asDict asFilterValue (reread (fieldsToJson fields)) = some fields :=
  asDict_reread FilterValue.asFilterValue_reread fields

def FilterSpec.settings (f : FilterSpec) : List (String × Option Json) :=
  [("include", some (fieldsToJson f.includes)),
    ("exclude", if f.excludes.isEmpty then none else some (fieldsToJson f.excludes))]

theorem FilterSpec.toJson_eq (f : FilterSpec) :
    f.toJson = .object (Json.present f.settings) := by
  rw [toJson, settings]
  split <;> rfl

/-- A filter that is written is read again. -/
theorem FilterSpec.asFilter_reread (origin : Origin) (f : FilterSpec) :
    asFilter origin (reread f.toJson) = some f := by
  have hrecord := asRecord_reread origin f.settings (by simp [settings])
  rw [← f.toJson_eq] at hrecord
  simp only [settings, List.map_cons, List.map_nil] at hrecord
  have hincludes : orDefault (asDict asFilterValue) ∅
      ((some (fieldsToJson f.includes)).map reread) = some f.includes :=
    asFields_reread f.includes
  have hexcludes : orDefault (asDict asFilterValue) ∅
      ((if f.excludes.isEmpty then none else some (fieldsToJson f.excludes)).map reread) =
        some f.excludes := by
    split
    next hempty =>
      rw [Dict.isEmpty_iff.1 hempty]
      rfl
    next => exact asFields_reread f.excludes
  rw [asFilter, hrecord]
  simp only [Option.bind_eq_bind, Option.bind_some, hincludes, hexcludes]
  rfl

/-! ## Configurations -/

/-- The instance without its password. -/
def InstanceConfig.withoutPassword (i : InstanceConfig) : InstanceConfig :=
  { i with password := none }

/-- The check with no password in its instances. -/
def CheckConfig.withoutPasswords (c : CheckConfig) : CheckConfig :=
  { c with instances := c.instances.map InstanceConfig.withoutPassword }

/-- The configuration with no password in its instances. -/
def Config.withoutPasswords (c : Config) : Config :=
  { c with checks := c.checks.map CheckConfig.withoutPasswords }

theorem Jvm.Collector.asCollector_reread (origin : Origin) (c : Jvm.Collector) :
    asCollector origin (reread c.toJson) = some c := by
  have hrecord := asRecord_reread_object origin [("name", .string c.name),
    ("alias", .string c.label)] (by simp)
  simp only [List.map_cons, List.map_nil] at hrecord
  rw [asCollector, toJson, hrecord]
  rfl

def InstanceConfig.settings (i : InstanceConfig) : List (String × Option Json) :=
  [("host", some (.string i.host)), ("port", some (.int i.port.toNat)),
    ("user", i.user.map .string), ("password", none), ("name", i.name.map .string),
    ("tags", Json.listed .string i.tags), ("domains", i.domains.map Json.strings),
    ("exclude_attributes", Json.listed .string i.excluded),
    ("jvm_collectors", i.collectors.map fun cs => .array (cs.map Jvm.Collector.toJson)),
    ("conf", Json.listed FilterSpec.toJson i.filters)]

theorem InstanceConfig.toJson_eq (i : InstanceConfig) :
    i.toJson = .object (Json.present i.settings) := by
  rw [toJson, Json.optionalMember_eq, Json.optionalMember_eq, Json.listMember_eq,
    Json.optionalMember_eq, Json.listMember_eq, Json.optionalMember_eq, Json.listMember_eq]
  have hfirst : [("host", Json.string i.host), ("port", Json.int i.port.toNat)] =
    Json.present [("host", some (.string i.host)), ("port", some (.int i.port.toNat))] := rfl
  rw [hfirst]
  simp only [← Json.present_append]
  rfl

/-- An instance that is written is read again, but for its password. -/
theorem InstanceConfig.asInstance_reread (origin : Origin) (i : InstanceConfig) :
    asInstance origin (reread i.toJson) = some i.withoutPassword := by
  have hrecord := asRecord_reread origin i.settings (by simp [settings])
  rw [← i.toJson_eq] at hrecord
  simp only [settings, List.map_cons, List.map_nil] at hrecord
  have htext : ∀ value : Option String, orDefault (asOptional asText) none
      ((value.map .string).map reread) = some value :=
    orDefault_optional (fun _ => Json.noConfusion) asText_reread
  have htexts : ∀ texts : List String, orDefault (asList asText) []
      ((Json.listed .string texts).map reread) = some texts :=
    orDefault_listed asText_reread
  have hdomains : orDefault (asOptional (asList asText)) none
      ((i.domains.map Json.strings).map reread) = some i.domains :=
    orDefault_optional (fun _ => Json.noConfusion) (asList_reread_self asText_reread) i.domains
  have hcollectors : orDefault (asOptional (asCollectors origin)) none ((i.collectors.map fun cs =>
      .array (cs.map Jvm.Collector.toJson)).map reread) = some i.collectors :=
    orDefault_optional (fun _ => Json.noConfusion)
      (asList_reread_self (Jvm.Collector.asCollector_reread origin)) i.collectors
  have hfilters : orDefault (asFilters origin) []
      ((Json.listed FilterSpec.toJson i.filters).map reread) = some i.filters :=
    orDefault_listed (FilterSpec.asFilter_reread origin) i.filters
  rw [asInstance, hrecord]
  simp only [Option.bind_eq_bind, Option.bind_some, required, Option.map_some, Option.map_none,
    asText_reread, asPort_reread, htext, htexts, hdomains, hcollectors, hfilters]
  rfl

theorem CheckConfig.asCheck_reread (origin : Origin) (c : CheckConfig) :
    asCheck origin (reread c.toJson) = some c.withoutPasswords := by
  have hrecord := asRecord_reread_object origin [("integration", .string c.integration),
    ("instances", .array (c.instances.map InstanceConfig.toJson))] (by simp)
  have hinstances := asList_reread (InstanceConfig.asInstance_reread origin) c.instances
  simp only [List.map_cons, List.map_nil] at hrecord
  rw [asCheck, toJson, hrecord]
  simp only [Option.bind_eq_bind, Option.bind_some, required, asText_reread, orDefault, hinstances]
  rfl

theorem LauncherConfig.asLauncher_reread (origin : Origin) (l : LauncherConfig) :
    asLauncher origin (reread l.toJson) = some l := by
  have hrecord := asRecord_reread_object origin [("program", .string l.program),
    ("args", Json.strings l.args), ("connect_timeout_ms", .int l.connectTimeout.toNat),
    ("dump_timeout_ms", .int l.dumpTimeout.toNat)] (by simp)
  have hargs : asList asText (reread (Json.strings l.args)) = some l.args :=
    asList_reread_self asText_reread l.args
  simp only [List.map_cons, List.map_nil] at hrecord
  rw [asLauncher, toJson, hrecord]
  simp only [Option.bind_eq_bind, Option.bind_some, orDefault, asText_reread, hargs,
    asMillis_reread]
  rfl

theorem ServerConfig.asServer_reread (origin : Origin) (s : ServerConfig) :
    asServer origin (reread s.toJson) = some s := by
  have hrecord := asRecord_reread_object origin [("port", .int s.port.toNat),
    ("path", .string s.path), ("bind_address", .string s.bindAddress)] (by simp)
  simp only [List.map_cons, List.map_nil] at hrecord
  rw [asServer, toJson, hrecord]
  simp only [Option.bind_eq_bind, Option.bind_some, orDefault, asText_reread, asPort_reread]
  rfl

/-- A configuration that is written is read again, but for its passwords. -/
theorem Config.ofTree_reread (origin : Origin) (c : Config) :
    ofTree origin (reread c.toJson) = some c.withoutPasswords := by
  have hrecord := asRecord_reread_object origin [("launcher", c.launcher.toJson),
    ("server", c.server.toJson), ("checks", .array (c.checks.map CheckConfig.toJson))] (by simp)
  have hchecks := asList_reread (CheckConfig.asCheck_reread origin) c.checks
  simp only [List.map_cons, List.map_nil] at hrecord
  rw [ofTree, toJson, hrecord]
  simp only [Option.bind_eq_bind, Option.bind_some, orDefault, LauncherConfig.asLauncher_reread,
    ServerConfig.asServer_reread, hchecks]
  rfl

/-! ## Texts -/

theorem Alias.whole_toJson (depth : Nat) (a : Alias) : Whole (depth + 1) a.toJson := by
  rw [toJson_eq]
  apply whole_present
  simp only [settings, List.forall_mem_cons]
  exact ⟨forall_mem_map_whole .string a.newName,
    forall_mem_map_whole (fun k => .string k.text) a.kind, List.forall_mem_nil _⟩

theorem FilterValue.whole_toJson (depth : Nat) (v : FilterValue) : Whole (depth + 2) v.toJson := by
  cases v with
  | one p => exact .string p
  | many ps => exact whole_strings ps
  | aliased names =>
    refine .object (List.forall_mem_map.2 ?_)
    intro e _
    show Whole (depth + 1) (Json.ofOption Alias.toJson e.2)
    cases e.2 with
    | none => exact .null
    | some a => exact a.whole_toJson depth

theorem FilterSpec.whole_toJson (depth : Nat) (f : FilterSpec) : Whole (depth + 4) f.toJson := by
  have hfields : ∀ fields, Whole (depth + 3) (fieldsToJson fields) := by
    intro fields
    refine .object (List.forall_mem_map.2 ?_)
    intro e _
    exact e.2.whole_toJson depth
  rw [toJson_eq]
  apply whole_present
  simp only [settings, List.forall_mem_cons]
  refine ⟨?_, ?_, List.forall_mem_nil _⟩
  · intro j hj
    cases hj
    exact hfields f.includes
  · intro j hj
    split at hj
    · cases hj
    · cases hj
      exact hfields f.excludes

theorem Jvm.Collector.whole_toJson (depth : Nat) (c : Jvm.Collector) :
    Whole (depth + 1) c.toJson := by
  refine .object ?_
  simp only [List.forall_mem_cons]
  exact ⟨.string c.name, .string c.label, List.forall_mem_nil _⟩

theorem InstanceConfig.whole_toJson (depth : Nat) (i : InstanceConfig) :
    Whole (depth + 6) i.toJson := by
  have htext : ∀ (value : Option String), ∀ j ∈ value.map Json.string, Whole (depth + 5) j :=
    forall_mem_map_whole .string
  have htexts : ∀ (texts : List String), ∀ j ∈ listed Json.string texts, Whole (depth + 5) j :=
    forall_mem_listed_whole .string
  rw [toJson_eq]
  apply whole_present
  simp only [settings, List.forall_mem_cons]
  refine ⟨?_, ?_, htext i.user, ?_, htext i.name, htexts i.tags,
    forall_mem_map_whole whole_strings i.domains, htexts i.excluded,
    forall_mem_map_whole (whole_array (Jvm.Collector.whole_toJson (depth + 3))) i.collectors,
    forall_mem_listed_whole (FilterSpec.whole_toJson depth) i.filters, List.forall_mem_nil _⟩
  · intro j hj
    cases hj
    exact .string i.host
  · intro j hj
    cases hj
    exact whole_port i.port
  · intro j hj
    cases hj

theorem CheckConfig.whole_toJson (depth : Nat) (c : CheckConfig) : Whole (depth + 8) c.toJson := by
  refine .object ?_
  simp only [List.forall_mem_cons]
  exact ⟨.string c.integration, whole_array (InstanceConfig.whole_toJson depth) c.instances,
    List.forall_mem_nil _⟩

/-- What is written of a configuration has no number but natural ones of 64 bits. -/
theorem Config.whole_toJson (depth : Nat) (c : Config) : Whole (depth + 10) c.toJson := by
  have hlauncher : Whole (depth + 9) c.launcher.toJson := by
    refine .object ?_
    simp only [List.forall_mem_cons]
    exact ⟨.string c.launcher.program, whole_strings c.launcher.args,
      whole_millis c.launcher.connectTimeout, whole_millis c.launcher.dumpTimeout,
      List.forall_mem_nil _⟩
  have hserver : Whole (depth + 9) c.server.toJson := by
    refine .object ?_
    simp only [List.forall_mem_cons]
    exact ⟨whole_port c.server.port, .string c.server.path, .string c.server.bindAddress,
      List.forall_mem_nil _⟩
  refine .object ?_
  simp only [List.forall_mem_cons]
  exact ⟨hlauncher, hserver, whole_array (CheckConfig.whole_toJson depth) c.checks,
    List.forall_mem_nil _⟩

/-- Passwords are never written. -/
theorem Config.toJson_withoutPasswords (c : Config) : c.withoutPasswords.toJson = c.toJson := by
  have hinstance : InstanceConfig.toJson ∘ InstanceConfig.withoutPassword =
    InstanceConfig.toJson := rfl
  have hcheck : CheckConfig.toJson ∘ CheckConfig.withoutPasswords = CheckConfig.toJson := by
    funext c
    show CheckConfig.toJson c.withoutPasswords = _
    rw [CheckConfig.toJson, CheckConfig.withoutPasswords, List.map_map, hinstance,
      CheckConfig.toJson]
  rw [toJson, withoutPasswords, List.map_map, hcheck, toJson]

/-- The text of a configuration is read as the configuration without its passwords, and it is the
text of every other configuration that differs in passwords only, and of no other. -/
theorem Config.ofJson_parse_compress (c : Config) :
    (Json.parse c.toJson.compress).bind ofJson = some c.withoutPasswords ∧
      ∀ c' : Config, c'.toJson.compress = c.toJson.compress ↔
        c'.withoutPasswords = c.withoutPasswords := by
  have hread : ∀ c : Config,
      (Json.parse c.toJson.compress).bind ofJson = some c.withoutPasswords := by
    intro c
    rw [parse_compress (c.whole_toJson 117), Option.bind_some]
    exact c.ofTree_reread .json
  refine ⟨hread c, ?_⟩
  intro c'
  constructor
  · intro h
    have hsame := hread c'
    rw [h, hread c] at hsame
    exact (Option.some.inj hsame).symm
  · intro h
    rw [← c'.toJson_withoutPasswords, h, c.toJson_withoutPasswords]

end BeanGauge
