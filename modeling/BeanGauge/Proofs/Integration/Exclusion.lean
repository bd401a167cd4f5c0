import BeanGauge.Check.Instance
import BeanGauge.Proofs.Catalog
import BeanGauge.Proofs.Dump
/-!
# What an exclusion list holds back

A list of excluded attributes, and the list of a Cassandra server, are compared with the name of a
leaf. The leaves of a composite attribute are named after the attribute and the member, so listing
the attribute holds back a plain number but not the members of a composite one.
-/

namespace BeanGauge

namespace Integration

/-- The metric of a leaf with all that is decided about it but whether it is sent. -/
def describe (i : Integration) (bean : String) (name : BeanName) (leaf : String) (value : Float) :
    Metric :=
  let m := i.prepare
    { domain := name.domain, bean, leaf, value, tags := name.tags, namePrefix := i.name
      nameOverride := none, kind := .gauge, device := none, send := true }
  let m := match i.naming m with
    | some (name, kind) => { m with nameOverride := some name, kind }
    | none => m
  { m with device := i.device m }

def prepared (i : Integration) (bean : String) (name : BeanName) (leaf : String)
    (value : Float) : Metric :=
  i.prepare
    { domain := name.domain, bean, leaf, value, tags := name.tags, namePrefix := i.name
      nameOverride := none, kind := .gauge, device := none, send := true }

/-- Nothing but the name, the kind and the device of a metric is described. -/
theorem describe_eq (i : Integration) (bean : String) (name : BeanName) (leaf : String)
    (value : Float) :
    i.describe bean name leaf value =
      { i.prepared bean name leaf value with
        nameOverride := (i.naming (i.prepared bean name leaf value)).map Prod.fst
        kind := ((i.naming (i.prepared bean name leaf value)).map Prod.snd).getD .gauge
        device := (i.describe bean name leaf value).device } := by
  obtain ⟨hname, hkind⟩ : (i.prepared bean name leaf value).nameOverride = none ∧
      (i.prepared bean name leaf value).kind = .gauge := by
    cases i <;> exact ⟨rfl, rfl⟩
  rw [describe, ← prepared]
  cases i.naming (i.prepared bean name leaf value) with
  | none => simp only [Option.map_none, Option.getD_none, ← hname, ← hkind]
  | some named => rfl

/-- Where a metric was read, and its value: what no decision changes. -/
structure Measures (bean : String) (name : BeanName) (leaf : String) (value : Float)
    (m : Metric) : Prop where
  domain : m.domain = name.domain
  bean : m.bean = bean
  leaf : m.leaf = leaf
  value : m.value = value

theorem measures_describe (i : Integration) (bean : String) (name : BeanName) (leaf : String)
    (value : Float) : Measures bean name leaf value (i.describe bean name leaf value) := by
  obtain ⟨hdomain, hbean, hleaf, hvalue⟩ :
      Measures bean name leaf value (i.prepared bean name leaf value) := by
    cases i <;> exact ⟨rfl, rfl, rfl, rfl⟩
  rw [describe_eq]
  exact ⟨hdomain, hbean, hleaf, hvalue⟩

theorem leaf_describe (i : Integration) (bean : String) (name : BeanName) (leaf : String)
    (value : Float) : (i.describe bean name leaf value).leaf = leaf :=
  (i.measures_describe bean name leaf value).leaf

/-- Wrapping a leaf fails with its bean name only, and sends what it is not told to hold back. -/
theorem wrap_eq (i : Integration) (excluded : List String) (bean leaf : String) (value : Float) :
    i.wrap excluded bean leaf value = (BeanName.parse bean).map fun name =>
      { i.describe bean name leaf value with
        send := !excluded.contains leaf && i.includes (i.describe bean name leaf value) } := by
  have h : i.wrap excluded bean leaf value = (BeanName.parse bean).map fun name =>
      { i.describe bean name leaf value with
        send := !excluded.contains (i.describe bean name leaf value).leaf &&
          i.includes (i.describe bean name leaf value) } := by
    rw [wrap, Metric.ofLeaf]
    cases BeanName.parse bean <;> rfl
  simpa only [leaf_describe] using h

/-- What is decided besides a metric's name and kind does not depend on them. -/
theorem wrap_of_parse (i : Integration) (excluded : List String) {bean : String} {name : BeanName}
    (h : BeanName.parse bean = .ok name) (leaf : String) (value : Float) :
    i.wrap excluded bean leaf value = .ok
      { i.prepared bean name leaf value with
        nameOverride := (i.naming (i.prepared bean name leaf value)).map Prod.fst
        kind := ((i.naming (i.prepared bean name leaf value)).map Prod.snd).getD .gauge
        device := (i.describe bean name leaf value).device
        send := !excluded.contains leaf && i.includes (i.prepared bean name leaf value) } := by
  have hincludes : i.includes (i.describe bean name leaf value) =
      i.includes (i.prepared bean name leaf value) := by
    rw [describe_eq]
    cases i <;> rfl
  rw [wrap_eq, h, ← hincludes]
  exact congrArg (fun m : Metric => Except.ok
    { m with send := !excluded.contains leaf && i.includes (i.describe bean name leaf value) })
    (i.describe_eq bean name leaf value)

theorem parse_of_wrap {i : Integration} {excluded : List String} {bean leaf : String}
    {value : Float} {m : Metric} (h : i.wrap excluded bean leaf value = .ok m) :
    ∃ name, BeanName.parse bean = .ok name := by
  rw [wrap_eq] at h
  cases hname : BeanName.parse bean with
  | error e =>
    rw [hname] at h
    cases h
  | ok name => exact ⟨name, rfl⟩

theorem uniform_factory (i : Integration) (excluded : List String) :
    (i.factory excluded).Uniform := by
  intro bean
  simp only [factory, wrap_eq]
  cases BeanName.parse bean with
  | error e => exact .inl ⟨e, fun _ _ => rfl⟩
  | ok name => exact .inr fun _ _ => ⟨_, rfl⟩

/-- A leaf that the list of a Cassandra server names is not included. -/
theorem includes_of_denied {leaf : String} (h : leaf ∈ deniedLeaves) (bean : String)
    (name : BeanName) (value : Float) :
    cassandra.includes (cassandra.describe bean name leaf value) = false := by
  have hleaf := leaf_describe cassandra bean name leaf value
  have hdenied : deniedLeaves.contains leaf = true := List.contains_iff_mem.2 h
  simp only [includes, denies, hleaf, hdenied, Bool.true_or, Bool.not_true]

end Integration

namespace CheckInstance

/-- Whether an attribute is excluded by the instance or by its integration. -/
def Lists (i : CheckInstance) (name : String) : Prop :=
  name ∈ i.config.excluded ∨ (i.integration = .cassandra ∧ name ∈ Integration.deniedLeaves)

/-- The beans of a dump that the integration reads. -/
def kept (i : CheckInstance) (d : Dump) : Dump :=
  d.keepDomains i.domains i.integration.domainMatch

/-- The metrics that the catalog has of one attribute. -/
def metricsOf (i : CheckInstance) (bean : String) (a : String × Attribute) : List Metric :=
  Catalog.ofAttribute (i.integration.factory i.config.excluded) bean a

/-- The samples of the catalog that come of one attribute. -/
def samplesOf (i : CheckInstance) (bean : String) (a : String × Attribute) : List Sample :=
  ((i.metricsOf bean a).filter (·.send)).map i.sampleOf

/-- A catalog has the metrics of the beans that are kept, leaf by leaf. -/
theorem catalog_metrics (i : CheckInstance) (d : Dump) :
    (i.catalog d).metrics =
      (i.kept d).beans.entries.flatMap fun bean => bean.2.entries.flatMap (i.metricsOf bean.1) :=
  Catalog.build_metrics (i.integration.uniform_factory i.config.excluded) _

/-- The samples of a catalog are those of every attribute of every bean that is read. -/
theorem catalog_samples (i : CheckInstance) (d : Dump) :
    ((i.catalog d).metrics.filter (·.send)).map i.sampleOf =
      (i.kept d).beans.entries.flatMap fun bean => bean.2.entries.flatMap (i.samplesOf bean.1) := by
  simp only [catalog_metrics, List.filter_flatMap, List.map_flatMap]
  rfl

theorem samplesOf_eq_nil_iff (i : CheckInstance) (bean : String) (a : String × Attribute) :
    i.samplesOf bean a = [] ↔ ∀ m ∈ i.metricsOf bean a, m.send = false := by
  simp [samplesOf, List.filter_eq_nil_iff]

/-- Whether a leaf is held back under its own name. -/
def HoldsBack (i : CheckInstance) (bean leaf : String) (value : Float) : Prop :=
  leaf ∈ i.config.excluded ∨ ∀ name, BeanName.parse bean = .ok name →
    i.integration.includes (i.integration.describe bean name leaf value) = false

/-- Nothing of an attribute is sent exactly if each of its leaves is held back. -/
theorem metricsOf_unsent_iff (i : CheckInstance) (bean : String) (a : String × Attribute) :
    (∀ m ∈ i.metricsOf bean a, m.send = false) ↔
      ∀ l ∈ a.2.leaves i.integration.coerce a.1, i.HoldsBack bean l.1 l.2 := by
  constructor
  · intro h l hl
    by_cases hlisted : l.1 ∈ i.config.excluded
    · exact .inl hlisted
    refine .inr fun name hname => ?_
    have hwrap := i.integration.wrap_eq i.config.excluded bean l.1 l.2
    rw [hname] at hwrap
    have hsend := h _ (List.mem_filterMap.2 ⟨l, hl, congrArg Except.toOption hwrap⟩)
    simpa [hlisted] using hsend
  · intro h m hm
    obtain ⟨l, hl, hmade⟩ := List.mem_filterMap.1 hm
    have hwrap := i.integration.wrap_eq i.config.excluded bean l.1 l.2
    rw [show (i.integration.factory i.config.excluded).wrap bean l.1 l.2 = _ from hwrap] at hmade
    cases hname : BeanName.parse bean with
    | error e =>
      rw [hname] at hmade
      cases hmade
    | ok name =>
      rw [hname] at hmade
      obtain rfl := Option.some.inj hmade
      rcases h l hl with hlisted | hleft
      · simp [hlisted]
      · simp [hleft name hname]

theorem holdsBack_of_lists {i : CheckInstance} {name : String} (h : i.Lists name) (bean : String)
    (value : Float) : i.HoldsBack bean name value := by
  rcases h with h | ⟨hi, h⟩
  · exact .inl h
  · refine .inr fun parsed _ => ?_
    rw [hi]
    exact Integration.includes_of_denied h bean parsed value

/-- A catalog and its samples are made attribute by attribute. Listing an attribute keeps its
metrics from being sent, and so its samples from being emitted, exactly if the attribute is a
number, or each of its numeric members is held back under a name of its own, `attribute.member`. -/
theorem listed_unsent_iff (i : CheckInstance) (d : Dump) :
    (i.catalog d).metrics =
        (i.kept d).beans.entries.flatMap
          (fun bean => bean.2.entries.flatMap (i.metricsOf bean.1)) ∧
      ((i.catalog d).metrics.filter (·.send)).map i.sampleOf =
        (i.kept d).beans.entries.flatMap
          (fun bean => bean.2.entries.flatMap (i.samplesOf bean.1)) ∧
      ∀ bean name a, i.Lists name →
        (i.samplesOf bean (name, a) = [] ↔ ∀ m ∈ i.metricsOf bean (name, a), m.send = false) ∧
          ((∀ m ∈ i.metricsOf bean (name, a), m.send = false) ↔
            (a.number? i.integration.coerce).isSome ∨
              ∀ member ∈ a.members, ∀ x, member.2.number? i.integration.coerce = some x →
                i.HoldsBack bean (name ++ "." ++ member.1) x) := by
  refine ⟨catalog_metrics i d, catalog_samples i d, ?_⟩
  intro bean name a hlisted
  refine ⟨samplesOf_eq_nil_iff i bean (name, a), ?_⟩
  rw [metricsOf_unsent_iff]
  cases hnumber : a.number? i.integration.coerce with
  | some x =>
    rw [Attribute.leaves_of_number hnumber]
    simp only [Option.isSome_some, true_or, iff_true]
    intro l hl
    obtain rfl := List.mem_singleton.1 hl
    exact holdsBack_of_lists hlisted bean x
  | none =>
    rw [Attribute.leaves_of_none hnumber]
    simp only [Option.isSome_none, Bool.false_eq_true, false_or]
    constructor
    · intro h member hmember x hx
      exact h _ (List.mem_filterMap.2 ⟨member, hmember, by rw [hx]; rfl⟩)
    · intro h l hl
      obtain ⟨member, hmember, hmade⟩ := List.mem_filterMap.1 hl
      obtain ⟨x, hx, rfl⟩ := Option.map_eq_some_iff.1 hmade
      exact h member hmember x hx

/-- A Cassandra server with scores per host, which its list and the configuration name. -/
def snitch : CheckInstance :=
  ⟨{ host := "db", port := 7199, excluded := ["Scores"] }, .cassandra⟩

def snitchDump : Dump :=
  ⟨Dict.ofList [("org.apache.cassandra.db:type=DynamicEndpointSnitch",
    Dict.ofList [("Scores", .object [("/10.0.0.1", .integer 2)])])]⟩

/-- A score that is a number is held back. -/
theorem snitch_holds_number :
    ∀ m ∈ snitch.metricsOf "org.apache.cassandra.db:type=DynamicEndpointSnitch"
      ("Scores", .integer 2), m.send = false :=
  (((listed_unsent_iff snitch snitchDump).2.2 _ "Scores" (.integer 2) (.inl (by decide))).2).2
    (.inl rfl)

/-- The score of each host is sent, though `Scores` is listed twice. -/
theorem snitch_sends_listed :
    snitch.Lists "Scores" ∧ (snitch.catalog snitchDump).metrics.map (fun m => (m.leaf, m.send)) =
      [("Scores./10.0.0.1", true)] :=
  ⟨.inl (by decide), by decide⟩

end CheckInstance

end BeanGauge
