import BeanGauge.Proofs.Catalog.Leaves
import BeanGauge.Proofs.Check.Samples
import BeanGauge.Proofs.Connector.Lifecycle
/-!
# What a successful cycle emits

The standard samples come first. Then come those of the beans that the integration reads: their
leaves are visited in order, each of them once, and make one sample if the integration sends it.
-/

namespace BeanGauge

namespace Integration

/-- The tags of a bean as its samples have them, by key: those of Cassandra beans go without the
object hash. -/
def beanTags (i : Integration) (name : BeanName) : List String :=
  let tags := name.tags.entries.filter fun t => i ≠ .cassandra ∨ t.1 ≠ "instance"
  tags.map fun t => t.1 ++ ":" ++ t.2

theorem coerce_eq (i : Integration) : i.coerce = decide (i = .solr) := by
  cases i <;> simp [coerce]

theorem tagList_describe (i : Integration) (bean : String) (name : BeanName) (leaf : String)
    (value : Float) : (i.describe bean name leaf value).tagList = i.beanTags name := by
  rw [describe_eq]
  show (i.prepared bean name leaf value).tagList = i.beanTags name
  cases i with
  | cassandra => simp [prepared, prepare, Metric.dropTags, Metric.tagList, Dict.filter, beanTags]
  | _ => simp [prepared, prepare, Metric.tagList, beanTags]

theorem wrap_eq_ok {i : Integration} {excluded : List String} {bean leaf : String} {value : Float}
    {m : Metric} (h : i.wrap excluded bean leaf value = .ok m) :
    ∃ name, BeanName.parse bean = .ok name ∧ m.value = value ∧ m.tagList = i.beanTags name := by
  obtain ⟨name, hname⟩ := parse_of_wrap h
  rw [wrap_eq, hname] at h
  cases h
  exact ⟨name, hname, (i.measures_describe bean name leaf value).value,
    i.tagList_describe bean name leaf value⟩

end Integration

namespace CheckInstance

/-- The leaves an instance reads: those of the beans with a wanted domain and a well-formed
identifier. Texts count as numbers for a Solr server only. -/
structure Reads (i : CheckInstance) (d : Dump) (l : Leaf) : Prop where
  wanted : ∀ domains, i.domains = some domains → ∃ wanted ∈ domains,
    i.integration.domainMatch.accepts (BeanName.domainOf l.bean) wanted
  wellFormed : ∃ name, BeanName.parse l.bean = .ok name
  stands : l.In (decide (i.integration = .solr)) d

/-- The sample of a leaf, if the integration sends it. -/
def emitted? (i : CheckInstance) (l : Leaf) : Option Sample :=
  match i.integration.wrap i.config.excluded l.bean l.path l.value, BeanName.parse l.bean with
  | .ok m, .ok name =>
    if m.send then
      some ⟨m.name, l.value, i.tags ++ i.integration.beanTags name, m.device, m.kind⟩
    else none
  | _, _ => none

/-- A leaf gives the sample of its metric, if that is sent. -/
theorem emitted?_eq (i : CheckInstance) (l : Leaf) : i.emitted? l =
    ((i.integration.wrap i.config.excluded l.bean l.path l.value).toOption.filter (·.send)).map
      i.sampleOf := by
  rw [emitted?]
  cases hwrap : i.integration.wrap i.config.excluded l.bean l.path l.value with
  | error e => rfl
  | ok m =>
    obtain ⟨name, hname, hvalue, htags⟩ := Integration.wrap_eq_ok hwrap
    rw [hname]
    dsimp only
    rw [← htags, ← hvalue]
    show _ = ((some m).filter (·.send)).map i.sampleOf
    rw [Option.filter_some]
    cases m.send <;> rfl

/-- No sample is made of a bean whose identifier is malformed. -/
theorem emitted?_of_error {i : CheckInstance} {l : Leaf} {e : BeanName.Malformed}
    (h : BeanName.parse l.bean = .error e) : i.emitted? l = none := by
  rw [emitted?_eq, Integration.wrap_eq, h]
  rfl

/-- The samples of an attribute are those of its leaves. -/
theorem samplesOf_eq (i : CheckInstance) (bean : String) (a : String × Attribute) :
    i.samplesOf bean a =
      (Attribute.positions i.integration.coerce bean a).filterMap i.emitted? := by
  rw [samplesOf, metricsOf, Catalog.ofAttribute_eq, List.filter_filterMap, List.map_filterMap]
  refine List.filterMap_congr fun l _ => ?_
  rw [emitted?_eq]
  rfl

/-- The leaves an instance reads, in order. -/
def leaves (i : CheckInstance) (d : Dump) : List Leaf :=
  ((i.kept d).leaves i.integration.coerce).filter fun l => (BeanName.parse l.bean).toOption.isSome

/-- The samples of the catalog are those of the leaves. -/
theorem catalog_samples_eq (i : CheckInstance) (d : Dump) :
    ((i.catalog d).metrics.filter (·.send)).map i.sampleOf = (i.leaves d).filterMap i.emitted? := by
  have hleaf : ∀ l, i.emitted? l =
      if (BeanName.parse l.bean).toOption.isSome then i.emitted? l else none := by
    intro l
    cases hname : BeanName.parse l.bean with
    | error e => exact emitted?_of_error hname
    | ok name => rfl
  have hsamples : ∀ bean, i.samplesOf bean = fun a =>
      (Attribute.positions i.integration.coerce bean a).filterMap i.emitted? :=
    fun bean => funext (samplesOf_eq i bean)
  rw [catalog_samples, leaves, List.filterMap_filter, ← funext hleaf]
  simp only [hsamples, Dump.leaves, List.filterMap_flatMap]

theorem get?_kept (i : CheckInstance) (d : Dump) (bean : String) (attributes : Attributes) :
    (i.kept d).beans.get? bean = some attributes ↔ d.beans.get? bean = some attributes ∧
      ∀ domains, i.domains = some domains → ∃ wanted ∈ domains,
        i.integration.domainMatch.accepts (BeanName.domainOf bean) wanted := by
  unfold kept Dump.keepDomains
  cases i.domains with
  | none => simp
  | some domains => simp [Dump.filterBeans, Dict.get?_filter, Option.filter_eq_some_iff]

/-- The leaves are exactly those that the instance reads. -/
theorem mem_leaves_iff (i : CheckInstance) (d : Dump) (l : Leaf) :
    l ∈ i.leaves d ↔ i.Reads d l := by
  have hleaves : i.leaves d = (i.kept d).namedLeaves i.integration.coerce := rfl
  rw [hleaves, Dump.mem_namedLeaves_iff, Integration.coerce_eq]
  constructor
  · rintro ⟨⟨attributes, a, hbean, ha, hof⟩, hname⟩
    obtain ⟨hbean, hwanted⟩ := (get?_kept i d _ _).1 hbean
    exact ⟨hwanted, hname, attributes, a, hbean, ha, hof⟩
  · rintro ⟨hwanted, hname, attributes, a, hbean, ha, hof⟩
    exact ⟨⟨attributes, a, (get?_kept i d _ _).2 ⟨hbean, hwanted⟩, ha, hof⟩, hname⟩

/-- The leaves stand in the order of the dump, so none is there twice. -/
theorem leaves_pairwise (i : CheckInstance) {d : Dump} (hd : d.Ordered) :
    (i.leaves d).Pairwise Leaf.Before := by
  have hkept : (i.kept d).Ordered := by
    unfold kept Dump.keepDomains
    split
    · exact hd
    · exact hd.filterBeans _
  exact (Dump.leaves_pairwise hkept).filter _

/-- What comes of a dump that was read: the standard samples, then the samples of the leaves that
the instance reads, which are listed in order and once each. The gauge is the number of both. -/
structure Emits (i : CheckInstance) (d : Dump) (standard : List Sample) (leaves : List Leaf)
    (sink sink' : Sink) (stats' : EndpointStats) : Prop where
  extracted : ∃ rejected, Jvm.extract d i.tags i.config.collectorList = .ok (standard, rejected)
  ordered : leaves.Pairwise Leaf.Before
  once : (leaves.map Leaf.position).Nodup
  complete : ∀ leaf, leaf ∈ leaves ↔ i.Reads d leaf
  samples : sink'.samples = sink.samples ++ (standard ++ leaves.filterMap i.emitted?)
  counted : stats'.samples =
    Number.nearest (standard.length + (leaves.filterMap i.emitted?).length) 1

end CheckInstance

namespace Bridge

variable {π : Type} {b : Behaviour π} {l : LauncherConfig}

/-- A dump that was read was decoded from a text. -/
theorem exists_parse_of_readDump {i : InstanceConfig} {w : Bridge π} {d : Dump}
    (h : (w.readDump b l i).1 = .ok d) : ∃ text, Dump.parse b.noJson text = .ok d := by
  unfold readDump at h
  split at h
  · cases h
  dsimp only at h
  split at h
  · cases h
  · rename_i hdump
    cases h
    obtain ⟨output, hparse⟩ := Connector.dump_eq_ok hdump
    exact ⟨_, hparse⟩

/-- A cycle succeeds exactly if it reads a dump with all standard beans. It emits the standard
samples and then one for each leaf that the instance reads and its integration sends, in the order
of the leaves, and counts exactly these. -/
theorem check_eq_ok_iff {i : CheckInstance} {sink : Sink} {w : Bridge π} :
    (w.check b l i sink).1 = .ok () ↔
      ∃ d standard leaves, (w.readDump b l i.config).1 = .ok d ∧
        i.Emits d standard leaves sink (w.check b l i sink).2.1
          ((w.check b l i sink).2.2.registry.endpoint i.config.endpoint.text) := by
  constructor
  · intro h
    cases hread : w.readSamples b l i with
    | mk result w' =>
      cases result with
      | error e =>
        rw [check_of_error hread] at h
        cases h
      | ok emitted =>
        obtain ⟨d, hdump, hsamples⟩ := CheckInstance.readSamples_ok hread
        obtain ⟨text, htext⟩ := exists_parse_of_readDump hdump
        obtain ⟨⟨standard, rejected⟩, hstandard, hemitted⟩ := bind_eq_ok_iff.1 hsamples
        have hpairwise := i.leaves_pairwise (Dump.ordered_parse htext)
        rw [CheckInstance.catalog_samples_eq] at hemitted
        cases hemitted
        refine ⟨d, standard, i.leaves d, hdump, ⟨rejected, hstandard⟩, hpairwise, ?_,
          i.mem_leaves_iff d, ?_, ?_⟩
        · rw [List.nodup_iff_pairwise_ne, List.pairwise_map]
          exact hpairwise.imp Leaf.Before.position_ne
        · rw [check_of_ok hread]
          rfl
        · rw [check_of_ok hread, record, Registry.endpoint_record_self, List.length_append]
          rfl
  · rintro ⟨d, standard, leaves, hdump, hemits⟩
    obtain ⟨rejected, hstandard⟩ := hemits.extracted
    exact (check_of_dump hdump (bind_eq_ok_iff.2 ⟨_, hstandard, rfl⟩) sink).1

def ring : CheckInstance :=
  ⟨{ host := "db", port := 7199, collectors := some [] }, .cassandra⟩

/-- The standard beans, and one of the server with a denied attribute and a composite one. -/
def ringPayload : String :=
  "\x7b\"java.lang:type=Threading\":\x7b\"ThreadCount\":1\x7d," ++
    "\"java.lang:type=Memory\":\x7b\"HeapMemoryUsage.used\":1,\"NonHeapMemoryUsage.used\":1\x7d," ++
    "\"org.apache.cassandra.db:instance=7,keyspace=shop,type=Caches\":" ++
      "\x7b\"Token\":5,\"Sizes\":\x7b\"b\":2,\"a\":1\x7d\x7d\x7d"

def ringSamples : List Sample :=
  [⟨"jvm.thread_count", 1.0, ["instance:cassandra-db-7199", "type:Threading"], none, .gauge⟩,
    ⟨"jvm.heap_memory", 1.0, ["instance:cassandra-db-7199", "type:Memory"], none, .gauge⟩,
    ⟨"jvm.non_heap_memory", 1.0, ["instance:cassandra-db-7199", "type:Memory"], none, .gauge⟩,
    ⟨"cassandra.db.sizes.a", 1.0, ["instance:cassandra-db-7199", "keyspace:shop", "type:Caches"],
      some "shop", .gauge⟩,
    ⟨"cassandra.db.sizes.b", 2.0, ["instance:cassandra-db-7199", "keyspace:shop", "type:Caches"],
      some "shop", .gauge⟩]

private theorem ringPayload_samples :
    ((Dump.parse Connector.Tape.console.noJson ringPayload).toOption.bind fun d =>
      (ring.samples d).toOption) = some ringSamples := by
  have htext : ringPayload.toList = _ :=
    Text.toList_append_congr (Text.toList_append_congr (Text.toList_append_congr
      String.toList_ofList String.toList_ofList) String.toList_ofList) String.toList_ofList
  rw [Dump.parse_of_toList htext]
  decide +kernel

private theorem ringPayload_json : (Json.parse ringPayload).isSome := by
  obtain ⟨d, hd, -⟩ := Option.bind_eq_some_iff.1 ringPayload_samples
  exact Dump.isSome_json_of_parse (toOption_eq_some_iff.1 hd)

def ringBridge : Bridge Connector.Tape :=
  .replying ring.config.endpoint (replyOf ringPayload ringPayload_json)

/-- The members are sent by name without the object hash of their bean, for the device of their
keyspace; the denied attribute and the standard beans make no further samples. -/
theorem ring_emits :
    (ringBridge.check Connector.Tape.console .default ring ∅).2.1.samples = ringSamples ∧
      ∃ d standard leaves,
        (ringBridge.readDump Connector.Tape.console .default ring.config).1 = .ok d ∧
        ring.Emits d standard leaves ∅ (ringBridge.check Connector.Tape.console .default ring ∅).2.1
          ((ringBridge.check Connector.Tape.console .default ring ∅).2.2.registry.endpoint
            ring.config.endpoint.text) := by
  obtain ⟨d, hd, hsamples⟩ := Option.bind_eq_some_iff.1 ringPayload_samples
  have hreplying : ringBridge.Replying ring.config.endpoint
      (replyOf ringPayload ringPayload_json) := replying_replies _ _
  obtain ⟨hsucceeds, hemitted⟩ := check_of_dump (i := ring)
    (readDump_of_replying hreplying (toOption_eq_some_iff.1 hd)) (toOption_eq_some_iff.1 hsamples) ∅
  exact ⟨hemitted, check_eq_ok_iff.1 hsucceeds⟩

end Bridge

end BeanGauge
