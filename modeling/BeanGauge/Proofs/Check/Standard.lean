import BeanGauge.Proofs.Catalog.Leaves
import BeanGauge.Proofs.Check.Samples
/-!
# The standard samples

The standard leaves are looked up one after another, each by its path and the tags of its bean. The
first lookup that does not find exactly one is the error of them all, and then nothing is emitted.
Nothing is looked up outside the domain of the standard beans.
-/

namespace BeanGauge

theorem Leaf.in_ofDomain_iff {coerce : Bool} {d : Dump} {domain : String} {l : Leaf} :
    l.In coerce (d.ofDomain domain) ↔ l.In coerce d ∧ BeanName.domainOf l.bean = domain := by
  simp only [In, Dump.ofDomain, Dump.filterBeans, Dict.get?_filter, Option.filter_eq_some_iff,
    beq_iff_eq]
  constructor
  · rintro ⟨attributes, a, ⟨hbean, hdomain⟩, ha, hof⟩
    exact ⟨⟨attributes, a, hbean, ha, hof⟩, hdomain⟩
  · rintro ⟨⟨attributes, a, hbean, ha, hof⟩, hdomain⟩
    exact ⟨attributes, a, ⟨hbean, hdomain⟩, ha, hof⟩

theorem Dump.ofDomain_congr {d d' : Dump} {domain : String}
    (h : ∀ bean, BeanName.domainOf bean = domain → d'.beans.get? bean = d.beans.get? bean) :
    d'.ofDomain domain = d.ofDomain domain := by
  rw [ofDomain, ofDomain, filterBeans, filterBeans]
  refine congrArg Dump.mk (Dict.ext_get? fun bean => ?_)
  rw [Dict.get?_filter, Dict.get?_filter]
  by_cases hdomain : BeanName.domainOf bean = domain
  · rw [h bean hdomain]
  · have hdrop : (BeanName.domainOf bean == domain) = false := beq_eq_false_iff_ne.2 hdomain
    cases d.beans.get? bean <;> cases d'.beans.get? bean <;> simp [hdrop]

theorem MetricFactory.eq_of_wrap_plain {start bean leaf : String} {value : Float} {m : Metric}
    (h : (plain start).wrap bean leaf value = .ok m) : ∃ name, BeanName.parse bean = .ok name ∧
      m.leaf = leaf ∧ m.value = value ∧ m.tags = name.tags := by
  cases hname : BeanName.parse bean with
  | error e =>
    rw [(faithful_plain start).refuses hname] at h
    cases h
  | ok name =>
    rw [wrap_plain hname] at h
    cases h
    exact ⟨name, rfl, rfl, rfl, rfl⟩

namespace Jvm

namespace Lookup

/-- Whether a leaf is one that a lookup asks for. -/
structure Finds (l : Lookup) (d : Dump) (leaf : Leaf) : Prop where
  stands : leaf.Stands false d
  standard : BeanName.domainOf leaf.bean = "java.lang"
  path : leaf.path = l.leaf
  tagged : ∃ name, BeanName.parse leaf.bean = .ok name ∧
    ∀ t ∈ l.tags, name.tags.get? t.1 = some t.2

/-- Whether the path and the tags are those a lookup asks for. -/
def accepts (l : Lookup) (leaf : Leaf) : Bool :=
  leaf.path == l.leaf && (BeanName.parse leaf.bean).toOption.any fun name =>
    l.tags.all fun t => name.tags.get? t.1 == some t.2

/-- The leaves a lookup asks for, in the order of the dump. -/
def found (l : Lookup) (d : Dump) : List Leaf :=
  ((d.ofDomain domain).namedLeaves false).filter l.accepts

/-- The sample of a lookup that found one leaf: the value of the leaf, with the given tags and then
those of the bean. -/
def Yields (l : Lookup) (d : Dump) (tags : List String) (s : Sample) : Prop :=
  ∃ leaf name, l.found d = [leaf] ∧ BeanName.parse leaf.bean = .ok name ∧
    s = ⟨l.sample, leaf.value, tags ++ name.tags.entries.map fun t => t.1 ++ ":" ++ t.2, none,
      .gauge⟩

/-- The error of a lookup that found none, or several. -/
def Fails (l : Lookup) (d : Dump) (e : Error) : Prop :=
  (l.found d = [] ∧ e = .missing l.bean l.leaf) ∨
    (1 < (l.found d).length ∧ e = .ambiguous l.bean l.leaf (l.found d).length)

variable {l : Lookup} {d : Dump} {tags : List String}

theorem accepts_iff {leaf : Leaf} : l.accepts leaf ↔ leaf.path = l.leaf ∧
    ∃ name, BeanName.parse leaf.bean = .ok name ∧
      ∀ t ∈ l.tags, name.tags.get? t.1 = some t.2 := by
  simp [accepts, Option.any_eq_true, toOption_eq_some_iff]

/-- The leaves that are found are those that the lookup asks for. -/
theorem mem_found_iff {leaf : Leaf} : leaf ∈ l.found d ↔ l.Finds d leaf := by
  rw [found, List.mem_filter, Dump.mem_namedLeaves_iff, accepts_iff, Leaf.in_ofDomain_iff,
    ← Leaf.stands_iff]
  constructor
  · rintro ⟨⟨⟨hstands, hdomain⟩, -⟩, hpath, htagged⟩
    exact ⟨hstands, hdomain, hpath, htagged⟩
  · rintro ⟨hstands, hdomain, hpath, name, hname, htags⟩
    exact ⟨⟨⟨hstands, hdomain⟩, name, hname⟩, hpath, name, hname, htags⟩

theorem found_pairwise (hd : d.Ordered) (l : Lookup) : (l.found d).Pairwise Leaf.Before :=
  ((Dump.leaves_pairwise (hd.filterBeans _)).filter _).filter _

/-- A single leaf is found exactly if there is only one that the lookup asks for. -/
theorem found_unique_iff (hd : d.Ordered) :
    (∃ leaf, l.found d = [leaf]) ↔ ∃! leaf, l.Finds d leaf := by
  have hmem : ∀ leaf, leaf ∈ l.found d ↔ l.Finds d leaf := fun leaf => mem_found_iff
  have hpairwise := found_pairwise hd l
  simp only [← hmem]
  constructor
  · rintro ⟨leaf, hfound⟩
    rw [hfound]
    exact ⟨leaf, List.mem_singleton_self leaf, fun leaf' h => List.mem_singleton.1 h⟩
  · rintro ⟨leaf, hleaf, hunique⟩
    cases hfound : l.found d with
    | nil =>
      rw [hfound] at hleaf
      exact absurd hleaf List.not_mem_nil
    | cons first rest =>
      rw [hfound] at hunique hpairwise
      cases rest with
      | nil => exact ⟨first, rfl⟩
      | cons second rest =>
        have hsame : first = second :=
          (hunique first List.mem_cons_self).trans
            (hunique second (List.mem_cons_of_mem first List.mem_cons_self)).symm
        have hbefore := List.rel_of_pairwise_cons hpairwise List.mem_cons_self
        exact absurd (congrArg Leaf.position hsame) hbefore.position_ne

/-- The metrics a lookup is answered with are those of the leaves it asks for. -/
theorem forall₂_find (l : Lookup) (d : Dump) : List.Forall₂
    (fun leaf m => ∃ name, BeanName.parse leaf.bean = .ok name ∧ m.value = leaf.value ∧
      m.tags = name.tags)
    (l.found d) ((catalog d).find { leaf := some l.leaf, tags := l.tags }) := by
  have hmetrics := Catalog.metrics_forall₂
    (MetricFactory.faithful_plain Metric.defaultPrefix) (d.ofDomain domain)
  have hmade := hmetrics.imp fun leaf m hwrap => MetricFactory.eq_of_wrap_plain hwrap
  have hfiltered := List.rel_filter (p := l.accepts)
    (q := MetricQuery.accepts { leaf := some l.leaf, tags := l.tags }) ?_ hmade
  · refine hfiltered.imp fun leaf m hm => ?_
    obtain ⟨name, hname, -, hvalue, htags⟩ := hm
    exact ⟨name, hname, hvalue, htags⟩
  · rintro leaf m ⟨name, hname, hleaf, -, htags⟩
    simp [accepts, MetricQuery.accepts, Metric.tag?, hname, hleaf, htags, Except.toOption]

/-- A lookup has a sample exactly if it yields it. -/
theorem sampleFrom_eq_ok_iff {s : Sample} :
    l.sampleFrom (catalog d) tags = .ok s ↔ l.Yields d tags s := by
  have hfind := forall₂_find l d
  unfold sampleFrom Yields
  generalize l.found d = leaves at hfind ⊢
  generalize (catalog d).find _ = ms at hfind ⊢
  cases hfind with
  | nil => simp
  | cons hm hrest =>
    obtain ⟨name, hname, hvalue, htags⟩ := hm
    cases hrest with
    | nil => simp [hname, hvalue, htags, Metric.tagList, eq_comm]
    | cons hm' hrest => simp

/-- A lookup has no sample exactly if it fails, with the same error. -/
theorem sampleFrom_eq_error_iff (l : Lookup) (d : Dump) (tags : List String) {e : Error} :
    l.sampleFrom (catalog d) tags = .error e ↔ l.Fails d e := by
  have hfind := forall₂_find l d
  unfold sampleFrom Fails
  generalize l.found d = leaves at hfind ⊢
  generalize (catalog d).find _ = ms at hfind ⊢
  cases hfind with
  | nil => simp [eq_comm]
  | cons hm hrest =>
    cases hrest with
    | nil => simp
    | cons hm' hrest => simp [hrest.length_eq, eq_comm]

theorem sampleFrom_ok_iff_found (l : Lookup) (d : Dump) (tags : List String) :
    (∃ s, l.sampleFrom (catalog d) tags = .ok s) ↔ ∃ leaf, l.found d = [leaf] := by
  simp only [sampleFrom_eq_ok_iff]
  constructor
  · rintro ⟨s, leaf, name, hfound, -, -⟩
    exact ⟨leaf, hfound⟩
  · rintro ⟨leaf, hfound⟩
    have hleaf : l.Finds d leaf := by
      rw [← mem_found_iff, hfound]
      exact List.mem_singleton_self leaf
    obtain ⟨name, hname, -⟩ := hleaf.tagged
    exact ⟨_, leaf, name, hfound, hname, rfl⟩

end Lookup

variable {d : Dump} {tags : List String} {collectors : List Collector}

/-- All is extracted exactly if every lookup yields its sample. -/
theorem extract_eq_ok_iff {samples : List Sample} {rejected : List BeanName.Malformed} :
    extract d tags collectors = .ok (samples, rejected) ↔
      List.Forall₂ (fun l s => l.Yields d tags s) (lookups collectors) samples ∧
        rejected = (catalog d).rejected := by
  simp only [← Lookup.sampleFrom_eq_ok_iff]
  constructor
  · intro h
    obtain ⟨made, hmade, h⟩ := bind_eq_ok_iff.1 h
    cases h
    exact ⟨forall₂_of_mapM hmade, rfl⟩
  · rintro ⟨heach, rfl⟩
    exact bind_eq_ok_iff.2 ⟨samples, mapM_of_forall₂ heach, rfl⟩

theorem extract_ok_iff_found : (∃ result, extract d tags collectors = .ok result) ↔
    ∀ l ∈ lookups collectors, ∃ leaf, l.found d = [leaf] := by
  simp only [← Lookup.sampleFrom_ok_iff_found _ d tags]
  constructor
  · rintro ⟨result, h⟩
    obtain ⟨samples, hmade, -⟩ := bind_eq_ok_iff.1 h
    intro l hl
    obtain ⟨s, -, hs⟩ := exists_of_mem_forall₂ (forall₂_of_mapM hmade).flip l hl
    exact ⟨s, hs⟩
  · intro h
    exact ⟨_, bind_eq_ok_iff.2 ⟨_, mapM_of_ok h, rfl⟩⟩

/-- The error is that of the first lookup that fails. -/
theorem extract_eq_error_iff {e : Error} : extract d tags collectors = .error e ↔
    ∃ before l after, lookups collectors = before ++ l :: after ∧
      (∀ l' ∈ before, ∃ leaf, l'.found d = [leaf]) ∧ l.Fails d e := by
  simp only [← Lookup.sampleFrom_ok_iff_found _ d tags,
    ← Lookup.sampleFrom_eq_error_iff _ d tags]
  rw [← mapM_eq_error_iff]
  constructor
  · intro h
    obtain hmade | ⟨samples, -, h⟩ := bind_eq_error_iff.1 h
    · exact hmade
    · cases h
  · intro h
    exact bind_eq_error_iff.2 (.inl h)

theorem length_lookups (collectors : List Collector) :
    (lookups collectors).length = 3 + 2 * collectors.length := by
  simp only [lookups, Collector.lookups, List.length_append, List.length_flatMap, List.length_cons,
    List.length_nil, List.map_const', List.sum_replicate_nat]
  omega

/-- Beans of other domains do not matter. -/
theorem catalog_congr {d' : Dump}
    (h : ∀ bean, BeanName.domainOf bean = "java.lang" → d'.beans.get? bean = d.beans.get? bean) :
    catalog d' = catalog d := by
  have hsame : d'.ofDomain domain = d.ofDomain domain := Dump.ofDomain_congr h
  rw [catalog, catalog, hsame]

theorem mem_rejected_catalog_iff {e : BeanName.Malformed} : e ∈ (catalog d).rejected ↔
    ∃ leaf : Leaf, leaf.Stands false d ∧ BeanName.domainOf leaf.bean = "java.lang" ∧
      BeanName.parse leaf.bean = .error e := by
  rw [catalog, Catalog.mem_rejected_iff (MetricFactory.faithful_plain _)]
  simp only [Leaf.in_ofDomain_iff, Leaf.stands_iff, and_assoc]
  rfl

/-- What is extracted of a dump. -/
structure Extracts (d : Dump) (tags : List String) (collectors : List Collector) : Prop where
  lookups : (lookups collectors).map (fun l => (l.leaf, l.tags)) =
    [("ThreadCount", [("type", "Threading")]), ("HeapMemoryUsage.used", [("type", "Memory")]),
      ("NonHeapMemoryUsage.used", [("type", "Memory")])] ++
    collectors.flatMap fun c =>
      [("CollectionCount", [("type", "GarbageCollector"), ("name", c.name)]),
        ("CollectionTime", [("type", "GarbageCollector"), ("name", c.name)])]
  complete : ∀ (l : Lookup) (leaf : Leaf), leaf ∈ l.found d ↔ l.Finds d leaf
  ordered : d.Ordered → ∀ l : Lookup, (l.found d).Pairwise Leaf.Before
  unique : d.Ordered → ∀ l : Lookup,
    (∃ leaf, l.found d = [leaf]) ↔ ∃! leaf, l.Finds d leaf
  succeeds : (∃ result, extract d tags collectors = .ok result) ↔
    ∀ l ∈ Jvm.lookups collectors, ∃ leaf, l.found d = [leaf]
  samples : ∀ samples rejected, extract d tags collectors = .ok (samples, rejected) →
    samples.length = 3 + 2 * collectors.length ∧
      List.Forall₂ (fun l s => l.Yields d tags s) (Jvm.lookups collectors) samples
  rejected : ∀ samples rejected, extract d tags collectors = .ok (samples, rejected) →
    ∀ e, e ∈ rejected ↔ ∃ leaf : Leaf, leaf.Stands false d ∧
      BeanName.domainOf leaf.bean = "java.lang" ∧ BeanName.parse leaf.bean = .error e
  fails : ∀ e, extract d tags collectors = .error e ↔
    ∃ before l after, Jvm.lookups collectors = before ++ l :: after ∧
      (∀ l' ∈ before, ∃ leaf, l'.found d = [leaf]) ∧ l.Fails d e
  confined : ∀ d' : Dump,
    (∀ bean, BeanName.domainOf bean = "java.lang" → d'.beans.get? bean = d.beans.get? bean) →
      extract d' tags collectors = extract d tags collectors

/-- What a cycle that has a dump emits: all samples, the standard ones first, or none. -/
structure Appends {π : Type} (d : Dump) (i : CheckInstance) (sink : Sink)
    (after : Except CheckError Unit × Sink × Bridge π) : Prop where
  all : ∀ standard rejected,
    extract d i.tags i.config.collectorList = .ok (standard, rejected) → after.1 = .ok () ∧
      after.2.1.samples =
        sink.samples ++ (standard ++ ((i.catalog d).metrics.filter (·.send)).map i.sampleOf)
  nothing : ∀ e, extract d i.tags i.config.collectorList = .error e →
    after.1 = .error (.jvm e) ∧ after.2.1.samples = sink.samples

theorem appends_check {π : Type} {b : Behaviour π} {c : LauncherConfig} {i : CheckInstance}
    {w : Bridge π} (h : (w.readDump b c i.config).1 = .ok d) (sink : Sink) :
    Appends d i sink (w.check b c i sink) where
  all standard rejected hextract := Bridge.check_of_dump h
    (by rw [CheckInstance.samples, hextract]; rfl) sink
  nothing e hextract := Bridge.check_of_dump_error h
    (by rw [CheckInstance.samples, hextract]; rfl) sink

/-- The standard samples are extracted exactly if each lookup finds one leaf, and then they are the
samples of these leaves in order; else the first lookup that finds none or several is the error, and
a cycle emits nothing. The beans of other domains make no difference. -/
theorem extract_finds_each_once (d : Dump) :
    (∀ tags collectors, Extracts d tags collectors) ∧
      ∀ (π : Type) (b : Behaviour π) (c : LauncherConfig) (i : CheckInstance) (sink : Sink)
        (w : Bridge π), (w.readDump b c i.config).1 = .ok d →
          Appends d i sink (w.check b c i sink) := by
  refine ⟨fun tags collectors => ?_, fun π b c i sink w h => appends_check h sink⟩
  exact {
    lookups := by simp [lookups, Collector.lookups, List.map_flatMap]
    complete := fun l leaf => Lookup.mem_found_iff
    ordered := fun hd l => Lookup.found_pairwise hd l
    unique := fun hd l => Lookup.found_unique_iff hd
    succeeds := extract_ok_iff_found
    samples := by
      intro samples rejected h
      obtain ⟨heach, -⟩ := extract_eq_ok_iff.1 h
      rw [← length_lookups]
      exact ⟨heach.length_eq.symm, heach⟩
    rejected := by
      intro samples rejected h e
      obtain ⟨-, rfl⟩ := extract_eq_ok_iff.1 h
      exact mem_rejected_catalog_iff
    fails := fun e => extract_eq_error_iff
    confined := by
      intro d' h
      rw [extract, extract, catalog_congr h] }

/-- The standard beans, and one of another domain that looks like one of them. -/
def standardPayload : String :=
  "\x7b\"java.lang:type=Threading\":\x7b\"ThreadCount\":1\x7d," ++
    "\"java.lang:type=Memory\":\x7b\"HeapMemoryUsage\":\x7b\"used\":2\x7d," ++
      "\"NonHeapMemoryUsage.used\":3\x7d," ++
    "\"solr:type=Threading\":\x7b\"ThreadCount\":4\x7d\x7d"

def absent : Collector := ⟨"ParNew", "parnew"⟩

private theorem standardPayload_found :
    ((Dump.parse Connector.Tape.console.noJson standardPayload).toOption.any fun d =>
      (lookups []).all (fun l => (l.found d).length == 1) &&
        absent.lookups.all fun l => (l.found d).length == 0) = true := by
  have htext : standardPayload.toList = _ :=
    Text.toList_append_congr (Text.toList_append_congr (Text.toList_append_congr
      String.toList_ofList String.toList_ofList) String.toList_ofList) String.toList_ofList
  rw [Dump.parse_of_toList htext]
  decide +kernel

private theorem standardPayload_json : (Json.parse standardPayload).isSome := by
  obtain ⟨d, hd, -⟩ := (Option.any_eq_true _ _).1 standardPayload_found
  exact Dump.isSome_json_of_parse (toOption_eq_some_iff.1 hd)

/-- The standard samples of that text, with and without another bean that looks like a standard one,
and what a cycle makes of them; and the error if the collector is asked for. -/
theorem standardPayload_extract : ∃ d standard rejected,
    Dump.parse Connector.Tape.console.noJson standardPayload = .ok d ∧
    extract d CheckInstance.plain.tags [] = .ok (standard, rejected) ∧ standard.length = 3 ∧
    extract (d.insert "solr:type=Memory" ∅) CheckInstance.plain.tags [] =
      .ok (standard, rejected) ∧
    (∃ rest, ((Bridge.replying CheckInstance.plain.config.endpoint
      (Bridge.replyOf standardPayload standardPayload_json)).check
        Connector.Tape.console .default CheckInstance.plain ∅).2.1.samples =
          [] ++ (standard ++ rest)) ∧
    extract d CheckInstance.plain.tags [absent] =
      .error (.missing "java.lang:type=GarbageCollector,name=ParNew" "CollectionCount") := by
  obtain ⟨d, hd, hfound⟩ := (Option.any_eq_true _ _).1 standardPayload_found
  replace hd := toOption_eq_some_iff.1 hd
  obtain ⟨hpresent, habsent⟩ := Bool.and_eq_true_iff.1 hfound
  obtain ⟨hextracts, hemits⟩ := extract_finds_each_once d
  have hplain := hextracts CheckInstance.plain.tags []
  have honce : ∀ l ∈ lookups [], ∃ leaf, l.found d = [leaf] := fun l hl =>
    List.length_eq_one_iff.1 (beq_iff_eq.1 (List.all_eq_true.1 hpresent l hl))
  obtain ⟨⟨standard, rejected⟩, hextract⟩ := hplain.succeeds.2 honce
  refine ⟨d, standard, rejected, hd, hextract, (hplain.samples _ _ hextract).1, ?_, ?_, ?_⟩
  · rw [hplain.confined (d.insert "solr:type=Memory" ∅) fun bean hbean => ?_, hextract]
    refine Dict.get?_insert_ne _ _ ?_
    rintro rfl
    exact absurd hbean (by decide)
  · have hreplying := Bridge.replying_replies CheckInstance.plain.config.endpoint
      (Bridge.replyOf standardPayload standardPayload_json)
    have hread := Bridge.readDump_of_replying hreplying hd
    have happends := hemits _ Connector.Tape.console .default CheckInstance.plain ∅ _ hread
    exact ⟨_, (happends.all standard rejected hextract).2⟩
  · have hnone := List.all_eq_true.1 habsent _ List.mem_cons_self
    refine ((hextracts _ [absent]).fails _).2 ⟨lookups [], _, _, rfl, honce, .inl ⟨?_, ?_⟩⟩
    · exact List.length_eq_zero_iff.1 (beq_iff_eq.1 hnone)
    · decide

end Jvm

end BeanGauge
