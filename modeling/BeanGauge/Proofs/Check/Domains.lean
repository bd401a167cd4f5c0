import BeanGauge.Proofs.BeanName
import BeanGauge.Proofs.Catalog.Leaves
import BeanGauge.Proofs.Check.Emission
/-!
# Wanted domains

A dump is cut down to the wanted domains before its identifiers are read. That leaves of its catalog
just the metrics and the faults of wanted domains, so what is read grows with the wanted domains,
however they are listed.
-/

namespace BeanGauge

theorem flatMap_filter {α β : Type} {g : α → List β} {p : α → Bool} {q : β → Bool}
    (h : ∀ a, ∀ b ∈ g a, q b = p a) (as : List α) :
    (as.filter p).flatMap g = (as.flatMap g).filter q := by
  induction as with
  | nil => rfl
  | cons a as ih =>
    rw [List.flatMap_cons, List.filter_append, ← ih, List.filter_cons]
    cases hp : p a with
    | true =>
      have hall : (g a).filter q = g a :=
        List.filter_eq_self.2 fun b hb => (h a b hb).trans hp
      rw [if_pos rfl, List.flatMap_cons, hall]
    | false =>
      have hnone : (g a).filter q = [] := by
        rw [List.filter_eq_nil_iff]
        intro b hb
        rw [h a b hb, hp]
        exact Bool.false_ne_true
      rw [if_neg Bool.false_ne_true, hnone, List.nil_append]

namespace Catalog

variable {f : MetricFactory}

theorem domain_of_mem_metrics (hf : f.Faithful) {d : Dump} {m : Metric}
    (h : m ∈ (build f d).metrics) : m.domain = BeanName.domainOf m.bean := by
  obtain ⟨l, hl, hwrap⟩ := exists_of_mem_forall₂ (metrics_forall₂ hf d) m h
  obtain ⟨-, name, hname⟩ := Dump.mem_namedLeaves_iff.1 hl
  obtain ⟨m', hwrap', hbean, hdomain⟩ := hf.makes hname l.path l.value
  obtain rfl := Except.ok.inj (hwrap.symm.trans hwrap')
  rw [hdomain, hbean, BeanName.domainOf_of_parse hname]

theorem bean_of_mem_ofAttribute (hf : f.Faithful) {bean : String} {a : String × Attribute}
    {m : Metric} (h : m ∈ ofAttribute f bean a) : m.bean = bean := by
  obtain ⟨l, -, hmade⟩ := List.mem_filterMap.1 h
  have hwrap := toOption_eq_some_iff.1 hmade
  cases hname : BeanName.parse bean with
  | error e =>
    rw [hf.refuses hname] at hwrap
    cases hwrap
  | ok name =>
    obtain ⟨m', hwrap', hbean, -⟩ := hf.makes hname l.1 l.2
    obtain rfl := Except.ok.inj (hwrap.symm.trans hwrap')
    exact hbean

/-- Leaving beans out of a dump leaves out their metrics and no others. -/
theorem metrics_filterBeans (hf : f.Faithful) (d : Dump) (p : String → Bool) :
    (build f (d.filterBeans p)).metrics = (build f d).metrics.filter fun m => p m.bean := by
  rw [build_metrics hf.uniform, build_metrics hf.uniform]
  refine flatMap_filter (p := fun bean => p bean.1) (fun bean m hm => ?_) d.beans.entries
  obtain ⟨a, -, hm⟩ := List.mem_flatMap.1 hm
  rw [bean_of_mem_ofAttribute hf hm]

/-- Leaving beans out of a dump leaves out their faults and no others. -/
theorem rejected_filterBeans (hf : f.Faithful) (d : Dump) (p : String → Bool) :
    (build f (d.filterBeans p)).rejected =
      (build f d).rejected.filter fun e => p e.identifier := by
  rw [build_rejected hf, build_rejected hf, List.filter_filterMap]
  show (d.beans.entries.filter fun bean => p bean.1).filterMap _ = _
  rw [List.filterMap_filter]
  refine List.filterMap_congr fun bean _ => ?_
  cases hfault : fault? f.coerce bean with
  | none => simp
  | some e =>
    rw [Option.filter_some, BeanName.identifier_of_parse (fault?_eq_some_iff.1 hfault).1]

theorem metrics_keepDomains (hf : f.Faithful) (d : Dump) (wanted : List String)
    (mode : DomainMatch) : (build f (d.keepDomains (some wanted) mode)).metrics =
      (build f d).metrics.filter fun m => wanted.any (mode.accepts m.domain) := by
  show (build f (d.filterBeans _)).metrics = _
  rw [metrics_filterBeans hf]
  refine List.filter_congr fun m hm => ?_
  rw [domain_of_mem_metrics hf hm]

theorem rejected_keepDomains (hf : f.Faithful) (d : Dump) (wanted : List String)
    (mode : DomainMatch) : (build f (d.keepDomains (some wanted) mode)).rejected =
      (build f d).rejected.filter fun e => wanted.any
        (mode.accepts (String.ofList (e.identifier.toList.takeWhile (· != ':')))) := by
  simp only [← BeanName.domainOf_eq_takeWhile]
  exact rejected_filterBeans hf d _

end Catalog

namespace CheckInstance

/-- The instance with other extra domains. -/
def withDomains (i : CheckInstance) (extra : Option (List String)) : CheckInstance :=
  { i with config := { i.config with domains := extra } }

variable {i : CheckInstance} {base : List String}

/-- The domains that are read are those of the integration and the configured ones. -/
theorem mem_domains (h : i.integration.domains = some base) : ∃ domains, i.domains = some domains ∧
    ∀ wanted, wanted ∈ domains ↔ wanted ∈ base ∨ wanted ∈ i.config.domains.getD [] := by
  rw [domains, h]
  refine ⟨_, rfl, fun wanted => ?_⟩
  rw [Dict.mem_keys_ofList_iff, List.map_map, Function.comp_def, List.map_id', List.mem_append]
  rfl

theorem get?_kept_of_domains (h : i.integration.domains = some base) (d : Dump) (bean : String)
    (attributes : Attributes) : (i.kept d).beans.get? bean = some attributes ↔
      d.beans.get? bean = some attributes ∧
        ∃ wanted, (wanted ∈ base ∨ wanted ∈ i.config.domains.getD []) ∧
          i.integration.domainMatch.accepts (BeanName.domainOf bean) wanted := by
  obtain ⟨domains, hdomains, hmem⟩ := mem_domains h
  rw [get?_kept, hdomains]
  simp [hmem]

theorem catalog_metrics_of_domains {domains : List String} (h : i.domains = some domains)
    (d : Dump) : (i.catalog d).metrics =
      (Catalog.build (i.integration.factory i.config.excluded) d).metrics.filter
        fun m => domains.any (i.integration.domainMatch.accepts m.domain) := by
  rw [catalog, h]
  exact Catalog.metrics_keepDomains (MetricFactory.faithful_profile _ _) d domains _

/-- More extra domains keep the metrics there were. -/
theorem catalog_sublist_withDomains (h : i.integration.domains = some base) (d : Dump)
    {extra : Option (List String)} (hextra : i.config.domains.getD [] ⊆ extra.getD []) :
    (i.catalog d).metrics.Sublist ((i.withDomains extra).catalog d).metrics := by
  obtain ⟨domains, hdomains, hmem⟩ := mem_domains h
  obtain ⟨domains', hdomains', hmem'⟩ := mem_domains (i := i.withDomains extra) h
  rw [catalog_metrics_of_domains hdomains, catalog_metrics_of_domains hdomains']
  refine List.monotone_filter_right _ fun m hm => ?_
  obtain ⟨wanted, hwanted, haccepts⟩ := List.any_eq_true.1 hm
  refine List.any_eq_true.2 ⟨wanted, (hmem' wanted).2 ?_, haccepts⟩
  rcases (hmem wanted).1 hwanted with hbase | hconfigured
  · exact .inl hbase
  · exact .inr (hextra hconfigured)

end CheckInstance

namespace Catalog

/-- The catalog of the wanted domains of a dump is the part of its catalog that stands in them. What
an integration with domains of its own reads are these and the extra ones, so no extra domain takes
a metric away. -/
theorem build_keepDomains :
    (∀ f : MetricFactory, f.Known → ∀ (d : Dump) (wanted : List String) (mode : DomainMatch),
      (build f (d.keepDomains (some wanted) mode)).metrics =
          (build f d).metrics.filter (fun m => wanted.any (mode.accepts m.domain)) ∧
        (build f (d.keepDomains (some wanted) mode)).rejected =
          (build f d).rejected.filter fun e => wanted.any
            (mode.accepts (String.ofList (e.identifier.toList.takeWhile (· != ':'))))) ∧
      ∀ (i : CheckInstance) (base : List String), i.integration.domains = some base → ∀ d : Dump,
        (∀ bean attributes, (i.kept d).beans.get? bean = some attributes ↔
          d.beans.get? bean = some attributes ∧
            ∃ wanted, (wanted ∈ base ∨ wanted ∈ i.config.domains.getD []) ∧
              i.integration.domainMatch.accepts (BeanName.domainOf bean) wanted) ∧
          ∀ extra : Option (List String), i.config.domains.getD [] ⊆ extra.getD [] →
            (i.catalog d).metrics.Sublist ((i.withDomains extra).catalog d).metrics := by
  constructor
  · intro f hf d wanted mode
    exact ⟨metrics_keepDomains hf.faithful d wanted mode,
      rejected_keepDomains hf.faithful d wanted mode⟩
  · intro i base hbase d
    exact ⟨CheckInstance.get?_kept_of_domains hbase d,
      fun extra hextra => CheckInstance.catalog_sublist_withDomains hbase d hextra⟩

def mixed : Dump :=
  ⟨Dict.ofList [
    ("Catalina:type=Cache", Dict.ofList [("accessCount", .integer 1)]),
    ("Catalina", Dict.ofList [("a", .integer 2)]),
    ("custom:type=x", Dict.ofList [("b", .integer 3)]),
    ("java.lang:type=Memory", Dict.ofList [("c", .integer 4)])]⟩

def cat : CheckInstance := ⟨{ host := "web", port := 8050, collectors := some [] }, .tomcat⟩

theorem mixed_keepDomains :
    (build (MetricFactory.plain "p") (mixed.keepDomains (some ["Catalina"]) .exact)).metrics =
        (build (MetricFactory.plain "p") mixed).metrics.filter
          (fun m => ["Catalina"].any (DomainMatch.exact.accepts m.domain)) ∧
      (build (MetricFactory.plain "p") (mixed.keepDomains (some ["Catalina"]) .exact)).rejected =
        [⟨"Catalina", .noColon⟩] ∧
      (cat.catalog mixed).metrics.map (·.leaf) = ["accessCount"] ∧
      ((cat.withDomains (some ["custom", "custom"])).catalog mixed).metrics.map (·.leaf) =
        ["accessCount", "b"] ∧
      (cat.catalog mixed).metrics.Sublist
        ((cat.withDomains (some ["custom", "custom"])).catalog mixed).metrics :=
  ⟨(build_keepDomains.1 _ (.plain "p") mixed ["Catalina"] .exact).1, by decide,
    by decide, by decide,
    (build_keepDomains.2 cat _ rfl mixed).2 _ (List.nil_subset _)⟩

end Catalog

end BeanGauge
