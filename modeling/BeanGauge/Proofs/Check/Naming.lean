import BeanGauge.Proofs.Check.Building
import BeanGauge.Proofs.Check.Isolation
import BeanGauge.Proofs.Integration.Naming
/-!
# What samples are called

No sample and no service check of a run has a reserved name, unless a configured alias leads there.
-/

namespace BeanGauge

open Exposition (Apart)

namespace Jvm

theorem Lookup.name_sampleFrom {l : Lookup} {c : Catalog} {tags : List String} {s : Sample}
    (h : l.sampleFrom c tags = .ok s) : s.name = l.sample := by
  unfold Lookup.sampleFrom at h
  split at h
  · cases h
    rfl
  · cases h
  · cases h

/-- The standard samples have names apart from reserved ones. -/
theorem apart_lookups (collectors : List Collector) :
    ∀ l ∈ lookups collectors, Apart l.sample := by
  intro l hl
  have hcollectors : Apart "jvm.gc." := by decide
  rcases List.mem_append.1 hl with hl | hl
  · have hfixed : ∀ l ∈ lookups [], Apart l.sample := List.all_eq_true.1 (by decide)
    exact hfixed l (List.mem_append_left _ hl)
  · obtain ⟨c, -, hl⟩ := List.mem_flatMap.1 hl
    simp only [Collector.lookups, List.mem_cons, List.not_mem_nil, or_false] at hl
    rcases hl with rfl | rfl
    · exact (hcollectors.append c.label).append ".count"
    · exact (hcollectors.append c.label).append ".time"

end Jvm

namespace CheckInstance

/-- The samples of a dump are named apart from the reserved names, but for renamed ones. -/
theorem samples_apart {i : CheckInstance} {d : Dump} {emitted : List Sample}
    (h : i.samples d = .ok emitted) :
    ∀ s ∈ emitted, Apart s.name ∨ i.integration.Renames s.name := by
  obtain ⟨standard, hstandard, h⟩ := bind_eq_ok_iff.1 h
  cases h
  intro s hs
  rcases List.mem_append.1 hs with hs | hs
  · obtain ⟨made, hmade, h⟩ := bind_eq_ok_iff.1 hstandard
    cases h
    obtain ⟨l, hl, hsample⟩ := exists_of_mem_mapM hmade s hs
    rw [Jvm.Lookup.name_sampleFrom hsample]
    exact .inl (Jvm.apart_lookups _ l hl)
  · obtain ⟨m, hm, rfl⟩ := List.mem_map.1 hs
    have hmem := (List.mem_filter.1 hm).1
    rw [catalog_metrics] at hmem
    obtain ⟨bean, -, hmem⟩ := List.mem_flatMap.1 hmem
    obtain ⟨a, -, hmem⟩ := List.mem_flatMap.1 hmem
    obtain ⟨leaf, -, hmade⟩ := List.mem_filterMap.1 hmem
    have hwrap := toOption_eq_some_iff.1 hmade
    rw [show (i.integration.factory i.config.excluded).wrap bean.1 leaf.1 leaf.2 = _ from
      i.integration.wrap_eq i.config.excluded bean.1 leaf.1 leaf.2] at hwrap
    cases hparse : BeanName.parse bean.1 with
    | error e =>
      rw [hparse] at hwrap
      cases hwrap
    | ok parsed =>
      rw [hparse] at hwrap
      cases hwrap
      exact i.integration.apart_describe bean.1 parsed leaf.1 leaf.2

/-- So has every service check. -/
theorem apart_serviceCheckName (i : CheckInstance) : Apart i.serviceCheckName := by
  obtain ⟨c, cs, hname, hleads, hc⟩ := i.integration.leads_name
  exact (Exposition.apart_of_cons hname hleads.letter hc).append ".can_connect"

end CheckInstance

namespace Runner

variable {π : Type} {b : Behaviour π} {l : LauncherConfig}

theorem mem_segments {is : List CheckInstance} {w : Bridge π} {x : Segment}
    (h : x ∈ segments b l is w) : ∃ i ∈ is, ∃ w' : Bridge π, x = w'.segment b l i := by
  induction is generalizing w with
  | nil => cases h
  | cons i is ih =>
    rcases List.mem_cons.1 h with rfl | h
    · exact ⟨i, List.mem_cons_self, w, rfl⟩
    · obtain ⟨j, hj, w', hx⟩ := ih h
      exact ⟨j, List.mem_cons_of_mem i hj, w', hx⟩

/-- What a run emits is named apart from the reserved names, but for renamed samples. -/
theorem runAll_apart (b : Behaviour π) (r : Runner) (w : Bridge π) :
    (∀ s ∈ (r.runAll b ∅ w).2.1.samples,
      Apart s.name ∨ ∃ i ∈ r.instances, i.integration.Renames s.name) ∧
    ∀ c ∈ (r.runAll b ∅ w).2.1.serviceChecks, Apart c.name := by
  have hvisits := runAll_visits b r ∅ w
  constructor
  · intro s hs
    rw [hvisits.samples] at hs
    obtain ⟨x, hx, hs⟩ := List.mem_flatMap.1 hs
    obtain ⟨i, hi, w', rfl⟩ := mem_segments (List.mem_filter.1 hx).1
    obtain ⟨d, emitted, hsamples, hs⟩ := Bridge.segment_samples hs
    exact (CheckInstance.samples_apart hsamples s hs).imp_right fun hrenames => ⟨i, hi, hrenames⟩
  · intro c hc
    rw [hvisits.serviceChecks, ← List.map_uncurry_zip_eq_zipWith] at hc
    rcases List.mem_append.1 hc with hc | hc
    · cases hc
    · obtain ⟨⟨i, x⟩, -, rfl⟩ := List.mem_map.1 hc
      exact i.apart_serviceCheckName

end Runner

/-! ## Configured aliases -/

/-- Whether a name is the new one of some alias. -/
def Config.Aliases (c : Config) (name : String) : Prop :=
  ∃ check ∈ c.checks, ∃ i ∈ check.instances, ∃ spec ∈ i.filters, ∃ leaf a,
    (Filter.aliasesOf spec).get? leaf = some a ∧ a.newName = some name

theorem Integration.specs_of_build [Regex.Builder] {name : String} {specs : List FilterSpec}
    {filters : List Filter} (h : build name specs = .ok (.jmx filters)) :
    specs.mapM Filter.compile = .ok filters := by
  unfold build at h
  split_ifs at h
  · cases h
  · cases h
  · rw [mapError_eq_ok_iff] at h
    cases hspecs : specs.mapM Filter.compile with
    | error e =>
      rw [hspecs] at h
      cases h
    | ok compiled =>
      rw [hspecs] at h
      cases h
      rfl
  · cases h
  · cases h

theorem Filter.aliases_compile [Regex.Builder] {spec : FilterSpec} {f : Filter}
    (h : compile spec = .ok f) : f.aliases = aliasesOf spec := by
  obtain ⟨includes, -, h⟩ := bind_eq_ok_iff.1 h
  obtain ⟨excludes, -, h⟩ := bind_eq_ok_iff.1 h
  cases h
  rfl

/-- The filters of a runner give no names but those of configured aliases. -/
theorem Runner.aliases_of_renames [Regex.Builder] {c : Config} {r : Runner} (h : ofConfig c = .ok r)
    {i : CheckInstance} (hi : i ∈ r.instances) {name : String}
    (hname : i.integration.Renames name) : c.Aliases name := by
  obtain ⟨config, hconfig, hinstance, hbuild⟩ := (builtFrom_of_ofConfig h).configured hi
  obtain ⟨filters, f, leaf, a, hjmx, hf, hget, hnew⟩ := hname
  rw [hjmx] at hbuild
  obtain ⟨spec, hspec, hcompile⟩ := exists_of_mem_mapM (Integration.specs_of_build hbuild) f hf
  rw [Filter.aliases_compile hcompile] at hget
  exact ⟨config, hconfig, i.config, hinstance, spec, hspec, leaf, a, hget, hnew⟩

end BeanGauge
