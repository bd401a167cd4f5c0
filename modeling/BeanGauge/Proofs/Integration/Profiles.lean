import BeanGauge.Proofs.Integration.Exclusion
/-!
# What profiles decide

Three integrations send what an allow list names, under the name of the first rule that applies. One
integration sends all that its list does not deny, without the `instance` tag, which no decision
can depend on. Whatever is decided, a metric stays what was read.
-/

namespace BeanGauge

namespace AllowRule

/-- Whether a rule names the leaf of a metric and a tag of it. -/
structure SpeaksOf (r : AllowRule) (m : Metric) : Prop where
  leaf : r.leaf = m.leaf
  tag : m.tags.get? r.tagKey = some r.tagValue

/-- Whether a rule speaks of a metric and none before it does. -/
def FirstOf (rules : List AllowRule) (m : Metric) (r : AllowRule) : Prop :=
  ∃ before after, rules = before ++ r :: after ∧ r.SpeaksOf m ∧
    ∀ earlier ∈ before, ¬earlier.SpeaksOf m

/-- What an allow list decides about a metric. -/
structure Decides (rules : List AllowRule) (excluded : List String) (m : Metric) : Prop where
  send : m.send ↔ m.leaf ∉ excluded ∧ ∃ r ∈ rules, r.SpeaksOf m
  renames : m.nameOverride.isSome ↔ ∃ r ∈ rules, r.SpeaksOf m
  first : ∀ r, FirstOf rules m r → m.nameOverride = some r.name ∧ m.kind = r.kind
  kept : (∀ r ∈ rules, ¬r.SpeaksOf m) → m.nameOverride = none ∧ m.kind = .gauge
  named : m.send → ∃ r, FirstOf rules m r ∧ m.nameOverride = some r.name ∧ m.name = r.name

variable {rules : List AllowRule} {r : AllowRule} {m : Metric}

theorem applies_iff : r.applies m ↔ r.SpeaksOf m := by
  rw [applies, Bool.and_eq_true, beq_iff_eq, beq_iff_eq]
  exact ⟨fun h => ⟨h.1, h.2⟩, fun h => ⟨h.leaf, h.tag⟩⟩

/-- The rule that is found is the first that speaks of the metric. -/
theorem lookup?_eq_some_iff : lookup? rules m = some r ↔ FirstOf rules m r := by
  rw [lookup?, List.find?_eq_some_iff_append, applies_iff]
  constructor
  · rintro ⟨hr, before, after, hrules, hbefore⟩
    refine ⟨before, after, hrules, hr, fun earlier hearlier hspeaks => ?_⟩
    have hnot := hbefore earlier hearlier
    rw [applies_iff.2 hspeaks] at hnot
    cases hnot
  · rintro ⟨before, after, hrules, hr, hbefore⟩
    refine ⟨hr, before, after, hrules, fun earlier hearlier => ?_⟩
    rw [Bool.not_eq_true']
    exact Bool.eq_false_iff.2 (mt applies_iff.1 (hbefore earlier hearlier))

theorem isSome_lookup?_iff : (lookup? rules m).isSome ↔ ∃ r ∈ rules, r.SpeaksOf m := by
  rw [lookup?, List.find?_isSome]
  simp only [applies_iff]

theorem lookup?_congr {m' : Metric} (hleaf : m.leaf = m'.leaf) (htags : m.tags = m'.tags) :
    lookup? rules m = lookup? rules m' := by
  simp only [lookup?, applies, Metric.tag?, hleaf, htags]

/-- A metric that is named and sent by what the rules say of it, as it was `seen` before. -/
theorem decides_of_lookup? (seen : Metric) {excluded : List String} (hleaf : m.leaf = seen.leaf)
    (htags : m.tags = seen.tags)
    (hsend : m.send = (!excluded.contains m.leaf && (lookup? rules seen).isSome))
    (hname : m.nameOverride = (lookup? rules seen).map (·.name))
    (hkind : m.kind = ((lookup? rules seen).map (·.kind)).getD .gauge) :
    Decides rules excluded m := by
  rw [← lookup?_congr hleaf htags] at hsend hname hkind
  have hfirst : ∀ r, FirstOf rules m r → m.nameOverride = some r.name ∧ m.kind = r.kind := by
    intro r hr
    rw [hname, hkind, lookup?_eq_some_iff.2 hr]
    exact ⟨rfl, rfl⟩
  have hsent : m.send ↔ m.leaf ∉ excluded ∧ ∃ r ∈ rules, r.SpeaksOf m := by
    rw [hsend, Bool.and_eq_true, isSome_lookup?_iff, Bool.not_eq_true', Bool.eq_false_iff, ne_eq,
      List.contains_iff_mem]
  refine ⟨hsent, ?_, hfirst, ?_, ?_⟩
  · rw [hname, Option.isSome_map, isSome_lookup?_iff]
  · intro hnone
    have hlookup : lookup? rules m = none := by
      rw [← Option.not_isSome_iff_eq_none, isSome_lookup?_iff]
      rintro ⟨r, hr, hspeaks⟩
      exact hnone r hr hspeaks
    rw [hname, hkind, hlookup]
    exact ⟨rfl, rfl⟩
  · intro hm
    obtain ⟨r, hr⟩ := Option.isSome_iff_exists.1 (isSome_lookup?_iff.2 (hsent.1 hm).2)
    have hr := lookup?_eq_some_iff.1 hr
    obtain ⟨hoverride, -⟩ := hfirst r hr
    refine ⟨r, hr, hoverride, ?_⟩
    rw [Metric.name, hoverride]
    rfl

end AllowRule

namespace Integration

/-- What the list of a Cassandra server decides about a metric. -/
structure DenyDecides (excluded : List String) (m : Metric) : Prop where
  send : m.send ↔ m.leaf ∉ excluded ∧ m.leaf ∉ deniedLeaves ∧
    m.tags.get? "keyspace" ≠ some "system"
  renames : m.nameOverride.isSome
  kind : m.kind = .gauge

theorem naming_eq_lookup? {i : Integration} {rules : List AllowRule} (h : i.allowRules = some rules)
    (m : Metric) : i.naming m = (AllowRule.lookup? rules m).map fun r => (r.name, r.kind) := by
  cases i <;> cases h <;> rfl

theorem includes_eq_isSome_lookup? {i : Integration} {rules : List AllowRule}
    (h : i.allowRules = some rules) (m : Metric) :
    i.includes m = (AllowRule.lookup? rules m).isSome := by
  cases i <;> cases h <;> rfl

theorem allow_decides {i : Integration} {rules : List AllowRule} (h : i.allowRules = some rules)
    (excluded : List String) {bean : String} {name : BeanName} {leaf : String} {value : Float}
    {m : Metric} (hname : BeanName.parse bean = .ok name)
    (hm : i.wrap excluded bean leaf value = .ok m) : AllowRule.Decides rules excluded m := by
  have hwrap := i.wrap_of_parse excluded hname leaf value
  have hleaf : (i.prepared bean name leaf value).leaf = leaf := by cases i <;> rfl
  rw [naming_eq_lookup? h, includes_eq_isSome_lookup? h, Option.map_map, Option.map_map] at hwrap
  obtain rfl := Except.ok.inj (hwrap.symm.trans hm)
  refine AllowRule.decides_of_lookup? (i.prepared bean name leaf value) rfl rfl ?_ rfl rfl
  dsimp only
  rw [hleaf]

/-- Only cassandra drops a tag, the instance, before it looks at its rules. -/
theorem tags_prepared (i : Integration) (bean : String) (name : BeanName) (leaf : String)
    (value : Float) :
    (i.prepared bean name leaf value).tags =
      if i = .cassandra then name.tags.erase "instance" else name.tags := by
  cases i with
  | cassandra =>
    rw [if_pos rfl]
    apply Dict.ext_get?
    intro key
    show (name.tags.filter _).get? key = _
    by_cases hkey : key = "instance"
    · rw [hkey, Dict.get?_filter, Dict.get?_erase, if_neg (by simp)]
      cases name.tags.get? "instance" <;> rfl
    · rw [Dict.get?_filter, Dict.get?_erase_ne _ hkey]
      cases name.tags.get? key with
      | none => rfl
      | some v => simp [hkey]
  | _ => rfl

/-- The list of a Cassandra server looks at nothing that is decided, nor at the `instance` tag. -/
theorem deny_decides (excluded : List String) {bean : String} {name : BeanName} {leaf : String}
    {value : Float} {m : Metric} (hname : BeanName.parse bean = .ok name)
    (hm : cassandra.wrap excluded bean leaf value = .ok m) : DenyDecides excluded m := by
  obtain rfl := Except.ok.inj (hm.symm.trans (cassandra.wrap_of_parse excluded hname leaf value))
  refine ⟨?_, rfl, rfl⟩
  have hdenies : ∀ m, denies m ↔
      m.leaf ∈ deniedLeaves ∨ m.tags.get? "keyspace" = some "system" := by
    intro m
    rw [denies, Bool.or_eq_true, List.contains_iff_mem, beq_iff_eq]
    rfl
  show (!_ && !denies _) = true ↔ _
  rw [Bool.and_eq_true, Bool.not_eq_true', Bool.not_eq_true', Bool.eq_false_iff, Bool.eq_false_iff,
    ne_eq, ne_eq, List.contains_iff_mem, hdenies, not_or]
  rfl

/-- Two Cassandra beans that differ in their `instance` tags are told apart by nothing but their
identifiers. -/
theorem wrap_cassandra_congr (excluded : List String) {bean bean' : String}
    {name name' : BeanName} (hname : BeanName.parse bean = .ok name)
    (hname' : BeanName.parse bean' = .ok name') (hdomain : name'.domain = name.domain)
    (htags : name'.tags.erase "instance" = name.tags.erase "instance") {leaf : String}
    {value : Float} {m : Metric} (hm : cassandra.wrap excluded bean leaf value = .ok m) :
    cassandra.wrap excluded bean' leaf value = .ok { m with bean := bean' } := by
  obtain rfl := Except.ok.inj ((cassandra.wrap_of_parse excluded hname leaf value).symm.trans hm)
  have hsame : (cassandra.prepared bean' name' leaf value).tags =
      (cassandra.prepared bean name leaf value).tags := by
    rw [tags_prepared, tags_prepared, if_pos rfl, if_pos rfl, htags]
  have hprepared : cassandra.prepared bean' name' leaf value =
      { cassandra.prepared bean name leaf value with bean := bean' } :=
    calc cassandra.prepared bean' name' leaf value
        = { cassandra.prepared bean name leaf value with
            bean := bean', domain := name'.domain
            tags := (cassandra.prepared bean' name' leaf value).tags } := rfl
      _ = { cassandra.prepared bean name leaf value with bean := bean' } := by
        rw [hsame, hdomain]
        rfl
  have hdevice : ∀ bean name, (cassandra.describe bean name leaf value).device =
      cassandra.device (cassandra.prepared bean name leaf value) := fun _ _ => rfl
  rw [wrap_of_parse cassandra excluded hname', hdevice, hdevice, hprepared]
  rfl

/-- An integration that has an allow list sends what the list speaks of, and names it after the
first rule that does, so nothing is sent under a default name. A Cassandra server's list takes away,
and everything is named. Nothing else about a metric is decided but its device; only Cassandra beans
lose their `instance` tag, and lose it first, so that it decides nothing. -/
theorem profiles_decide (i : Integration) (excluded : List String) (bean leaf : String)
    (value : Float) :
    (∀ e, i.wrap excluded bean leaf value = .error e ↔ BeanName.parse bean = .error e) ∧
      ∀ name, BeanName.parse bean = .ok name →
        ∃ m, i.wrap excluded bean leaf value = .ok m ∧ Measures bean name leaf value m ∧
          m.tags = (if i = .cassandra then name.tags.erase "instance" else name.tags) ∧
          (∀ rules, i.allowRules = some rules → AllowRule.Decides rules excluded m) ∧
          (i = .cassandra → DenyDecides excluded m ∧
            ∀ bean' name', BeanName.parse bean' = .ok name' → name'.domain = name.domain →
              name'.tags.erase "instance" = name.tags.erase "instance" →
              i.wrap excluded bean' leaf value = .ok { m with bean := bean' }) := by
  refine ⟨fun e => ?_, fun name hname => ?_⟩
  · rw [wrap_eq]
    cases BeanName.parse bean with
    | error e' => simp only [Except.map, Except.error.injEq]
    | ok name => exact ⟨nofun, nofun⟩
  · have hwrap := i.wrap_of_parse excluded hname leaf value
    refine ⟨_, hwrap, ?_, i.tags_prepared bean name leaf value, ?_, ?_⟩
    · cases i <;> exact ⟨rfl, rfl, rfl, rfl⟩
    · exact fun rules hrules => allow_decides hrules excluded hname hwrap
    · rintro rfl
      exact ⟨deny_decides excluded hname hwrap, fun bean' name' hname' hdomain htags =>
        wrap_cassandra_congr excluded hname hname' hdomain htags hwrap⟩

/-- The errors of a bean that is both a request processor and a servlet, of which both have rules,
are named by the rule of the processor, which comes first. Two Cassandra beans that differ in their
`instance` tags have the same reads. -/
theorem processor_and_table_decided :
    (∃ m, tomcat.wrap ["maxTime"] "Catalina:type=GlobalRequestProcessor,j2eeType=Servlet"
        "errorCount" 3 = .ok m ∧
      AllowRule.Decides AllowRule.tomcat ["maxTime"] m ∧ m.send ∧
      m.nameOverride = some "tomcat.error_count" ∧ m.kind = .counter) ∧
    ∃ m, cassandra.wrap [] "org.apache.cassandra.db:instance=1,keyspace=app" "ReadCount" 3 = .ok m ∧
      DenyDecides [] m ∧ m.tags = Dict.ofList [("keyspace", "app")] ∧
      cassandra.wrap [] "org.apache.cassandra.db:instance=2,keyspace=app" "ReadCount" 3 =
        .ok { m with bean := "org.apache.cassandra.db:instance=2,keyspace=app" } := by
  constructor
  · have hname : BeanName.parse "Catalina:type=GlobalRequestProcessor,j2eeType=Servlet" =
        .ok ⟨"Catalina", Dict.ofList
          [("type", "GlobalRequestProcessor"), ("j2eeType", "Servlet")]⟩ := by
      decide
    obtain ⟨m, hwrap, -, -, hdecides, -⟩ := (profiles_decide tomcat ["maxTime"]
      "Catalina:type=GlobalRequestProcessor,j2eeType=Servlet" "errorCount" 3).2 _ hname
    have hview : (tomcat.wrap ["maxTime"] "Catalina:type=GlobalRequestProcessor,j2eeType=Servlet"
        "errorCount" 3).map (fun m => (m.send, m.nameOverride, m.kind)) =
          .ok (true, some "tomcat.error_count", .counter) := by
      decide
    rw [hwrap] at hview
    obtain ⟨hsend, hnewName, hkind⟩ : m.send = true ∧ _ ∧ _ := by
      simpa only [Except.map, Except.ok.injEq, Prod.mk.injEq] using hview
    exact ⟨m, hwrap, hdecides _ rfl, hsend, hnewName, hkind⟩
  · have hname : ∀ hash, hash = "1" ∨ hash = "2" →
        BeanName.parse ("org.apache.cassandra.db:instance=" ++ hash ++ ",keyspace=app") =
          .ok ⟨"org.apache.cassandra.db",
            Dict.ofList [("instance", hash), ("keyspace", "app")]⟩ := by
      rintro hash (rfl | rfl)
      · decide
      · decide
    obtain ⟨m, hwrap, -, htags, -, hcassandra⟩ := (profiles_decide cassandra []
      "org.apache.cassandra.db:instance=1,keyspace=app" "ReadCount" 3).2 _ (hname _ (.inl rfl))
    obtain ⟨hdecides, hcongr⟩ := hcassandra rfl
    exact ⟨m, hwrap, hdecides, htags.trans (by decide),
      hcongr _ _ (hname _ (.inr rfl)) rfl (by decide)⟩

end Integration

end BeanGauge
