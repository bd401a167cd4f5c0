import BeanGauge.Proofs.Integration.Filters
/-!
# Spellings of field keys

A bean and a leaf each have two keys in a filter. Both keys are compared alike, so the spelling
never matters for what is sent. New names are read under one key only: a table of them under the
other one still chooses leaves, but names nothing, so a later filter or the default does.
-/

namespace BeanGauge

/-- Two keys of one field. -/
inductive Synonyms : String → String → Prop
  | bean : Synonyms "bean" "bean_name"
  | leaf : Synonyms "attribute" "attribute_name"

/-- The same patterns with a key that has them under its other spelling. -/
inductive Respelled (fields : Dict String FilterValue) : Dict String FilterValue → Prop
  | other {old new : String} {patterns : FilterValue} :
    Synonyms old new → fields.get? old = some patterns → fields.get? new = none →
    Respelled fields ((fields.erase old).insert new patterns)

namespace FilterSpec

/-- The same filter with one key, included or excluded, under its other spelling. -/
inductive Respells (spec : FilterSpec) : FilterSpec → Prop
  | includes {fields : Dict String FilterValue} :
    Respelled spec.includes fields → Respells spec { spec with includes := fields }
  | excludes {fields : Dict String FilterValue} :
    Respelled spec.excludes fields → Respells spec { spec with excludes := fields }

/-- Whether the filter is the one of a list that renames the metric, with `before` before it. -/
structure RenamesAfter (spec : FilterSpec) (before : List FilterSpec) (m : Metric) : Prop where
  accepts : spec.Accepts m
  entry : ∃ a, spec.Gives m.leaf a
  first : ∀ a, ¬FirstGives m a before

/-- The name and kind that filters leave a metric with. -/
inductive Names (specs : List FilterSpec) (m : Metric) : String → MetricKind → Prop
  | renamed {a : Alias} : FirstGives m a specs →
    Names specs m (a.newName.getD m.defaultName) (a.kind.getD .gauge)
  | kept : (∀ a, ¬FirstGives m a specs) → Names specs m m.defaultName .gauge

end FilterSpec

/-! ## What both spellings say -/

/-- Two spellings of a field read the same value. -/
theorem Metric.hits_synonym_iff {m : Metric} {old new : String} (h : Synonyms old new)
    (patterns : FilterValue) : m.Hits old patterns ↔ m.Hits new patterns := by
  have hfield : Field.ofKey old = Field.ofKey new := by cases h <;> decide
  simp only [Metric.Hits, ← Field.value?_ofKey_iff, hfield]

/-- What is true of all fields, however their keys are spelled. -/
theorem Respelled.forall_iff {fields fields' : Dict String FilterValue}
    (h : Respelled fields fields') {p : String → FilterValue → Prop}
    (hp : ∀ {old new}, Synonyms old new → ∀ patterns, p old patterns ↔ p new patterns) :
    (∀ key patterns, fields'.get? key = some patterns → p key patterns) ↔
      ∀ key patterns, fields.get? key = some patterns → p key patterns := by
  obtain @⟨old, new, patterns, hkeys, hold, hnew⟩ := h
  constructor
  · intro hall key value hvalue
    by_cases hkey : key = old
    · obtain rfl : patterns = value := by
        rw [hkey, hold] at hvalue
        exact Option.some.inj hvalue
      rw [hkey, hp hkeys]
      exact hall new patterns (Dict.get?_insert_self _ _ _)
    · have hother : key ≠ new := by
        rintro rfl
        rw [hnew] at hvalue
        cases hvalue
      refine hall key value ?_
      rw [Dict.get?_insert_ne _ _ hother, Dict.get?_erase_ne _ hkey, hvalue]
  · intro hall key value hvalue
    by_cases hkey : key = new
    · obtain rfl : patterns = value := by
        rw [hkey, Dict.get?_insert_self] at hvalue
        exact Option.some.inj hvalue
      rw [hkey, ← hp hkeys]
      exact hall old patterns hold
    · rw [Dict.get?_insert_ne _ _ hkey] at hvalue
      by_cases hgone : key = old
      · rw [hgone, Dict.get?_erase, if_neg (by simp)] at hvalue
        cases hvalue
      · exact hall key value (by rwa [Dict.get?_erase_ne _ hgone] at hvalue)

theorem Respelled.get?_attribute {fields fields' : Dict String FilterValue}
    (h : Respelled fields fields') :
    fields'.get? "attribute" = fields.get? "attribute" ∨ fields'.get? "attribute" = none := by
  obtain @⟨old, new, patterns, hkeys, hold, hnew⟩ := h
  cases hkeys with
  | bean =>
    rw [Dict.get?_insert_ne _ _ (by decide), Dict.get?_erase_ne _ (by decide)]
    exact .inl rfl
  | leaf =>
    rw [Dict.get?_insert_ne _ _ (by decide), Dict.get?_erase, if_neg (by simp)]
    exact .inr rfl

def FilterValue.Compiles [Regex.Builder] (patterns : FilterValue) : Prop :=
  ∃ compiled, patterns.patterns.mapM Filter.Pattern.compile = .ok compiled

theorem Filter.exists_compile_iff [Regex.Builder] {spec : FilterSpec} :
    (∃ f, compile spec = .ok f) ↔
      (∀ key patterns, spec.includes.get? key = some patterns → patterns.Compiles) ∧
        ∀ key patterns, spec.excludes.get? key = some patterns → patterns.Compiles := by
  have hfields : ∀ fields : Dict String FilterValue,
      (∃ matchers, fields.entries.mapM compileField = .ok matchers) ↔
        ∀ key patterns, fields.get? key = some patterns → patterns.Compiles := by
    intro fields
    have hfield : ∀ field, (∃ x, compileField field = .ok x) ↔ field.2.Compiles := by
      intro field
      constructor
      · rintro ⟨x, hx⟩
        obtain ⟨compiled, hcompiled, -⟩ := bind_eq_ok_iff.1 hx
        exact ⟨compiled, hcompiled⟩
      · rintro ⟨compiled, hcompiled⟩
        exact ⟨_, bind_eq_ok_iff.2 ⟨compiled, hcompiled, rfl⟩⟩
    simp only [exists_mapM_iff, hfield, Prod.forall, Dict.get?_eq_some_iff]
  rw [← hfields, ← hfields]
  constructor
  · rintro ⟨f, h⟩
    obtain ⟨includes, hincludes, h⟩ := bind_eq_ok_iff.1 h
    obtain ⟨excludes, hexcludes, -⟩ := bind_eq_ok_iff.1 h
    exact ⟨⟨includes, hincludes⟩, excludes, hexcludes⟩
  · rintro ⟨⟨includes, hincludes⟩, excludes, hexcludes⟩
    exact ⟨_, bind_eq_ok_iff.2 ⟨includes, hincludes, bind_eq_ok_iff.2 ⟨excludes, hexcludes, rfl⟩⟩⟩

namespace FilterSpec

variable {spec spec' : FilterSpec} {before after specs specs' : List FilterSpec} {m : Metric}
  {name : String} {kind : MetricKind}

/-- Respelling changes nothing of what a filter accepts. -/
theorem Respells.accepts_iff (h : spec.Respells spec') : spec'.Accepts m ↔ spec.Accepts m := by
  have hiff : ∀ spec : FilterSpec, spec.Accepts m ↔
      (∀ key patterns, spec.includes.get? key = some patterns → m.Hits key patterns) ∧
        ∀ key patterns, spec.excludes.get? key = some patterns → ¬m.Hits key patterns :=
    fun _ => ⟨fun h => ⟨h.includes, h.excludes⟩, fun h => ⟨h.1, h.2⟩⟩
  rw [hiff, hiff]
  cases h with
  | includes h => rw [h.forall_iff Metric.hits_synonym_iff]
  | excludes h =>
    rw [h.forall_iff fun hkeys patterns => not_congr (Metric.hits_synonym_iff hkeys patterns)]

theorem Respells.compiles_iff [Regex.Builder] (h : spec.Respells spec') :
    (∃ f, Filter.compile spec' = .ok f) ↔ ∃ f, Filter.compile spec = .ok f := by
  rw [Filter.exists_compile_iff, Filter.exists_compile_iff]
  cases h with
  | includes h => rw [h.forall_iff fun _ _ => Iff.rfl]
  | excludes h => rw [h.forall_iff fun _ _ => Iff.rfl]

theorem Respells.gives_iff (h : spec.Respells spec')
    (hkept : spec'.includes.get? "attribute" ≠ none) {leaf : String} {a : Alias} :
    spec'.Gives leaf a ↔ spec.Gives leaf a := by
  have hsame : spec'.includes.get? "attribute" = spec.includes.get? "attribute" := by
    cases h with
    | includes h => exact h.get?_attribute.resolve_right hkept
    | excludes h => rfl
  rw [Gives, Gives, hsame]

theorem not_gives (h : spec.includes.get? "attribute" = none) (leaf : String) (a : Alias) :
    ¬spec.Gives leaf a := by
  rintro ⟨names, hnames, -⟩
  rw [h] at hnames
  cases hnames

/-! ## Who renames -/

theorem firstGives_cons_iff {a : Alias} :
    FirstGives m a (spec :: specs) ↔ spec.Accepts m ∧ spec.Gives m.leaf a ∨
      (spec.Accepts m → ∀ b, ¬spec.Gives m.leaf b) ∧ FirstGives m a specs := by
  constructor
  · intro h
    cases h with
    | here hacc ha => exact .inl ⟨hacc, ha⟩
    | later hnone hrest => exact .inr ⟨hnone, hrest⟩
  · rintro (⟨hacc, ha⟩ | ⟨hnone, hrest⟩)
    · exact .here hacc ha
    · exact .later hnone hrest

theorem not_firstGives_cons_iff :
    (∀ a, ¬FirstGives m a (spec :: specs)) ↔
      (spec.Accepts m → ∀ a, ¬spec.Gives m.leaf a) ∧ ∀ a, ¬FirstGives m a specs := by
  constructor
  · intro h
    have hnone : spec.Accepts m → ∀ a, ¬spec.Gives m.leaf a := fun hacc a ha => h a (.here hacc ha)
    exact ⟨hnone, fun a ha => h a (.later hnone ha)⟩
  · rintro ⟨hnone, hrest⟩ a ha
    cases ha with
    | here hacc ha => exact hnone hacc a ha
    | later _ ha => exact hrest a ha

/-- A later filter gives an alias only if no earlier one does. -/
theorem firstGives_append_iff {a : Alias} :
    FirstGives m a (before ++ specs) ↔
      FirstGives m a before ∨ (∀ b, ¬FirstGives m b before) ∧ FirstGives m a specs := by
  induction before with
  | nil =>
    have hnil : ∀ b, ¬FirstGives m b [] := fun _ h => nomatch h
    rw [List.nil_append, or_iff_right (hnil a), and_iff_right hnil]
  | cons spec before ih =>
    rw [List.cons_append, firstGives_cons_iff, firstGives_cons_iff, not_firstGives_cons_iff, ih]
    tauto

theorem FirstGives.unique {a b : Alias} (ha : FirstGives m a specs) (hb : FirstGives m b specs) :
    a = b := by
  induction ha with
  | here hacc hgives =>
    cases hb with
    | here _ hgives' =>
      obtain ⟨names, hnames, hentry⟩ := hgives
      obtain ⟨names', hnames', hentry'⟩ := hgives'
      rw [hnames] at hnames'
      cases hnames'
      rw [hentry] at hentry'
      cases hentry'
      rfl
    | later hnone _ => exact absurd hgives (hnone hacc _)
  | later hnone _ ih =>
    cases hb with
    | here hacc hgives => exact absurd hgives (hnone hacc _)
    | later _ hrest => exact ih hrest

theorem FirstGives.of_alike {a : Alias} {m' : Metric} (halike : m.Alike m')
    (h : FirstGives m a specs) : FirstGives m' a specs := by
  induction h with
  | here hacc ha => exact .here ((halike.accepts_iff _).1 hacc) (halike.leaf ▸ ha)
  | later hnone _ ih =>
    exact .later (fun hacc => halike.leaf ▸ hnone ((halike.accepts_iff _).2 hacc)) ih

theorem names_congr (h : ∀ a, FirstGives m a specs ↔ FirstGives m a specs') :
    Names specs m name kind ↔ Names specs' m name kind := by
  have hof : ∀ {specs specs'}, (∀ a, FirstGives m a specs ↔ FirstGives m a specs') →
      Names specs m name kind → Names specs' m name kind := by
    intro specs specs' h hnames
    cases hnames with
    | renamed ha => exact .renamed ((h _).1 ha)
    | kept hnone => exact .kept fun a ha => hnone a ((h a).2 ha)
  exact ⟨hof h, hof fun a => (h a).symm⟩

theorem Names.unique {name' : String} {kind' : MetricKind} (h : Names specs m name kind)
    (h' : Names specs m name' kind') : name' = name ∧ kind' = kind := by
  cases h with
  | renamed ha =>
    cases h' with
    | renamed hb =>
      rw [ha.unique hb]
      exact ⟨rfl, rfl⟩
    | kept hnone => exact absurd ha (hnone _)
  | kept hnone =>
    cases h' with
    | renamed hb => exact absurd hb (hnone _)
    | kept _ => exact ⟨rfl, rfl⟩

/-- Filters do not look at what they decide. -/
theorem names_of_alike {m' : Metric} (halike : m.Alike m')
    (hdefault : m.defaultName = m'.defaultName) (h : Names specs m name kind) :
    Names specs m' name kind := by
  cases h with
  | renamed ha =>
    rw [hdefault]
    exact .renamed (ha.of_alike halike)
  | kept hnone =>
    rw [hdefault]
    exact .kept fun a ha => hnone a (ha.of_alike ⟨halike.domain.symm, halike.bean.symm,
      halike.leaf.symm, halike.tags.symm⟩)

theorem Decides.names {excluded : List String} (h : Decides specs excluded m) :
    Names specs m m.name m.kind := by
  by_cases hgiven : ∃ a, FirstGives m a specs
  · obtain ⟨a, ha⟩ := hgiven
    obtain ⟨hname, hkind⟩ := h.renamed a ha
    rw [Metric.name, hname, hkind]
    exact .renamed ha
  · obtain ⟨hname, hkind⟩ := h.kept (not_exists.1 hgiven)
    rw [Metric.name, hname, hkind]
    exact .kept (not_exists.1 hgiven)

/-- A table under the other key is passed over when leaves are renamed. -/
theorem Respells.names_iff (h : spec.Respells spec')
    (hm : Names (before ++ spec :: after) m name kind) :
    Names (before ++ spec' :: after) m name kind ↔
      (spec.RenamesAfter before m → spec'.includes.get? "attribute" = none →
        Names after m name kind) := by
  by_cases hlost : spec'.includes.get? "attribute" = none
  · have hpass : ∀ a, FirstGives m a (before ++ spec' :: after) ↔
        FirstGives m a (before ++ after) := by
      intro a
      simp only [firstGives_append_iff, firstGives_cons_iff, not_gives hlost]
      tauto
    rw [names_congr hpass]
    by_cases hrenames : spec.RenamesAfter before m
    · have hafter : ∀ a, FirstGives m a (before ++ after) ↔ FirstGives m a after := by
        intro a
        rw [firstGives_append_iff, or_iff_right (hrenames.first a), and_iff_right hrenames.first]
      rw [names_congr hafter]
      exact ⟨fun hnames _ _ => hnames, fun hnames => hnames hrenames hlost⟩
    · have hidle : ∀ a, FirstGives m a (before ++ spec :: after) ↔
          FirstGives m a (before ++ after) := by
        intro a
        rw [firstGives_append_iff, firstGives_append_iff, firstGives_cons_iff]
        refine or_congr_right (and_congr_right fun hnone => ?_)
        have hpasses : spec.Accepts m → ∀ b, ¬spec.Gives m.leaf b :=
          fun hacc b hb => hrenames ⟨hacc, ⟨b, hb⟩, hnone⟩
        rw [or_iff_right fun h => hpasses h.1 a h.2, and_iff_right hpasses]
      exact ⟨fun _ hnot => absurd hnot hrenames, fun _ => (names_congr hidle).1 hm⟩
  · have hsame : ∀ a, FirstGives m a (before ++ spec' :: after) ↔
        FirstGives m a (before ++ spec :: after) := by
      intro a
      simp only [firstGives_append_iff, firstGives_cons_iff, h.accepts_iff, h.gives_iff hlost]
    exact ⟨fun _ _ hnone => absurd hnone hlost, fun _ => (names_congr hsame).2 hm⟩

end FilterSpec

namespace Integration

variable {i i' : Integration} {excluded : List String} {bean leaf : String} {value : Float}
  {m m' : Metric}

/-- Whatever the filters, the metrics of one leaf look alike to any filter. -/
theorem alike_of_wrap [Regex.Builder] {specs specs' : List FilterSpec}
    (h : build "jmx" specs = .ok i) (h' : build "jmx" specs' = .ok i')
    (hm : i.wrap excluded bean leaf value = .ok m)
    (hm' : i'.wrap excluded bean leaf value = .ok m') :
    m.Alike m' ∧ m.defaultName = m'.defaultName := by
  obtain ⟨filters, -, rfl⟩ := build_jmx_eq_ok_iff.1 h
  obtain ⟨filters', -, rfl⟩ := build_jmx_eq_ok_iff.1 h'
  obtain ⟨name, hname⟩ := parse_of_wrap hm
  rw [wrap_jmx_eq _ _ hname] at hm hm'
  obtain rfl := Except.ok.inj hm
  obtain rfl := Except.ok.inj hm'
  exact ⟨⟨rfl, rfl, rfl, rfl⟩, rfl⟩

/-- Filters with a key under its other spelling compile if they did before, and send what they sent
before. They leave a metric its name and kind exactly unless it is renamed by a table that is lost
under the other spelling, and what comes after that filter leaves it with others. -/
theorem respelling_keeps_iff [Regex.Builder] {before after : List FilterSpec}
    {spec spec' : FilterSpec} (h : spec.Respells spec') :
    ((∃ i, build "jmx" (before ++ spec' :: after) = .ok i) ↔
        ∃ i, build "jmx" (before ++ spec :: after) = .ok i) ∧
      ∀ i i', build "jmx" (before ++ spec :: after) = .ok i →
        build "jmx" (before ++ spec' :: after) = .ok i' →
        ∀ excluded bean leaf value m, i.wrap excluded bean leaf value = .ok m →
          ∃ m', i'.wrap excluded bean leaf value = .ok m' ∧ m'.send = m.send ∧
            (m'.name = m.name ∧ m'.kind = m.kind ↔
              (spec.RenamesAfter before m → spec'.includes.get? "attribute" = none →
                FilterSpec.Names after m m.name m.kind)) := by
  have hbuilds : ∀ specs, (∃ i, build "jmx" specs = .ok i) ↔
      ∀ spec ∈ specs, ∃ f, Filter.compile spec = .ok f := fun specs =>
    ⟨fun ⟨_, hi⟩ => compiled_of_build hi, exists_build_jmx⟩
  refine ⟨?_, ?_⟩
  · simp only [hbuilds, List.forall_mem_append, List.forall_mem_cons, h.compiles_iff]
  · intro i i' hi hi' excluded bean leaf value m hm
    obtain ⟨name, hname⟩ := parse_of_wrap hm
    obtain ⟨m₀, hm₀, -, -, hdecides⟩ := wrap_decides hi excluded hname leaf value
    obtain rfl := Except.ok.inj (hm.symm.trans hm₀)
    obtain ⟨m', hm', -, -, hdecides'⟩ := wrap_decides hi' excluded hname leaf value
    obtain ⟨halike, hdefault⟩ := alike_of_wrap hi' hi hm' hm
    have hnames := FilterSpec.names_of_alike halike hdefault hdecides'.names
    refine ⟨m', hm', ?_, ?_⟩
    · have hne : ∀ spec, before ++ spec :: after ≠ [] := fun spec =>
        List.append_ne_nil_of_right_ne_nil before (List.cons_ne_nil spec after)
      rw [Bool.eq_iff_iff, hdecides'.send, hdecides.send, halike.leaf, or_iff_right (hne _),
        or_iff_right (hne _)]
      simp only [List.mem_append, List.mem_cons, or_and_right, exists_or, exists_eq_left,
        halike.accepts_iff, h.accepts_iff]
    · rw [← h.names_iff hdecides.names]
      constructor
      · rintro ⟨hname', hkind⟩
        rwa [hname', hkind] at hnames
      · exact fun hsame => hsame.unique hnames

def countNames : FilterValue :=
  .aliased (Dict.ofList [("Count", some ⟨some "kafka.messages_in", some .counter⟩)])

/-- A filter for the beans of a broker that renames their counts, with the keys of its fields. -/
def countsFilter (beanKey leafKey : String) : FilterSpec :=
  ⟨Dict.ofList [(beanKey, .one "kafka.server:*"), (leafKey, countNames)], ∅⟩

/-- Whether one filter sends the count of a broker, and its name and kind then. -/
def countWith [Regex.Builder] (spec : FilterSpec) : Option (Bool × String × MetricKind) :=
  (build "jmx" [spec]).toOption.bind fun i =>
    (i.wrap [] "kafka.server:type=BrokerTopicMetrics" "Count" 7).toOption.map fun m =>
      (m.send, m.name, m.kind)

theorem countWith_eq_some_iff [Regex.Builder] {spec : FilterSpec} {send : Bool} {name : String}
    {kind : MetricKind} :
    countWith spec = some (send, name, kind) ↔ ∃ i m, build "jmx" [spec] = .ok i ∧
      i.wrap [] "kafka.server:type=BrokerTopicMetrics" "Count" 7 = .ok m ∧
        m.send = send ∧ m.name = name ∧ m.kind = kind := by
  simp only [countWith, Option.bind_eq_some_iff, Option.map_eq_some_iff, toOption_eq_some_iff,
    Prod.mk.injEq, exists_and_left]

theorem countsFilter_respells_bean :
    (countsFilter "bean" "attribute").Respells (countsFilter "bean_name" "attribute") := by
  have heq : countsFilter "bean_name" "attribute" =
      { countsFilter "bean" "attribute" with
        includes := ((countsFilter "bean" "attribute").includes.erase "bean").insert "bean_name"
          (.one "kafka.server:*") } := by
    decide
  rw [heq]
  exact .includes (.other .bean (by decide) (by decide))

theorem countsFilter_respells_leaf :
    (countsFilter "bean" "attribute").Respells (countsFilter "bean" "attribute_name") := by
  have heq : countsFilter "bean" "attribute_name" =
      { countsFilter "bean" "attribute" with
        includes := ((countsFilter "bean" "attribute").includes.erase "attribute").insert
          "attribute_name" countNames } := by
    decide
  rw [heq]
  exact .includes (.other .leaf (by decide) (by decide))

/-- The key of the beans can be spelled either way: counts are renamed just the same. -/
theorem counts_renamed_either_way :
    letI := Regex.weighing
    (countsFilter "bean" "attribute").Respells (countsFilter "bean_name" "attribute") ∧
      countWith (countsFilter "bean_name" "attribute") =
        some (true, "kafka.messages_in", .counter) := by
  let _ := Regex.weighing
  obtain ⟨hbuilds, hkeeps⟩ := @respelling_keeps_iff _ [] [] _ _ countsFilter_respells_bean
  have hplain : countWith (countsFilter "bean" "attribute") =
      some (true, "kafka.messages_in", .counter) := by
    decide
  obtain ⟨i, m, hi, hm, hsend, hname, hkind⟩ := countWith_eq_some_iff.1 hplain
  obtain ⟨i', hi'⟩ := hbuilds.2 ⟨i, hi⟩
  obtain ⟨m', hm', hsent, hsame⟩ := hkeeps i i' hi hi' [] _ _ 7 m hm
  obtain ⟨hname', hkind'⟩ := hsame.2 fun _ hlost => absurd hlost (by decide)
  refine ⟨countsFilter_respells_bean, countWith_eq_some_iff.2 ?_⟩
  exact ⟨i', m', hi', hm', hsent.trans hsend, hname'.trans hname, hkind'.trans hkind⟩

/-- The key of their table cannot. -/
theorem counts_lose_table :
    letI := Regex.weighing
    (countsFilter "bean" "attribute").Respells (countsFilter "bean" "attribute_name") ∧
      countWith (countsFilter "bean" "attribute") = some (true, "kafka.messages_in", .counter) ∧
      countWith (countsFilter "bean" "attribute_name") =
        some (true, "jmx.kafka.server.count", .gauge) :=
  ⟨countsFilter_respells_leaf, by decide, by decide⟩

end Integration

end BeanGauge
