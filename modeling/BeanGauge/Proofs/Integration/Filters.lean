import BeanGauge.Proofs.Filter.Pattern
import BeanGauge.Proofs.Integration.Exclusion
/-!
# What configured filters decide

The filters of the generic integration choose which metrics are sent, and rename some of them. A
metric is chosen by any filter that accepts it, so the order of the filters does not matter there,
while the first filter that also knows the leaf renames it. Without filters everything is chosen, so
the first filter is the only one that can take a metric away.
-/

namespace BeanGauge

/-- The keys of filters that do not name a tag. -/
def fieldKeys : List String := ["domain", "bean", "bean_name", "attribute", "attribute_name"]

/-- The value that a metric has under the key of a filter's field, if any. -/
inductive Metric.HasField (m : Metric) : String → String → Prop
  | domain : HasField m "domain" m.domain
  | bean {key : String} : key = "bean" ∨ key = "bean_name" → HasField m key m.bean
  | leaf {key : String} : key = "attribute" ∨ key = "attribute_name" → HasField m key m.leaf
  | tag {key value : String} : key ∉ fieldKeys → m.tags.get? key = some value →
      HasField m key value

/-- Whether a pattern is one of those that are configured for a field. -/
def FilterValue.Offers : FilterValue → String → Prop
  | .one p, pattern => pattern = p
  | .many ps, pattern => pattern ∈ ps
  | .aliased names, pattern => (names.get? pattern).isSome

/-- Whether a metric has a value under the key that fits one of the patterns. -/
def Metric.Hits (m : Metric) (key : String) (patterns : FilterValue) : Prop :=
  ∃ value pattern, m.HasField key value ∧ patterns.Offers pattern ∧
    Filter.Pattern.Fits pattern value

namespace FilterSpec

/-- Whether a metric has a fitting value for every field that is included and for none that is
excluded. -/
structure Accepts (spec : FilterSpec) (m : Metric) : Prop where
  includes : ∀ key patterns, spec.includes.get? key = some patterns → m.Hits key patterns
  excludes : ∀ key patterns, spec.excludes.get? key = some patterns → ¬m.Hits key patterns

/-- Whether the included attributes are a table that has an entry for the leaf. -/
def Gives (spec : FilterSpec) (leaf : String) (a : Alias) : Prop :=
  ∃ names, spec.includes.get? "attribute" = some (.aliased names) ∧ names.get? leaf = some (some a)

/-- Whether `a` is the entry for the metric's leaf in the first filter that accepts the metric and
has one. -/
inductive FirstGives (m : Metric) (a : Alias) : List FilterSpec → Prop
  | here {spec : FilterSpec} {specs : List FilterSpec} :
    spec.Accepts m → spec.Gives m.leaf a → FirstGives m a (spec :: specs)
  | later {spec : FilterSpec} {specs : List FilterSpec} :
    (spec.Accepts m → ∀ b, ¬spec.Gives m.leaf b) → FirstGives m a specs →
    FirstGives m a (spec :: specs)

/-- What filters decide about a metric. -/
structure Decides (specs : List FilterSpec) (excluded : List String) (m : Metric) : Prop where
  send : m.send ↔ m.leaf ∉ excluded ∧ (specs = [] ∨ ∃ spec ∈ specs, spec.Accepts m)
  renamed : ∀ a, FirstGives m a specs →
    m.nameOverride = some (a.newName.getD m.defaultName) ∧ m.kind = a.kind.getD .gauge
  kept : (∀ a, ¬FirstGives m a specs) → m.nameOverride = none ∧ m.kind = .gauge

end FilterSpec

/-! ## Filters that compile -/

section

variable {α β : Type} {R : α → β → Prop} {xs : List α} {ys : List β} {q : β → Bool} {p : α → Prop}

theorem any_iff_of_forall₂ (h : List.Forall₂ R xs ys) (hR : ∀ x y, R x y → (q y ↔ p x)) :
    ys.any q ↔ ∃ x ∈ xs, p x := by
  induction h with
  | nil => simp
  | cons hxy _ ih =>
    rw [List.any_cons, Bool.or_eq_true, ih, hR _ _ hxy, List.exists_mem_cons_iff]

theorem all_iff_of_forall₂ (h : List.Forall₂ R xs ys) (hR : ∀ x y, R x y → (q y ↔ p x)) :
    ys.all q ↔ ∀ x ∈ xs, p x := by
  induction h with
  | nil => simp
  | cons hxy _ ih =>
    rw [List.all_cons, Bool.and_eq_true, ih, hR _ _ hxy, List.forall_mem_cons]

end

theorem Field.value?_ofKey_iff {key value : String} {m : Metric} :
    (ofKey key).value? m = some value ↔ m.HasField key value := by
  rw [ofKey]
  constructor
  · intro h
    split_ifs at h with hdomain hbean hleaf
    · obtain rfl := Option.some.inj h
      rw [hdomain]
      exact .domain
    · obtain rfl := Option.some.inj h
      exact .bean hbean
    · obtain rfl := Option.some.inj h
      exact .leaf hleaf
    · refine .tag ?_ h
      simp only [fieldKeys, List.mem_cons, List.not_mem_nil, or_false]
      tauto
  · intro h
    cases h with
    | domain => rfl
    | bean hkey => rcases hkey with rfl | rfl <;> rfl
    | leaf hkey => rcases hkey with rfl | rfl <;> rfl
    | tag hkey hvalue =>
      simp only [fieldKeys, List.mem_cons, List.not_mem_nil, or_false, not_or] at hkey
      rw [if_neg hkey.1, if_neg (by tauto), if_neg (by tauto)]
      exact hvalue

theorem FilterValue.mem_patterns_iff {patterns : FilterValue} {pattern : String} :
    pattern ∈ patterns.patterns ↔ patterns.Offers pattern := by
  cases patterns with
  | one p => exact List.mem_singleton
  | many ps => exact Iff.rfl
  | aliased names => exact Dict.mem_keys_iff

namespace Filter

/-- A compiled condition accepts the metrics whose field the patterns hit. -/
theorem matcher_accepts_iff [Regex.Builder] {field : String × FilterValue} {x : Matcher}
    (h : compileField field = .ok x) (m : Metric) :
    x.accepts m ↔ m.Hits field.1 field.2 := by
  obtain ⟨patterns, hpatterns, hx⟩ := bind_eq_ok_iff.1 h
  obtain rfl := Except.ok.inj hx
  have hany : ∀ v, patterns.any (·.isMatch v) ↔
      ∃ pattern ∈ field.2.patterns, Pattern.Fits pattern v := fun v =>
    any_iff_of_forall₂ (forall₂_of_mapM hpatterns) fun pattern p hp => by
      rw [Pattern.compile_eq_ok hp, Pattern.isMatch_regexOf_iff]
  rw [Matcher.accepts, Option.any_eq_true]
  constructor
  · rintro ⟨value, hvalue, hfits⟩
    obtain ⟨pattern, hmem, hfits⟩ := (hany value).1 hfits
    exact ⟨value, pattern, Field.value?_ofKey_iff.1 hvalue, FilterValue.mem_patterns_iff.1 hmem,
      hfits⟩
  · rintro ⟨value, pattern, hfield, hoffers, hfits⟩
    refine ⟨value, Field.value?_ofKey_iff.2 hfield, (hany value).2 ?_⟩
    exact ⟨pattern, FilterValue.mem_patterns_iff.2 hoffers, hfits⟩

/-- The aliases are those that the attribute field gives. -/
theorem get?_aliasesOf_iff {spec : FilterSpec} {leaf : String} {a : Alias} :
    (aliasesOf spec).get? leaf = some a ↔ spec.Gives leaf a := by
  rw [aliasesOf, FilterSpec.Gives]
  split
  · rename_i names hnames
    have hget : (Dict.ofList (names.entries.filterMap fun e =>
        e.2.map fun a => (e.1, a))).get? leaf = (names.get? leaf).bind id :=
      Dict.get?_ofList_filterMap names id leaf
    rw [hget, Option.bind_eq_some_iff]
    constructor
    · rintro ⟨entry, hentry, ha⟩
      exact ⟨names, hnames, by rw [hentry]; exact congrArg some ha⟩
    · rintro ⟨names', hnames', hentry⟩
      rw [hnames] at hnames'
      cases hnames'
      exact ⟨some a, hentry, rfl⟩
  · rename_i hnot
    constructor
    · nofun
    · rintro ⟨names, hnames, -⟩
      exact absurd hnames (hnot names)

theorem accepts_iff [Regex.Builder] {spec : FilterSpec} {f : Filter}
    (h : compile spec = .ok f) (m : Metric) : f.accepts m ↔ spec.Accepts m := by
  obtain ⟨includes, hincludes, h⟩ := bind_eq_ok_iff.1 h
  obtain ⟨excludes, hexcludes, h⟩ := bind_eq_ok_iff.1 h
  obtain rfl := Except.ok.inj h
  have hall := all_iff_of_forall₂ (forall₂_of_mapM hincludes) fun _ _ h => matcher_accepts_iff h m
  have hany := any_iff_of_forall₂ (forall₂_of_mapM hexcludes) fun _ _ h => matcher_accepts_iff h m
  rw [accepts, Bool.and_eq_true, Bool.not_eq_true', ← Bool.not_eq_true, hall, hany]
  constructor
  · rintro ⟨hin, hout⟩
    constructor
    · intro key patterns hget
      exact hin _ (Dict.get?_eq_some_iff.1 hget)
    · intro key patterns hget hhits
      exact hout ⟨_, Dict.get?_eq_some_iff.1 hget, hhits⟩
  · rintro ⟨hin, hout⟩
    constructor
    · rintro ⟨key, patterns⟩ hmem
      exact hin key patterns (Dict.get?_eq_some_iff.2 hmem)
    · rintro ⟨⟨key, patterns⟩, hmem, hhits⟩
      exact hout key patterns (Dict.get?_eq_some_iff.2 hmem) hhits

theorem get?_aliases_iff [Regex.Builder] {spec : FilterSpec} {f : Filter} (h : compile spec = .ok f)
    {leaf : String} {a : Alias} : f.aliases.get? leaf = some a ↔ spec.Gives leaf a := by
  obtain ⟨includes, -, h⟩ := bind_eq_ok_iff.1 h
  obtain ⟨excludes, -, h⟩ := bind_eq_ok_iff.1 h
  obtain rfl := Except.ok.inj h
  exact get?_aliasesOf_iff

/-- The filters that do not accept the metric, and those without an entry for the leaf, are passed
over. -/
theorem findSome?_aliases_iff [Regex.Builder] {specs : List FilterSpec} {filters : List Filter}
    (h : List.Forall₂ (fun spec f => compile spec = .ok f) specs filters) {m : Metric} {a : Alias} :
    (filters.filter (·.accepts m)).findSome? (·.aliases.get? m.leaf) = some a ↔
      FilterSpec.FirstGives m a specs := by
  induction h with
  | nil => exact ⟨nofun, nofun⟩
  | @cons spec f specs filters hspec _ ih =>
    have haccepts := accepts_iff hspec m
    by_cases hf : f.accepts m
    · rw [List.filter_cons, if_pos hf, List.findSome?_cons]
      cases hget : f.aliases.get? m.leaf with
      | some b =>
        have hgives := (get?_aliases_iff hspec).1 hget
        constructor
        · intro heq
          obtain rfl := Option.some.inj heq
          exact .here (haccepts.1 hf) hgives
        · intro hfirst
          cases hfirst with
          | here _ ha => rw [← (get?_aliases_iff hspec).2 ha, hget]
          | later hnone _ => exact absurd hgives (hnone (haccepts.1 hf) b)
      | none =>
        have hnone : ∀ b, ¬spec.Gives m.leaf b := by
          intro b hb
          rw [(get?_aliases_iff hspec).2 hb] at hget
          cases hget
        refine ih.trans ⟨fun hfirst => .later (fun _ => hnone) hfirst, fun hfirst => ?_⟩
        cases hfirst with
        | here _ ha => exact absurd ha (hnone a)
        | later _ hrest => exact hrest
    · rw [List.filter_cons, if_neg hf]
      refine ih.trans ⟨fun hfirst => .later (fun hacc => absurd (haccepts.2 hacc) hf) hfirst,
        fun hfirst => ?_⟩
      cases hfirst with
      | here hacc _ => exact absurd (haccepts.2 hacc) hf
      | later _ hrest => exact hrest

end Filter

/-! ## Decisions -/

structure Metric.Alike (m m' : Metric) : Prop where
  domain : m.domain = m'.domain
  bean : m.bean = m'.bean
  leaf : m.leaf = m'.leaf
  tags : m.tags = m'.tags

namespace Metric.Alike

variable {m m' : Metric}

theorem value?_eq (h : m.Alike m') (field : Field) : field.value? m = field.value? m' := by
  cases field with
  | domain => exact congrArg some h.domain
  | bean => exact congrArg some h.bean
  | leaf => exact congrArg some h.leaf
  | tag key => exact congrArg (Dict.get? · key) h.tags

theorem accepts_eq (h : m.Alike m') (f : Filter) : f.accepts m = f.accepts m' := by
  simp only [Filter.accepts, Matcher.accepts, h.value?_eq]

theorem accepts_iff (h : m.Alike m') (spec : FilterSpec) : spec.Accepts m ↔ spec.Accepts m' := by
  have hhits : ∀ key patterns, m.Hits key patterns ↔ m'.Hits key patterns := by
    intro key patterns
    simp only [Metric.Hits, ← Field.value?_ofKey_iff, h.value?_eq]
  constructor
  · rintro ⟨hin, hout⟩
    exact ⟨fun key patterns hget => (hhits key patterns).1 (hin key patterns hget),
      fun key patterns hget hhit => hout key patterns hget ((hhits key patterns).2 hhit)⟩
  · rintro ⟨hin, hout⟩
    exact ⟨fun key patterns hget => (hhits key patterns).2 (hin key patterns hget),
      fun key patterns hget hhit => hout key patterns hget ((hhits key patterns).1 hhit)⟩

end Metric.Alike

theorem FilterSpec.FirstGives.exists_accepts {m : Metric} {a : Alias} {specs : List FilterSpec}
    (h : FirstGives m a specs) : ∃ spec ∈ specs, spec.Accepts m := by
  induction h with
  | here hacc _ => exact ⟨_, List.mem_cons_self, hacc⟩
  | later _ _ ih =>
    obtain ⟨spec, hspec, hacc⟩ := ih
    exact ⟨spec, List.mem_cons_of_mem _ hspec, hacc⟩

namespace Integration

/-- A filtered integration builds exactly if each filter does. -/
theorem build_jmx_eq_ok_iff [Regex.Builder] {specs : List FilterSpec} {i : Integration} :
    build "jmx" specs = .ok i ↔
      ∃ filters, specs.mapM Filter.compile = .ok filters ∧ i = .jmx filters := by
  have hbuild : build "jmx" specs =
      ((specs.mapM Filter.compile).map .jmx).mapError .invalidFilter := rfl
  rw [hbuild, mapError_eq_ok_iff]
  cases specs.mapM Filter.compile with
  | error e => exact ⟨nofun, nofun⟩
  | ok filters =>
    constructor
    · intro h
      exact ⟨filters, rfl, (Except.ok.inj h).symm⟩
    · rintro ⟨_, hfilters, rfl⟩
      obtain rfl := Except.ok.inj hfilters
      rfl

/-- The first filter that accepts the metric and renames its leaf gives the name. -/
theorem naming_jmx_congr (filters : List Filter) {m m' : Metric} (h : m.Alike m') :
    (jmx filters).naming m' =
      ((filters.filter (·.accepts m)).findSome? (·.aliases.get? m.leaf)).map fun a =>
        (a.newName.getD m'.defaultName, a.kind.getD .gauge) := by
  simp only [naming, h.accepts_eq, h.leaf]

theorem includes_jmx_congr (filters : List Filter) {m m' : Metric} (h : m.Alike m') :
    (jmx filters).includes m = (jmx filters).includes m' := by
  simp only [includes, h.accepts_eq]

/-- A metric is included if one of the filters accepts it, or if there are none. -/
theorem includes_jmx_iff [Regex.Builder] {specs : List FilterSpec} {filters : List Filter}
    (h : List.Forall₂ (fun spec f => Filter.compile spec = .ok f) specs filters) (m : Metric) :
    (jmx filters).includes m ↔ specs = [] ∨ ∃ spec ∈ specs, spec.Accepts m := by
  have hany := any_iff_of_forall₂ h fun _ _ hf => Filter.accepts_iff hf m
  have hempty : filters.isEmpty ↔ specs = [] := by
    rw [List.isEmpty_iff]
    cases h with
    | nil => exact ⟨fun _ => rfl, fun _ => rfl⟩
    | cons _ _ => exact ⟨nofun, nofun⟩
  rw [includes, Bool.or_eq_true, hempty, hany]

/-- The metric of a leaf as the filters see it first. -/
def fresh (bean : String) (name : BeanName) (leaf : String) (value : Float) : Metric :=
  { domain := name.domain, bean, leaf, value, tags := name.tags, namePrefix := "jmx"
    nameOverride := none, kind := .gauge, device := none, send := true }

/-- Nothing is prepared for filters, and they change nothing of a metric but its name and kind. -/
theorem wrap_jmx_eq (filters : List Filter) (excluded : List String) {bean : String}
    {name : BeanName} (hname : BeanName.parse bean = .ok name) (leaf : String) (value : Float) :
    (jmx filters).wrap excluded bean leaf value = .ok
      { fresh bean name leaf value with
        nameOverride := ((jmx filters).naming (fresh bean name leaf value)).map Prod.fst
        kind := (((jmx filters).naming (fresh bean name leaf value)).map Prod.snd).getD .gauge
        send := !excluded.contains leaf &&
          (jmx filters).includes (fresh bean name leaf value) } :=
  (jmx filters).wrap_of_parse excluded hname leaf value

theorem wrap_decides [Regex.Builder] {specs : List FilterSpec} {i : Integration}
    (h : build "jmx" specs = .ok i) (excluded : List String) {bean : String} {name : BeanName}
    (hname : BeanName.parse bean = .ok name) (leaf : String) (value : Float) :
    ∃ m, i.wrap excluded bean leaf value = .ok m ∧ Measures bean name leaf value m ∧
      m.tags = name.tags ∧ FilterSpec.Decides specs excluded m := by
  obtain ⟨filters, hfilters, rfl⟩ := build_jmx_eq_ok_iff.1 h
  have hcompiled := forall₂_of_mapM hfilters
  refine ⟨_, wrap_jmx_eq filters excluded hname leaf value, ⟨rfl, rfl, rfl, rfl⟩, rfl, ?_⟩
  generalize hm : Metric.mk _ _ _ _ _ _ _ _ _ _ = m
  have hsame : m.Alike (fresh bean name leaf value) := hm ▸ ⟨rfl, rfl, rfl, rfl⟩
  have hnaming := naming_jmx_congr filters hsame
  have hfirst : ∀ a, _ ↔ FilterSpec.FirstGives m a specs := fun a =>
    Filter.findSome?_aliases_iff hcompiled
  constructor
  · have hincludes := includes_jmx_iff hcompiled m
    rw [includes_jmx_congr filters hsame] at hincludes
    have hsend : m.send ↔ leaf ∉ excluded ∧
        (jmx filters).includes (fresh bean name leaf value) := by
      rw [← hm]
      simp
    rw [hsend, hincludes, hsame.leaf]
    rfl
  · intro a ha
    rw [(hfirst a).2 ha] at hnaming
    rw [← hm, hnaming]
    exact ⟨rfl, rfl⟩
  · intro hnone
    have hnot := Option.eq_none_iff_forall_ne_some.2 fun a ha => hnone a ((hfirst a).1 ha)
    rw [hnot] at hnaming
    rw [← hm, hnaming]
    exact ⟨rfl, rfl⟩

theorem compiled_of_build [Regex.Builder] {specs : List FilterSpec} {i : Integration}
    (h : build "jmx" specs = .ok i) : ∀ spec ∈ specs, ∃ f, Filter.compile spec = .ok f := by
  obtain ⟨filters, hfilters, -⟩ := build_jmx_eq_ok_iff.1 h
  exact exists_mapM_iff.1 ⟨filters, hfilters⟩

theorem exists_build_jmx [Regex.Builder] {specs : List FilterSpec}
    (h : ∀ spec ∈ specs, ∃ f, Filter.compile spec = .ok f) : ∃ i, build "jmx" specs = .ok i :=
  ⟨_, build_jmx_eq_ok_iff.2 ⟨_, mapM_of_ok h, rfl⟩⟩

/-- A leaf that is not excluded is sent exactly if there are no filters or one of them accepts its
metric. It is renamed exactly by the first filter that accepts the metric and has an entry for the
leaf. So the order of the filters does not matter for what is sent, and a filter more takes nothing
away from what other filters send. -/
theorem filters_decide [Regex.Builder] {specs : List FilterSpec} {i : Integration}
    (h : build "jmx" specs = .ok i) (excluded : List String) {bean : String} {name : BeanName}
    (hname : BeanName.parse bean = .ok name) (leaf : String) (value : Float) :
    ∃ m, i.wrap excluded bean leaf value = .ok m ∧ Measures bean name leaf value m ∧
      m.tags = name.tags ∧ FilterSpec.Decides specs excluded m ∧
      ((∀ spec ∈ specs, ¬spec.Accepts m) → m.nameOverride = none) ∧
      (∀ specs' : List FilterSpec, specs'.Perm specs →
        ∃ i' m', build "jmx" specs' = .ok i' ∧ i'.wrap excluded bean leaf value = .ok m' ∧
          m'.send = m.send) ∧
      ∀ spec i', specs ≠ [] → build "jmx" (specs ++ [spec]) = .ok i' → m.send →
        ∃ m', i'.wrap excluded bean leaf value = .ok m' ∧ m'.send := by
  obtain ⟨m, hwrap, hmeasures, htags, hdecides⟩ := wrap_decides h excluded hname leaf value
  have halike : ∀ {m'}, Measures bean name leaf value m' → m'.tags = name.tags → m'.Alike m :=
    fun hmeasures' htags' =>
      ⟨hmeasures'.domain.trans hmeasures.domain.symm, hmeasures'.bean.trans hmeasures.bean.symm,
        hmeasures'.leaf.trans hmeasures.leaf.symm, htags'.trans htags.symm⟩
  refine ⟨m, hwrap, hmeasures, htags, hdecides, ?_, ?_, ?_⟩
  · intro hnone
    refine (hdecides.kept fun a hfirst => ?_).1
    obtain ⟨spec, hspec, hacc⟩ := hfirst.exists_accepts
    exact hnone spec hspec hacc
  · intro specs' hperm
    obtain ⟨i', hi'⟩ := exists_build_jmx fun spec hspec =>
      compiled_of_build h spec (hperm.mem_iff.1 hspec)
    obtain ⟨m', hwrap', hmeasures', htags', hdecides'⟩ :=
      wrap_decides hi' excluded hname leaf value
    have hsame := halike hmeasures' htags'
    refine ⟨i', m', hi', hwrap', Bool.eq_iff_iff.2 ?_⟩
    have hnil : specs' = [] ↔ specs = [] := by
      rw [← List.length_eq_zero_iff, hperm.length_eq, List.length_eq_zero_iff]
    rw [hdecides'.send, hdecides.send, hsame.leaf, hnil]
    simp only [hsame.accepts_iff, hperm.mem_iff]
  · intro spec i' hne hi' hsend
    obtain ⟨m', hwrap', hmeasures', htags', hdecides'⟩ :=
      wrap_decides hi' excluded hname leaf value
    have hsame := halike hmeasures' htags'
    obtain ⟨hkept, hchosen⟩ := hdecides.send.1 hsend
    obtain ⟨spec', hspec', hacc⟩ := hchosen.resolve_left hne
    refine ⟨m', hwrap', hdecides'.send.2 ⟨hsame.leaf ▸ hkept, .inr ⟨spec', ?_, ?_⟩⟩⟩
    · exact List.mem_append_left [spec] hspec'
    · exact (hsame.accepts_iff spec').2 hacc

/-- Two filters that accept the counts of a broker; only the second one has an entry for them. -/
def brokerSpecs : List FilterSpec :=
  [⟨Dict.ofList [("bean", .one "kafka.*:*type=*Metrics")], ∅⟩,
    ⟨Dict.ofList [("domain", .one "kafka.server"), ("type", .many ["Log", "BrokerTopic*"]),
        ("attribute", .aliased (Dict.ofList
          [("Count", some ⟨some "kafka.messages_in", some .counter⟩), ("Mean", none)]))],
      Dict.ofList [("name", .one "*PerSec")]⟩]

/-- The counts are sent under their new name, while a mean that is excluded is not. -/
theorem broker_decided :
    letI := Regex.weighing
    ∃ m, (jmx (brokerSpecs.filterMap fun spec => (Filter.compile spec).toOption)).wrap ["Mean"]
        "kafka.server:name=Messages,type=BrokerTopicMetrics" "Count" 7 = .ok m ∧
      FilterSpec.Decides brokerSpecs ["Mean"] m ∧ m.send ∧
      m.nameOverride = some "kafka.messages_in" := by
  let _ := Regex.weighing
  have hbuild : build "jmx" brokerSpecs =
      .ok (jmx (brokerSpecs.filterMap fun spec => (Filter.compile spec).toOption)) := by
    decide
  have hname : BeanName.parse "kafka.server:name=Messages,type=BrokerTopicMetrics" =
      .ok ⟨"kafka.server",
        Dict.ofList [("name", "Messages"), ("type", "BrokerTopicMetrics")]⟩ := by
    decide
  obtain ⟨m, hwrap, -, -, hdecides, -⟩ := filters_decide hbuild ["Mean"] hname "Count" 7
  have hview : ((jmx (brokerSpecs.filterMap fun spec => (Filter.compile spec).toOption)).wrap
      ["Mean"] "kafka.server:name=Messages,type=BrokerTopicMetrics" "Count" 7).map
        (fun m => (m.send, m.nameOverride)) = .ok (true, some "kafka.messages_in") := by
    decide
  rw [hwrap] at hview
  obtain ⟨hsend, hnewName⟩ := Prod.mk.inj (Except.ok.inj hview)
  exact ⟨m, hwrap, hdecides, hsend, hnewName⟩

end Integration

end BeanGauge
