import BeanGauge.Proofs.Dump
import BeanGauge.Proofs.Integration.Exclusion
/-!
# The leaves in a catalog

Every number in a dump that stands at an attribute of a bean with a well-formed identifier, or at a
member of one, makes one metric, in the order of the dump. A malformed bean makes none. It is named
once beside the metrics if it has a leaf, and not at all if it has none.
-/

namespace BeanGauge

open Text (encode encode_lt_iff)

namespace Attribute

/-- The number an attribute counts as. A text counts where texts are read as numbers, if it spells
a finite one. -/
inductive Counts (coerce : Bool) : Attribute → Float → Prop
  | integer (n : Int) : Counts coerce (.integer n) (Number.ofInt n)
  | float (x : Float) : Counts coerce (.float x) x
  | spelled {s : String} {x : Float} : coerce → Number.readFloat (Text.trim s) = some x →
      Number.isFinite x → Counts coerce (.string s) x

/-- The leaves of an attribute: its own number, or that of a member of a composite one. -/
inductive HasLeaf (coerce : Bool) : Attribute → Option String → Float → Prop
  | own {a : Attribute} {x : Float} : a.Counts coerce x → HasLeaf coerce a none x
  | member {members : List (String × Attribute)} {m : String} {a : Attribute} {x : Float} :
      (m, a) ∈ members → a.Counts coerce x → HasLeaf coerce (.object members) (some m) x

variable {coerce : Bool} {a : Attribute} {x : Float}

/-- The number of an attribute is what it counts as. -/
theorem number?_eq_some_iff : a.number? coerce = some x ↔ a.Counts coerce x := by
  constructor
  · intro h
    unfold number? at h
    split at h
    · obtain rfl := Option.some.inj h
      exact .integer _
    · obtain rfl := Option.some.inj h
      exact .float _
    · split at h
      · rename_i hcoerce
        obtain ⟨hread, hfinite⟩ := Option.filter_eq_some_iff.1 h
        exact .spelled hcoerce hread hfinite
      · cases h
    · cases h
  · intro h
    cases h with
    | integer n => rfl
    | float x => rfl
    | spelled hcoerce hread hfinite =>
      rw [number?, if_pos hcoerce, hread, Option.filter_some, if_pos hfinite]

theorem of_iff_hasLeaf {l : Leaf} : l.Of coerce a ↔ a.HasLeaf coerce l.member l.value := by
  obtain ⟨bean, name, member, value⟩ := l
  cases member with
  | none =>
    show a.number? coerce = some value ↔ _
    rw [number?_eq_some_iff]
    constructor
    · exact .own
    · rintro ⟨h⟩
      exact h
  | some m =>
    show (∃ v, (m, v) ∈ a.members ∧ v.number? coerce = some value) ↔ _
    constructor
    · rintro ⟨v, hmem, hnumber⟩
      cases a with
      | object members => exact .member hmem (number?_eq_some_iff.1 hnumber)
      | _ => cases hmem
    · intro h
      cases h with
      | member hmem hcounts => exact ⟨_, hmem, number?_eq_some_iff.2 hcounts⟩

end Attribute

/-- Whether a leaf stands in a dump. -/
def Leaf.Stands (coerce : Bool) (d : Dump) (l : Leaf) : Prop :=
  ∃ attributes a, d.beans.get? l.bean = some attributes ∧ attributes.get? l.name = some a ∧
    a.HasLeaf coerce l.member l.value

theorem Leaf.stands_iff {coerce : Bool} {d : Dump} {l : Leaf} :
    l.Stands coerce d ↔ l.In coerce d := by
  simp only [Stands, In, Attribute.of_iff_hasLeaf]

/-- The fault of an identifier comes with the identifier. -/
theorem BeanName.identifier_of_parse {bean : String} {e : Malformed} (h : parse bean = .error e) :
    e.identifier = bean := by
  rw [parse] at h
  cases hname : parseChars bean.toList with
  | error fault =>
    rw [hname] at h
    cases h
    rfl
  | ok name =>
    rw [hname] at h
    cases h

namespace MetricFactory

/-- The factories there are: the one that decides nothing, and those of integrations. -/
inductive Known : MetricFactory → Prop
  | plain (namePrefix : String) : Known (MetricFactory.plain namePrefix)
  | profile (i : Integration) (excluded : List String) : Known (i.factory excluded)

/-- Whether a factory refuses malformed identifiers with their faults and nothing else, and keeps
the bean and its domain. -/
structure Faithful (f : MetricFactory) : Prop where
  refuses : ∀ {bean e}, BeanName.parse bean = .error e →
    ∀ leaf value, f.wrap bean leaf value = .error e
  makes : ∀ {bean name}, BeanName.parse bean = .ok name → ∀ leaf value,
    ∃ m, f.wrap bean leaf value = .ok m ∧ m.bean = bean ∧ m.domain = name.domain

variable {f : MetricFactory}

theorem wrap_plain {namePrefix bean : String} {name : BeanName}
    (h : BeanName.parse bean = .ok name) (leaf : String) (value : Float) :
    (plain namePrefix).wrap bean leaf value = .ok
      { domain := name.domain, bean, leaf, value, tags := name.tags, namePrefix
        nameOverride := none, kind := .gauge, device := none, send := true } := by
  show (Metric.ofLeaf bean leaf value).map _ = _
  rw [Metric.ofLeaf, h]
  rfl

theorem faithful_plain (namePrefix : String) : (plain namePrefix).Faithful where
  refuses h leaf value := by
    show (Metric.ofLeaf _ leaf value).map _ = _
    rw [Metric.ofLeaf, h]
    rfl
  makes h leaf value := ⟨_, wrap_plain h leaf value, rfl, rfl⟩

/-- The factory of an integration refuses nothing but malformed identifiers. -/
theorem faithful_profile (i : Integration) (excluded : List String) :
    (i.factory excluded).Faithful where
  refuses h leaf value := by
    show i.wrap excluded _ leaf value = _
    rw [Integration.wrap_eq, h]
    rfl
  makes {bean name} h leaf value := by
    have hwrap := i.wrap_eq excluded bean leaf value
    rw [h] at hwrap
    have hmeasures := i.measures_describe bean name leaf value
    exact ⟨_, hwrap, hmeasures.bean, hmeasures.domain⟩

theorem Known.faithful (h : f.Known) : f.Faithful := by
  cases h with
  | plain namePrefix => exact faithful_plain namePrefix
  | profile i excluded => exact faithful_profile i excluded

theorem Faithful.uniform (h : f.Faithful) : f.Uniform := by
  intro bean
  cases hname : BeanName.parse bean with
  | error e => exact .inl ⟨e, h.refuses hname⟩
  | ok name =>
    refine .inr fun leaf value => ?_
    obtain ⟨m, hm, -⟩ := h.makes hname leaf value
    exact ⟨m, hm⟩

end MetricFactory

/-- The leaves of the beans whose identifiers are well formed, in the order of the dump. -/
def Dump.namedLeaves (coerce : Bool) (d : Dump) : List Leaf :=
  (d.leaves coerce).filter fun l => (BeanName.parse l.bean).toOption.isSome

/-- These leaves are all there are at beans with a well-formed identifier. -/
theorem Dump.mem_namedLeaves_iff {coerce : Bool} {d : Dump} {l : Leaf} :
    l ∈ d.namedLeaves coerce ↔ l.In coerce d ∧ ∃ name, BeanName.parse l.bean = .ok name := by
  simp only [namedLeaves, List.mem_filter, Dump.mem_leaves_iff, Option.isSome_iff_exists,
    toOption_eq_some_iff]

namespace Catalog

variable {f : MetricFactory}

def fault? (coerce : Bool) (bean : String × Attributes) : Option BeanName.Malformed :=
  match BeanName.parse bean.1 with
  | .ok _ => none
  | .error e => if (beanLeaves coerce bean.2).isEmpty then none else some e

theorem fault?_eq_some_iff {coerce : Bool} {bean : String × Attributes} {e : BeanName.Malformed} :
    fault? coerce bean = some e ↔
      BeanName.parse bean.1 = .error e ∧ beanLeaves coerce bean.2 ≠ [] := by
  rw [fault?]
  cases BeanName.parse bean.1 with
  | ok name => simp
  | error e' => simp [and_comm]

/-- A bean is named at most once beside the metrics. -/
theorem ofBean_rejected (hf : f.Faithful) (bean : String × Attributes) :
    (ofBean f bean).rejected = (fault? f.coerce bean).toList := by
  rw [ofBean, fault?]
  cases hname : BeanName.parse bean.1 with
  | ok name =>
    have hmade : ∀ leaf value, ∃ m, f.wrap bean.1 leaf value = .ok m := fun leaf value =>
      (hf.makes hname leaf value).imp fun _ h => h.1
    rw [ofLeaves_of_ok hmade]
    rfl
  | error e =>
    rw [ofLeaves_of_error (hf.refuses hname)]
    cases beanLeaves f.coerce bean.2 <;> rfl

theorem build_rejected (hf : f.Faithful) (d : Dump) :
    (build f d).rejected = d.beans.entries.filterMap (fault? f.coerce) := by
  unfold build
  induction d.beans.entries with
  | nil => rfl
  | cons bean beans ih =>
    rw [List.foldr_cons, List.filterMap_cons, ← ih]
    show (ofBean f bean).rejected ++ _ = _
    rw [ofBean_rejected hf]
    cases fault? f.coerce bean <;> rfl

theorem beanLeaves_ne_nil_iff {coerce : Bool} {attributes : Attributes} (bean : String) :
    beanLeaves coerce attributes ≠ [] ↔
      ∃ a ∈ attributes.entries, ∃ l, l ∈ Attribute.positions coerce bean a := by
  have hpaths : beanLeaves coerce attributes =
      (attributes.entries.flatMap (Attribute.positions coerce bean)).map
        fun l => (l.path, l.value) := by
    simp only [beanLeaves, Attribute.leaves_eq_positions coerce bean, List.map_flatMap]
  rw [hpaths, ne_eq, List.map_eq_nil_iff, List.eq_nil_iff_forall_not_mem, not_forall]
  simp only [not_not, List.mem_flatMap]
  constructor
  · rintro ⟨l, a, ha, hl⟩
    exact ⟨a, ha, l, hl⟩
  · rintro ⟨a, ha, l, hl⟩
    exact ⟨l, a, ha, hl⟩

/-- What stands beside the metrics are the faults of malformed beans that have a leaf. -/
theorem mem_rejected_iff (hf : f.Faithful) (d : Dump) (e : BeanName.Malformed) :
    e ∈ (build f d).rejected ↔
      ∃ l : Leaf, l.In f.coerce d ∧ BeanName.parse l.bean = .error e := by
  rw [build_rejected hf, List.mem_filterMap]
  constructor
  · rintro ⟨⟨bean, attributes⟩, hbean, hfault⟩
    obtain ⟨hname, hleaves⟩ := fault?_eq_some_iff.1 hfault
    obtain ⟨⟨name, a⟩, ha, l, hl⟩ := (beanLeaves_ne_nil_iff bean).1 hleaves
    obtain ⟨rfl, rfl, hof⟩ := Attribute.mem_positions_iff.1 hl
    have hin : l.In f.coerce d :=
      ⟨attributes, a, Dict.get?_eq_some_iff.2 hbean, Dict.get?_eq_some_iff.2 ha, hof⟩
    exact ⟨l, hin, hname⟩
  · rintro ⟨l, ⟨attributes, a, hbean, ha, hof⟩, hname⟩
    refine ⟨(l.bean, attributes), Dict.get?_eq_some_iff.1 hbean, fault?_eq_some_iff.2 ⟨hname, ?_⟩⟩
    refine (beanLeaves_ne_nil_iff l.bean).2 ⟨(l.name, a), Dict.get?_eq_some_iff.1 ha, l, ?_⟩
    exact Attribute.mem_positions_iff.2 ⟨rfl, rfl, hof⟩

/-- The faults stand in the order of the beans, so none is there twice. -/
theorem rejected_pairwise (hf : f.Faithful) (d : Dump) :
    (build f d).rejected.Pairwise fun e e' => encode e.identifier < encode e'.identifier := by
  rw [build_rejected hf, List.pairwise_filterMap]
  refine d.beans.sorted.imp fun {bean bean'} hlt e he e' he' => ?_
  rw [BeanName.identifier_of_parse (fault?_eq_some_iff.1 he).1,
    BeanName.identifier_of_parse (fault?_eq_some_iff.1 he').1]
  exact encode_lt_iff.2 hlt

theorem ofAttribute_eq (f : MetricFactory) (bean : String) (a : String × Attribute) :
    ofAttribute f bean a = (Attribute.positions f.coerce bean a).filterMap
      fun l => (f.wrap l.bean l.path l.value).toOption := by
  obtain ⟨name, a⟩ := a
  rw [ofAttribute, Attribute.leaves_eq_positions f.coerce bean name a, List.filterMap_map]
  refine List.filterMap_congr fun l hl => ?_
  rw [(Attribute.mem_positions_iff.1 hl).1]
  rfl

/-- The metrics of a catalog are made of the leaves one by one. -/
theorem metrics_forall₂ (hf : f.Faithful) (d : Dump) :
    List.Forall₂ (fun l m => f.wrap l.bean l.path l.value = .ok m) (d.namedLeaves f.coerce)
      (build f d).metrics := by
  have hmetrics : (build f d).metrics =
      (d.namedLeaves f.coerce).filterMap fun l => (f.wrap l.bean l.path l.value).toOption := by
    have hall : (build f d).metrics =
        (d.leaves f.coerce).filterMap fun l => (f.wrap l.bean l.path l.value).toOption := by
      simp only [build_metrics hf.uniform, funext (ofAttribute_eq f _), Dump.leaves,
        List.filterMap_flatMap]
    rw [hall, Dump.namedLeaves, List.filterMap_filter]
    refine List.filterMap_congr fun l _ => ?_
    cases hname : BeanName.parse l.bean with
    | error e =>
      rw [hf.refuses hname]
      rfl
    | ok name => rfl
  rw [hmetrics]
  refine forall₂_of_mapM (mapM_of_ok fun l hl => ?_)
  obtain ⟨-, name, hname⟩ := Dump.mem_namedLeaves_iff.1 hl
  obtain ⟨m, hm, -⟩ := hf.makes hname l.path l.value
  exact ⟨m, hm⟩

/-- How a catalog lists the leaves of a dump. The order of members is that of their names where
members stand in order, as they do in every decoded dump. -/
structure Lists (f : MetricFactory) (d : Dump) (leaves : List Leaf) (c : Catalog) : Prop where
  complete : ∀ l, l ∈ leaves ↔ l.Stands f.coerce d ∧ ∃ name, BeanName.parse l.bean = .ok name
  ordered : d.Ordered → leaves.Pairwise Leaf.Before
  metrics : List.Forall₂ (fun l m => f.wrap l.bean l.path l.value = .ok m) leaves c.metrics
  rejected : ∀ e, e ∈ c.rejected ↔
    ∃ l : Leaf, l.Stands f.coerce d ∧ BeanName.parse l.bean = .error e
  rejectedOnce : c.rejected.Pairwise fun e e' => encode e.identifier < encode e'.identifier

/-- A catalog has one metric for each leaf of a well-formed bean, in order, and the faults of the
malformed beans that have leaves, once each. -/
theorem build_lists_leaves (hf : f.Known) (d : Dump) :
    (build f d).Lists f d (d.namedLeaves f.coerce) where
  complete l := by rw [Dump.mem_namedLeaves_iff, Leaf.stands_iff]
  ordered hd := (Dump.leaves_pairwise hd).filter _
  metrics := metrics_forall₂ hf.faithful d
  rejected e := by simp only [mem_rejected_iff hf.faithful, Leaf.stands_iff]
  rejectedOnce := rejected_pairwise hf.faithful d

/-- A dump with all kinds of values at a bean, and two malformed beans. -/
def motley : Dump :=
  ⟨Dict.ofList [
    ("broken", Dict.ofList [("b", .integer 1), ("a", .integer 2)]),
    ("hollow", Dict.ofList [("a", .bool true)]),
    ("solr:type=searcher", Dict.ofList [
      ("numDocs", .string " 42 "), ("warmupTime", .string "NaN"), ("list", .array [.integer 1]),
      ("deep", .object [("inner", .object [("x", .integer 1)]), ("y", .integer 2)]),
      ("flag", .bool true), ("none", .null)])]⟩

theorem motley_lists :
    (build (Integration.solr.factory []) motley).metrics.map (fun m => (m.bean, m.leaf)) =
        [("solr:type=searcher", "deep.y"), ("solr:type=searcher", "numDocs")] ∧
      (build (Integration.solr.factory []) motley).rejected = [⟨"broken", .noColon⟩] ∧
      (build (Integration.solr.factory []) motley).Lists (Integration.solr.factory []) motley
        (motley.namedLeaves true) :=
  ⟨by decide, by decide, build_lists_leaves (.profile .solr []) motley⟩

end Catalog

end BeanGauge
