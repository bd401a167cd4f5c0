import BeanGauge.Dump
import BeanGauge.Proofs.Dict
import BeanGauge.Proofs.Except
import BeanGauge.Proofs.Text.Order
/-!
# The leaves of a dump

A leaf is a number in a dump and where it stands: at an attribute of a bean, or at a member of one
that is composite. Beans, attributes and members are visited by key, so the leaves of a decoded dump
are listed in strict order, each of them once.
-/

namespace BeanGauge

open Text (encode encode_lt_iff)

/-- The members of a composite attribute. -/
def Attribute.members : Attribute → List (String × Attribute)
  | .object members => members
  | _ => []

/-- An attribute with a number is a single leaf. -/
theorem Attribute.leaves_of_number {coerce : Bool} {a : Attribute} {x : Float}
    (h : a.number? coerce = some x) (name : String) : a.leaves coerce name = [(name, x)] := by
  simp only [leaves, h]

/-- An attribute without a number has the leaves of its members. -/
theorem Attribute.leaves_of_none {coerce : Bool} {a : Attribute} (h : a.number? coerce = none)
    (name : String) : a.leaves coerce name =
      a.members.filterMap fun m => (m.2.number? coerce).map fun x => (name ++ "." ++ m.1, x) := by
  cases a <;> simp only [leaves, h, members, List.filterMap_nil]

/-- A number and where it stands. -/
structure Leaf where
  bean : String
  /-- The attribute. -/
  name : String
  member : Option String
  value : Float

namespace Leaf

/-- The attribute, or the attribute and the member, joined by a dot. -/
def path (l : Leaf) : String :=
  match l.member with
  | none => l.name
  | some m => l.name ++ "." ++ m

/-- The order of beans, then of their attributes, then of the members, each by bytes. -/
def Before (l l' : Leaf) : Prop :=
  encode l.bean < encode l'.bean ∨ l.bean = l'.bean ∧
    (encode l.name < encode l'.name ∨ l.name = l'.name ∧
      ∃ m m', l.member = some m ∧ l'.member = some m' ∧ encode m < encode m')

/-- Where a leaf stands. -/
def position (l : Leaf) : String × String × Option String := (l.bean, l.name, l.member)

theorem Before.position_ne {l l' : Leaf} (h : l.Before l') : l.position ≠ l'.position := by
  intro heq
  obtain ⟨hbean, hname, hmember⟩ := by simpa only [position, Prod.mk.injEq] using heq
  rw [Before, hbean, hname, hmember] at h
  rcases h with h | ⟨-, h | ⟨-, m, m', hm, hm', h⟩⟩
  · exact List.lt_irrefl _ h
  · exact List.lt_irrefl _ h
  · cases hm.symm.trans hm'
    exact List.lt_irrefl _ h

/-- Whether an attribute has the number of a leaf, by itself or at the member. -/
def Of (coerce : Bool) (a : Attribute) (l : Leaf) : Prop :=
  match l.member with
  | none => a.number? coerce = some l.value
  | some m => ∃ v, (m, v) ∈ a.members ∧ v.number? coerce = some l.value

/-- Whether a dump has a leaf. -/
def In (coerce : Bool) (d : Dump) (l : Leaf) : Prop :=
  ∃ attributes a, d.beans.get? l.bean = some attributes ∧
    attributes.get? l.name = some a ∧ l.Of coerce a

end Leaf

/-- The leaves of one attribute. -/
def Attribute.positions (coerce : Bool) (bean : String) (a : String × Attribute) : List Leaf :=
  match a.2.number? coerce with
  | some x => [⟨bean, a.1, none, x⟩]
  | none => a.2.members.filterMap fun m =>
      (m.2.number? coerce).map fun x => ⟨bean, a.1, some m.1, x⟩

namespace Attribute

variable {coerce : Bool} {bean name : String} {a : Attribute}

theorem leaves_eq_positions (coerce : Bool) (bean name : String) (a : Attribute) :
    a.leaves coerce name = (positions coerce bean (name, a)).map fun l => (l.path, l.value) := by
  cases hnumber : a.number? coerce with
  | some x =>
    rw [leaves_of_number hnumber, positions, hnumber]
    rfl
  | none =>
    rw [leaves_of_none hnumber, positions, hnumber, List.map_filterMap]
    congr 1
    funext m
    cases m.2.number? coerce <;> rfl

theorem members_of_number {x : Float} (h : a.number? coerce = some x) : a.members = [] := by
  cases a with
  | object members => cases h
  | _ => rfl

/-- The leaves of an attribute are exactly those it has the number of. -/
theorem mem_positions_iff {l : Leaf} :
    l ∈ positions coerce bean (name, a) ↔
      l.bean = bean ∧ l.name = name ∧ l.Of coerce a := by
  obtain ⟨bean', name', member, value⟩ := l
  cases hnumber : a.number? coerce with
  | some x =>
    cases member with
    | none => simp [positions, Leaf.Of, hnumber, eq_comm]
    | some m => simp [positions, Leaf.Of, hnumber, members_of_number hnumber]
  | none =>
    cases member with
    | none => simp [positions, Leaf.Of, hnumber]
    | some m =>
      simp only [positions, hnumber, List.mem_filterMap, Option.map_eq_some_iff, Leaf.mk.injEq,
        Option.some.injEq, Leaf.Of]
      constructor
      · rintro ⟨⟨m', v⟩, hm, x, hx, rfl, rfl, rfl, rfl⟩
        exact ⟨rfl, rfl, v, hm, hx⟩
      · rintro ⟨rfl, rfl, v, hm, hx⟩
        exact ⟨(m, v), hm, value, hx, rfl, rfl, rfl, rfl⟩

theorem positions_pairwise (ha : Entries.Sorted a.members) :
    (positions coerce bean (name, a)).Pairwise Leaf.Before := by
  unfold positions
  split
  · exact List.pairwise_singleton _ _
  · rw [List.pairwise_filterMap]
    refine ha.imp fun {m m'} hlt l hl l' hl' => ?_
    obtain ⟨x, -, rfl⟩ := Option.map_eq_some_iff.1 hl
    obtain ⟨x', -, rfl⟩ := Option.map_eq_some_iff.1 hl'
    exact .inr ⟨rfl, .inr ⟨rfl, m.1, m'.1, rfl, rfl, encode_lt_iff.2 hlt⟩⟩

end Attribute

namespace Dump

variable {coerce : Bool} {d : Dump}

/-- Whether the members of every composite attribute stand in order. -/
def Ordered (d : Dump) : Prop :=
  ∀ bean ∈ d.beans.entries, ∀ a ∈ bean.2.entries, Entries.Sorted a.2.members

/-- All leaves of a dump. -/
def leaves (coerce : Bool) (d : Dump) : List Leaf :=
  d.beans.entries.flatMap fun bean => bean.2.entries.flatMap (Attribute.positions coerce bean.1)

/-- All leaves of a dump are listed. -/
theorem mem_leaves_iff {l : Leaf} : l ∈ d.leaves coerce ↔ l.In coerce d := by
  simp only [leaves, List.mem_flatMap, Leaf.In]
  constructor
  · rintro ⟨⟨bean, attributes⟩, hbean, ⟨name, a⟩, ha, hl⟩
    obtain ⟨rfl, rfl, hof⟩ := Attribute.mem_positions_iff.1 hl
    exact ⟨attributes, a, Dict.get?_eq_some_iff.2 hbean, Dict.get?_eq_some_iff.2 ha, hof⟩
  · rintro ⟨attributes, a, hbean, ha, hof⟩
    exact ⟨_, Dict.get?_eq_some_iff.1 hbean, _, Dict.get?_eq_some_iff.1 ha,
      Attribute.mem_positions_iff.2 ⟨rfl, rfl, hof⟩⟩

/-- The leaves are listed in order, so none is there twice. -/
theorem leaves_pairwise (hd : d.Ordered) : (d.leaves coerce).Pairwise Leaf.Before := by
  rw [leaves, List.pairwise_flatMap]
  constructor
  · intro bean hbean
    rw [List.pairwise_flatMap]
    constructor
    · intro a ha
      exact Attribute.positions_pairwise (hd bean hbean a ha)
    · refine bean.2.sorted.imp fun {a a'} hlt l hl l' hl' => ?_
      obtain ⟨hb, hn, -⟩ := Attribute.mem_positions_iff.1 hl
      obtain ⟨hb', hn', -⟩ := Attribute.mem_positions_iff.1 hl'
      refine .inr ⟨hb.trans hb'.symm, .inl ?_⟩
      rw [hn, hn']
      exact encode_lt_iff.2 hlt
  · refine d.beans.sorted.imp fun {bean bean'} hlt l hl l' hl' => ?_
    obtain ⟨a, -, hl⟩ := List.mem_flatMap.1 hl
    obtain ⟨a', -, hl'⟩ := List.mem_flatMap.1 hl'
    rw [Leaf.Before, (Attribute.mem_positions_iff.1 hl).1, (Attribute.mem_positions_iff.1 hl').1]
    exact .inl (encode_lt_iff.2 hlt)

theorem Ordered.filterBeans (hd : d.Ordered) (p : String → Bool) : (d.filterBeans p).Ordered :=
  fun bean hbean => hd bean (List.mem_filter.1 hbean).1

end Dump

/-- A decoded composite attribute has its members in order. -/
theorem Attribute.sorted_members_ofJson (j : Json) : Entries.Sorted (ofJson j).members := by
  cases j with
  | object members =>
    rw [ofJson, Attribute.members]
    exact Entries.sorted_ofList _
  | int n =>
    rw [ofJson]
    split <;> exact .nil
  | _ => exact .nil

theorem Attribute.ofMembers_eq_map (ms : List (String × Json)) :
    ofMembers ms = ms.map fun m => (m.1, ofJson m.2) := by
  induction ms with
  | nil => rfl
  | cons m ms ih => rw [ofMembers, ih, List.map_cons]

/-- A dump that is decoded has its members in order. -/
theorem Dump.ordered_ofJson {j : Json} {d : Dump} (h : ofJson j = .ok d) : d.Ordered := by
  cases j with
  | object members =>
    obtain ⟨beans, hbeans, h⟩ := bind_eq_ok_iff.1 h
    cases h
    intro bean hbean a ha
    obtain ⟨⟨name, value⟩, -, hdecode⟩ :=
      exists_of_mem_mapM hbeans bean (Entries.mem_of_mem_ofList hbean)
    cases value with
    | object attributes =>
      cases hdecode
      have hmem := Entries.mem_of_mem_ofList ha
      rw [Attribute.ofMembers_eq_map] at hmem
      obtain ⟨m, -, rfl⟩ := List.mem_map.1 hmem
      exact Attribute.sorted_members_ofJson m.2
    | _ => cases hdecode
  | _ => cases h

theorem Text.toList_append_congr {s t : String} {cs ds : List Char} (hs : s.toList = cs)
    (ht : t.toList = ds) : (s ++ t).toList = cs ++ ds := by
  rw [String.toList_append, hs, ht]

/-- The dump of a text from its characters. What has to decode the bytes of a long text first takes
far longer to check. -/
theorem Dump.parse_of_toList {explain : String → String} {text : String} {cs : List Char}
    (h : text.toList = cs) :
    parse explain text =
      ((Json.lex cs).bind Json.ofTokens?).elim (.error (.notJson (explain text))) ofJson := by
  rw [parse, Json.parse, h]
  cases (Json.lex cs).bind Json.ofTokens? <;> rfl

theorem Dump.isSome_json_of_parse {explain : String → String} {text : String} {d : Dump}
    (h : parse explain text = .ok d) : (Json.parse text).isSome := by
  unfold parse at h
  split at h
  · cases h
  · rename_i hjson
    rw [hjson]
    rfl

theorem Dump.ordered_parse {explain : String → String} {text : String} {d : Dump}
    (h : parse explain text = .ok d) : d.Ordered := by
  unfold parse at h
  split at h
  · cases h
  · exact ordered_ofJson h

end BeanGauge
