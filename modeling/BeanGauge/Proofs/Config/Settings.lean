import BeanGauge.Config.Reader
import BeanGauge.Config.Writer
import BeanGauge.Proofs.Dict
import BeanGauge.Proofs.Except
import BeanGauge.Proofs.Json.Written
/-!
# Reading settings that were written

A setting without a value is left away. What is read from the text of the other settings is again
a record of all of them, in whatever order a reader finds them, and a value that was left away is
read as the one that says nothing.
-/

namespace BeanGauge

namespace Json

/-- The members of an object, without the settings that have no value. -/
def present (settings : List (String × Option Json)) : List (String × Json) :=
  settings.flatMap fun s => s.2.toList.map fun j => (s.1, j)

/-- A list as the value of a setting; an empty one is no value. -/
def listed {α : Type} (write : α → Json) (items : List α) : Option Json :=
  if items.isEmpty then none else some (.array (items.map write))

theorem present_append (settings settings' : List (String × Option Json)) :
    present (settings ++ settings') = present settings ++ present settings' := List.flatMap_append

theorem optionalMember_eq {α : Type} (name : String) (write : α → Json) (value : Option α) :
    optionalMember name write value = present [(name, value.map write)] := by
  cases value <;> rfl

theorem listMember_eq {α : Type} (name : String) (write : α → Json) (items : List α) :
    listMember name write items = present [(name, listed write items)] := by
  cases items <;> rfl

theorem sortedItems_eq_map (items : List Json) : sortedItems items = items.map sorted := by
  induction items with
  | nil => rfl
  | cons j items ih => rw [sortedItems, ih, List.map_cons]

theorem sortedMembers_eq_map (members : List (String × Json)) :
    sortedMembers members = members.map fun m => (m.1, m.2.sorted) := by
  induction members with
  | nil => rfl
  | cons m members ih => rw [sortedMembers, ih, List.map_cons]

section Whole

variable {α : Type} {depth : Nat} {write : α → Json}

theorem whole_present {settings : List (String × Option Json)}
    (h : ∀ s ∈ settings, ∀ j ∈ s.2, Whole depth j) :
    Whole (depth + 1) (.object (present settings)) := by
  refine .object ?_
  intro m hm
  obtain ⟨s, hs, hm⟩ := List.mem_flatMap.1 hm
  obtain ⟨j, hj, rfl⟩ := List.mem_map.1 hm
  exact h s hs j (Option.mem_toList.1 hj)

theorem whole_array (h : ∀ a, Whole depth (write a)) (items : List α) :
    Whole (depth + 1) (.array (items.map write)) := by
  refine .array (List.forall_mem_map.2 ?_)
  intro a _
  exact h a

theorem whole_strings (texts : List String) : Whole (depth + 1) (strings texts) :=
  whole_array .string texts

theorem forall_mem_map_whole (h : ∀ a, Whole depth (write a)) (value : Option α) :
    ∀ j ∈ value.map write, Whole depth j := by
  intro j hj
  obtain ⟨a, -, rfl⟩ := Option.map_eq_some_iff.1 hj
  exact h a

theorem forall_mem_listed_whole (h : ∀ a, Whole depth (write a)) (items : List α) :
    ∀ j ∈ listed write items, Whole (depth + 1) j := by
  intro j hj
  rw [listed] at hj
  split at hj
  · cases hj
  · cases hj
    exact whole_array h items

theorem whole_port (p : UInt16) : Whole depth (.int p.toNat) :=
  .nat (Nat.le_trans (Nat.le_of_lt p.toNat_lt) (by decide))

theorem whole_millis (t : UInt64) : Whole depth (.int t.toNat) :=
  .nat (Nat.le_sub_one_of_lt t.toNat_lt)

end Whole

end Json

namespace Tree

theorem ofItems_eq_map (items : List Json) : ofItems items = items.map ofJson := by
  induction items with
  | nil => rfl
  | cons j items ih => rw [ofItems, ih, List.map_cons]

theorem ofMembers_eq_map (members : List (String × Json)) :
    ofMembers members = members.map fun m => (.text m.1, ofJson m.2) := by
  induction members with
  | nil => rfl
  | cons m members ih => rw [ofMembers, ih, List.map_cons]

mutual

/-- A tree that comes of a JSON value has all its types already. -/
theorem resolved_ofJson : ∀ j, (ofJson j).resolved = ofJson j
  | .null | .bool _ | .int _ | .float _ | .string _ => rfl
  | .array items => by rw [ofJson, resolved, resolvedItems_ofItems items]
  | .object members => by rw [ofJson, resolved, resolvedRows_ofMembers members]

theorem resolvedItems_ofItems : ∀ items, resolvedItems (ofItems items) = ofItems items
  | [] => rfl
  | j :: items => by rw [ofItems, resolvedItems, resolved_ofJson j, resolvedItems_ofItems items]

theorem resolvedRows_ofMembers : ∀ members, resolvedRows (ofMembers members) = ofMembers members
  | [] => rfl
  | (name, j) :: members => by
    rw [ofMembers, resolvedRows, resolved_ofJson j, resolvedRows_ofMembers members]
    rfl

end

def reread (j : Json) : Tree := ofJson j.sorted

theorem reread_array (items : List Json) : reread (.array items) = .list (items.map reread) := by
  rw [reread, Json.sorted, Json.sortedItems_eq_map, ofJson, ofItems_eq_map, List.map_map]
  rfl

theorem reread_object (members : List (String × Json)) :
    reread (.object members) =
      .table ((Entries.ofList (members.map fun m => (m.1, m.2.sorted))).map fun m =>
        (.text m.1, ofJson m.2)) := by
  rw [reread, Json.sorted, Json.sortedMembers_eq_map, Json.ofMembers, ofJson, ofMembers_eq_map]

/-! ## Records -/

section Records

variable {settings : List (String × Option Json)}

theorem sorted_present :
    (Json.present settings).map (fun m => (m.1, m.2.sorted)) =
      Json.present (settings.map fun s => (s.1, s.2.map Json.sorted)) := by
  rw [Json.present, Json.present, List.map_flatMap, List.flatMap_map]
  congr 1
  funext s
  cases s.2 <;> rfl

/-- Only settings are written. -/
theorem name_of_mem_present {m : String × Json} (h : m ∈ Json.present settings) :
    m.1 ∈ settings.map (·.1) := by
  obtain ⟨s, hs, hm⟩ := List.mem_flatMap.1 h
  obtain ⟨j, -, rfl⟩ := List.mem_map.1 hm
  exact List.mem_map_of_mem hs

theorem nodup_present (h : (settings.map (·.1)).Nodup) :
    ((Json.present settings).map Prod.fst).Nodup := by
  induction settings with
  | nil => exact List.nodup_nil
  | cons s settings ih =>
    obtain ⟨name, value⟩ := s
    obtain ⟨hnew, hrest⟩ := List.nodup_cons.1 h
    have hcons : Json.present ((name, value) :: settings) =
      (value.toList.map fun j => (name, j)) ++ Json.present settings := List.flatMap_cons
    rw [hcons, List.map_append]
    cases value with
    | none => exact ih hrest
    | some j =>
      refine List.nodup_cons.2 ⟨?_, ih hrest⟩
      intro hmem
      obtain ⟨m, hm, hname⟩ := List.mem_map.1 hmem
      have hname' := name_of_mem_present hm
      rw [hname] at hname'
      exact hnew hname'

/-- A setting that is written stands under its name once. -/
theorem filter_present (h : (settings.map (·.1)).Nodup) {name : String} {value : Option Json}
    (hs : (name, value) ∈ settings) :
    (Json.present settings).filter (·.1 == name) = value.toList.map fun j => (name, j) := by
  have hown : ∀ t : String × Option Json, (t.2.toList.map fun j => (t.1, j)).filter (·.1 == name) =
      if t.1 = name then t.2.toList.map fun j => (t.1, j) else [] := by
    intro t
    cases t.2 <;> by_cases hname : t.1 = name <;> simp [hname]
  induction settings with
  | nil => cases hs
  | cons t settings ih =>
    obtain ⟨hnew, hrest⟩ := List.nodup_cons.1 h
    have hcons : Json.present (t :: settings) =
      (t.2.toList.map fun j => (t.1, j)) ++ Json.present settings := List.flatMap_cons
    rw [hcons, List.filter_append, hown]
    rcases List.mem_cons.1 hs with rfl | hs
    · have hnone : (Json.present settings).filter (·.1 == name) = [] := by
        rw [List.filter_eq_nil_iff]
        intro m hm he
        have hmem := name_of_mem_present hm
        rw [beq_iff_eq.1 he] at hmem
        exact hnew hmem
      rw [if_pos rfl, hnone, List.append_nil]
    · have hne : t.1 ≠ name := by
        intro he
        have hmem : name ∈ settings.map (·.1) := List.mem_map_of_mem hs
        rw [← he] at hmem
        exact hnew hmem
      rw [if_neg hne, List.nil_append, ih hrest hs]

/-- A record finds each setting of an object, whether it is there or not. -/
theorem asRecord_reread (origin : Origin) (settings : List (String × Option Json))
    (h : (settings.map (·.1)).Nodup) :
    asRecord origin (settings.map (·.1)) (reread (.object (Json.present settings))) =
      some (settings.map fun s => s.2.map reread) := by
  have hnames : (settings.map fun s => (s.1, s.2.map Json.sorted)).map (·.1) =
      settings.map (·.1) := by
    rw [List.map_map]
    rfl
  have hkept := h
  rw [← hnames] at hkept
  have hperm := Entries.ofList_perm (nodup_present hkept)
  rw [reread_object, sorted_present]
  generalize Entries.ofList (Json.present (settings.map fun s => (s.1, s.2.map Json.sorted))) =
    members at hperm
  have hrows : (members.map fun m => (Tree.text m.1, ofJson m.2)).mapM
      (fun r => r.1.asText.map fun key => (key, r.2)) =
        some (members.map fun m => (m.1, ofJson m.2)) := by
    rw [List.mapM_map]
    exact mapM_eq_pure_map fun _ _ => rfl
  have honly : ∀ s ∈ settings, onlyRow (members.map fun m => (m.1, ofJson m.2)) s.1 =
      some (s.2.map reread) := by
    intro s hs
    have hfilter := hperm.filter (·.1 == s.1)
    rw [filter_present hkept (List.mem_map_of_mem hs)] at hfilter
    have hmapped : (members.map fun m => (m.1, ofJson m.2)).filter (·.1 == s.1) =
        (members.filter (·.1 == s.1)).map fun m => (m.1, ofJson m.2) := List.filter_map
    rw [onlyRow, hmapped]
    cases hvalue : s.2 with
    | none =>
      rw [hvalue] at hfilter
      rw [List.perm_nil.1 hfilter]
      rfl
    | some j =>
      rw [hvalue] at hfilter
      rw [List.perm_singleton.1 hfilter]
      rfl
  rw [asRecord, hrows]
  show (settings.map (·.1)).mapM (onlyRow _) = _
  rw [List.mapM_map]
  exact mapM_eq_pure_map honly

/-- The settings of a record that is written are read again, each by its name. -/
theorem asRecord_reread_object (origin : Origin) (members : List (String × Json))
    (h : (members.map (·.1)).Nodup) :
    asRecord origin (members.map (·.1)) (reread (.object members)) =
      some (members.map fun m => some (reread m.2)) := by
  have hpresent : Json.present (members.map fun m => (m.1, some m.2)) = members := by
    rw [Json.present, List.flatMap_map]
    exact List.flatMap_singleton' members
  have hnames : (members.map fun m => (m.1, some m.2)).map (·.1) = members.map (·.1) := by
    rw [List.map_map]
    rfl
  have hrecord := asRecord_reread origin (members.map fun m => (m.1, some m.2))
    (by rw [hnames]; exact h)
  rw [hnames, hpresent, List.map_map] at hrecord
  exact hrecord

end Records

/-! ## Values -/

section Values

variable {α : Type} {read : Tree → Option α} {write : α → Json}

/-- A list that is written is read again, item by item. -/
theorem asList_reread {β : Type} {read : Tree → Option β} {f : α → β}
    (h : ∀ a, read (reread (write a)) = some (f a)) (items : List α) :
    asList read (reread (.array (items.map write))) = some (items.map f) := by
  rw [reread_array, List.map_map, asList, List.mapM_map]
  exact mapM_eq_pure_map fun a _ => h a

theorem asList_reread_self (h : ∀ a, read (reread (write a)) = some a) (items : List α) :
    asList read (reread (.array (items.map write))) = some items := by
  rw [asList_reread h, List.map_id']

/-- A dictionary that is written is read again, row by row. -/
theorem asDict_reread (h : ∀ a, read (reread (write a)) = some a) (d : Dict String α) :
    asDict read (reread (.object (d.entries.map fun e => (e.1, write e.2)))) = some d := by
  have hsorted : Entries.Sorted (d.entries.map fun e => (e.1, (write e.2).sorted)) :=
    (d.map fun a => (write a).sorted).sorted
  have hentries : (d.entries.map fun e => (Tree.text e.1, reread (write e.2))).mapM (fun r => do
      let key ← r.1.asText
      let value ← read r.2
      pure (key, value)) = some (d.entries.map id) := by
    rw [List.mapM_map]
    refine mapM_eq_pure_map fun e _ => ?_
    show (do let value ← read (reread (write e.2)); pure (e.1, value)) = _
    rw [h e.2]
    rfl
  rw [reread_object, List.map_map]
  show asDict read (.table ((Entries.ofList (d.entries.map fun e =>
    (e.1, (write e.2).sorted))).map _)) = _
  rw [Entries.ofList_of_sorted hsorted, List.map_map, asDict]
  show ((d.entries.map fun e => (Tree.text e.1, reread (write e.2))).mapM _ >>= _) = _
  rw [hentries, List.map_id]
  show some (Dict.ofList d.entries) = some d
  rw [Dict.ofList_entries]

/-- A value that may be missing is read again as the same, or as missing. -/
theorem asOptional_reread (hnull : ∀ a, write a ≠ .null) (h : ∀ a, read (reread (write a)) = some a)
    (value : Option α) : asOptional read (reread (Json.ofOption write value)) = some value := by
  cases value with
  | none => rfl
  | some a =>
    have hread := h a
    have hne := hnull a
    show asOptional read (reread (write a)) = _
    generalize write a = j at hread hne
    cases j with
    | null => exact absurd rfl hne
    | _ => exact congrArg (Option.map some) hread

/-- A value that is left away when it is missing comes back. -/
theorem orDefault_optional (hnull : ∀ a, write a ≠ .null)
    (h : ∀ a, read (reread (write a)) = some a) (value : Option α) :
    orDefault (asOptional read) none ((value.map write).map reread) = some value := by
  cases value with
  | none => rfl
  | some a => exact asOptional_reread hnull h (some a)

/-- A list that is left away when it is empty comes back. -/
theorem orDefault_listed (h : ∀ a, read (reread (write a)) = some a) (items : List α) :
    orDefault (asList read) [] ((Json.listed write items).map reread) = some items := by
  cases items with
  | nil => rfl
  | cons a items => exact asList_reread_self h (a :: items)

end Values

theorem asText_reread (s : String) : asText (reread (.string s)) = some s := rfl

theorem asNat_reread {n max : Nat} (h : n ≤ max) : asNat max (reread (.int n)) = some n := by
  show (if 0 ≤ (n : Int) ∧ (n : Int) ≤ max then some (n : Int).toNat else none) = _
  rw [if_pos ⟨Int.natCast_nonneg n, Int.ofNat_le.2 h⟩, Int.toNat_natCast]

theorem asPort_reread (p : UInt16) : asPort (reread (.int p.toNat)) = some p := by
  have hle : p.toNat ≤ UInt16.size - 1 := Nat.le_sub_one_of_lt p.toNat_lt
  rw [asPort, asNat_reread hle, Option.map_some, UInt16.ofNat_toNat]

theorem asMillis_reread (t : UInt64) : asMillis (reread (.int t.toNat)) = some t := by
  have hle : t.toNat ≤ UInt64.size - 1 := Nat.le_sub_one_of_lt t.toNat_lt
  rw [asMillis, asNat_reread hle, Option.map_some, UInt64.ofNat_toNat]

theorem asKind_reread (k : MetricKind) : asKind (reread (.string k.text)) = some k := by
  cases k <;> rfl

end Tree

end BeanGauge
