import BeanGauge.Dict
import Mathlib.Data.List.Induction
/-!
# Dictionaries and lists of entries

A dictionary is made of its own entries, and every entry of a dictionary that is made of a list
stands in the list. Of each key there is one entry.
-/

namespace BeanGauge

variable {κ ν : Type} [KeyOrder κ]

theorem lt_or_lt_iff_ne {a b : κ} : a < b ∨ b < a ↔ a ≠ b := by
  constructor
  · rintro (h | h) rfl
    · exact KeyOrder.irrefl _ h
    · exact KeyOrder.irrefl _ h
  · intro hne
    by_contra hnot
    rw [not_or] at hnot
    exact hne (KeyOrder.connected hnot.1 hnot.2)

namespace Entries

theorem mem_of_mem_ofList {es : List (κ × ν)} {e : κ × ν} (he : e ∈ ofList es) : e ∈ es := by
  have hfold : ∀ (es acc : List (κ × ν)),
      e ∈ es.foldl (fun acc e => insert e.1 e.2 acc) acc → e ∈ es ∨ e ∈ acc := by
    intro es
    induction es with
    | nil => exact fun acc he => .inr he
    | cons x es ih =>
      intro acc he
      rcases ih _ he with he | he
      · exact .inl (List.mem_cons_of_mem x he)
      · rcases mem_insert he with rfl | he
        · exact .inl List.mem_cons_self
        · exact .inr he
  exact (hfold es [] he).resolve_right List.not_mem_nil

theorem ofList_concat (es : List (κ × ν)) (e : κ × ν) :
    ofList (es ++ [e]) = insert e.1 e.2 (ofList es) := by
  rw [ofList, List.foldl_append]
  rfl

/-- An entry behind all others is put at the end. -/
theorem insert_of_forall_lt {es : List (κ × ν)} {k : κ} (h : ∀ e ∈ es, e.1 < k) (v : ν) :
    insert k v es = es ++ [(k, v)] := by
  induction es with
  | nil => rfl
  | cons e es ih =>
    have hlt : e.1 < k := h e List.mem_cons_self
    have hnot : ¬ k < e.1 := fun hgt => KeyOrder.irrefl _ (KeyOrder.trans hlt hgt)
    have hrest := ih fun x hx => h x (List.mem_cons_of_mem e hx)
    rw [insert, if_neg hnot, if_pos hlt, hrest, List.cons_append]

/-- Entries whose keys rise are a dictionary as they are. -/
theorem ofList_of_sorted {es : List (κ × ν)} (h : Sorted es) : ofList es = es := by
  induction es using List.reverseRecOn with
  | nil => rfl
  | append_singleton es e ih =>
    obtain ⟨hes, -, hlast⟩ := List.pairwise_append.1 h
    have hlt : ∀ x ∈ es, x.1 < e.1 := fun x hx => hlast x hx e (List.mem_singleton_self e)
    rw [ofList_concat, ih hes, insert_of_forall_lt hlt]

/-- A new key adds its entry and leaves all others. -/
theorem insert_perm {es : List (κ × ν)} {k : κ} (h : k ∉ es.map Prod.fst) (v : ν) :
    (insert k v es).Perm ((k, v) :: es) := by
  induction es with
  | nil => exact .refl _
  | cons e es ih =>
    obtain ⟨k', v'⟩ := e
    rw [List.map_cons, List.mem_cons, not_or] at h
    rw [insert]
    split
    · exact .refl _
    split
    · exact ((ih h.2).cons _).trans (.swap _ _ _)
    · rename_i hnot hnot'
      exact absurd (KeyOrder.connected hnot hnot') h.1

/-- Entries with different keys are only put in order. -/
theorem ofList_perm {es : List (κ × ν)} (h : (es.map Prod.fst).Nodup) : (ofList es).Perm es := by
  induction es using List.reverseRecOn with
  | nil => exact .refl _
  | append_singleton es e ih =>
    rw [List.map_append, List.nodup_append] at h
    obtain ⟨hes, -, hapart⟩ := h
    have hperm := ih hes
    have hnew : e.1 ∉ (ofList es).map Prod.fst := by
      intro hmem
      exact hapart e.1 ((hperm.map Prod.fst).mem_iff.1 hmem) e.1 List.mem_cons_self rfl
    rw [ofList_concat]
    exact (insert_perm hnew e.2).trans ((hperm.cons e).trans (List.perm_append_singleton e es).symm)

theorem insert_ne_nil (k : κ) (v : ν) (es : List (κ × ν)) : insert k v es ≠ [] := by
  cases es with
  | nil => simp [insert]
  | cons e es =>
    rw [insert]
    split
    · simp
    · split <;> simp

theorem ofList_ne_nil {es : List (κ × ν)} (h : es ≠ []) : ofList es ≠ [] := by
  induction es using List.reverseRecOn with
  | nil => exact absurd rfl h
  | append_singleton es e ih =>
    rw [ofList_concat]
    exact insert_ne_nil _ _ _

end Entries

namespace Dict

theorem ofList_entries (d : Dict κ ν) : ofList d.entries = d := by
  apply ext_get?
  intro k
  show Entries.get? k (Entries.ofList d.entries) = d.get? k
  rw [Entries.ofList_of_sorted d.sorted, get?]

/-- Changing the values of a dictionary, and dropping some, leaves the keys in order. -/
theorem get?_ofList_filterMap {μ : Type} (d : Dict κ ν) (f : ν → Option μ) (k : κ) :
    (ofList (d.entries.filterMap fun e => (f e.2).map fun v => (e.1, v))).get? k =
      (d.get? k).bind f := by
  have hsorted : Entries.Sorted (d.entries.filterMap fun e => (f e.2).map fun v => (e.1, v)) := by
    refine d.sorted.filterMap _ ?_
    intro a b hlt a' ha b' hb
    obtain ⟨v, -, rfl⟩ := Option.map_eq_some_iff.1 ha
    obtain ⟨w, -, rfl⟩ := Option.map_eq_some_iff.1 hb
    exact hlt
  have hentries : (ofList (d.entries.filterMap fun e => (f e.2).map fun v => (e.1, v))).entries =
      d.entries.filterMap fun e => (f e.2).map fun v => (e.1, v) :=
    Entries.ofList_of_sorted hsorted
  apply Option.ext
  intro v
  rw [get?_eq_some_iff, hentries, List.mem_filterMap, Option.bind_eq_some_iff]
  constructor
  · rintro ⟨⟨k', w⟩, hm, hmade⟩
    obtain ⟨u, hu, heq⟩ := Option.map_eq_some_iff.1 hmade
    cases heq
    exact ⟨w, get?_eq_some_iff.2 hm, hu⟩
  · rintro ⟨w, hw, hmade⟩
    exact ⟨(k, w), get?_eq_some_iff.1 hw, Option.map_eq_some_iff.2 ⟨v, hmade, rfl⟩⟩

theorem isEmpty_iff {d : Dict κ ν} : d.isEmpty ↔ d = ∅ := by
  constructor
  · intro h
    apply ext_get?
    intro k
    rw [get?, List.isEmpty_iff.1 h]
    rfl
  · rintro rfl
    rfl

/-- The last value of a key counts. -/
theorem insert_insert (d : Dict κ ν) (k : κ) (v v' : ν) :
    (d.insert k v).insert k v' = d.insert k v' := by
  apply ext_get?
  intro k'
  simp only [get?_insert]
  split
  · rfl
  · rfl

/-- Other keys keep their values. -/
theorem get?_erase_ne (d : Dict κ ν) {k k' : κ} (h : k' ≠ k) :
    (d.erase k).get? k' = d.get? k' := by
  rw [get?_erase, if_pos (lt_or_lt_iff_ne.2 h)]

theorem mem_keys_iff {d : Dict κ ν} {k : κ} : k ∈ d.keys ↔ (d.get? k).isSome := by
  rw [keys, List.mem_map, Option.isSome_iff_exists]
  constructor
  · rintro ⟨⟨k, v⟩, hm, rfl⟩
    exact ⟨v, get?_eq_some_iff.2 hm⟩
  · rintro ⟨v, hv⟩
    exact ⟨(k, v), get?_eq_some_iff.1 hv, rfl⟩

/-- A dictionary is given by its keys and the values at them. -/
theorem ext_keys {d e : Dict κ ν} (hkeys : ∀ k, k ∈ d.keys ↔ k ∈ e.keys)
    (hvalues : ∀ k v w, d.get? k = some v → e.get? k = some w → v = w) : d = e := by
  refine ext_get? fun k => ?_
  have hsome := hkeys k
  rw [mem_keys_iff, mem_keys_iff] at hsome
  cases hd : d.get? k with
  | none =>
    cases he : e.get? k with
    | none => rfl
    | some w => simp [hd, he] at hsome
  | some v =>
    cases he : e.get? k with
    | none => simp [hd, he] at hsome
    | some w => rw [hvalues k v w hd he]

theorem mem_keys_insert_iff {d : Dict κ ν} {k k' : κ} {v : ν} :
    k' ∈ (d.insert k v).keys ↔ k' = k ∨ k' ∈ d.keys := by
  by_cases h : k' = k
  · rw [h]
    simp [mem_keys_iff]
  · simp [mem_keys_iff, get?_insert_ne d v h, h]

/-- The keys of a dictionary of some entries are those of the entries. -/
theorem mem_keys_ofList_iff {es : List (κ × ν)} {k : κ} :
    k ∈ (ofList es).keys ↔ k ∈ es.map Prod.fst := by
  induction es using List.reverseRecOn with
  | nil => exact Iff.rfl
  | append_singleton es e ih =>
    have hinsert : (ofList (es ++ [e])).keys = ((ofList es).insert e.1 e.2).keys := by
      rw [keys, keys]
      exact congrArg (List.map Prod.fst) (Entries.ofList_concat es e)
    rw [hinsert, mem_keys_insert_iff, ih, List.map_append, List.mem_append, or_comm]
    simp

/-- The last entry counts, if it has the key. -/
theorem get?_ofList_concat (es : List (κ × ν)) (e : κ × ν) (k : κ) :
    (ofList (es ++ [e])).get? k = if k < e.1 ∨ e.1 < k then (ofList es).get? k else some e.2 := by
  have hlast : ofList (es ++ [e]) = (ofList es).insert e.1 e.2 := by
    apply ext_get?
    intro k
    exact congrArg (Entries.get? k) (Entries.ofList_concat es e)
  rw [hlast, get?_insert]

/-- The value of a key is that of its last entry. -/
theorem get?_ofList_eq_find? [BEq κ] [LawfulBEq κ] (es : List (κ × ν)) (k : κ) :
    (ofList es).get? k = (es.reverse.find? (·.1 == k)).map Prod.snd := by
  induction es using List.reverseRecOn with
  | nil => rfl
  | append_singleton es e ih =>
    rw [get?_ofList_concat, ih, List.reverse_append, List.reverse_singleton, List.singleton_append,
      List.find?_cons]
    by_cases h : k = e.1
    · rw [if_neg (lt_or_lt_iff_ne.not.2 (not_not_intro h)), h, beq_self_eq_true]
      rfl
    · rw [if_pos (lt_or_lt_iff_ne.2 h), beq_eq_false_iff_ne.2 (Ne.symm h)]

/-- Changing every value changes what is found. -/
theorem get?_ofList_map {μ : Type} (f : ν → μ) (es : List (κ × ν)) (k : κ) :
    (ofList (es.map fun e => (e.1, f e.2))).get? k = ((ofList es).get? k).map f := by
  induction es using List.reverseRecOn with
  | nil => rfl
  | append_singleton es e ih =>
    rw [List.map_append, List.map_singleton, get?_ofList_concat, get?_ofList_concat, ih]
    split <;> rfl

/-- Entries with different keys may come in any order. -/
theorem ofList_congr_perm {es fs : List (κ × ν)} (h : es.Perm fs) (hkeys : (es.map Prod.fst).Nodup) :
    ofList es = ofList fs := by
  have hkeys' : (fs.map Prod.fst).Nodup := (h.map Prod.fst).nodup_iff.1 hkeys
  have hperm : (ofList es).entries.Perm (ofList fs).entries :=
    (Entries.ofList_perm hkeys).trans (h.trans (Entries.ofList_perm hkeys').symm)
  apply ext_get?
  intro k
  apply Option.ext
  intro v
  rw [get?_eq_some_iff, get?_eq_some_iff]
  exact hperm.mem_iff

theorem nodup_keys (d : Dict κ ν) : d.keys.Nodup := by
  rw [keys, List.nodup_iff_pairwise_ne, List.pairwise_map]
  refine d.sorted.imp ?_
  intro a b hlt heq
  rw [heq] at hlt
  exact KeyOrder.irrefl _ hlt

end Dict

end BeanGauge
