/-!
Dictionaries as lists of entries in strictly increasing key order.

The order is part of the type, so two dictionaries that answer every look-up alike are equal
(`Dict.ext_get?`), and listing a dictionary always lists it by key. The main statements are the
look-up laws of the operations: `get?_insert`, `get?_erase` and `get?_filter`.
-/

namespace BeanGauge

universe u v w

/-- A decidable strict linear order, the order in which a dictionary keeps its keys. -/
class KeyOrder (κ : Type u) extends LT κ where
  decLt : DecidableLT κ
  irrefl : ∀ a : κ, ¬ a < a
  trans : ∀ {a b c : κ}, a < b → b < c → a < c
  connected : ∀ {a b : κ}, ¬ a < b → ¬ b < a → a = b

instance KeyOrder.instDecidableLT {κ : Type u} [o : KeyOrder κ] (a b : κ) : Decidable (a < b) :=
  o.decLt a b

/-- Strings are ordered by their code points, which is the byte order of their UTF-8 texts. -/
instance : KeyOrder String where
  decLt := inferInstance
  irrefl := String.lt_irrefl
  trans := String.lt_trans
  connected h₁ h₂ := String.le_antisymm (String.not_lt.1 h₂) (String.not_lt.1 h₁)

namespace Entries

variable {κ : Type u} {ν : Type v} [KeyOrder κ]

/-- Entries whose keys strictly increase. -/
def Sorted (es : List (κ × ν)) : Prop := es.Pairwise (fun a b => a.1 < b.1)

/-- The value of the first entry with key `k`. -/
def get? (k : κ) : List (κ × ν) → Option ν
  | [] => none
  | (k', v) :: es => if k < k' then none else if k' < k then get? k es else some v

/-- Puts `v` at `k`, in place of what was there. -/
def insert (k : κ) (v : ν) : List (κ × ν) → List (κ × ν)
  | [] => [(k, v)]
  | (k', v') :: es =>
    if k < k' then (k, v) :: (k', v') :: es
    else if k' < k then (k', v') :: insert k v es
    else (k, v) :: es

/-- Entries in key order; of several entries with one key the last one counts. -/
def ofList (es : List (κ × ν)) : List (κ × ν) :=
  es.foldl (fun acc e => insert e.1 e.2 acc) []

theorem mem_insert {k : κ} {v : ν} {e : κ × ν} {es : List (κ × ν)} :
    e ∈ insert k v es → e = (k, v) ∨ e ∈ es := by
  induction es with
  | nil => simp [insert]
  | cons hd tl ih =>
    obtain ⟨k', v'⟩ := hd
    simp only [insert]
    split
    · simp
    · split
      · simp only [List.mem_cons]
        intro h
        rcases h with h | h
        · exact .inr (.inl h)
        · rcases ih h with h | h
          · exact .inl h
          · exact .inr (.inr h)
      · simp only [List.mem_cons]
        intro h
        rcases h with h | h
        · exact .inl h
        · exact .inr (.inr h)

theorem Sorted.insert {k : κ} {v : ν} {es : List (κ × ν)} (h : Sorted es) :
    Sorted (Entries.insert k v es) := by
  induction es with
  | nil => simp [Entries.insert, Sorted]
  | cons hd tl ih =>
    obtain ⟨k', v'⟩ := hd
    obtain ⟨hall, htl⟩ := List.pairwise_cons.1 h
    simp only [Entries.insert]
    split
    · rename_i hlt
      refine List.pairwise_cons.2 ⟨?_, h⟩
      intro e he
      rcases List.mem_cons.1 he with rfl | he
      · exact hlt
      · exact KeyOrder.trans hlt (hall e he)
    · rename_i hnlt
      split
      · rename_i hgt
        refine List.pairwise_cons.2 ⟨?_, ih htl⟩
        intro e he
        rcases mem_insert he with rfl | he
        · exact hgt
        · exact hall e he
      · rename_i hngt
        have hk : k = k' := KeyOrder.connected hnlt hngt
        subst hk
        exact List.pairwise_cons.2 ⟨hall, htl⟩

theorem sorted_foldl_insert (es acc : List (κ × ν)) (h : Sorted acc) :
    Sorted (es.foldl (fun acc e => insert e.1 e.2 acc) acc) := by
  induction es generalizing acc with
  | nil => exact h
  | cons e es ih => exact ih _ h.insert

theorem sorted_ofList (es : List (κ × ν)) : Sorted (ofList es) :=
  sorted_foldl_insert es [] List.Pairwise.nil

theorem get?_insert {k : κ} {v : ν} {es : List (κ × ν)} (h : Sorted es) (k' : κ) :
    get? k' (insert k v es) = if k' < k ∨ k < k' then get? k' es else some v := by
  induction es with
  | nil =>
    simp only [insert, get?]
    by_cases h₁ : k' < k <;> by_cases h₂ : k < k' <;> simp [h₁, h₂]
  | cons hd tl ih =>
    obtain ⟨a, b⟩ := hd
    obtain ⟨hall, htl⟩ := List.pairwise_cons.1 h
    have ih := ih htl
    simp only [insert]
    split
    · rename_i hka
      simp only [get?]
      by_cases h₁ : k' < k
      · simp [h₁, KeyOrder.trans h₁ hka]
      · by_cases h₂ : k < k' <;> simp [h₁, h₂]
    · rename_i hka
      split
      · rename_i hak
        simp only [get?]
        by_cases h₁ : k' < a
        · have : k' < k := KeyOrder.trans h₁ hak
          simp [h₁, this]
        · by_cases h₂ : a < k'
          · simp [h₁, h₂, ih]
          · have hk : k' = a := KeyOrder.connected h₁ h₂
            subst hk
            simp [h₁, hak]
      · rename_i hak
        have hk : k = a := KeyOrder.connected hka hak
        subst hk
        simp only [get?]
        by_cases h₁ : k' < k
        · simp [h₁]
        · by_cases h₂ : k < k' <;> simp [h₁, h₂]

theorem get?_eq_some_iff {k : κ} {v : ν} {es : List (κ × ν)} (h : Sorted es) :
    get? k es = some v ↔ (k, v) ∈ es := by
  induction es with
  | nil => simp [get?]
  | cons hd tl ih =>
    obtain ⟨a, b⟩ := hd
    obtain ⟨hall, htl⟩ := List.pairwise_cons.1 h
    simp only [get?, List.mem_cons, Prod.mk.injEq]
    split
    · rename_i hka
      constructor
      · simp
      · rintro (⟨rfl, -⟩ | hm)
        · exact absurd hka (KeyOrder.irrefl _)
        · exact absurd (KeyOrder.trans hka (hall _ hm)) (KeyOrder.irrefl _)
    · rename_i hka
      split
      · rename_i hak
        rw [ih htl]
        constructor
        · exact .inr
        · rintro (⟨rfl, -⟩ | hm)
          · exact absurd hak (KeyOrder.irrefl _)
          · exact hm
      · rename_i hak
        have hk : k = a := KeyOrder.connected hka hak
        subst hk
        constructor
        · intro he
          exact .inl ⟨rfl, (Option.some.inj he).symm⟩
        · rintro (⟨-, rfl⟩ | hm)
          · rfl
          · exact absurd (hall _ hm) (KeyOrder.irrefl _)

theorem eq_of_get?_eq {es fs : List (κ × ν)} (hes : Sorted es) (hfs : Sorted fs)
    (h : ∀ k, get? k es = get? k fs) : es = fs := by
  have mem_iff : ∀ e, e ∈ es ↔ e ∈ fs := fun e => by
    rw [← get?_eq_some_iff (k := e.1) (v := e.2) hes, ← get?_eq_some_iff hfs, h]
  clear h
  induction es generalizing fs with
  | nil =>
    cases fs with
    | nil => rfl
    | cons f fs => exact absurd ((mem_iff f).2 List.mem_cons_self) (by simp)
  | cons e es ih =>
    cases fs with
    | nil => exact absurd ((mem_iff e).1 List.mem_cons_self) (by simp)
    | cons f fs =>
      obtain ⟨he, hes'⟩ := List.pairwise_cons.1 hes
      obtain ⟨hf, hfs'⟩ := List.pairwise_cons.1 hfs
      have hef : e = f := by
        rcases List.mem_cons.1 ((mem_iff e).1 List.mem_cons_self) with h | h
        · exact h
        · rcases List.mem_cons.1 ((mem_iff f).2 List.mem_cons_self) with h' | h'
          · exact h'.symm
          · exact absurd (KeyOrder.trans (he _ h') (hf _ h)) (KeyOrder.irrefl _)
      subst hef
      refine congrArg (e :: ·) (ih hes' hfs' fun x => ?_)
      constructor
      · intro hx
        rcases List.mem_cons.1 ((mem_iff x).1 (List.mem_cons_of_mem _ hx)) with rfl | h
        · exact absurd (he _ hx) (KeyOrder.irrefl _)
        · exact h
      · intro hx
        rcases List.mem_cons.1 ((mem_iff x).2 (List.mem_cons_of_mem _ hx)) with rfl | h
        · exact absurd (hf _ hx) (KeyOrder.irrefl _)
        · exact h

end Entries

/-- A dictionary from `κ` to `ν`. -/
structure Dict (κ : Type u) (ν : Type v) [KeyOrder κ] where
  /-- The entries by increasing key. -/
  entries : List (κ × ν)
  sorted : Entries.Sorted entries

namespace Dict

variable {κ : Type u} {ν : Type v} [KeyOrder κ]

instance [DecidableEq κ] [DecidableEq ν] : DecidableEq (Dict κ ν) := fun a b =>
  if h : a.entries = b.entries then
    isTrue (by cases a; cases b; simp_all)
  else
    isFalse (by rintro rfl; exact h rfl)

instance : EmptyCollection (Dict κ ν) := ⟨⟨[], List.Pairwise.nil⟩⟩

instance : Inhabited (Dict κ ν) := ⟨∅⟩

/-- The value at `k`. -/
def get? (d : Dict κ ν) (k : κ) : Option ν := Entries.get? k d.entries

/-- Whether `k` has a value. -/
def contains (d : Dict κ ν) (k : κ) : Bool := (d.get? k).isSome

/-- Puts `v` at `k`, in place of what was there. -/
def insert (d : Dict κ ν) (k : κ) (v : ν) : Dict κ ν :=
  ⟨Entries.insert k v d.entries, d.sorted.insert⟩

/-- The dictionary of some entries; of several entries with one key the last one counts. -/
def ofList (es : List (κ × ν)) : Dict κ ν := ⟨Entries.ofList es, Entries.sorted_ofList es⟩

/-- The entries that satisfy `p`. -/
def filter (d : Dict κ ν) (p : κ → ν → Bool) : Dict κ ν :=
  ⟨d.entries.filter (fun e => p e.1 e.2), List.Pairwise.filter _ d.sorted⟩

/-- All entries but the one at `k`. -/
def erase (d : Dict κ ν) (k : κ) : Dict κ ν := d.filter (fun k' _ => decide (k' < k ∨ k < k'))

def keys (d : Dict κ ν) : List κ := d.entries.map Prod.fst

/-- The values in the order of their keys. -/
def values (d : Dict κ ν) : List ν := d.entries.map Prod.snd

def size (d : Dict κ ν) : Nat := d.entries.length

def isEmpty (d : Dict κ ν) : Bool := d.entries.isEmpty

/-- Applies `f` to every value. -/
def map {μ : Type w} (f : ν → μ) (d : Dict κ ν) : Dict κ μ :=
  ⟨d.entries.map (fun e => (e.1, f e.2)), by
    have h := d.sorted
    simp only [Entries.Sorted, List.pairwise_map] at h ⊢
    exact h⟩

theorem ext_get? {d e : Dict κ ν} (h : ∀ k, d.get? k = e.get? k) : d = e := by
  obtain ⟨ds, hd⟩ := d
  obtain ⟨es, he⟩ := e
  have : ds = es := Entries.eq_of_get?_eq hd he h
  subst this
  rfl

theorem get?_eq_some_iff {d : Dict κ ν} {k : κ} {v : ν} :
    d.get? k = some v ↔ (k, v) ∈ d.entries := Entries.get?_eq_some_iff d.sorted

@[simp] theorem get?_empty (k : κ) : (∅ : Dict κ ν).get? k = none := rfl

theorem get?_insert (d : Dict κ ν) (k : κ) (v : ν) (k' : κ) :
    (d.insert k v).get? k' = if k' < k ∨ k < k' then d.get? k' else some v :=
  Entries.get?_insert d.sorted k'

@[simp] theorem get?_insert_self (d : Dict κ ν) (k : κ) (v : ν) :
    (d.insert k v).get? k = some v := by
  simp [get?_insert, KeyOrder.irrefl]

theorem get?_insert_ne (d : Dict κ ν) {k k' : κ} (v : ν) (h : k' ≠ k) :
    (d.insert k v).get? k' = d.get? k' := by
  rw [get?_insert, if_pos]
  by_cases h₁ : k' < k
  · exact .inl h₁
  · by_cases h₂ : k < k'
    · exact .inr h₂
    · exact absurd (KeyOrder.connected h₁ h₂) h

theorem get?_filter (d : Dict κ ν) (p : κ → ν → Bool) (k : κ) :
    (d.filter p).get? k = (d.get? k).filter (p k) := by
  cases hv : d.get? k with
  | none =>
    cases hf : (d.filter p).get? k with
    | none => rfl
    | some v =>
      have h := get?_eq_some_iff.1 hf
      have h := get?_eq_some_iff.2 (List.mem_filter.1 h).1
      simp [hv] at h
  | some v =>
    have hm := get?_eq_some_iff.1 hv
    cases hp : p k v with
    | true =>
      rw [Option.filter_some, hp]
      exact get?_eq_some_iff.2 (List.mem_filter.2 ⟨hm, hp⟩)
    | false =>
      cases hf : (d.filter p).get? k with
      | none => rw [Option.filter_some, hp]; rfl
      | some v' =>
        obtain ⟨hm', hp'⟩ := List.mem_filter.1 (get?_eq_some_iff.1 hf)
        have h := (get?_eq_some_iff.2 hm').symm.trans hv
        obtain rfl := Option.some.inj h
        rw [hp] at hp'
        exact Bool.noConfusion hp'

theorem get?_erase (d : Dict κ ν) (k k' : κ) :
    (d.erase k).get? k' = if k' < k ∨ k < k' then d.get? k' else none := by
  rw [erase, get?_filter]
  by_cases h : k' < k ∨ k < k'
  · rw [if_pos h]
    cases hg : d.get? k' <;> simp [h]
  · rw [if_neg h]
    cases hg : d.get? k' <;> simp [h]

end Dict

end BeanGauge
