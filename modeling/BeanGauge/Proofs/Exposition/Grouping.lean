import BeanGauge.Exposition.Format
import BeanGauge.Proofs.Dict
/-!
# Lines by name

Lines are put together in one pass, which keeps the names in the order in which they are met and the
lines below each of them. After the pass every line is below its name, and no name is taken out
twice, so the groups are those of the different names.
-/

namespace BeanGauge.Exposition

/-- The names in the order of their first occurrence. -/
def namesOf (es : List Exposition) : List String := (es.map (·.name)).eraseDups

theorem mem_namesOf_iff {es : List Exposition} {name : String} :
    name ∈ namesOf es ↔ ∃ e ∈ es, e.name = name := by
  rw [namesOf, List.mem_eraseDups, List.mem_map]

theorem namesOf_concat (es : List Exposition) (e : Exposition) :
    namesOf (es ++ [e]) = if e.name ∈ namesOf es then namesOf es else namesOf es ++ [e.name] := by
  have hnew : [e.name].removeAll (es.map (·.name)) =
      if e.name ∈ namesOf es then [] else [e.name] := by
    rw [List.removeAll, List.filter_cons, List.filter_nil]
    by_cases hmem : e.name ∈ namesOf es
    · have helem := List.elem_iff.2 (List.mem_eraseDups.1 hmem)
      rw [helem, if_pos hmem]
      rfl
    · have helem := mt (fun h => List.mem_eraseDups.2 (List.elem_iff.1 h)) hmem
      rw [Bool.eq_false_iff.2 helem, if_neg hmem]
      rfl
  rw [namesOf, List.map_append, List.eraseDups_append, List.map_singleton, hnew]
  split
  · exact List.append_nil _
  · rfl

/-- Where a name occurs first; names that do not occur are behind all others. -/
def firstAt (es : List Exposition) (name : String) : Nat := es.findIdx (·.name == name)

theorem firstAt_lt_iff {es : List Exposition} {name : String} :
    firstAt es name < es.length ↔ name ∈ namesOf es := by
  rw [firstAt, List.findIdx_lt_length, mem_namesOf_iff]
  simp only [beq_iff_eq]

theorem firstAt_concat (es : List Exposition) (e : Exposition) (name : String) :
    firstAt (es ++ [e]) name =
      if name ∈ namesOf es then firstAt es name else firstAt [e] name + es.length := by
  rw [firstAt, List.findIdx_append]
  exact if_congr firstAt_lt_iff rfl rfl

/-- Each name occurs first behind those that are before it. -/
theorem firstAt_rises (es : List Exposition) :
    (namesOf es).Pairwise fun a b => firstAt es a < firstAt es b := by
  induction es using List.reverseRecOn with
  | nil => exact .nil
  | append_singleton es e ih =>
    have hkept : (namesOf es).Pairwise fun a b =>
        firstAt (es ++ [e]) a < firstAt (es ++ [e]) b := by
      refine ih.imp_of_mem fun ha hb hlt => ?_
      rw [firstAt_concat, firstAt_concat, if_pos ha, if_pos hb]
      exact hlt
    rw [namesOf_concat]
    split
    · exact hkept
    · rename_i hnew
      refine List.pairwise_append.2 ⟨hkept, List.pairwise_singleton _ _, ?_⟩
      intro a ha b hb
      obtain rfl := List.mem_singleton.1 hb
      rw [firstAt_concat, firstAt_concat, if_pos ha, if_neg hnew]
      exact Nat.lt_add_left _ (firstAt_lt_iff.2 ha)

/-- Every name is met first only once. -/
theorem nodup_namesOf (es : List Exposition) : (namesOf es).Nodup := by
  refine (firstAt_rises es).imp ?_
  intro a b hlt heq
  rw [heq] at hlt
  exact Nat.lt_irrefl _ hlt

/-- The lines of one name. -/
def groupOf (es : List Exposition) (name : String) : List Exposition := es.filter (·.name == name)

theorem name_of_mem_group {es : List Exposition} {e : Exposition} {name : String}
    (h : e ∈ groupOf es name) : e.name = name :=
  eq_of_beq (List.mem_filter.1 h).2

theorem groupOf_eq_nil {es : List Exposition} {name : String} (h : name ∉ namesOf es) :
    groupOf es name = [] := by
  refine List.filter_eq_nil_iff.2 ?_
  intro e he hname
  exact h (mem_namesOf_iff.2 ⟨e, he, eq_of_beq hname⟩)

theorem exists_groupOf {es : List Exposition} {name : String} (h : name ∈ namesOf es) :
    ∃ first rest, groupOf es name = first :: rest ∧ first.name = name := by
  obtain ⟨e, he, hname⟩ := mem_namesOf_iff.1 h
  have hmem : e ∈ groupOf es name := List.mem_filter.2 ⟨he, beq_iff_eq.2 hname⟩
  obtain ⟨first, rest, hgroup⟩ := List.exists_cons_of_ne_nil (List.ne_nil_of_mem hmem)
  have hfirst : first ∈ groupOf es name := by
    rw [hgroup]
    exact List.mem_cons_self
  exact ⟨first, rest, hgroup, name_of_mem_group hfirst⟩

namespace Groups

/-- Whether groups are those of the lines met so far. -/
structure Hold (g : Groups) (es : List Exposition) : Prop where
  names : g.names = namesOf es
  members : ∀ name, g.members.get? name =
    if name ∈ namesOf es then some (groupOf es name) else none

variable {g : Groups} {es : List Exposition}

theorem hold_empty : Hold ∅ [] := ⟨rfl, fun _ => rfl⟩

theorem Hold.contains_iff (h : g.Hold es) (name : String) :
    g.members.contains name ↔ name ∈ namesOf es := by
  rw [Dict.contains, h.members]
  split
  · simp [*]
  · simp [*]

/-- A name that was not met yet has no line. -/
theorem Hold.getD_members (h : g.Hold es) (name : String) :
    (g.members.get? name).getD [] = groupOf es name := by
  rw [h.members]
  split
  · rfl
  · rename_i hnew
    exact (groupOf_eq_nil hnew).symm

/-- One more line goes behind those of its name. -/
theorem Hold.add (h : g.Hold es) (e : Exposition) : (g.add e).Hold (es ++ [e]) where
  names := by
    rw [namesOf_concat, Groups.add, ← h.names]
    exact if_congr (by rw [h.contains_iff, h.names]) rfl rfl
  members := by
    intro name
    have hmem : name ∈ namesOf (es ++ [e]) ↔ name ∈ namesOf es ∨ e.name = name := by
      simp [mem_namesOf_iff, or_and_right, exists_or]
    by_cases hname : name = e.name
    · subst hname
      rw [Groups.add, Dict.get?_insert_self, h.getD_members, if_pos (hmem.2 (.inr rfl))]
      simp [groupOf]
    · rw [Groups.add, Dict.get?_insert_ne _ _ hname, h.members]
      have hsame : groupOf (es ++ [e]) name = groupOf es name := by
        simp [groupOf, Ne.symm hname]
      rw [hsame]
      exact if_congr (by rw [hmem, or_iff_left (Ne.symm hname)]) rfl rfl

/-- The groups are those of all lines. -/
theorem hold_ofList (es : List Exposition) : (ofList es).Hold es := by
  induction es using List.reverseRecOn with
  | nil => exact hold_empty
  | append_singleton es e ih =>
    rw [ofList, List.foldl_append]
    exact ih.add e

theorem takeOut_eq {names : List String} (hnames : names.Nodup)
    {members : Dict String (List Exposition)} {group : String → List Exposition}
    (h : ∀ name ∈ names, members.get? name = some (group name)) :
    takeOut names members = names.map group := by
  induction names generalizing members with
  | nil => rfl
  | cons name names ih =>
    rw [List.nodup_cons] at hnames
    rw [List.forall_mem_cons] at h
    have hrest : ∀ other ∈ names, (members.erase name).get? other = some (group other) := by
      intro other hother
      have hne : other ≠ name := ne_of_mem_of_not_mem hother hnames.1
      rw [Dict.get?_erase_ne _ hne, h.2 other hother]
    rw [takeOut, h.1]
    exact congrArg (group name :: ·) (ih hnames.2 hrest)

/-- The groups are those of the different names, in the order in which these occur first. -/
theorem toLists_ofList (es : List Exposition) :
    (ofList es).toLists = (namesOf es).map (groupOf es) := by
  have hold := hold_ofList es
  rw [toLists, hold.names]
  refine takeOut_eq (nodup_namesOf es) fun name hname => ?_
  rw [hold.members, if_pos hname]

end Groups

/-- The text consists of the groups, in the order in which their names are met. -/
theorem format_eq_join (es : List Exposition) :
    format es = String.join ((namesOf es).map fun name => groupText (groupOf es name)) := by
  rw [format, Groups.toLists_ofList, List.map_map]
  rfl

end BeanGauge.Exposition
