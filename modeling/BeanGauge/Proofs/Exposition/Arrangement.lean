import BeanGauge.Proofs.Exposition.Families
/-!
# How a text is arranged

The text of some values has one block for each of their names, in the order in which the names
occur first. Nothing is lost and nothing is written twice: under its name every value has its line,
and the values of one name keep their order.
-/

namespace BeanGauge.Exposition

/-- Whether names are those of some values, each of them once, in the order in which they occur
first. -/
structure FirstMet (es : List Exposition) (names : List String) : Prop where
  complete : ∀ name, name ∈ names ↔ ∃ e ∈ es, e.name = name
  rising : names.Pairwise fun a b => firstAt es a < firstAt es b

/-- Whether lines are those of a name: the help of its first value, if that has one, the kind of
this value, and a line for every value of the name in turn. -/
def StandUnder (es : List Exposition) (name : String) (ls : List Line) : Prop :=
  ∃ first rest, groupOf es name = first :: rest ∧
    ls = (first.help.map (Line.help name)).toList ++ Line.typed name first.kind ::
      (first :: rest).map row

/-- The lines of a block are those that stand under its name. -/
theorem standUnder_lines {es : List Exposition} {name : String} (h : name ∈ namesOf es) :
    StandUnder es name (blockOf es name).lines := by
  obtain ⟨first, rest, hgroup, -⟩ := exists_groupOf h
  exact ⟨first, rest, hgroup, lines_blockOf hgroup⟩

/-- Among the values of one name, those of that name are all, and those of another are none. -/
theorem filter_groupOf (es : List Exposition) (name other : String) :
    (groupOf es other).filter (·.name == name) = if other = name then groupOf es name else [] := by
  split
  · rename_i heq
    rw [heq]
    exact List.filter_eq_self.2 fun e he => beq_iff_eq.2 (name_of_mem_group he)
  · rename_i hne
    refine List.filter_eq_nil_iff.2 fun e he heq => hne ?_
    rw [← name_of_mem_group he]
    exact eq_of_beq heq

/-- In the groups of different names every name keeps its own group. -/
theorem filter_groups {names : List String} (hnames : names.Nodup) (es : List Exposition)
    (name : String) : (names.flatMap (groupOf es)).filter (·.name == name) =
      if name ∈ names then groupOf es name else [] := by
  induction names with
  | nil => rfl
  | cons other names ih =>
    rw [List.nodup_cons] at hnames
    rw [List.flatMap_cons, List.filter_append, filter_groupOf, ih hnames.2]
    by_cases heq : other = name
    · rw [heq] at hnames
      simp [heq, hnames.1]
    · simp [heq, Ne.symm heq]

theorem filter_samples (name : String) (es : List Exposition) :
    (es.map row).filter (Line.samples name) = (es.filter (·.name == name)).map row := by
  rw [List.filter_map]
  rfl

theorem isSample_of_samples {name : String} {l : Line} (h : l.samples name) : l.isSample := by
  cases l with
  | help _ _ => cases h
  | typed _ _ => cases h
  | sample _ _ _ => rfl

/-- The lines of one name's values are in the order of the values. -/
theorem samples_of_name (es : List Exposition) (name : String) :
    ((blocks es).flatMap Block.lines).filter (Line.samples name) = (groupOf es name).map row := by
  have hsamples : ((blocks es).flatMap Block.lines).filter (Line.samples name) =
      (((blocks es).flatMap Block.lines).filter (·.isSample)).filter (Line.samples name) := by
    rw [List.filter_filter]
    refine List.filter_congr fun l _ => ?_
    cases hl : l.samples name with
    | false => rfl
    | true => rw [isSample_of_samples hl, Bool.and_self]
  rw [hsamples, samples_blocks, filter_samples, filter_groups (nodup_namesOf es)]
  split
  · rfl
  · rename_i hnew
    rw [groupOf_eq_nil hnew]

/-- The text of some values consists of one block for each name, in the order in which the names
occur first, and a block has the help and the kind of the first value of its name above a line for
each of them. So the lines of values are those of all values, and those of one name are in order. -/
theorem format_arranges (es : List Exposition) :
    ∃ bs : List (String × List Line),
      format es = textOf (bs.flatMap Prod.snd) ∧ FirstMet es (bs.map Prod.fst) ∧
      (∀ b ∈ bs, StandUnder es b.1 b.2) ∧
      ((bs.flatMap Prod.snd).filter (·.isSample)).Perm (es.map row) ∧
      (∀ name, (bs.flatMap Prod.snd).filter (Line.samples name) = (groupOf es name).map row) ∧
      format [] = "" := by
  have hnames : ((blocks es).map fun x => (x.name, x.lines)).map Prod.fst = namesOf es := by
    rw [List.map_map]
    exact names_blocks es
  have hlines : ((blocks es).map fun x => (x.name, x.lines)).flatMap Prod.snd =
      (blocks es).flatMap Block.lines := by
    rw [List.flatMap_map]
  refine ⟨(blocks es).map fun x => (x.name, x.lines), ?_, ?_, ?_, ?_, ?_, rfl⟩
  · rw [hlines]
    exact format_eq es
  · rw [hnames]
    exact ⟨fun _ => mem_namesOf_iff, firstAt_rises es⟩
  · intro b hb
    obtain ⟨x, hx, rfl⟩ := List.mem_map.1 hb
    obtain ⟨name, hname, rfl⟩ := List.mem_map.1 hx
    exact standUnder_lines hname
  · rw [hlines]
    exact samples_perm es
  · rw [hlines]
    exact samples_of_name es

end BeanGauge.Exposition
