import BeanGauge.Proofs.Exposition.Blocks
/-!
# One block for each name

The lines of blocks with names of their own are grouped: no name is described twice, and what is
given under a name stands directly below its kind.
-/

namespace BeanGauge.Exposition

/-! ## Reading a text -/

/-- Whether a text consists of these lines. -/
structure Reads (text : String) (ls : List Line) : Prop where
  lines : Text.splitAll '\n' text.toList = ls.map (·.text.toList) ++ [[]]
  sound : ∀ l ∈ ls, l.Sound

/-- Sound lines that have the same texts are the same. -/
theorem map_text_injective {ls ls' : List Line} (h : ∀ l ∈ ls, l.Sound) (h' : ∀ l ∈ ls', l.Sound)
    (htexts : ls.map (·.text.toList) = ls'.map (·.text.toList)) : ls = ls' := by
  induction ls generalizing ls' with
  | nil => exact (List.map_eq_nil_iff.1 htexts.symm).symm
  | cons l ls ih =>
    cases ls' with
    | nil => cases htexts
    | cons l' ls' =>
      rw [List.forall_mem_cons] at h h'
      rw [List.map_cons, List.map_cons, List.cons.injEq] at htexts
      have hline : l = l' := Line.text_injective h.1 h'.1 (String.toList_injective htexts.1)
      rw [hline, ih h.2 h'.2 htexts.2]

/-- A text is read as lines in one way only. -/
theorem Reads.unique {text : String} {ls ls' : List Line} (h : Reads text ls)
    (h' : Reads text ls') : ls = ls' := by
  have htexts : ls.map (·.text.toList) = ls'.map (·.text.toList) := by
    have hlines := h.lines
    rw [h'.lines, List.append_cancel_right_eq] at hlines
    exact hlines.symm
  exact map_text_injective h.sound h'.sound htexts

/-- Sound lines are read back from their text. -/
theorem reads_textOf {ls : List Line} (h : ∀ l ∈ ls, l.Sound) : Reads (textOf ls) ls :=
  ⟨splitAll_textOf h, h⟩

/-! ## Grouped lines -/

namespace Line

/-- Whether a line gives the kind of a name. -/
def types (name : String) : Line → Bool
  | typed name' _ => name' == name
  | _ => false

/-- Whether a line gives the help of a name. -/
def helps (name : String) : Line → Bool
  | help name' _ => name' == name
  | _ => false

/-- Whether a line gives a value of a name. -/
def samples (name : String) : Line → Bool
  | sample name' _ _ => name' == name
  | _ => false

end Line

/-- Whether each name has one kind and one help at most, and all its values directly below its
kind. -/
structure Grouped (ls : List Line) : Prop where
  types : ∀ name, ls.countP (Line.types name) ≤ 1
  helps : ∀ name, ls.countP (Line.helps name) ≤ 1
  samples : ∀ before name labels value after,
    ls = before ++ Line.sample name labels value :: after →
      ∃ earlier kind run, before = earlier ++ Line.typed name kind :: run ∧
        ∀ l ∈ run, l.samples name

theorem countP_samples {p : Line → Bool} (hp : ∀ n ls v, p (.sample n ls v) = false)
    (name : String) (samples : List (Dict String String × String)) :
    (samples.map fun s => Line.sample name s.1 s.2).countP p = 0 := by
  rw [List.countP_eq_zero]
  intro l hl
  obtain ⟨s, -, rfl⟩ := List.mem_map.1 hl
  rw [hp]
  exact Bool.false_ne_true

theorem Block.countP_types (x : Block) (name : String) :
    x.lines.countP (Line.types name) = if x.name == name then 1 else 0 := by
  have hnone := countP_samples (p := Line.types name) (fun _ _ _ => rfl) x.name x.samples
  rw [Block.lines, List.countP_append, List.countP_cons, hnone]
  cases x.help <;> simp [Line.types]

theorem Block.countP_helps (x : Block) (name : String) :
    x.lines.countP (Line.helps name) ≤ if x.name == name then 1 else 0 := by
  have hnone := countP_samples (p := Line.helps name) (fun _ _ _ => rfl) x.name x.samples
  rw [Block.lines, List.countP_append, List.countP_cons, hnone]
  cases x.help <;> simp [Line.helps]

/-- Under the names of some blocks, the lines of one sort are at most as many as the blocks. -/
theorem countP_blocks_le {p : Line → Bool} {name : String}
    (hp : ∀ x : Block, x.lines.countP p ≤ if x.name == name then 1 else 0) (xs : List Block) :
    (xs.flatMap Block.lines).countP p ≤ (xs.map (·.name)).count name := by
  induction xs with
  | nil => exact Nat.le_refl 0
  | cons x xs ih =>
    have hx := hp x
    rw [List.flatMap_cons, List.countP_append, List.map_cons, List.count_cons]
    omega

/-- A line in one of two texts is in the first or in the second. -/
theorem split_append {α : Type} {xs ys before after : List α} {a : α}
    (h : xs ++ ys = before ++ a :: after) :
    (∃ mid, xs = before ++ a :: mid) ∨ ∃ mid, before = xs ++ mid ∧ ys = mid ++ a :: after := by
  rcases List.append_eq_append_iff.1 h with ⟨mid, hbefore, hys⟩ | ⟨mid, hxs, hafter⟩
  · exact .inr ⟨mid, hbefore, hys⟩
  · cases mid with
    | nil =>
      rw [List.append_nil] at hxs
      exact .inr ⟨[], by rw [hxs, List.append_nil], hafter.symm⟩
    | cons c mid =>
      rw [List.cons_append, List.cons.injEq] at hafter
      exact .inl ⟨mid, by rw [hxs, hafter.1]⟩

/-- Within a block, nothing but values of the same name stands between a value and the kind. -/
theorem Block.samples_below {x : Block} {before after : List Line} {name value : String}
    {labels : Dict String String} (h : x.lines = before ++ Line.sample name labels value :: after) :
    ∃ earlier kind run, before = earlier ++ Line.typed name kind :: run ∧
      ∀ l ∈ run, l.samples name := by
  have hhead : x.lines = ((x.help.map (Line.help x.name)).toList ++ [Line.typed x.name x.kind]) ++
      x.samples.map fun s => Line.sample x.name s.1 s.2 := by
    rw [Block.lines, List.append_assoc, List.singleton_append]
  rw [hhead] at h
  rcases split_append h with ⟨mid, hmid⟩ | ⟨run, hbefore, hrun⟩
  · have hmem : Line.sample name labels value ∈
        (x.help.map (Line.help x.name)).toList ++ [Line.typed x.name x.kind] := by
      rw [hmid]
      exact List.mem_append_right _ List.mem_cons_self
    simp at hmem
  · have hsamples : ∀ l ∈ run ++ Line.sample name labels value :: after, l.samples x.name := by
      rw [← hrun]
      intro l hl
      obtain ⟨s, -, rfl⟩ := List.mem_map.1 hl
      exact beq_self_eq_true x.name
    have hname : name = x.name :=
      eq_of_beq (hsamples _ (List.mem_append_right _ List.mem_cons_self))
    refine ⟨(x.help.map (Line.help x.name)).toList, x.kind, run, ?_, ?_⟩
    · rw [hbefore, hname, List.append_assoc, List.singleton_append]
    · intro l hl
      rw [hname]
      exact hsamples l (List.mem_append_left _ hl)

/-- The lines of blocks with names of their own are grouped. -/
theorem grouped_of_nodup {xs : List Block} (h : (xs.map (·.name)).Nodup) :
    Grouped (xs.flatMap Block.lines) where
  types := by
    intro name
    have hle := countP_blocks_le (fun x => Nat.le_of_eq (x.countP_types name)) xs
    exact Nat.le_trans hle (List.nodup_iff_count_le_one.1 h name)
  helps := by
    intro name
    have hle := countP_blocks_le (fun x => x.countP_helps name) xs
    exact Nat.le_trans hle (List.nodup_iff_count_le_one.1 h name)
  samples := by
    clear h
    -- the value is in the first block, or behind all of that block
    induction xs with
    | nil =>
      intro before name labels value after heq
      cases before <;> cases heq
    | cons x xs ih =>
      intro before name labels value after heq
      rw [List.flatMap_cons] at heq
      rcases split_append heq with ⟨mid, hmid⟩ | ⟨mid, hbefore, hmid⟩
      · exact Block.samples_below hmid
      · obtain ⟨earlier, kind, run, hearlier, hrun⟩ := ih mid name labels value after hmid
        refine ⟨x.lines ++ earlier, kind, run, ?_, hrun⟩
        rw [hbefore, hearlier, List.append_assoc]

end BeanGauge.Exposition
