import BeanGauge.Proofs.Exposition.Grouping
import BeanGauge.Proofs.Exposition.Lines
import Mathlib.Data.List.Nodup
import Mathlib.Data.List.Perm.Basic
/-!
# The blocks of an exposition

A text consists of blocks, one for each name. The lines of a text are those of its blocks: cutting
it at line ends finds these and nothing else, and every value has its line.
-/

namespace BeanGauge.Exposition

/-- What stands together under one name. -/
structure Block where
  name : String
  help : Option String
  kind : MetricKind
  samples : List (Dict String String × String)

/-- The lines of a block: its help, if it has one, its kind, and its samples in order. -/
def Block.lines (x : Block) : List Line :=
  (x.help.map (Line.help x.name)).toList ++ Line.typed x.name x.kind ::
    x.samples.map fun s => Line.sample x.name s.1 s.2

/-- The block of a name. Its help and its kind are those of the first value of that name. -/
def blockOf (es : List Exposition) (name : String) : Block :=
  let group := es.filter (·.name == name)
  { name
    help := group.head?.bind (·.help)
    kind := (group.head?.map (·.kind)).getD default
    samples := group.map fun e => (e.labels, valueText e.value) }

/-- The blocks of some values, in the order in which their names are met. -/
def blocks (es : List Exposition) : List Block := (namesOf es).map (blockOf es)

/-- Lines with their ends. -/
def textOf (ls : List Line) : String := String.join (ls.map fun l => l.text ++ "\n")

/-- The line of a value. -/
def row (e : Exposition) : Line := .sample e.name e.labels (valueText e.value)

theorem text_row (e : Exposition) : (row e).text = lineText e := rfl

theorem textOf_nil : textOf [] = "" := rfl

theorem textOf_cons (l : Line) (ls : List Line) :
    textOf (l :: ls) = l.text ++ "\n" ++ textOf ls := by
  rw [textOf, List.map_cons, String.join_cons, textOf]

theorem textOf_append (ls ls' : List Line) : textOf (ls ++ ls') = textOf ls ++ textOf ls' := by
  rw [textOf, List.map_append, String.join_append]
  rfl

theorem textOf_flatMap {α : Type} (f : α → List Line) (xs : List α) :
    textOf (xs.flatMap f) = String.join (xs.map fun x => textOf (f x)) := by
  induction xs with
  | nil => rfl
  | cons x xs ih => rw [List.flatMap_cons, textOf_append, ih, List.map_cons, String.join_cons]

/-- Cutting a text at line ends finds its lines. -/
theorem splitAll_textOf {ls : List Line} (h : ∀ l ∈ ls, l.Sound) :
    Text.splitAll '\n' (textOf ls).toList = ls.map (·.text.toList) ++ [[]] := by
  have hend : "\n".toList = ['\n'] := by decide
  induction ls with
  | nil => rfl
  | cons l ls ih =>
    rw [List.forall_mem_cons] at h
    have htext : (textOf (l :: ls)).toList = l.text.toList ++ '\n' :: (textOf ls).toList := by
      simp only [textOf_cons, String.toList_append, hend, List.append_assoc, List.cons_append,
        List.nil_append]
    rw [htext, Text.splitAll_append h.1.not_mem, ih h.2, List.map_cons, List.cons_append]

/-! ## The blocks of a text -/

/-- There is one block for every name. -/
theorem names_blocks (es : List Exposition) : (blocks es).map (·.name) = namesOf es := by
  rw [blocks, List.map_map]
  exact List.map_id _

theorem samples_blockOf (es : List Exposition) (name : String) :
    ((blockOf es name).samples.map fun s => Line.sample name s.1 s.2) =
      (groupOf es name).map row := by
  rw [blockOf, List.map_map]
  refine List.map_congr_left fun e he => ?_
  rw [row, name_of_mem_group he]
  rfl

theorem textOf_rows (es : List Exposition) :
    textOf (es.map row) = String.join (es.map fun e => lineText e ++ "\n") := by
  rw [textOf, List.map_map]
  rfl

theorem lines_blockOf {es : List Exposition} {name : String} {first : Exposition}
    {rest : List Exposition} (h : groupOf es name = first :: rest) :
    (blockOf es name).lines = (first.help.map (Line.help name)).toList ++
      Line.typed name first.kind :: (first :: rest).map row := by
  have hgroup : es.filter (·.name == name) = first :: rest := h
  have hhelp : (blockOf es name).help = first.help := by rw [blockOf, hgroup]; rfl
  have hkind : (blockOf es name).kind = first.kind := by rw [blockOf, hgroup]; rfl
  rw [Block.lines, hhelp, hkind, ← h]
  exact congrArg (fun samples => _ ++ _ :: samples) (samples_blockOf es name)

/-- The text of a name is that of its block. -/
theorem groupText_eq {es : List Exposition} {name : String} (h : name ∈ namesOf es) :
    groupText (groupOf es name) = textOf (blockOf es name).lines := by
  obtain ⟨first, rest, hgroup, hfirst⟩ := exists_groupOf h
  rw [lines_blockOf hgroup, textOf_append, textOf_cons, textOf_rows, hgroup, groupText, blockText,
    hfirst]
  cases first.help with
  | none =>
    simp only [Option.map_none, Option.toList_none, textOf_nil, Line.text, String.append_assoc]
  | some help =>
    simp only [Option.map_some, Option.toList_some, textOf_cons, textOf_nil, Line.text,
      String.append_assoc, String.empty_append]

/-- The text of an exposition is that of its blocks. -/
theorem format_eq (es : List Exposition) :
    format es = textOf ((blocks es).flatMap Block.lines) := by
  rw [textOf_flatMap, format_eq_join, blocks, List.map_map]
  exact congrArg String.join (List.map_congr_left fun n hn => groupText_eq hn)

/-! ## Every value has its line -/

/-- The groups of some different names are all values that have one of them. -/
theorem groups_perm {names : List String} (hnames : names.Nodup) {es : List Exposition}
    (h : ∀ e ∈ es, e.name ∈ names) :
    (names.flatMap fun n => es.filter (·.name == n)).Perm es := by
  induction names generalizing es with
  | nil =>
    have hnil : es = [] := List.eq_nil_iff_forall_not_mem.2 fun e he => List.not_mem_nil (h e he)
    rw [hnil]
    exact .refl []
  | cons name names ih =>
    rw [List.nodup_cons] at hnames
    -- the groups of the other names are those of the values that do not have this one
    have hothers : (names.flatMap fun n => es.filter (·.name == n)) =
        names.flatMap fun n => (es.filter fun e => !(e.name == name)).filter (·.name == n) := by
      refine List.flatMap_congr fun n hn => ?_
      rw [List.filter_filter]
      refine List.filter_congr fun e _ => ?_
      by_cases he : e.name = n
      · have hne : (e.name == name) = false := by
          rw [he]
          exact beq_eq_false_iff_ne.2 (ne_of_mem_of_not_mem hn hnames.1)
        rw [hne, Bool.not_false, Bool.and_true]
      · rw [beq_eq_false_iff_ne.2 he, Bool.false_and]
    have hrest : ∀ e ∈ es.filter fun e => !(e.name == name), e.name ∈ names := by
      intro e he
      obtain ⟨he, hne⟩ := List.mem_filter.1 he
      have hcons := h e he
      simp_all
    rw [List.flatMap_cons, hothers]
    exact ((ih hnames.2 hrest).append_left _).trans (List.filter_append_perm _ es)

/-- Whether a line gives a value. -/
def Line.isSample : Line → Bool
  | .sample _ _ _ => true
  | _ => false

theorem Block.filter_lines (x : Block) :
    x.lines.filter (·.isSample) = x.samples.map fun s => Line.sample x.name s.1 s.2 := by
  have hsamples : ∀ l ∈ x.samples.map fun s => Line.sample x.name s.1 s.2, l.isSample := by
    intro l hl
    obtain ⟨s, -, rfl⟩ := List.mem_map.1 hl
    rfl
  rw [Block.lines, List.filter_append, List.filter_cons_of_neg Bool.false_ne_true,
    List.filter_eq_self.2 hsamples]
  cases x.help <;> rfl

theorem samples_blocks (es : List Exposition) :
    ((blocks es).flatMap Block.lines).filter (·.isSample) =
      ((namesOf es).flatMap (groupOf es)).map row := by
  rw [List.filter_flatMap, blocks, List.flatMap_map, List.map_flatMap]
  refine List.flatMap_congr fun n _ => ?_
  rw [Block.filter_lines]
  exact samples_blockOf es n

/-- Every value has its line, and there are no other lines with values. -/
theorem samples_perm (es : List Exposition) :
    (((blocks es).flatMap Block.lines).filter (·.isSample)).Perm (es.map row) := by
  rw [samples_blocks]
  refine (groups_perm (nodup_namesOf es) fun e he => ?_).map row
  exact mem_namesOf_iff.2 ⟨e, he, rfl⟩

/-! ## Sound lines -/

theorem sound_row {e : Exposition} (h : Named e) : (row e).Sound :=
  ⟨h.name, e.labels.sorted, fun l hl => h.keys l.1 l.2 (Dict.get?_eq_some_iff.2 hl),
    isNumeral_valueText e.value⟩

theorem Block.sound {x : Block} (hname : IsName true x.name.toList)
    (hsamples : ∀ s ∈ x.samples, (Line.sample x.name s.1 s.2).Sound) :
    ∀ l ∈ x.lines, l.Sound := by
  intro l hl
  rw [Block.lines, List.mem_append, List.mem_cons] at hl
  rcases hl with hl | rfl | hl
  · obtain ⟨help, -, rfl⟩ := Option.map_eq_some_iff.1 (Option.mem_toList.1 hl)
    exact hname
  · exact hname
  · obtain ⟨s, hs, rfl⟩ := List.mem_map.1 hl
    exact hsamples s hs

/-- The lines of values with fit names are sound. -/
theorem sound_blocks {es : List Exposition} (h : ∀ e ∈ es, Named e) :
    ∀ x ∈ blocks es, ∀ l ∈ x.lines, l.Sound := by
  intro x hx
  obtain ⟨name, hname, rfl⟩ := List.mem_map.1 hx
  have hsound : IsName true name.toList := by
    obtain ⟨e, he, rfl⟩ := mem_namesOf_iff.1 hname
    exact (h e he).name
  refine Block.sound hsound ?_
  intro s hs
  obtain ⟨e, he, rfl⟩ := List.mem_map.1 hs
  have hrow := sound_row (h e (List.mem_filter.1 he).1)
  rw [row, name_of_mem_group he] at hrow
  exact hrow

/-! ## The whole text -/

/-- The lines of a text are those of its blocks, each of them has the form of one, and the lines of
values are those of all values. Two values have the same line only if their names, all labels and
the texts of the values are the same. -/
theorem format_faithful {es : List Exposition} (hes : ∀ e ∈ es, Built e) :
    let lines := (blocks es).flatMap Block.lines
    Text.splitAll '\n' (format es).toList = lines.map (·.text.toList) ++ [[]] ∧
    (∀ l ∈ lines, l.Sound) ∧ (lines.filter (·.isSample)).Perm (es.map row) ∧
    ∀ e e', Built e → Built e' → lineText e = lineText e' →
      e.name = e'.name ∧ e.labels = e'.labels ∧ valueText e.value = valueText e'.value := by
  intro lines
  have hsound : ∀ l ∈ lines, l.Sound := by
    intro l hl
    obtain ⟨x, hx, hl⟩ := List.mem_flatMap.1 hl
    exact sound_blocks (fun e he => (hes e he).named) x hx l hl
  refine ⟨?_, hsound, samples_perm es, ?_⟩
  · rw [format_eq, splitAll_textOf hsound]
  · intro e e' he he' htext
    have hrow : row e = row e' := by
      refine Line.text_injective (sound_row he.named) (sound_row he'.named) ?_
      rw [text_row, text_row, htext]
    exact Line.sample.inj hrow

/-- A value whose texts try to end their lines and to look like other ones. -/
def forger (value : String) : Exposition :=
  ({ ofValue "a b\n# TYPE up" 1.5 with
      kind := .counter
      help := some "up\n# TYPE up gauge\\" }.withLabel "k\"" value).withTags ["4", "k:1"]

theorem built_forger (value : String) : Built (forger value) :=
  .withTags (.withLabel (.withHelp (.withKind (.ofValue _ _) .counter) _) _ _) _

/-- Its lines are no more than they should be, and a line end is not confused with its escape. -/
theorem format_forger :
    let es := [forger "1\"\x7d 2\nup 3\\", forger "\n"]
    Text.splitAll '\n' (format es).toList =
      ((blocks es).flatMap Block.lines).map (·.text.toList) ++ [[]] ∧
    ((blocks es).flatMap Block.lines).map (·.isSample) = [false, false, true, true] ∧
    lineText (forger "\n") ≠ lineText (forger "\\n") := by
  intro es
  have hes : ∀ e ∈ es, Built e := by
    intro e he
    simp only [es, List.mem_cons, List.not_mem_nil, or_false] at he
    rcases he with rfl | rfl
    · exact built_forger _
    · exact built_forger _
  obtain ⟨hlines, -, -, hsame⟩ := format_faithful hes
  refine ⟨hlines, by decide, ?_⟩
  intro htext
  have hlabels := (hsame _ _ (built_forger _) (built_forger _) htext).2.1
  exact absurd (congrArg Dict.entries hlabels) (by decide)

end BeanGauge.Exposition
