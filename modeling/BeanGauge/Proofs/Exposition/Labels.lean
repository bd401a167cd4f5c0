import BeanGauge.Proofs.Exposition.Grouping
/-!
# The labels of a line

Tags become labels one after another, so a label shows the last tag of its key. A key that is made
of letters is the label of no other key, since whatever is replaced becomes an underscore.
-/

namespace BeanGauge.Exposition

/-- The value of the last tag with a key. -/
def lastValue? (key : String) : List String → Option String
  | [] => none
  | tag :: tags =>
    (lastValue? key tags).or (if (splitTag tag).1 = key then some (splitTag tag).2 else none)

theorem lastValue?_cons (key tag : String) (tags : List String) :
    lastValue? key (tag :: tags) =
      (lastValue? key tags).or (if (splitTag tag).1 = key then some (splitTag tag).2 else none) :=
  rfl

/-- A tag is cut at its first colon. -/
theorem splitTag_colon {key : String} (h : ':' ∉ key.toList) (value : String) :
    splitTag (key ++ ":" ++ value) = (key, value) := by
  have hsplit : Text.splitOnce ':' (key ++ ":" ++ value).toList
      = some (key.toList, value.toList) := by
    refine Text.splitOnce_eq_some_iff.2 ⟨?_, h⟩
    simp [String.toList_append]
  simp only [splitTag, hsplit, String.ofList_toList]

theorem keeps_of_isLetter {c : Char} (h : Metric.isLetter c) : keeps false c := by
  simp [keeps, h]

theorem isDigit_of_isLetter {c : Char} (h : Metric.isLetter c) : Metric.isDigit c = false := by
  simp only [Metric.isLetter, Metric.isCapital, Metric.isSmall, Bool.or_eq_true, Bool.and_eq_true,
    decide_eq_true_eq, Char.le_def, UInt32.le_iff_toNat_le] at h
  simp only [Metric.isDigit, Bool.and_eq_false_iff, decide_eq_false_iff_not, Char.le_def,
    UInt32.le_iff_toNat_le]
  have h9 : ('9' : Char).val.toNat = 57 := rfl
  have hA : ('A' : Char).val.toNat = 65 := rfl
  have ha : ('a' : Char).val.toNat = 97 := rfl
  omega

/-- A character that is kept as a letter was one. -/
theorem map_keeps_eq {cs letters : List Char} (hletters : ∀ c ∈ letters, Metric.isLetter c)
    (h : (cs.map fun c => if keeps false c then c else '_') = letters) : cs = letters := by
  induction cs generalizing letters with
  | nil => exact h
  | cons c cs ih =>
    cases letters with
    | nil => simp at h
    | cons l letters =>
      rw [List.map_cons, List.cons.injEq] at h
      obtain ⟨hc, htail⟩ := h
      rw [ih (fun c hc => hletters c (List.mem_cons_of_mem _ hc)) htail]
      split at hc
      · rw [hc]
      · have hl := hletters l (by simp)
        rw [← hc] at hl
        cases hl

/-- A key of letters is its own label, and no other key has that label. -/
theorem sanitizeLabel_eq_iff {raw key : String} (hne : key.toList ≠ [])
    (hletters : ∀ c ∈ key.toList, Metric.isLetter c) : sanitizeLabel raw = key ↔ raw = key := by
  constructor
  · intro h
    have hlist : sanitizeChars false raw.toList = key.toList := by
      rw [← h, sanitizeLabel, String.toList_ofList]
    unfold sanitizeChars at hlist
    apply String.toList_injective
    dsimp only at hlist
    split at hlist
    · have hunder : '_' ∈ key.toList := by
        rw [← hlist]
        simp
      cases hletters _ hunder
    · rename_i c cs hraw
      split at hlist
      · have hunder : '_' ∈ key.toList := by
          rw [← hlist]
          simp
        cases hletters _ hunder
      · exact map_keeps_eq hletters hlist
  · rintro rfl
    apply String.toList_injective
    rw [sanitizeLabel, String.toList_ofList]
    cases hraw : raw.toList with
    | nil => exact absurd hraw hne
    | cons c cs =>
      rw [hraw] at hletters
      have hkept : ((c :: cs).map fun c => if keeps false c then c else '_') = c :: cs := by
        have hsame : ∀ d ∈ c :: cs, (if keeps false d then d else '_') = id d := by
          intro d hd
          rw [keeps_of_isLetter (hletters d hd)]
          rfl
        rw [List.map_congr_left hsame, List.map_id]
      have hdigit := isDigit_of_isLetter (hletters c (by simp))
      simp only [sanitizeChars, hdigit, hkept, Bool.false_eq_true, if_false]

/-- A label that has a key of letters shows the last tag with that key. -/
theorem get?_withTags {key : String} (hne : key.toList ≠ [])
    (hletters : ∀ c ∈ key.toList, Metric.isLetter c) (tags : List String) (e : Exposition) :
    (e.withTags tags).labels.get? key = (lastValue? key tags).or (e.labels.get? key) := by
  induction tags generalizing e with
  | nil => rfl
  | cons tag tags ih =>
    have hone : (e.withLabel (splitTag tag).1 (splitTag tag).2).labels.get? key =
        (if (splitTag tag).1 = key then some (splitTag tag).2 else none).or
          (e.labels.get? key) := by
      split
      · rename_i hkey
        rw [withLabel, (sanitizeLabel_eq_iff hne hletters).2 hkey, Dict.get?_insert_self]
        rfl
      · rename_i hkey
        have hother : key ≠ sanitizeLabel (splitTag tag).1 :=
          fun h => hkey ((sanitizeLabel_eq_iff hne hletters).1 h.symm)
        rw [withLabel, Dict.get?_insert_ne _ _ hother]
        rfl
    show ((e.withLabel (splitTag tag).1 (splitTag tag).2).withTags tags).labels.get? key = _
    rw [ih, hone, lastValue?_cons, Option.or_assoc]

/-- Whether the line of an exposition has exactly one label of a key, with the given value. -/
def Shows (e : Exposition) (key value : String) : Prop :=
  ∃ left right, e.labels.entries = left ++ (key, value) :: right ∧
    (∀ other ∈ left ++ right, other.1 ≠ key) ∧
    lineText e = e.name ++ ("\x7b" ++ ",".intercalate
      (left.map labelText ++ labelText (key, value) :: right.map labelText) ++ "\x7d") ++ " "
        ++ valueText e.value

/-- The line of a value shows each of its labels. -/
theorem shows_of_get? {e : Exposition} {key value : String} (h : e.labels.get? key = some value) :
    e.Shows key value := by
  have hmem := Dict.get?_eq_some_iff.1 h
  obtain ⟨left, right, hentries⟩ := List.append_of_mem hmem
  refine ⟨left, right, hentries, ?_, ?_⟩
  · have hsorted := e.labels.sorted
    rw [hentries, Entries.Sorted, List.pairwise_append, List.pairwise_cons] at hsorted
    obtain ⟨-, ⟨hright, -⟩, hleft⟩ := hsorted
    rintro other hother rfl
    rcases List.mem_append.1 hother with hother | hother
    · exact KeyOrder.irrefl _ (hleft other hother (other.1, value) List.mem_cons_self)
    · exact KeyOrder.irrefl _ (hright other hother)
  · have hfull : e.labels.isEmpty = false := by
      rw [Dict.isEmpty, hentries]
      cases left <;> rfl
    rw [lineText, labelsText, hfull, hentries, List.map_append, List.map_cons]
    rfl

theorem blockText_eq (first : Exposition) : ∃ head, ∀ group,
    blockText first group = head ++ String.join (group.map fun e => lineText e ++ "\n") :=
  ⟨_, fun _ => rfl⟩

theorem join_of_mem {parts : List String} {part : String} (h : part ∈ parts) :
    ∃ before after, String.join parts = before ++ part ++ after := by
  obtain ⟨left, right, rfl⟩ := List.append_of_mem h
  exact ⟨String.join left, String.join right, by simp [String.append_assoc]⟩

/-- The line of every exposition is in the text of all of them. -/
theorem line_in_format {es : List Exposition} {e : Exposition} (h : e ∈ es) :
    ∃ before after, format es = before ++ (lineText e ++ "\n") ++ after := by
  have hname : e.name ∈ namesOf es := mem_namesOf_iff.2 ⟨e, h, rfl⟩
  obtain ⟨before, after, hformat⟩ := join_of_mem
    (List.mem_map_of_mem (f := fun name => groupText (groupOf es name)) hname)
  have hgroup : e ∈ groupOf es e.name := List.mem_filter.2 ⟨h, by simp⟩
  have hblock : ∃ before after,
      groupText (groupOf es e.name) = before ++ (lineText e ++ "\n") ++ after := by
    cases hcons : groupOf es e.name with
    | nil =>
      rw [hcons] at hgroup
      cases hgroup
    | cons first rest =>
      rw [hcons] at hgroup
      obtain ⟨left, right, hlines⟩ := join_of_mem
        (List.mem_map_of_mem (f := fun e => lineText e ++ "\n") hgroup)
      obtain ⟨head, hblock⟩ := blockText_eq first
      exact ⟨head ++ left, right, by rw [groupText, hblock, hlines]; simp only [String.append_assoc]⟩
  obtain ⟨left, right, hblock⟩ := hblock
  refine ⟨before ++ left, right ++ after, ?_⟩
  rw [format_eq_join, hformat, hblock]
  simp only [String.append_assoc]

end BeanGauge.Exposition
