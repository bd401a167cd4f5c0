import BeanGauge.Exposition.Basic
import BeanGauge.Proofs.Dict
/-!
# Names and label keys

Whatever text is made a name or a label key starts with a letter, an underscore or, in a name, a
colon, and has only these and digits in it.
-/

namespace BeanGauge.Exposition

/-- Whether some characters may be a name, or without colons a label key. -/
def IsName (colons : Bool) (cs : List Char) : Prop :=
  (∃ first rest, cs = first :: rest ∧ Metric.isDigit first = false) ∧ ∀ c ∈ cs, keeps colons c

variable {colons : Bool} {cs : List Char}

theorem IsName.not_mem (h : IsName colons cs) {c : Char} (hc : keeps colons c = false) :
    c ∉ cs := by
  intro hmem
  have hkept := h.2 c hmem
  rw [hc] at hkept
  cases hkept

theorem isName_sanitizeChars (colons : Bool) (cs : List Char) :
    IsName colons (sanitizeChars colons cs) := by
  have hunder : keeps colons '_' = true := by cases colons <;> decide
  have hkept : ∀ c : Char, keeps colons (if keeps colons c then c else '_') := by
    intro c
    split
    · assumption
    · exact hunder
  have hbody : ∀ d ∈ cs.map fun c => if keeps colons c then c else '_', keeps colons d := by
    intro d hd
    obtain ⟨c, -, rfl⟩ := List.mem_map.1 hd
    exact hkept c
  cases cs with
  | nil => exact ⟨⟨'_', [], rfl, by decide⟩, List.forall_mem_singleton.2 hunder⟩
  | cons c cs =>
    cases hdigit : Metric.isDigit c with
    | true =>
      rw [sanitizeChars, hdigit]
      exact ⟨⟨'_', _, rfl, by decide⟩, List.forall_mem_cons.2 ⟨hunder, hbody⟩⟩
    | false =>
      rw [sanitizeChars, hdigit]
      refine ⟨⟨_, _, rfl, ?_⟩, hbody⟩
      show Metric.isDigit (if keeps colons c then c else '_') = false
      split
      · exact hdigit
      · decide

theorem isName_sanitizeName (s : String) : IsName true (sanitizeName s).toList := by
  rw [sanitizeName, String.toList_ofList]
  exact isName_sanitizeChars true s.toList

theorem isName_sanitizeLabel (s : String) : IsName false (sanitizeLabel s).toList := by
  rw [sanitizeLabel, String.toList_ofList]
  exact isName_sanitizeChars false s.toList

/-- Two names that are followed by other characters are the same if the texts are. -/
theorem name_cancel {n n' x x' : List Char} {d d' : Char} (hn : ∀ c ∈ n, keeps colons c)
    (hn' : ∀ c ∈ n', keeps colons c) (hd : keeps colons d = false) (hd' : keeps colons d' = false)
    (h : n ++ d :: x = n' ++ d' :: x') : n = n' ∧ d = d' ∧ x = x' := by
  induction n generalizing n' with
  | nil =>
    cases n' with
    | nil =>
      rw [List.nil_append, List.nil_append, List.cons.injEq] at h
      exact ⟨rfl, h⟩
    | cons c n' =>
      rw [List.nil_append, List.cons_append, List.cons.injEq] at h
      have hc := hn' c List.mem_cons_self
      rw [← h.1, hd] at hc
      cases hc
  | cons c n ih =>
    cases n' with
    | nil =>
      rw [List.nil_append, List.cons_append, List.cons.injEq] at h
      have hc := hn c List.mem_cons_self
      rw [h.1, hd'] at hc
      cases hc
    | cons c' n' =>
      rw [List.cons_append, List.cons_append, List.cons.injEq] at h
      obtain ⟨rfl, hrest⟩ := ih (fun c hc => hn c (List.mem_cons_of_mem _ hc))
        (fun c hc => hn' c (List.mem_cons_of_mem _ hc)) h.2
      exact ⟨by rw [h.1], hrest⟩

/-- What can be built by giving a value a kind, a help text, labels and tags. -/
inductive Built : Exposition → Prop
  | ofValue (name : String) (value : Float) : Built (ofValue name value)
  | withKind {e : Exposition} (h : Built e) (kind : MetricKind) : Built { e with kind }
  | withHelp {e : Exposition} (h : Built e) (help : String) : Built { e with help := some help }
  | withLabel {e : Exposition} (h : Built e) (key value : String) : Built (e.withLabel key value)
  | withTags {e : Exposition} (h : Built e) (tags : List String) : Built (e.withTags tags)

structure Named (e : Exposition) : Prop where
  name : IsName true e.name.toList
  keys : ∀ k v, e.labels.get? k = some v → IsName false k.toList

theorem Named.withLabel {e : Exposition} (h : Named e) (key value : String) :
    Named (e.withLabel key value) where
  name := h.name
  keys := by
    intro k v hk
    by_cases hkey : k = sanitizeLabel key
    · rw [hkey]
      exact isName_sanitizeLabel key
    · rw [Exposition.withLabel, Dict.get?_insert_ne _ _ hkey] at hk
      exact h.keys k v hk

theorem Named.withTags {e : Exposition} (h : Named e) (tags : List String) :
    Named (e.withTags tags) := by
  induction tags generalizing e with
  | nil => exact h
  | cons tag tags ih => exact ih (h.withLabel (splitTag tag).1 (splitTag tag).2)

/-- Everything that is built has names and labels that the format allows. -/
theorem Built.named {e : Exposition} (h : Built e) : Named e := by
  induction h with
  | ofValue name value => exact ⟨isName_sanitizeName name, fun k v hk => by cases hk⟩
  | withKind _ kind ih => exact ⟨ih.name, ih.keys⟩
  | withHelp _ help ih => exact ⟨ih.name, ih.keys⟩
  | withLabel _ key value ih => exact ih.withLabel key value
  | withTags _ tags ih => exact ih.withTags tags

end BeanGauge.Exposition
