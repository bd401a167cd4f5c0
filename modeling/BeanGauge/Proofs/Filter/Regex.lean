import BeanGauge.Filter.Regex
import Mathlib.Data.List.Basic
/-!
# What expressions match

An element leads from one cut of a text to another; so do the elements of an expression, one after
the other. An expression matches a text if it leads from any cut of it to any other. Matching goes
through the expression once and keeps which cuts are in reach.
-/

namespace BeanGauge.Regex

/-- How an element leads from a cut of a text, what is before it and what is behind, to another. -/
inductive Element.Leads : Element → List Char → List Char → List Char → List Char → Prop
  | start {rest : List Char} : Leads .start [] rest [] rest
  | finish {before : List Char} : Leads .finish before [] before []
  | one {set : CharSet} {before rest : List Char} {x : Char} (hx : set.contains x) :
    Leads (.one set) before (x :: rest) (before ++ [x]) rest
  | stay {set : CharSet} {before rest : List Char} : Leads (.many set) before rest before rest
  | more {set : CharSet} {before rest before' rest' : List Char} {x : Char}
    (hmany : Leads (.many set) before rest before' (x :: rest')) (hx : set.contains x) :
    Leads (.many set) before rest (before' ++ [x]) rest'

/-- How elements, one after the other, lead from a cut of a text to another. -/
inductive Leads : List Element → List Char → List Char → List Char → List Char → Prop
  | nil {before rest : List Char} : Leads [] before rest before rest
  | cons {e : Element} {es : List Element}
    {before₀ rest₀ before₁ rest₁ before₂ rest₂ : List Char}
    (first : e.Leads before₀ rest₀ before₁ rest₁) (next : Leads es before₁ rest₁ before₂ rest₂) :
    Leads (e :: es) before₀ rest₀ before₂ rest₂

/-- Whether an expression matches some part of a text. -/
def Matches (r : Regex) (text : List Char) : Prop :=
  ∃ before rest before' rest', text = before ++ rest ∧ Leads r.elements before rest before' rest'

/-- Whether each entry tells if `P` holds of its cut: the entries are those of the cuts from
`before` on, and `rest` is the text behind it. -/
inductive Marks (P : List Char → List Char → Prop) : List Char → List Bool → List Char → Prop
  | last {before : List Char} {b : Bool} : (b ↔ P before []) → Marks P before [b] []
  | cons {before : List Char} {b : Bool} {bs : List Bool} {x : Char} {rest : List Char} :
    (b ↔ P before (x :: rest)) → Marks P (before ++ [x]) bs rest →
    Marks P before (b :: bs) (x :: rest)

/-- The cuts that an element leads to from those of `P`. -/
def Element.Reaches (e : Element) (P : List Char → List Char → Prop) (before' rest' : List Char) :
    Prop := ∃ before rest, P before rest ∧ e.Leads before rest before' rest'

variable {P Q : List Char → List Char → Prop} {before rest : List Char} {bs : List Bool}

/-! ## One element more -/

theorem reaches_start_iff : Element.start.Reaches P before rest ↔ before = [] ∧ P [] rest := by
  constructor
  · rintro ⟨_, _, hP, ⟨⟩⟩
    exact ⟨rfl, hP⟩
  · rintro ⟨rfl, hP⟩
    exact ⟨_, _, hP, .start⟩

theorem reaches_finish_iff : Element.finish.Reaches P before rest ↔ rest = [] ∧ P before [] := by
  constructor
  · rintro ⟨_, _, hP, ⟨⟩⟩
    exact ⟨rfl, hP⟩
  · rintro ⟨rfl, hP⟩
    exact ⟨_, _, hP, .finish⟩

theorem reaches_one_iff {set : CharSet} {x : Char} :
    (Element.one set).Reaches P (before ++ [x]) rest ↔ P before (x :: rest) ∧ set.contains x := by
  constructor
  · rintro ⟨before₀, _, hP, hleads⟩
    generalize hend : before ++ [x] = after at hleads
    cases hleads with
    | one hx =>
      obtain ⟨rfl, hlast⟩ := List.append_inj' hend rfl
      obtain rfl := List.head_eq_of_cons_eq hlast
      exact ⟨hP, hx⟩
  · rintro ⟨hP, hx⟩
    exact ⟨_, _, hP, .one hx⟩

theorem not_reaches_one_nil {set : CharSet} : ¬(Element.one set).Reaches P [] rest := by
  rintro ⟨before₀, _, -, hleads⟩
  generalize hend : [] = after at hleads
  cases hleads with
  | one hx => exact absurd hend.symm (List.append_ne_nil_of_right_ne_nil _ (List.cons_ne_nil _ []))

/-- A repetition stays where it is or grows by one character of its set. -/
theorem reaches_many_iff {set : CharSet} :
    (Element.many set).Reaches P before rest ↔ P before rest ∨
      ∃ before' x, before = before' ++ [x] ∧ set.contains x ∧
        (Element.many set).Reaches P before' (x :: rest) := by
  constructor
  · rintro ⟨before₀, rest₀, hP, hleads⟩
    cases hleads with
    | stay => exact .inl hP
    | more hmany hx => exact .inr ⟨_, _, rfl, hx, _, _, hP, hmany⟩
  · rintro (hP | ⟨before', x, rfl, hx, before₀, rest₀, hP, hleads⟩)
    · exact ⟨_, _, hP, .stay⟩
    · exact ⟨_, _, hP, .more hleads hx⟩

theorem Marks.imp (h : Marks P before bs rest)
    (himp : ∀ before' rest', before' ++ rest' = before ++ rest →
      (P before' rest' ↔ Q before' rest')) :
    Marks Q before bs rest := by
  induction h with
  | last hhere => exact .last (hhere.trans (himp _ _ rfl))
  | cons hhere _ ih =>
    refine .cons (hhere.trans (himp _ _ rfl)) (ih fun before' rest' h => himp _ _ ?_)
    rw [h, List.append_assoc, List.singleton_append]

theorem Marks.none (hP : ∀ before' rest', before' ≠ [] → ¬P before' rest') (hbefore : before ≠ [])
    (h : Marks Q before bs rest) : Marks P before (bs.map fun _ => false) rest := by
  have hfalse : ∀ before' rest', before' ≠ [] → (false ↔ P before' rest') :=
    fun before' rest' hne => iff_of_false Bool.false_ne_true (hP before' rest' hne)
  induction h with
  | last _ => exact .last (hfalse _ _ hbefore)
  | cons _ _ ih =>
    exact .cons (hfalse _ _ hbefore)
      (ih (List.append_ne_nil_of_right_ne_nil _ (List.cons_ne_nil _ [])))

theorem Marks.keepFirst (h : Marks P [] bs rest) :
    Marks (Element.start.Reaches P) [] (keepFirst bs) rest := by
  have hlater : ∀ before' rest' : List Char, before' ≠ [] →
      ¬Element.start.Reaches P before' rest' :=
    fun before' rest' hne hreach => hne (reaches_start_iff.1 hreach).1
  cases h with
  | last hhere => exact .last (by rw [hhere, reaches_start_iff, eq_self_iff_true, true_and])
  | cons hhere hrest =>
    refine .cons (by rw [hhere, reaches_start_iff, eq_self_iff_true, true_and]) ?_
    exact hrest.none hlater (List.append_ne_nil_of_right_ne_nil _ (List.cons_ne_nil _ []))

theorem Marks.keepLast (h : Marks P before bs rest) :
    Marks (Element.finish.Reaches P) before (keepLast bs) rest := by
  induction h with
  | last hhere => exact .last (by rw [hhere, reaches_finish_iff, eq_self_iff_true, true_and])
  | @cons before b bs x rest _ hrest ih =>
    have hfalse : false ↔ Element.finish.Reaches P before (x :: rest) :=
      iff_of_false Bool.false_ne_true fun hreach =>
        List.cons_ne_nil x rest (reaches_finish_iff.1 hreach).1
    cases hrest with
    | last _ => exact .cons hfalse ih
    | cons _ _ => exact .cons hfalse ih

theorem Marks.stepOne (h : Marks P before bs rest) {set : CharSet} {b : Bool}
    (hb : b ↔ (Element.one set).Reaches P before rest) :
    Marks ((Element.one set).Reaches P) before (b :: stepOne set bs rest) rest := by
  induction h generalizing b with
  | last _ => exact .last hb
  | cons hhere _ ih =>
    refine .cons hb (ih ?_)
    rw [reaches_one_iff, ← hhere, Bool.and_eq_true]

/-- Whether a repetition that began before a cut may go on behind it. -/
def Stretches (set : CharSet) (P : List Char → List Char → Prop) (before rest : List Char) : Prop :=
  ∃ before' x, before = before' ++ [x] ∧ set.contains x ∧
    (Element.many set).Reaches P before' (x :: rest)

theorem inReach_iff {set : CharSet} {inReach b : Bool}
    (hreach : inReach ↔ Stretches set P before rest) (hb : b ↔ P before rest) :
    (inReach || b) ↔ (Element.many set).Reaches P before rest := by
  rw [Bool.or_eq_true, or_comm, hreach, hb, reaches_many_iff]
  rfl

theorem Marks.stepMany (h : Marks P before bs rest) {set : CharSet} {inReach : Bool}
    (hreach : inReach ↔ Stretches set P before rest) :
    Marks ((Element.many set).Reaches P) before (stepMany set inReach bs rest) rest := by
  induction h generalizing inReach with
  | last hhere => exact .last (inReach_iff hreach hhere)
  | @cons before b bs x rest hhere _ ih =>
    have hnow := inReach_iff hreach hhere
    refine .cons hnow (ih ?_)
    rw [Bool.and_eq_true, hnow]
    constructor
    · rintro ⟨hmany, hx⟩
      exact ⟨before, x, rfl, hx, hmany⟩
    · rintro ⟨before', y, heq, hy, hmany⟩
      obtain ⟨rfl, hxy⟩ := List.append_inj' heq rfl
      obtain rfl := List.head_eq_of_cons_eq hxy
      exact ⟨hmany, hy⟩

/-- Going back over one element turns the marks of what is behind it into those of the whole. -/
theorem Marks.step {text : List Char} {reach : List Bool} (h : Marks P [] reach text)
    (e : Element) : Marks (e.Reaches P) [] (e.step text reach) text := by
  cases e with
  | start => exact h.keepFirst
  | finish => exact h.keepLast
  | one set => exact h.stepOne (iff_of_false Bool.false_ne_true not_reaches_one_nil)
  | many set =>
    refine h.stepMany (iff_of_false Bool.false_ne_true ?_)
    rintro ⟨before', x, heq, -⟩
    exact absurd heq.symm (List.append_ne_nil_of_right_ne_nil before' (List.cons_ne_nil x []))

/-! ## Whole expressions -/

/-- The cuts that elements lead to from those of `P`. -/
def Reaches (es : List Element) (P : List Char → List Char → Prop) (before' rest' : List Char) :
    Prop := ∃ before rest, P before rest ∧ Leads es before rest before' rest'

/-- Going back over all of them does so too. -/
theorem Marks.foldl {text : List Char} {reach : List Bool} (h : Marks P [] reach text)
    (es : List Element) :
    Marks (Reaches es P) [] (es.foldl (Element.step text) reach) text := by
  induction es generalizing P reach with
  | nil =>
    refine h.imp fun before rest _ => ⟨fun hP => ⟨_, _, hP, .nil⟩, ?_⟩
    rintro ⟨_, _, hP, ⟨⟩⟩
    exact hP
  | cons e es ih =>
    refine (ih (h.step e)).imp fun before rest _ => ?_
    constructor
    · rintro ⟨_, _, ⟨_, _, hP, hfirst⟩, hnext⟩
      exact ⟨_, _, hP, .cons hfirst hnext⟩
    · rintro ⟨_, _, hP, hleads⟩
      cases hleads with
      | cons hfirst hnext => exact ⟨_, _, ⟨_, _, hP, hfirst⟩, hnext⟩

theorem marks_anywhere (before rest : List Char) :
    Marks (fun before' rest' => before' ++ rest' = before ++ rest) before
      (List.replicate (rest.length + 1) true) rest := by
  induction rest generalizing before with
  | nil => exact .last (iff_of_true rfl rfl)
  | cons x rest ih =>
    refine .cons (iff_of_true rfl rfl) ?_
    have hlater := ih (before ++ [x])
    rwa [List.append_assoc, List.singleton_append] at hlater

/-- A mark is found exactly if some cut of the text is marked. -/
theorem Marks.any_iff (h : Marks P before bs rest) :
    bs.any id ↔ ∃ before' rest', before' ++ rest' = before ++ rest ∧ before <+: before' ∧
      P before' rest' := by
  induction h with
  | @last before b hhere =>
    rw [List.any_cons, List.any_nil, Bool.or_false, id, hhere]
    constructor
    · intro hP
      exact ⟨before, [], rfl, List.prefix_refl before, hP⟩
    · rintro ⟨_, rest', heq, ⟨more, rfl⟩, hP⟩
      rw [List.append_nil, List.append_assoc, List.append_right_eq_self, List.append_eq_nil_iff]
        at heq
      obtain ⟨rfl, rfl⟩ := heq
      rwa [List.append_nil] at hP
  | @cons before b bs x rest hhere _ ih =>
    rw [List.any_cons, Bool.or_eq_true, id, hhere, ih, List.append_assoc, List.singleton_append]
    constructor
    · rintro (hP | ⟨before', rest', heq, hprefix, hP⟩)
      · exact ⟨before, x :: rest, rfl, List.prefix_refl before, hP⟩
      · exact ⟨before', rest', heq, (List.prefix_append before [x]).trans hprefix, hP⟩
    · rintro ⟨_, rest', heq, ⟨more, rfl⟩, hP⟩
      rw [List.append_assoc, List.append_cancel_left_eq] at heq
      cases more with
      | nil =>
        obtain rfl : rest' = x :: rest := heq
        rw [List.append_nil] at hP
        exact .inl hP
      | cons y more =>
        obtain ⟨rfl, rfl⟩ := List.cons_eq_cons.1 heq
        refine .inr ⟨_, rest', List.append_assoc _ _ _, ?_, hP⟩
        exact ⟨more, by rw [List.append_assoc, List.singleton_append]⟩

theorem Element.Leads.append_eq {e : Element} {before' rest' : List Char}
    (h : e.Leads before rest before' rest') : before' ++ rest' = before ++ rest := by
  induction h with
  | start | finish | stay => rfl
  | one hx => rw [List.append_assoc, List.singleton_append]
  | more _ _ ih => rw [← ih, List.append_assoc, List.singleton_append]

/-- An expression reads on in the text and changes nothing of it. -/
theorem Leads.append_eq {es : List Element} {before' rest' : List Char}
    (h : Leads es before rest before' rest') : before' ++ rest' = before ++ rest := by
  induction h with
  | nil => rfl
  | cons first _ ih => rw [ih, first.append_eq]

/-- The matcher finds exactly the matches. -/
theorem isMatch_iff (r : Regex) (text : String) : r.isMatch text ↔ r.Matches text.toList := by
  have hmarks := (marks_anywhere [] text.toList).foldl r.elements
  rw [isMatch, matchesChars, hmarks.any_iff]
  constructor
  · rintro ⟨before', rest', -, -, before, rest, htext, hleads⟩
    exact ⟨before, rest, before', rest', htext.symm, hleads⟩
  · rintro ⟨before, rest, before', rest', htext, hleads⟩
    refine ⟨before', rest', ?_, List.nil_prefix, before, rest, htext.symm, hleads⟩
    rw [hleads.append_eq, ← htext, List.nil_append]

end BeanGauge.Regex
