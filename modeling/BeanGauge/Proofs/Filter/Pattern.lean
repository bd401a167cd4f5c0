import BeanGauge.Filter.Pattern
import BeanGauge.Proofs.Filter.Regex
import BeanGauge.Proofs.Text.Split
import Mathlib.Computability.Language
/-!
# What wildcard patterns match

The expression of a pattern is read as both ends of a text and, between them, one element for each
character of the pattern. So it matches a text exactly if the text is the pattern with a run of
characters of one line in place of every `*`.
-/

namespace BeanGauge.Filter.Pattern

open Regex (Element CharSet Leads Reading)

/-- Whether a text is a pattern with a run of characters of one line in place of every `*`. -/
def Fits (pattern text : String) : Prop :=
  ∃ (first : List Char) (parts runs : List (List Char)),
    ['*'].intercalate (first :: parts) = pattern.toList ∧
    (∀ part ∈ first :: parts, '*' ∉ part) ∧
    runs.length = parts.length ∧ (∀ run ∈ runs, '\n' ∉ run) ∧
    text.toList = first ++ (runs.zip parts).flatMap fun r => r.1 ++ r.2

def elementOf (c : Char) : Element := if c = '*' then .many .inLine else .one (.exactly c)

/-- The expression that a pattern stands for. -/
def regexOf (pattern : String) : Regex :=
  ⟨.start :: (pattern.toList.map elementOf ++ [.finish])⟩

/-! ## The expression is read as it was meant -/

theorem read_plain {c : Char} (hc : c ∉ Regex.metaChars) (done : List Element) :
    Reading.read ⟨done, false⟩ c = some ⟨.one (.exactly c) :: done, false⟩ := by
  have hne : ∀ x ∈ Regex.metaChars, c ≠ x := fun x hx hcx => hc (hcx ▸ hx)
  simp only [Regex.metaChars, List.forall_mem_cons] at hne
  simp [Reading.read, hne]

theorem read_escapeChars (cs : List Char) (done : List Element) :
    (Regex.escapeChars cs).foldlM Reading.read ⟨done, false⟩ =
      some ⟨(cs.map fun c => .one (.exactly c)).reverse ++ done, false⟩ := by
  induction cs generalizing done with
  | nil => rfl
  | cons c cs ih =>
    have hone : (if Regex.metaChars.contains c then ['\\', c] else [c]).foldlM Reading.read
        ⟨done, false⟩ = some ⟨.one (.exactly c) :: done, false⟩ := by
      cases hmeta : Regex.metaChars.contains c with
      | true => simp [Reading.read, List.contains_iff_mem.1 hmeta]
      | false =>
        have hplain := read_plain (c := c) (by simpa using hmeta) done
        simpa using hplain
    rw [Regex.escapeChars, List.flatMap_cons, List.foldlM_append, hone]
    show (Regex.escapeChars cs).foldlM Reading.read _ = _
    rw [ih, List.map_cons, List.reverse_cons, List.append_assoc, List.singleton_append]

theorem map_elementOf {part : List Char} (hpart : '*' ∉ part) :
    part.map elementOf = part.map fun c => .one (.exactly c) := by
  refine List.map_congr_left fun c hc => if_neg ?_
  rintro rfl
  exact hpart hc

/-- Literals and the dots and stars between them are read one by one. -/
theorem read_parts {first : List Char} {parts : List (List Char)}
    (hparts : ∀ part ∈ first :: parts, '*' ∉ part) (done : List Element) :
    (['.', '*'].intercalate ((first :: parts).map Regex.escapeChars)).foldlM Reading.read
        ⟨done, false⟩ =
      some ⟨((['*'].intercalate (first :: parts)).map elementOf).reverse ++ done, false⟩ := by
  induction parts generalizing first done with
  | nil =>
    have hfirst := hparts first List.mem_cons_self
    rw [List.map_singleton, List.intercalate_singleton, List.intercalate_singleton,
      read_escapeChars, map_elementOf hfirst]
  | cons next parts ih =>
    obtain ⟨hfirst, hrest⟩ := List.forall_mem_cons.1 hparts
    have hstar : ∀ done : List Element,
        ['.', '*'].foldlM Reading.read ⟨done, false⟩ = some ⟨.many .inLine :: done, false⟩ :=
      fun _ => rfl
    rw [List.map_cons, List.map_cons, List.intercalate_cons_cons, List.intercalate_cons_cons,
      ← List.map_cons, List.foldlM_append, List.foldlM_append, read_escapeChars]
    simp only [Option.bind_eq_bind, Option.bind_some, hstar, ih hrest]
    rw [List.map_append, List.map_append, map_elementOf hfirst]
    simp [elementOf]

/-- The text made of a pattern is one that is understood, and means the expression expected. -/
theorem parse?_expression (pattern : String) :
    Regex.parse? (expression pattern) = some (regexOf pattern) := by
  cases hsplit : Text.splitAll '*' pattern.toList with
  | nil => exact absurd hsplit (Text.splitAll_ne_nil '*' pattern.toList)
  | cons first parts =>
    have hjoined := Text.intercalate_splitAll '*' pattern.toList
    rw [hsplit] at hjoined
    have hparts : ∀ part ∈ first :: parts, '*' ∉ part := fun part hpart =>
      Text.not_mem_of_mem_splitAll (hsplit ▸ hpart)
    have hread := read_parts hparts [.start]
    rw [hjoined] at hread
    have hstart : Reading.read ⟨[], false⟩ '^' = some ⟨[.start], false⟩ := rfl
    have hfinish : ∀ done : List Element, ['$'].foldlM Reading.read ⟨done, false⟩ =
        some ⟨.finish :: done, false⟩ := fun _ => rfl
    rw [Regex.parse?, expression, hsplit, String.toList_ofList, List.cons_append, List.foldlM_cons,
      hstart]
    simp only [Option.bind_eq_bind, Option.bind_some, List.foldlM_append, hread, hfinish]
    simp [regexOf]

/-! ## What the expression matches -/

def lineTexts : Language Char := fun run => '\n' ∉ run

/-- The texts that a character of a pattern stands for. -/
def charTexts (c : Char) : Language Char := if c = '*' then lineTexts else {[c]}

/-- The texts that a pattern stands for. -/
def texts (pattern : List Char) : Language Char := (pattern.map charTexts).prod

variable {before rest before' rest' : List Char}

theorem leads_append_iff {es es' : List Element} : Leads (es ++ es') before rest before' rest' ↔
    ∃ mid right, Leads es before rest mid right ∧ Leads es' mid right before' rest' := by
  induction es generalizing before rest with
  | nil =>
    constructor
    · intro h
      exact ⟨before, rest, .nil, h⟩
    · rintro ⟨_, _, ⟨⟩, h⟩
      exact h
  | cons e es ih =>
    constructor
    · intro h
      cases h with
      | cons first next =>
        obtain ⟨mid, right, hes, hes'⟩ := ih.1 next
        exact ⟨mid, right, .cons first hes, hes'⟩
    · rintro ⟨mid, right, h, hes'⟩
      cases h with
      | cons first hes => exact .cons first (ih.2 ⟨mid, right, hes, hes'⟩)

/-- A repetition of characters of a line goes over a run of them. -/
theorem leads_inLine_iff : (Element.many .inLine).Leads before rest before' rest' ↔
    ∃ run ∈ lineTexts, before' = before ++ run ∧ rest = run ++ rest' := by
  constructor
  · intro h
    generalize he : Element.many CharSet.inLine = e at h
    induction h with
    | start | finish | one => cases he
    | stay => exact ⟨[], List.not_mem_nil, (List.append_nil _).symm, rfl⟩
    | more _ hx ih =>
      obtain ⟨run, hrun, rfl, rfl⟩ := ih he
      cases he
      refine ⟨run ++ [_], ?_, List.append_assoc _ _ _, by rw [List.append_assoc]; rfl⟩
      have hline : '\n' ∉ run := hrun
      show '\n' ∉ run ++ [_]
      rw [List.mem_append, not_or, List.mem_singleton]
      exact ⟨hline, (bne_iff_ne.1 hx).symm⟩
  · rintro ⟨run, hrun, rfl, rfl⟩
    induction run using List.reverseRecOn generalizing rest' with
    | nil =>
      rw [List.append_nil]
      exact .stay
    | append_singleton run x ih =>
      have hline : '\n' ∉ run ++ [x] := hrun
      rw [List.mem_append, not_or, List.mem_singleton] at hline
      have hmany := @ih (x :: rest') hline.1
      rw [List.append_assoc, List.singleton_append, ← List.append_assoc]
      exact .more hmany (bne_iff_ne.2 (Ne.symm hline.2))

theorem leads_exactly_iff {c : Char} : (Element.one (.exactly c)).Leads before rest before' rest' ↔
    before' = before ++ [c] ∧ rest = c :: rest' := by
  constructor
  · rintro ⟨⟩
    rename_i x hx
    obtain rfl := beq_iff_eq.1 hx
    exact ⟨rfl, rfl⟩
  · rintro ⟨rfl, rfl⟩
    exact .one (beq_self_eq_true c)

theorem leads_elementOf_iff {c : Char} : (elementOf c).Leads before rest before' rest' ↔
    ∃ taken ∈ charTexts c, before' = before ++ taken ∧ rest = taken ++ rest' := by
  rw [elementOf, charTexts]
  split
  · exact leads_inLine_iff
  · rw [leads_exactly_iff]
    constructor
    · rintro ⟨rfl, rfl⟩
      exact ⟨[c], rfl, rfl, rfl⟩
    · rintro ⟨_, rfl, rfl, rfl⟩
      exact ⟨rfl, rfl⟩

/-- The elements of a pattern go over the texts that it stands for. -/
theorem leads_map_elementOf_iff {pattern : List Char} :
    Leads (pattern.map elementOf) before rest before' rest' ↔
      ∃ taken ∈ texts pattern, before' = before ++ taken ∧ rest = taken ++ rest' := by
  induction pattern generalizing before rest with
  | nil =>
    constructor
    · rintro ⟨⟩
      exact ⟨[], rfl, (List.append_nil _).symm, rfl⟩
    · rintro ⟨_, rfl, rfl, rfl⟩
      rw [List.append_nil]
      exact .nil
  | cons c pattern ih =>
    have htexts : texts (c :: pattern) = charTexts c * texts pattern := List.prod_cons
    rw [List.map_cons, htexts]
    constructor
    · intro h
      cases h with
      | cons first next =>
        obtain ⟨run, hrun, rfl, rfl⟩ := leads_elementOf_iff.1 first
        obtain ⟨taken, htaken, rfl, rfl⟩ := ih.1 next
        refine ⟨run ++ taken, Language.mem_mul.2 ⟨run, hrun, taken, htaken, rfl⟩, ?_, ?_⟩
        · rw [List.append_assoc]
        · rw [List.append_assoc]
    · rintro ⟨_, hmem, rfl, rfl⟩
      obtain ⟨run, hrun, taken, htaken, rfl⟩ := Language.mem_mul.1 hmem
      refine .cons (leads_elementOf_iff.2 ⟨run, hrun, rfl, List.append_assoc _ _ _⟩) ?_
      exact ih.2 ⟨taken, htaken, (List.append_assoc _ _ _).symm, rfl⟩

/-- Both ends stand in the expression, so all of the text is looked at. -/
theorem matches_regexOf_iff {pattern : String} {text : List Char} :
    (regexOf pattern).Matches text ↔ text ∈ texts pattern.toList := by
  constructor
  · rintro ⟨_, _, _, _, rfl, h⟩
    cases h with
    | cons first next =>
      cases first
      obtain ⟨_, _, hpattern, hfinish⟩ := leads_append_iff.1 next
      obtain ⟨taken, htaken, rfl, rfl⟩ := leads_map_elementOf_iff.1 hpattern
      cases hfinish with
      | cons last _ =>
        cases last
        rwa [List.nil_append, List.append_nil]
  · intro htext
    refine ⟨[], text, text, [], rfl, .cons .start (leads_append_iff.2 ⟨text, [], ?_, ?_⟩)⟩
    · exact leads_map_elementOf_iff.2 ⟨text, htext, rfl, (List.append_nil text).symm⟩
    · exact .cons .finish .nil

/-! ## Runs for wildcards -/

theorem mem_literals_mul_iff {part : List Char} (hpart : '*' ∉ part) {pattern text : List Char} :
    text ∈ texts (part ++ pattern) ↔ ∃ rest ∈ texts pattern, text = part ++ rest := by
  induction part generalizing text with
  | nil => simp
  | cons c part ih =>
    rw [List.mem_cons, not_or] at hpart
    have hchar : charTexts c = {[c]} := if_neg (Ne.symm hpart.1)
    rw [List.cons_append, texts, List.map_cons, List.prod_cons, Language.mem_mul, hchar]
    constructor
    · rintro ⟨_, rfl, tail, htail, rfl⟩
      obtain ⟨rest, hrest, rfl⟩ := (ih hpart.2).1 htail
      exact ⟨rest, hrest, rfl⟩
    · rintro ⟨rest, hrest, rfl⟩
      exact ⟨[c], rfl, part ++ rest, (ih hpart.2).2 ⟨rest, hrest, rfl⟩, rfl⟩

/-- A text of stars and literals is made of runs within a line and of the literals. -/
theorem mem_parts_iff {parts : List (List Char)} (hparts : ∀ part ∈ parts, '*' ∉ part)
    {text : List Char} : text ∈ texts (parts.flatMap fun part => '*' :: part) ↔
      ∃ runs : List (List Char), runs.length = parts.length ∧ (∀ run ∈ runs, '\n' ∉ run) ∧
        text = (runs.zip parts).flatMap fun r => r.1 ++ r.2 := by
  induction parts generalizing text with
  | nil =>
    constructor
    · intro h
      exact ⟨[], rfl, List.forall_mem_nil _, h⟩
    · rintro ⟨runs, hlength, -, rfl⟩
      rw [List.eq_nil_of_length_eq_zero hlength]
      exact rfl
  | cons part parts ih =>
    have hpart := hparts part List.mem_cons_self
    have hrest : ∀ p ∈ parts, '*' ∉ p := fun p hp => hparts p (List.mem_cons_of_mem part hp)
    have hstar : charTexts '*' = lineTexts := rfl
    rw [List.flatMap_cons, List.cons_append, texts, List.map_cons, hstar, List.prod_cons,
      Language.mem_mul]
    constructor
    · rintro ⟨run, hrun, tail, htail, rfl⟩
      obtain ⟨rest, hmem, rfl⟩ := (mem_literals_mul_iff hpart).1 htail
      obtain ⟨runs, hlength, hlines, rfl⟩ := (ih hrest).1 hmem
      refine ⟨run :: runs, congrArg (· + 1) hlength, List.forall_mem_cons.2 ⟨hrun, hlines⟩, ?_⟩
      rw [List.zip_cons_cons, List.flatMap_cons, List.append_assoc]
    · rintro ⟨runs, hlength, hlines, rfl⟩
      cases runs with
      | nil => cases hlength
      | cons run runs =>
        obtain ⟨hrun, hlines⟩ := List.forall_mem_cons.1 hlines
        have hmem := (ih hrest).2 ⟨runs, Nat.succ.inj hlength, hlines, rfl⟩
        refine ⟨run, hrun, _, (mem_literals_mul_iff hpart).2 ⟨_, hmem, rfl⟩, ?_⟩
        rw [List.zip_cons_cons, List.flatMap_cons, List.append_assoc]

theorem mem_texts_iff {first : List Char} {parts : List (List Char)}
    (hparts : ∀ part ∈ first :: parts, '*' ∉ part) {text : List Char} :
    text ∈ texts (['*'].intercalate (first :: parts)) ↔
      ∃ runs : List (List Char), runs.length = parts.length ∧ (∀ run ∈ runs, '\n' ∉ run) ∧
        text = first ++ (runs.zip parts).flatMap fun r => r.1 ++ r.2 := by
  obtain ⟨hfirst, hparts⟩ := List.forall_mem_cons.1 hparts
  rw [Text.intercalate_cons, mem_literals_mul_iff hfirst]
  simp only [mem_parts_iff hparts]
  constructor
  · rintro ⟨rest, ⟨runs, hlength, hlines, rfl⟩, rfl⟩
    exact ⟨runs, hlength, hlines, rfl⟩
  · rintro ⟨runs, hlength, hlines, rfl⟩
    exact ⟨_, ⟨runs, hlength, hlines, rfl⟩, rfl⟩

/-- The expression of a pattern matches what fits the pattern. -/
theorem isMatch_regexOf_iff (pattern text : String) :
    (regexOf pattern).isMatch text ↔ Fits pattern text := by
  rw [Regex.isMatch_iff, matches_regexOf_iff]
  constructor
  · intro h
    cases hsplit : Text.splitAll '*' pattern.toList with
    | nil => exact absurd hsplit (Text.splitAll_ne_nil '*' pattern.toList)
    | cons first parts =>
      have hjoined := Text.intercalate_splitAll '*' pattern.toList
      rw [hsplit] at hjoined
      have hparts : ∀ part ∈ first :: parts, '*' ∉ part := fun part hpart =>
        Text.not_mem_of_mem_splitAll (hsplit ▸ hpart)
      rw [← hjoined, mem_texts_iff hparts] at h
      obtain ⟨runs, hruns⟩ := h
      exact ⟨first, parts, runs, hjoined, hparts, hruns⟩
  · rintro ⟨first, parts, runs, hjoined, hparts, hruns⟩
    rw [← hjoined]
    exact (mem_texts_iff hparts).2 ⟨runs, hruns⟩

section

variable [Regex.Builder]

/-- A pattern fails to compile only if its expression gets too large. -/
theorem compile_eq (pattern : String) : compile pattern =
    if Regex.Builder.size (regexOf pattern) ≤ Regex.sizeLimit then .ok (regexOf pattern)
    else .error s!"'{pattern}': {Regex.tooLarge}" := by
  rw [compile, Regex.build, parse?_expression]
  dsimp only
  split <;> rfl

theorem compile_eq_ok {pattern : String} {r : Regex} (h : compile pattern = .ok r) :
    r = regexOf pattern := by
  rw [compile_eq] at h
  split at h
  · exact (Except.ok.inj h).symm
  · cases h

/-- A pattern that compiles accepts exactly the texts that are the pattern with a run of characters
of one line in place of every `*`. -/
theorem accepts_iff_fits {pattern : String} {r : Regex} (h : compile pattern = .ok r)
    (text : String) : r.isMatch text ↔ Fits pattern text := by
  rw [compile_eq_ok h, isMatch_regexOf_iff]

end

/-- Stars next to each other, overlapping parts, and characters that have a meaning of their own in
expressions. -/
theorem fits_crowded :
    letI := Regex.weighing
    compile "a.**[b]*a*" = .ok (regexOf "a.**[b]*a*") ∧ Fits "a.**[b]*a*" "a.[[b]ab]ba" ∧
      ¬Fits "a.**[b]*a*" "a.\n[b]a" ∧ ¬Fits "a.**[b]*a*" "axx[b]xa" := by
  let _ := Regex.weighing
  have hcompile : compile "a.**[b]*a*" = .ok (regexOf "a.**[b]*a*") := by decide
  have haccepts := accepts_iff_fits hcompile
  refine ⟨hcompile, (haccepts "a.[[b]ab]ba").1 (by decide), fun hfits => ?_, fun hfits => ?_⟩
  · exact absurd ((haccepts "a.\n[b]a").2 hfits) (by decide)
  · exact absurd ((haccepts "axx[b]xa").2 hfits) (by decide)

end BeanGauge.Filter.Pattern
