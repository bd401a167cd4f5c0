import BeanGauge.Proofs.Metric.Words
import Mathlib.Data.List.Chain
import Mathlib.Data.List.DropRight
/-!
# Normalised names

A normalised name holds small letters, digits, underscores and dots only, with no underscore next to
a dot or at an end. Such a name is normalised again to itself if it starts with a letter. The passes
decide where a name starts: the characters in front of the first letter are dropped together only if
the first of them may stand in a name. An illegal one is replaced alone, so digits and dots behind
it stay.
-/

namespace BeanGauge.Metric

/-- Whether two neighbours are not an underscore and a dot, in either order. -/
def Clear (a b : Char) : Prop := ¬(a = '_' ∧ b = '.') ∧ ¬(a = '.' ∧ b = '_')

/-- What every normalised name is. -/
structure Normal (cs : List Char) : Prop where
  chars : ∀ c ∈ cs, isSmall c || isDigit c || c == '_' || c == '.'
  first : cs.head? ≠ some '_'
  last : cs.getLast? ≠ some '_'
  apart : cs.IsChain Clear

/-- Whether a character leaves nothing but an underscore. -/
def isFiller (c : Char) : Bool := !isNameChar c || c == '_'

/-- Whether a name in snake case starts with a character that may stand in a name, or has a letter,
if anything, behind its first characters that are illegal or underscores. -/
def LettersFirst (cs : List Char) : Prop :=
  cs.head?.all isNameChar ∨ (cs.dropWhile isFiller).head?.all isLetter

/-! ## One pass at a time -/

theorem settled_of_mem_snakeChars {cs : List Char} {c : Char} (h : c ∈ snakeChars cs) :
    Text.Settled c := by
  rw [snakeChars_eq] at h
  exact Text.settled_of_mem_lowerChars c h

theorem mem_foldIllegal {inRun : Bool} {cs : List Char} {c : Char}
    (h : c ∈ foldIllegal inRun cs) : c = '_' ∨ c ∈ cs ∧ isNameChar c := by
  induction cs generalizing inRun with
  | nil => cases h
  | cons d cs ih =>
    have hrest : ∀ {r}, c ∈ foldIllegal r cs → c = '_' ∨ c ∈ d :: cs ∧ isNameChar c := by
      intro r hc
      exact (ih hc).imp id fun hc => ⟨List.mem_cons_of_mem d hc.1, hc.2⟩
    rw [foldIllegal] at h
    split at h
    · rename_i hd
      rcases List.mem_cons.1 h with rfl | h
      · exact .inr ⟨List.mem_cons_self, hd⟩
      · exact hrest h
    split at h
    · exact hrest h
    · rcases List.mem_cons.1 h with rfl | h
      · exact .inl rfl
      · exact hrest h

theorem mem_replaceIllegal {cs : List Char} {c : Char} (h : c ∈ replaceIllegal cs) :
    c = '_' ∨ c ∈ cs ∧ isNameChar c := by
  cases cs with
  | nil => cases h
  | cons d cs =>
    rw [replaceIllegal] at h
    split at h
    · rcases List.mem_cons.1 h with rfl | h
      · exact .inl rfl
      · refine (mem_foldIllegal h).imp id fun hc => ⟨List.mem_cons_of_mem d ?_, hc.2⟩
        exact List.dropWhile_subset _ hc.1
    · exact mem_foldIllegal h

theorem mem_hugDots {pending : Nat} {afterDot : Bool} {cs : List Char} {c : Char}
    (h : c ∈ hugDots pending afterDot cs) : c = '_' ∨ c ∈ cs := by
  induction cs generalizing pending afterDot with
  | nil => exact .inl (List.eq_of_mem_replicate h)
  | cons d cs ih =>
    have hrest : ∀ {n b}, c ∈ hugDots n b cs → c = '_' ∨ c ∈ d :: cs := by
      intro n b hc
      exact (ih hc).imp id (List.mem_cons_of_mem d)
    rw [hugDots] at h
    split at h
    · split at h
      · exact hrest h
      · exact hrest h
    split at h
    · rename_i hdot
      rcases List.mem_cons.1 h with rfl | h
      · rw [beq_iff_eq.1 hdot]
        exact .inr List.mem_cons_self
      · exact hrest h
    · rcases List.mem_append.1 h with h | h
      · exact .inl (List.eq_of_mem_replicate h)
      · rcases List.mem_cons.1 h with rfl | h
        · exact .inr List.mem_cons_self
        · exact hrest h

theorem head?_hugDots_afterDot (cs : List Char) : (hugDots 0 true cs).head? ≠ some '_' := by
  induction cs with
  | nil => exact nofun
  | cons c cs ih =>
    rw [hugDots]
    split
    · exact ih
    rename_i hunder
    split
    · rw [List.head?_cons]
      decide
    · intro h
      exact hunder (beq_iff_eq.2 (Option.some.inj h))

theorem isChain_replicate_append {n : Nat} {cs : List Char} (h : cs.IsChain Clear)
    (hdot : cs.head? ≠ some '.') : (List.replicate n '_' ++ cs).IsChain Clear := by
  induction n with
  | zero => exact h
  | succ n ih =>
    rw [List.replicate_succ, List.cons_append, List.isChain_cons]
    refine ⟨fun d hd => ?_, ih⟩
    constructor
    · rintro ⟨-, rfl⟩
      cases n with
      | zero => exact hdot hd
      | succ n => cases Option.some.inj hd
    · rintro ⟨hunder, -⟩
      cases hunder

/-- What is pending has not been written, so a dot that is just behind keeps nothing pending. -/
theorem isChain_hugDots {pending : Nat} {afterDot : Bool} (hpending : afterDot → pending = 0)
    (cs : List Char) : (hugDots pending afterDot cs).IsChain Clear := by
  induction cs generalizing pending afterDot with
  | nil =>
    have h : (List.replicate pending '_' ++ []).IsChain Clear :=
      isChain_replicate_append List.isChain_nil nofun
    rwa [List.append_nil] at h
  | cons c cs ih =>
    rw [hugDots]
    split
    · split
      · rename_i hafter
        exact ih fun _ => hpending hafter
      · exact ih nofun
    rename_i hunder
    rw [beq_iff_eq] at hunder
    split
    · rename_i hdot
      rw [List.isChain_cons]
      refine ⟨fun d hd => ⟨nofun, ?_⟩, ih fun _ => rfl⟩
      rintro ⟨-, rfl⟩
      exact head?_hugDots_afterDot cs hd
    · rename_i hdot
      rw [beq_iff_eq] at hdot
      apply isChain_replicate_append
      · rw [List.isChain_cons]
        exact ⟨fun d _ => ⟨fun h => hunder h.1, fun h => hdot h.1⟩, ih nofun⟩
      · intro h
        exact hdot (Option.some.inj h)

theorem trimUnderscores_eq (cs : List Char) :
    trimUnderscores cs = (cs.dropWhile (· == '_')).rdropWhile (· == '_') := rfl

theorem trimUnderscores_isInfix (cs : List Char) : trimUnderscores cs <:+: cs := by
  rw [trimUnderscores_eq]
  have hfront := List.rdropWhile_prefix (· == '_') (cs.dropWhile (· == '_'))
  exact hfront.isInfix.trans (List.dropWhile_suffix _).isInfix

theorem rdropWhile_append_cons {c : Char} (hc : (c == '_') = false) (front cs : List Char) :
    (front ++ c :: cs).rdropWhile (· == '_') = front ++ c :: cs.rdropWhile (· == '_') := by
  induction cs using List.reverseRecOn with
  | nil => rw [List.rdropWhile_concat, hc, if_neg Bool.false_ne_true, List.rdropWhile_nil]
  | append_singleton cs d ih =>
    have happend : front ++ c :: (cs ++ [d]) = (front ++ c :: cs) ++ [d] := by simp
    rw [happend, List.rdropWhile_concat, List.rdropWhile_concat, ih]
    split
    · rfl
    · rw [happend]

/-! ## The form of a normalised name -/

theorem isPlain_of_settled {c : Char} (hsettled : Text.Settled c) (hc : isNameChar c) :
    isSmall c || isDigit c || c == '_' || c == '.' := by
  rwa [isNameChar, isLetter, isCapital_of_settled hsettled, Bool.false_or] at hc

theorem head?_trimUnderscores (cs : List Char) :
    (trimUnderscores cs).head? = (cs.dropWhile (· == '_')).head? := by
  have hfirst := List.head?_dropWhile_not (· == '_') cs
  rw [trimUnderscores_eq]
  cases hdropped : cs.dropWhile (· == '_') with
  | nil => rfl
  | cons c rest =>
    rw [hdropped] at hfirst
    have hc : (c == '_') = false := by simpa using hfirst
    have hkept := rdropWhile_append_cons hc [] rest
    rw [List.nil_append, List.nil_append] at hkept
    rw [hkept, List.head?_cons, List.head?_cons]

/-- A normalized name is normal, whatever it was made of. -/
theorem normal_normalizeChars (cs : List Char) : Normal (normalizeChars cs) := by
  have hpart := trimUnderscores_isInfix (hugDots 0 false (replaceIllegal (snakeChars cs)))
  constructor
  · intro c hc
    rcases mem_hugDots (hpart.subset hc) with rfl | hc
    · decide
    rcases mem_replaceIllegal hc with rfl | ⟨hc, hname⟩
    · decide
    · exact isPlain_of_settled (settled_of_mem_snakeChars hc) hname
  · rw [normalizeChars, head?_trimUnderscores]
    intro h
    have hnot := List.head?_dropWhile_not (· == '_')
      (hugDots 0 false (replaceIllegal (snakeChars cs)))
    rw [h] at hnot
    cases hnot
  · intro h
    obtain ⟨hne, hlast⟩ := List.mem_getLast?_eq_getLast h
    have hnot := List.rdropWhile_last_not _ _ hne
    exact hnot (beq_iff_eq.2 hlast.symm)
  · have hchain : (hugDots 0 false (replaceIllegal (snakeChars cs))).IsChain Clear :=
      isChain_hugDots (fun _ => rfl) _
    exact List.IsChain.infix hchain hpart

/-! ## Names that stay as they are -/

theorem settled_of_isPlain {c : Char} (h : isSmall c || isDigit c || c == '_' || c == '.') :
    Text.Settled c := by
  have hall : ∀ n < 0x80,
      (isSmall (Char.ofNat n) || isDigit (Char.ofNat n) || Char.ofNat n == '_' ||
        Char.ofNat n == '.') → Text.Settled (Char.ofNat n) := by decide
  have hascii : c.toNat < 0x80 := by
    simp only [Bool.or_eq_true, beq_iff_eq] at h
    rcases h with ((hsmall | hdigit) | rfl) | rfl
    · have hrange := isSmall_iff.1 hsmall
      omega
    · have hrange := isDigit_iff.1 hdigit
      omega
    · decide
    · decide
  rw [← Char.ofNat_toNat c] at h ⊢
  exact hall c.toNat hascii h

theorem isNameChar_of_isPlain {c : Char} (h : isSmall c || isDigit c || c == '_' || c == '.') :
    isNameChar c := by
  rw [isNameChar, isLetter, Bool.or_assoc, Bool.or_assoc, Bool.or_assoc]
  rw [Bool.or_assoc, Bool.or_assoc] at h
  rw [h, Bool.or_true]

theorem snakeChars_of_settled {cs : List Char} (h : ∀ c ∈ cs, Text.Settled c) :
    snakeChars cs = cs := by
  rw [snakeChars_eq, cutAll_of_no_capital fun c hc => isCapital_of_settled (h c hc),
    Text.lowerChars_of_settled h]

theorem foldIllegal_of_isNameChar {cs : List Char} (h : ∀ c ∈ cs, isNameChar c) (inRun : Bool) :
    foldIllegal inRun cs = cs := by
  induction cs generalizing inRun with
  | nil => rfl
  | cons c cs ih =>
    rw [foldIllegal, if_pos (h c List.mem_cons_self),
      ih fun d hd => h d (List.mem_cons_of_mem c hd)]

/-- Pending underscores are written before the next character unless that is a dot. -/
theorem hugDots_of_isChain {cs : List Char} :
    (∀ n, (List.replicate n '_' ++ cs).IsChain Clear →
      hugDots n false cs = List.replicate n '_' ++ cs) ∧
    (('.' :: cs).IsChain Clear → hugDots 0 true cs = cs) := by
  induction cs with
  | nil => exact ⟨fun n _ => by rw [hugDots, List.append_nil], fun _ => rfl⟩
  | cons c cs ih =>
    obtain ⟨hpending, hdotted⟩ := ih
    by_cases hunder : c = '_'
    · subst hunder
      constructor
      · intro n hchain
        have happend : List.replicate n '_' ++ '_' :: cs = List.replicate (n + 1) '_' ++ cs := by
          rw [List.replicate_succ', List.append_assoc, List.singleton_append]
        rw [happend] at hchain ⊢
        exact hpending (n + 1) hchain
      · intro hchain
        rw [List.isChain_cons] at hchain
        exact absurd ⟨rfl, rfl⟩ (hchain.1 '_' rfl).2
    by_cases hdot : c = '.'
    · subst hdot
      constructor
      · intro n hchain
        cases n with
        | zero => exact congrArg ('.' :: ·) (hdotted hchain)
        | succ n =>
          rw [List.replicate_succ', List.append_assoc, List.singleton_append] at hchain
          have hneighbours := (List.isChain_append_cons_cons.1 hchain).2.1
          exact absurd ⟨rfl, rfl⟩ hneighbours.1
      · intro hchain
        exact congrArg ('.' :: ·) (hdotted (List.isChain_cons.1 hchain).2)
    · have hstep : ∀ n b,
          hugDots n b (c :: cs) = List.replicate n '_' ++ c :: hugDots 0 false cs := by
        intro n b
        rw [hugDots, if_neg (mt beq_iff_eq.1 hunder), if_neg (mt beq_iff_eq.1 hdot)]
      have hplain : (c :: cs).IsChain Clear → hugDots 0 false cs = cs := fun hchain =>
        hpending 0 (List.isChain_cons.1 hchain).2
      constructor
      · intro n hchain
        rw [hstep, hplain hchain.right_of_append]
      · intro hchain
        rw [hstep, hplain (List.isChain_cons.1 hchain).2]
        rfl

theorem trimUnderscores_of_ends {cs : List Char} (hfirst : cs.head? ≠ some '_')
    (hlast : cs.getLast? ≠ some '_') : trimUnderscores cs = cs := by
  have hleft : cs.dropWhile (· == '_') = cs := by
    cases cs with
    | nil => rfl
    | cons c cs =>
      have hc : ¬(c == '_') := fun h => hfirst (congrArg some (beq_iff_eq.1 h))
      rw [List.dropWhile_cons, if_neg hc]
  rw [trimUnderscores_eq, hleft, List.rdropWhile_eq_self_iff]
  intro hne h
  apply hlast
  rw [List.getLast?_eq_some_getLast hne]
  exact congrArg some (beq_iff_eq.1 h)

theorem replaceIllegal_of_isLetter {c : Char} (hc : isLetter c) (cs : List Char) :
    replaceIllegal (c :: cs) = foldIllegal false (c :: cs) := by
  rw [replaceIllegal, hc, Bool.not_true, Bool.and_false, if_neg Bool.false_ne_true]

/-- Normalising drops a start that is no letter, and leaves a normalised name otherwise. -/
theorem Normal.normalizeChars_eq {cs : List Char} (h : Normal cs)
    (hletter : cs.head?.all isLetter) : normalizeChars cs = cs := by
  have hsnake := snakeChars_of_settled fun c hc => settled_of_isPlain (h.chars c hc)
  have hlegal : replaceIllegal cs = cs := by
    have hfold := foldIllegal_of_isNameChar (fun c hc => isNameChar_of_isPlain (h.chars c hc)) false
    cases cs with
    | nil => rfl
    | cons c cs =>
      have hc : isLetter c := by simpa using hletter
      rw [replaceIllegal_of_isLetter hc, hfold]
  have hhugged : hugDots 0 false cs = cs := hugDots_of_isChain.1 0 h.apart
  rw [normalizeChars, hsnake, hlegal, hhugged, trimUnderscores_of_ends h.first h.last]

/-! ## The first character -/

theorem isNameChar_of_isLetter {c : Char} (hc : isLetter c) : isNameChar c := by
  rw [isNameChar, hc]
  rfl

theorem beq_underscore_of_isLetter {c : Char} (hc : isLetter c) : (c == '_') = false := by
  rw [beq_eq_false_iff_ne]
  rintro rfl
  exact absurd hc (by decide)

theorem head?_dropWhile_foldIllegal (inRun : Bool) (cs : List Char) :
    ((foldIllegal inRun cs).dropWhile (· == '_')).head? = (cs.dropWhile isFiller).head? := by
  induction cs generalizing inRun with
  | nil => rfl
  | cons c cs ih =>
    rw [foldIllegal, List.dropWhile_cons, isFiller]
    by_cases hc : isNameChar c
    · rw [if_pos hc, hc, Bool.not_true, Bool.false_or, List.dropWhile_cons]
      split
      · exact ih false
      · rfl
    · have hdropped : (!isNameChar c || c == '_') = true := by simp [hc]
      rw [if_neg hc, if_pos hdropped]
      split
      · exact ih true
      · rw [List.dropWhile_cons, if_pos (beq_self_eq_true '_')]
        exact ih true

theorem dropWhile_replicate_append (n : Nat) (cs : List Char) :
    (List.replicate n '_' ++ cs).dropWhile (· == '_') = cs.dropWhile (· == '_') := by
  rw [List.dropWhile_append_of_pos]
  intro c hc
  rw [List.eq_of_mem_replicate hc]
  rfl

theorem head?_dropWhile_hugDots (pending : Nat) (afterDot : Bool) (cs : List Char) :
    ((hugDots pending afterDot cs).dropWhile (· == '_')).head? =
      (cs.dropWhile (· == '_')).head? := by
  induction cs generalizing pending afterDot with
  | nil =>
    have hdropped := dropWhile_replicate_append pending []
    rw [List.append_nil] at hdropped
    rw [hugDots, hdropped]
  | cons c cs ih =>
    rw [hugDots, List.dropWhile_cons]
    by_cases hunder : c == '_'
    · rw [if_pos hunder, if_pos hunder]
      split
      · exact ih pending true
      · exact ih (pending + 1) false
    rw [if_neg hunder, if_neg hunder]
    split
    · rename_i hdot
      rw [beq_iff_eq.1 hdot]
      rfl
    · rw [dropWhile_replicate_append, List.dropWhile_cons, if_neg hunder]
      rfl

theorem head?_normalizeChars_eq (cs : List Char) :
    (normalizeChars cs).head? = ((replaceIllegal (snakeChars cs)).dropWhile (· == '_')).head? := by
  rw [normalizeChars, head?_trimUnderscores, head?_dropWhile_hugDots]

theorem head?_dropWhile_all {p : Char → Bool} (cs : List Char) :
    (cs.dropWhile (!p ·)).head?.all p := by
  have h := List.head?_dropWhile_not (!p ·) cs
  cases hhead : (cs.dropWhile (!p ·)).head? with
  | none => rfl
  | some c =>
    rw [hhead] at h
    simpa using h

/-- All that comes before the first letter is dropped, if it starts with a character that may stand
in a name. -/
theorem head?_normalizeChars_of_isNameChar {cs rest : List Char} {c : Char}
    (hsnake : snakeChars cs = c :: rest) (hc : isNameChar c) :
    (normalizeChars cs).head? = ((c :: rest).dropWhile (!isLetter ·)).head? := by
  rw [head?_normalizeChars_eq, hsnake]
  by_cases hletter : isLetter c
  · rw [replaceIllegal_of_isLetter hletter, head?_dropWhile_foldIllegal, List.dropWhile_cons,
      List.dropWhile_cons, isFiller, beq_underscore_of_isLetter hletter, hc, hletter]
    rfl
  · have hfolded : replaceIllegal (c :: rest) =
        '_' :: foldIllegal false (rest.dropWhile (!isLetter ·)) := by
      rw [replaceIllegal, hc, Bool.eq_false_iff.2 hletter]
      rfl
    have hdropped : (!isLetter c) = true := by rw [Bool.eq_false_iff.2 hletter]; rfl
    rw [hfolded, List.dropWhile_cons, if_pos (beq_self_eq_true '_'), head?_dropWhile_foldIllegal,
      List.dropWhile_cons, if_pos hdropped]
    have hall := head?_dropWhile_all (p := isLetter) rest
    cases hrest : rest.dropWhile (!isLetter ·) with
    | nil => rfl
    | cons d ds =>
      rw [hrest] at hall
      have hd : isLetter d := by simpa using hall
      rw [List.dropWhile_cons, isFiller, beq_underscore_of_isLetter hd, isNameChar_of_isLetter hd]
      rfl

theorem head?_normalizeChars_of_isLetter {cs rest : List Char} {c : Char}
    (hsnake : snakeChars cs = c :: rest) (hc : isLetter c) :
    (normalizeChars cs).head? = some c := by
  rw [head?_normalizeChars_of_isNameChar hsnake (isNameChar_of_isLetter hc), List.dropWhile_cons,
    hc]
  rfl

/-- It starts with a letter exactly if the name did, ahead of everything that is trimmed. -/
theorem head?_normalizeChars_all_iff (cs : List Char) :
    (normalizeChars cs).head?.all isLetter ↔ LettersFirst (snakeChars cs) := by
  cases hsnake : snakeChars cs with
  | nil =>
    rw [head?_normalizeChars_eq, hsnake]
    exact ⟨fun _ => .inl rfl, fun _ => rfl⟩
  | cons c rest =>
    rw [LettersFirst, List.head?_cons, Option.all_some]
    by_cases hc : isNameChar c
    · rw [head?_normalizeChars_of_isNameChar hsnake hc]
      exact ⟨fun _ => .inl hc, fun _ => head?_dropWhile_all (c :: rest)⟩
    · have hfolded : replaceIllegal (c :: rest) = foldIllegal false (c :: rest) := by
        rw [replaceIllegal, Bool.eq_false_iff.2 hc]
        rfl
      rw [head?_normalizeChars_eq, hsnake, hfolded, head?_dropWhile_foldIllegal]
      exact ⟨.inr, fun h => h.resolve_left hc⟩

/-- Whether a character is a letter that is its own lower-case form. -/
structure Leads (c : Char) : Prop where
  letter : isLetter c
  lower : ∀ after, Text.lowerAt [] c after = [c]

/-- A normalised name starts with the letter that the name starts with. -/
theorem Leads.normalize_cons {c : Char} (h : Leads c) {name : String} {cs : List Char}
    (hname : name.toList = c :: cs) : ∃ rest, (normalize name).toList = c :: rest := by
  have hsnake : snakeChars (c :: cs) = c :: Text.lowerFrom [c] (cutBehind c cs) := by
    rw [snakeChars_eq, cutAll, Text.lowerChars, Text.lowerFrom, h.lower, List.singleton_append]
  rw [normalize, String.toList_ofList, hname, ← List.head?_eq_some_iff]
  exact head?_normalizeChars_of_isLetter hsnake h.letter

theorem Normal.normalizeChars_eq_iff {cs : List Char} (h : Normal cs) :
    normalizeChars cs = cs ↔ cs.head?.all isLetter := by
  refine ⟨fun heq => ?_, h.normalizeChars_eq⟩
  have hsnake := snakeChars_of_settled fun c hc => settled_of_isPlain (h.chars c hc)
  cases cs with
  | nil => rfl
  | cons c rest =>
    have hc := isNameChar_of_isPlain (h.chars c List.mem_cons_self)
    rw [← heq, head?_normalizeChars_of_isNameChar hsnake hc]
    exact head?_dropWhile_all (c :: rest)

theorem all_head?_iff {p : Char → Bool} (s : String) :
    s.toList.head?.all p ↔ s = "" ∨ s.toList.head?.any p := by
  rw [← String.toList_eq_nil_iff]
  cases s.toList with
  | nil => exact ⟨fun _ => .inl rfl, fun _ => rfl⟩
  | cons c cs => simp

/-- A normalised name starts with a letter, if with anything, exactly if the name in snake case has
its letters first, and these are the names that are normalised after one pass. -/
theorem normalize_lettersFirst_iff (name : String) :
    (normalize name = "" ∨ (normalize name).toList.head?.any isLetter ↔
        LettersFirst (camelToSnake name).toList) ∧
      (normalize (normalize name) = normalize name ↔
        LettersFirst (camelToSnake name).toList) := by
  have hhead := head?_normalizeChars_all_iff name.toList
  constructor
  · rw [← all_head?_iff, normalize, camelToSnake, String.toList_ofList, String.toList_ofList]
    exact hhead
  · have hnormal := normal_normalizeChars name.toList
    rw [normalize, normalize, camelToSnake, String.toList_ofList, String.toList_ofList, ← hhead,
      ← hnormal.normalizeChars_eq_iff, String.ofList_inj]

/-- A sign is replaced alone, so the digit behind it stays, and only a second pass drops it. -/
theorem normalize_signed :
    normalize "-1st" = "1st" ∧ normalize (normalize "-1st") = "st" ∧
      ¬(normalize "-1st" = "" ∨ (normalize "-1st").toList.head?.any isLetter) := by
  decide

end BeanGauge.Metric
