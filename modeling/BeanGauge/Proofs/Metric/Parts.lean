import BeanGauge.Proofs.Metric.Normal
import BeanGauge.Metric.Basic
/-!
# The parts of a metric name

A name of parts that start with letters is normalised part by part. Every pass looks over the dot in
front of a part, but what it does there comes to nothing. A word that starts behind a dot gets an
underscore in front, which the dot absorbs. A capital sigma in front of a dot has one of two
lower-case forms, and both are illegal. No other pass sees what is beyond a dot.
-/

namespace BeanGauge.Metric

def lowerAlone (c : Char) : List Char := Text.lowerAt [] c []

/-- A name after its illegal characters were replaced, for a name that starts with a letter. -/
def legalChars (cs : List Char) : List Char := foldIllegal false (snakeChars cs)

/-! ## Cuts -/

/-- A dot ends the words before it. -/
theorem cutBehind_append_dot (x : Char) (part rest : List Char) :
    cutBehind x (part ++ '.' :: rest) = cutBehind x part ++ '.' :: cutBehind '.' rest := by
  induction part generalizing x with
  | nil => rfl
  | cons c part ih =>
    have hnext : cutsBehind x c (part ++ '.' :: rest).head? = cutsBehind x c part.head? := by
      cases part with
      | nil =>
        have hsmall : isSmall '.' = false := by decide
        rw [List.nil_append, List.head?_cons, List.head?_nil, cutsBehind, cutsBehind,
          Option.any_some, Option.any_none, hsmall]
      | cons d part => rfl
    rw [List.cons_append, cutBehind, hnext, ih, cutBehind, List.append_assoc]

theorem cutBehind_dot (c : Char) (cs : List Char) :
    cutBehind '.' (c :: cs) = cutAll (c :: cs) ∨
      cutBehind '.' (c :: cs) = '_' :: cutAll (c :: cs) := by
  rw [cutBehind, cutAll]
  split
  · exact .inr rfl
  · exact .inl rfl

/-! ## Lower case and illegal characters -/

section

variable {c d : Char} {xs ys : List Char}

theorem foldIllegal_cons_congr (h : ∀ r, foldIllegal r xs = foldIllegal r ys) (inRun : Bool) :
    foldIllegal inRun (c :: xs) = foldIllegal inRun (c :: ys) := by
  rw [foldIllegal, foldIllegal, h false, h true]

theorem foldIllegal_cons_illegal (hc : isNameChar c = false) (hd : isNameChar d = false)
    (h : ∀ r, foldIllegal r xs = foldIllegal r ys) (inRun : Bool) :
    foldIllegal inRun (c :: xs) = foldIllegal inRun (d :: ys) := by
  rw [foldIllegal, foldIllegal, hc, hd, h true]
  rfl

end

/-- The lower-case form of a sigma depends on the characters around, but each form is illegal. -/
theorem foldIllegal_lowerFrom (inRun : Bool) (before cs : List Char) :
    foldIllegal inRun (Text.lowerFrom before cs) = foldIllegal inRun (cs.flatMap lowerAlone) := by
  induction cs generalizing inRun before with
  | nil => rfl
  | cons c cs ih =>
    have hrest : ∀ r, foldIllegal r (Text.lowerFrom (c :: before) cs) =
        foldIllegal r (cs.flatMap lowerAlone) := fun r => ih r (c :: before)
    rw [Text.lowerFrom, List.flatMap_cons, lowerAlone, Text.lowerAt, Text.lowerAt]
    split
    · exact foldIllegal_cons_congr (foldIllegal_cons_congr hrest) inRun
    split
    · split
      · exact foldIllegal_cons_illegal (by decide) (by decide) hrest inRun
      · exact foldIllegal_cons_congr hrest inRun
    · exact foldIllegal_cons_congr hrest inRun

theorem foldIllegal_append_dot (inRun : Bool) (xs ys : List Char) :
    foldIllegal inRun (xs ++ '.' :: ys) = foldIllegal inRun xs ++ '.' :: foldIllegal false ys := by
  induction xs generalizing inRun with
  | nil => rfl
  | cons x xs ih =>
    rw [List.cons_append, foldIllegal, foldIllegal]
    split
    · rw [ih]; rfl
    split
    · rw [ih]
    · rw [ih]; rfl

theorem legalChars_eq (cs : List Char) :
    legalChars cs = foldIllegal false ((cutAll cs).flatMap lowerAlone) := by
  rw [legalChars, snakeChars_eq, Text.lowerChars, foldIllegal_lowerFrom]

/-- The illegal characters of two parts are replaced apart; a word that starts at the second part
has an underscore in front. -/
theorem legalChars_append_dot (c d : Char) (part rest : List Char) :
    legalChars (c :: part ++ '.' :: d :: rest) =
        legalChars (c :: part) ++ '.' :: legalChars (d :: rest) ∨
      legalChars (c :: part ++ '.' :: d :: rest) =
        legalChars (c :: part) ++ '.' :: '_' :: legalChars (d :: rest) := by
  have hcut : cutAll (c :: part ++ '.' :: d :: rest) =
      cutAll (c :: part) ++ '.' :: cutBehind '.' (d :: rest) := by
    rw [List.cons_append, cutAll, cutBehind_append_dot]
    rfl
  have hdot : lowerAlone '.' = ['.'] := by decide
  have hunder : lowerAlone '_' = ['_'] := by decide
  simp only [legalChars_eq, hcut]
  rcases cutBehind_dot d rest with hbehind | hbehind
  · left
    rw [hbehind, List.flatMap_append, List.flatMap_cons, hdot, List.singleton_append,
      foldIllegal_append_dot]
  · right
    rw [hbehind, List.flatMap_append, List.flatMap_cons, List.flatMap_cons, hdot, hunder,
      List.singleton_append, List.singleton_append, foldIllegal_append_dot]
    rfl

/-! ## Dots -/

theorem hugDots_append_dot {pending : Nat} {afterDot : Bool} (xs ys : List Char) :
    hugDots pending afterDot (xs ++ '.' :: ys) =
      (hugDots pending afterDot xs).rdropWhile (· == '_') ++ '.' :: hugDots 0 true ys := by
  induction xs generalizing pending afterDot with
  | nil =>
    have hdropped : (List.replicate pending '_').rdropWhile (· == '_') = [] := by
      rw [List.rdropWhile_eq_nil_iff]
      intro c hc
      exact beq_iff_eq.2 (List.eq_of_mem_replicate hc)
    rw [hugDots, hdropped]
    rfl
  | cons x xs ih =>
    rw [List.cons_append, hugDots, hugDots]
    split
    · split
      · exact ih
      · exact ih
    rename_i hunder
    split
    · have hkept := rdropWhile_append_cons (c := '.') (by decide) [] (hugDots 0 true xs)
      rw [List.nil_append, List.nil_append] at hkept
      rw [ih, hkept]
      rfl
    · rw [ih, rdropWhile_append_cons (Bool.eq_false_iff.2 hunder), List.append_assoc]
      rfl

/-! ## Parts -/

theorem lowerAt_of_isLetter {c : Char} (hc : isLetter c) :
    ∃ l, isSmall l ∧ ∀ before after, Text.lowerAt before c after = [l] := by
  have hall : ∀ n < 0x80, isLetter (Char.ofNat n) →
      isSmall (Text.lowerOne (Char.ofNat n)) ∧ Char.ofNat n ≠ '\u0130' ∧
        Char.ofNat n ≠ '\u03a3' := by decide
  have hascii : c.toNat < 0x80 := by
    rw [isLetter, Bool.or_eq_true] at hc
    rcases hc with hcapital | hsmall
    · have hrange := isCapital_iff.1 hcapital
      omega
    · have hrange := isSmall_iff.1 hsmall
      omega
  have hletter := hall c.toNat hascii
  rw [Char.ofNat_toNat] at hletter
  obtain ⟨hsmall, hdotted, hsigma⟩ := hletter hc
  refine ⟨Text.lowerOne c, hsmall, fun before after => ?_⟩
  rw [Text.lowerAt, if_neg (mt beq_iff_eq.1 hdotted), if_neg (mt beq_iff_eq.1 hsigma)]

theorem snakeChars_of_isLetter {c : Char} (hc : isLetter c) (cs : List Char) :
    ∃ l rest, isSmall l ∧ snakeChars (c :: cs) = l :: rest := by
  obtain ⟨l, hsmall, hlower⟩ := lowerAt_of_isLetter hc
  refine ⟨l, Text.lowerFrom [c] (cutBehind c cs), hsmall, ?_⟩
  rw [snakeChars_eq, cutAll, Text.lowerChars, Text.lowerFrom, hlower, List.singleton_append]

theorem isLetter_of_isSmall {c : Char} (h : isSmall c) : isLetter c := by
  rw [isLetter, h, Bool.or_true]

theorem legalChars_of_isLetter {c : Char} (hc : isLetter c) (cs : List Char) :
    ∃ l rest, isSmall l ∧ legalChars (c :: cs) = l :: rest := by
  obtain ⟨l, rest, hsmall, hsnake⟩ := snakeChars_of_isLetter hc cs
  have hname := isNameChar_of_isLetter (isLetter_of_isSmall hsmall)
  refine ⟨l, foldIllegal false rest, hsmall, ?_⟩
  rw [legalChars, hsnake, foldIllegal, if_pos hname]

theorem hugDots_of_isSmall {l : Char} (hl : isSmall l) (afterDot : Bool) (rest : List Char) :
    hugDots 0 afterDot (l :: rest) = l :: hugDots 0 false rest := by
  have hunder := beq_underscore_of_isLetter (isLetter_of_isSmall hl)
  have hdot : (l == '.') = false := by
    rw [beq_eq_false_iff_ne]
    rintro rfl
    exact absurd hl (by decide)
  rw [hugDots, hunder, hdot]
  rfl

theorem normalizeChars_of_isLetter {c : Char} (hc : isLetter c) (cs : List Char) :
    normalizeChars (c :: cs) =
      (hugDots 0 false (legalChars (c :: cs))).rdropWhile (· == '_') := by
  obtain ⟨l, rest, hsmall, hsnake⟩ := snakeChars_of_isLetter hc cs
  obtain ⟨l', rest', hsmall', hlegal⟩ := legalChars_of_isLetter hc cs
  have hreplaced : replaceIllegal (snakeChars (c :: cs)) = legalChars (c :: cs) := by
    rw [legalChars, hsnake, replaceIllegal_of_isLetter (isLetter_of_isSmall hsmall)]
  have hunder := beq_underscore_of_isLetter (isLetter_of_isSmall hsmall')
  rw [normalizeChars, hreplaced, hlegal, hugDots_of_isSmall hsmall', trimUnderscores_eq,
    List.dropWhile_cons, hunder, if_neg Bool.false_ne_true]

theorem head?_normalizeChars_isSmall {cs : List Char} (h : cs.head?.any isLetter) :
    (normalizeChars cs).head?.any isSmall := by
  cases cs with
  | nil => cases h
  | cons c cs =>
    obtain ⟨l, rest, hsmall, hsnake⟩ := snakeChars_of_isLetter h cs
    rw [head?_normalizeChars_of_isLetter hsnake (isLetter_of_isSmall hsmall)]
    exact hsmall

/-- A part that starts with a letter is normalised apart from what comes before the dot. -/
theorem normalizeChars_append_dot {cs ds : List Char} (hcs : cs.head?.any isLetter)
    (hds : ds.head?.any isLetter) :
    normalizeChars (cs ++ '.' :: ds) = normalizeChars cs ++ '.' :: normalizeChars ds := by
  cases cs with
  | nil => cases hcs
  | cons c part =>
    cases ds with
    | nil => cases hds
    | cons d rest =>
      obtain ⟨l, legal, hsmall, hlegal⟩ := legalChars_of_isLetter hds rest
      have hafter : hugDots 0 true (legalChars (d :: rest)) =
          hugDots 0 false (legalChars (d :: rest)) := by
        rw [hlegal, hugDots_of_isSmall hsmall, hugDots_of_isSmall hsmall]
      have hwhole : hugDots 0 false (legalChars (c :: part ++ '.' :: d :: rest)) =
          (hugDots 0 false (legalChars (c :: part))).rdropWhile (· == '_') ++
            '.' :: hugDots 0 false (legalChars (d :: rest)) := by
        -- the dot absorbs an underscore behind it
        rcases legalChars_append_dot c d part rest with hjoined | hjoined
        · rw [hjoined, hugDots_append_dot, hafter]
        · rw [hjoined, hugDots_append_dot, ← hafter]
          rfl
      have hdot : ('.' == '_') = false := by decide
      rw [normalizeChars_of_isLetter hds]
      rw [List.cons_append, normalizeChars_of_isLetter hcs, ← List.cons_append, hwhole,
        normalizeChars_of_isLetter hcs, rdropWhile_append_cons hdot]

theorem any_head?_append {s : String} {p : Char → Bool} (h : s.toList.head?.any p) (t : String) :
    (s ++ t).toList.head?.any p := by
  rw [String.toList_append]
  cases hs : s.toList with
  | nil =>
    rw [hs] at h
    cases h
  | cons c cs =>
    rw [hs] at h
    exact h

/-- Parts that start with a letter are normalized on their own. -/
theorem normalize_append_dot {s t : String} (hs : s.toList.head?.any isLetter)
    (ht : t.toList.head?.any isLetter) :
    normalize (s ++ "." ++ t) = normalize s ++ "." ++ normalize t := by
  have hdot : ".".toList = ['.'] := by decide
  apply String.toList_inj.1
  simp only [normalize, String.toList_ofList, String.toList_append, hdot, List.append_assoc,
    List.singleton_append]
  exact normalizeChars_append_dot hs ht

/-- A name of three parts that start with letters is normalised part by part, and starts with a
small letter. The default name of a metric is such a name if its start, domain and leaf are such
parts. -/
theorem normalize_dotted (start domain leaf : String) (hstart : start.toList.head?.any isLetter)
    (hdomain : domain.toList.head?.any isLetter) (hleaf : leaf.toList.head?.any isLetter) :
    normalize (start ++ "." ++ domain ++ "." ++ leaf) =
        normalize start ++ "." ++ normalize domain ++ "." ++ normalize leaf ∧
      (normalize (start ++ "." ++ domain ++ "." ++ leaf)).toList.head?.any isSmall ∧
      Normal (normalize (start ++ "." ++ domain ++ "." ++ leaf)).toList ∧
      ∀ m : Metric, m.namePrefix = start → m.domain = domain → m.leaf = leaf →
        m.defaultName = normalize (start ++ "." ++ domain ++ "." ++ leaf) := by
  have hfront := any_head?_append (any_head?_append hstart ".") domain
  have hwhole := any_head?_append (any_head?_append hfront ".") leaf
  refine ⟨?_, ?_, ?_, ?_⟩
  · rw [normalize_append_dot hfront hleaf, normalize_append_dot hstart hdomain]
  · rw [normalize, String.toList_ofList]
    exact head?_normalizeChars_isSmall hwhole
  · rw [normalize, String.toList_ofList]
    exact normal_normalizeChars _
  · rintro m rfl rfl rfl
    rfl

/-- A sigma in front of a dot, underscores behind one, and words that start at a part. -/
theorem normalize_crossed :
    normalize ("jmx" ++ "." ++ "solr/CoreΣ.__" ++ "." ++ "XMLCache (Max)") =
      "jmx.solr__core..xml_cache__max" := by
  have h := normalize_dotted "jmx" "solr/CoreΣ.__" "XMLCache (Max)" (by decide) (by decide)
    (by decide)
  rw [h.1]
  decide +kernel

end BeanGauge.Metric
