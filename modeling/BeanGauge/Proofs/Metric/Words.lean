import BeanGauge.Metric.Name
import BeanGauge.Proofs.Text.Case
import Mathlib.Data.List.Basic
/-!
# The words of a metric name

A camel-case name is cut twice, first before capitalised words and then before capitals, and each
pass goes on behind what it has just cut. Both together cut exactly where a word starts, which is
told by the characters next to a capital. A name in snake case has no capital, so it is not cut.
-/

namespace BeanGauge.Metric

/-- Whether a word starts at a place in a name: at a capital that follows a small letter or a digit,
or any character of its line if a small letter follows it. -/
def StartsWord (cs : List Char) (i : Nat) : Prop :=
  0 < i ∧ cs[i]?.any isCapital ∧
    (cs[i - 1]?.any (fun c => isSmall c || isDigit c) ∨
      cs[i - 1]?.any (· != '\n') ∧ cs[i + 1]?.any isSmall)

instance (cs : List Char) (i : Nat) : Decidable (StartsWord cs i) :=
  inferInstanceAs (Decidable (_ ∧ _))

/-- The name with an underscore before each start of a word. -/
def wordCut (cs : List Char) : List Char :=
  cs.zipIdx.flatMap fun p => if StartsWord cs p.2 then ['_', p.1] else [p.1]

/-- Whether a word starts at a character behind `x`. -/
def cutsBehind (x c : Char) (next : Option Char) : Bool :=
  isCapital c && (isSmall x || isDigit x || (x != '\n' && next.any isSmall))

/-- What follows `x` with an underscore before each start of a word. -/
def cutBehind (x : Char) : List Char → List Char
  | [] => []
  | c :: cs => (if cutsBehind x c cs.head? then ['_', c] else [c]) ++ cutBehind c cs

/-- A name with an underscore before each start of a word; none starts at its first character. -/
def cutAll : List Char → List Char
  | [] => []
  | c :: cs => c :: cutBehind c cs

theorem cutWords_cons (inWord : Bool) (c : Char) (cs : List Char) :
    ∃ rest, cutWords inWord (c :: cs) = c :: rest := by
  unfold cutWords
  split
  · rename_i heq
    rw [List.cons.injEq] at heq
    rw [heq.1]
    split
    · exact ⟨_, rfl⟩
    split
    · exact ⟨_, rfl⟩
    · exact ⟨_, rfl⟩
  · exact ⟨cs, rfl⟩

theorem isCapital_iff {c : Char} : isCapital c ↔ 65 ≤ c.toNat ∧ c.toNat ≤ 90 := by
  rw [isCapital, Bool.and_eq_true, decide_eq_true_eq, decide_eq_true_eq]
  rfl

theorem isSmall_iff {c : Char} : isSmall c ↔ 97 ≤ c.toNat ∧ c.toNat ≤ 122 := by
  rw [isSmall, Bool.and_eq_true, decide_eq_true_eq, decide_eq_true_eq]
  rfl

theorem isDigit_iff {c : Char} : isDigit c ↔ 48 ≤ c.toNat ∧ c.toNat ≤ 57 := by
  rw [isDigit, Bool.and_eq_true, decide_eq_true_eq, decide_eq_true_eq]
  rfl

theorem isCapital_of_isSmall {c : Char} (h : isSmall c) : isCapital c = false := by
  rw [Bool.eq_false_iff]
  intro hcapital
  have hsmall := isSmall_iff.1 h
  have hrange := isCapital_iff.1 hcapital
  omega

theorem small_or_digit_of_isCapital {c : Char} (h : isCapital c) :
    (isSmall c || isDigit c) = false := by
  have hrange := isCapital_iff.1 h
  have hsmall : isSmall c = false := by
    rw [Bool.eq_false_iff]
    intro hsmall
    have hrange' := isSmall_iff.1 hsmall
    omega
  have hdigit : isDigit c = false := by
    rw [Bool.eq_false_iff]
    intro hdigit
    have hrange' := isDigit_iff.1 hdigit
    omega
  rw [hsmall, hdigit, Bool.or_false]

theorem cutCapitals_cons_cons (x c : Char) (cs : List Char) :
    cutCapitals (x :: c :: cs) =
      x :: ((if (isSmall x || isDigit x) && isCapital c then ['_'] else []) ++
        cutCapitals (c :: cs)) := by
  rw [cutCapitals]
  split
  · rename_i h
    have hcapital : isCapital c := (Bool.and_eq_true _ _ ▸ h).2
    cases cs with
    | nil => rfl
    | cons d cs =>
      have hnot := small_or_digit_of_isCapital hcapital
      rw [cutCapitals.eq_1 c, hnot, Bool.false_and, if_neg Bool.false_ne_true]
      rfl
  · rfl

/-- The cuts go on behind `x`, unless the next character is cut off for the small one after it. -/
theorem cutCapitals_behind {x : Char} {inWord : Bool} {cs : List Char}
    (ih : cutCapitals (cutWords inWord cs) = cutAll cs)
    (hcut : ∀ c rest, cs = c :: rest →
      cutsBehind x c rest.head? = ((isSmall x || isDigit x) && isCapital c)) :
    cutCapitals (x :: cutWords inWord cs) = x :: cutBehind x cs := by
  cases cs with
  | nil => rfl
  | cons c cs =>
    obtain ⟨rest, hrest⟩ := cutWords_cons inWord c cs
    rw [hrest, cutCapitals_cons_cons, ← hrest, ih, cutAll, cutBehind, hcut c cs rfl]
    split
    · rfl
    · rfl

theorem cutsBehind_of_small {x : Char} (h : isSmall x) (c : Char) (next : Option Char) :
    cutsBehind x c next = ((isSmall x || isDigit x) && isCapital c) := by
  rw [cutsBehind, h, Bool.true_or, Bool.true_or, Bool.and_comm]

/-- Both cuts together cut at every start of a word and nowhere else. -/
theorem cutCapitals_cutWords (inWord : Bool) (cs : List Char) :
    cutCapitals (cutWords inWord cs) = cutAll cs := by
  fun_induction cutWords inWord cs with
  | case1 inWord x c l cs hword ih =>
    rw [Bool.and_eq_true] at hword
    exact cutCapitals_behind ih fun c rest _ => cutsBehind_of_small hword.2 c rest.head?
  | case2 inWord x c l cs hword hstart ih =>
    simp only [Bool.and_eq_true] at hstart
    obtain ⟨⟨hline, hcapital⟩, hsmall⟩ := hstart
    have hcut : cutsBehind x c (some l) := by
      rw [cutsBehind, hcapital, hline, Option.any_some, hsmall]
      simp
    have hnocut : cutsBehind c l cs.head? = false := by
      rw [cutsBehind, isCapital_of_isSmall hsmall, Bool.false_and]
    -- the second pass sees the underscore before `c`, so it does not cut there again
    have hsecond : cutCapitals (x :: '_' :: c :: l :: cutWords true cs) =
        x :: '_' :: c :: cutCapitals (l :: cutWords true cs) := by
      have hunder : isCapital '_' = false := by decide
      have hunder' : (isSmall '_' || isDigit '_') = false := by decide
      simp only [cutCapitals_cons_cons, hunder, hunder', small_or_digit_of_isCapital hcapital,
        Bool.and_false, Bool.false_and, if_neg Bool.false_ne_true, List.nil_append]
    have hrest := cutCapitals_behind ih fun c rest _ => cutsBehind_of_small hsmall c rest.head?
    rw [hsecond, hrest, cutAll, cutBehind, cutBehind, List.head?_cons, if_pos hcut, hnocut,
      if_neg Bool.false_ne_true]
    rfl
  | case3 inWord x c l cs hword hstart ih =>
    refine cutCapitals_behind ih fun c' rest heq => ?_
    obtain ⟨rfl, rfl⟩ := List.cons.inj heq
    rw [List.head?_cons, cutsBehind, Option.any_some]
    cases hcapital : isCapital c with
    | false => simp
    | true =>
      have hnot : (x != '\n' && isSmall l) = false := by
        simpa [hcapital] using hstart
      rw [hnot, Bool.or_false, Bool.true_and, Bool.and_true]
  | case4 inWord cs hshort =>
    match cs with
    | [] => rfl
    | [x] => rfl
    | [x, c] =>
      have hlast : cutCapitals (cutWords inWord [c]) = cutAll [c] := rfl
      refine cutCapitals_behind hlast fun c' rest heq => ?_
      obtain ⟨rfl, rfl⟩ := List.cons.inj heq
      rw [List.head?_nil, cutsBehind, Option.any_none, Bool.and_false, Bool.or_false,
        Bool.and_comm]
    | x :: c :: l :: cs => exact absurd rfl (hshort x c l cs)

/-- Where a word starts can be seen from a character, the one before and the one behind. -/
theorem startsWord_iff (before : List Char) (x c : Char) (cs : List Char) :
    StartsWord (before ++ x :: c :: cs) (before.length + 1) ↔ cutsBehind x c cs.head? := by
  have hhere : (before ++ x :: c :: cs)[before.length + 1]? = some c := by simp
  have hleft : (before ++ x :: c :: cs)[before.length + 1 - 1]? = some x := by simp
  have hright : (before ++ x :: c :: cs)[before.length + 1 + 1]? = cs.head? := by
    have hoffset : before.length + 1 + 1 - before.length = 2 := by omega
    rw [List.getElem?_append_right (by omega), hoffset, List.head?_eq_getElem?]
    rfl
  rw [StartsWord, hhere, hleft, hright, cutsBehind]
  simp

/-- So the words can be cut place by place. -/
theorem flatMap_cutBehind (before : List Char) (x : Char) (cs : List Char) :
    ((cs.zipIdx (before.length + 1)).flatMap fun p =>
      if StartsWord (before ++ x :: cs) p.2 then ['_', p.1] else [p.1]) = cutBehind x cs := by
  induction cs generalizing before x with
  | nil => rfl
  | cons c cs ih =>
    have hnext := ih (before ++ [x]) c
    rw [List.length_append, List.length_singleton, List.append_assoc, List.singleton_append]
      at hnext
    rw [List.zipIdx_cons, List.flatMap_cons, hnext, cutBehind]
    simp only [startsWord_iff]

/-- A word starts where the characters around say so. -/
theorem wordCut_eq_cutAll (cs : List Char) : wordCut cs = cutAll cs := by
  cases cs with
  | nil => rfl
  | cons c cs =>
    have hfirst : ¬StartsWord (c :: cs) 0 := fun h => absurd h.1 (Nat.lt_irrefl 0)
    have hrest := flatMap_cutBehind [] c cs
    rw [wordCut, List.zipIdx_cons, List.flatMap_cons, if_neg hfirst]
    exact congrArg (c :: ·) hrest

theorem cutBehind_of_no_capital {x : Char} {cs : List Char}
    (h : ∀ c ∈ cs, isCapital c = false) : cutBehind x cs = cs := by
  induction cs generalizing x with
  | nil => rfl
  | cons c cs ih =>
    rw [cutBehind, cutsBehind, h c List.mem_cons_self, Bool.false_and, if_neg Bool.false_ne_true,
      ih fun d hd => h d (List.mem_cons_of_mem c hd)]
    rfl

theorem cutAll_of_no_capital {cs : List Char} (h : ∀ c ∈ cs, isCapital c = false) :
    cutAll cs = cs := by
  cases cs with
  | nil => rfl
  | cons c cs =>
    rw [cutAll, cutBehind_of_no_capital fun d hd => h d (List.mem_cons_of_mem c hd)]

/-- A capital has a small letter as its lower-case form. -/
theorem isCapital_of_settled {c : Char} (h : Text.Settled c) : isCapital c = false := by
  rw [Bool.eq_false_iff]
  intro hcapital
  obtain ⟨hfirst, hlast⟩ := isCapital_iff.1 hcapital
  have hall : ∀ n < 91, 65 ≤ n → ¬Text.Settled (Char.ofNat n) := by decide
  refine hall c.toNat (by omega) hfirst ?_
  rwa [Char.ofNat_toNat]

theorem snakeChars_eq (cs : List Char) : snakeChars cs = Text.lowerChars (cutAll cs) := by
  rw [snakeChars, cutCapitals_cutWords]

/-- Cutting words twice is cutting them once: there are no capitals left. -/
theorem snakeChars_snakeChars (cs : List Char) :
    snakeChars (snakeChars cs) = snakeChars cs := by
  have hsettled : ∀ c ∈ snakeChars cs, Text.Settled c := by
    rw [snakeChars_eq]
    exact Text.settled_of_mem_lowerChars
  rw [snakeChars_eq (snakeChars cs),
    cutAll_of_no_capital fun c hc => isCapital_of_settled (hsettled c hc),
    Text.lowerChars_of_settled hsettled]

/-- A name in snake case is the lower-case form of the name with an underscore before each start of
a word, and writing it in snake case again changes nothing. -/
theorem camelToSnake_eq_wordCut (name : String) :
    camelToSnake name = String.ofList (Text.lowerChars (wordCut name.toList)) ∧
      camelToSnake (camelToSnake name) = camelToSnake name := by
  constructor
  · rw [camelToSnake, snakeChars_eq, wordCut_eq_cutAll]
  · rw [camelToSnake, camelToSnake, String.toList_ofList, snakeChars_snakeChars]

example : camelToSnake "XMLHttp2Request" = "xml_http2_request" := by decide

end BeanGauge.Metric
