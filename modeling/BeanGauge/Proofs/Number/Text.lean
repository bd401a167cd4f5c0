import BeanGauge.Number.Decimal
import BeanGauge.Number.Text
import Mathlib.Data.List.Basic
import Mathlib.Data.Nat.Digits.Defs
/-!
# The characters of numbers

Whatever style a number is written in, its text is not empty and has no blank, no line end and no
mark of punctuation but points and signs in it. The digits of a natural number are read as that
number, and do not start with zero unless it is zero.
-/

namespace BeanGauge.Number

/-- Whether a character may stand in the text of a number. -/
def isMark (c : Char) : Bool :=
  c.isDigit || ['+', '-', '.', 'e', 'N', 'a', 'I', 'i', 'n', 'f'].contains c

/-- Whether some characters may be the text of a number. -/
def IsNumeral (cs : List Char) : Prop := cs ≠ [] ∧ ∀ c ∈ cs, isMark c

variable {cs : List Char}

theorem IsNumeral.not_mem (h : IsNumeral cs) {c : Char} (hc : isMark c = false) : c ∉ cs := by
  intro hmem
  have hmark := h.2 c hmem
  rw [hc] at hmark
  cases hmark

theorem isNumeral_of_all (hne : cs ≠ []) (h : cs.all isMark) : IsNumeral cs :=
  ⟨hne, List.all_eq_true.1 h⟩

theorem isMark_of_mem_toDigits {n : Nat} {c : Char} (h : c ∈ Nat.toDigits 10 n) : isMark c := by
  have hdigit : c.isDigit = true := Nat.isDigit_of_mem_toDigits (by decide) (by decide) h
  rw [isMark, hdigit, Bool.true_or]

theorem isMark_of_mem_zeros {n : Nat} {c : Char} (h : c ∈ zeros n) : isMark c := by
  rw [List.eq_of_mem_replicate h]
  decide

theorem isNumeral_toDigits (n : Nat) : IsNumeral (Nat.toDigits 10 n) :=
  ⟨Nat.toDigits_ne_nil, fun _ => isMark_of_mem_toDigits⟩

theorem IsNumeral.cons {c : Char} (hc : isMark c) (h : ∀ d ∈ cs, isMark d) : IsNumeral (c :: cs) :=
  ⟨List.cons_ne_nil c cs, List.forall_mem_cons.2 ⟨hc, h⟩⟩

theorem isNumeral_natText (n : Nat) : IsNumeral (toString n).toList := by
  rw [Nat.toString_eq_repr, Nat.toList_repr]
  exact isNumeral_toDigits n

theorem isNumeral_intText (n : Int) : IsNumeral (toString n).toList := by
  rw [Int.toString_eq_repr, Int.repr_eq_if]
  split
  · rw [Nat.toList_repr]
    exact isNumeral_toDigits _
  · have hsign : "-".toList = ['-'] := by decide
    rw [String.toList_append, hsign, Nat.toList_repr]
    exact .cons (by decide) fun _ => isMark_of_mem_toDigits

theorem Decimal.isNumeral_plain (d : Decimal) (wholeMark : Bool) :
    IsNumeral (d.plain wholeMark) := by
  have hmark : ∀ c ∈ (if wholeMark then ['.', '0'] else []), isMark c := by
    cases wholeMark with
    | true => exact List.all_eq_true.1 (by decide)
    | false => exact List.forall_mem_nil _
  have hpoint : isMark '.' := by decide
  unfold plain
  dsimp only
  split
  · refine ⟨?_, ?_⟩
    · simp [Nat.toDigits_ne_nil]
    · simp only [List.mem_append]
      rintro c ((hc | hc) | hc)
      · exact isMark_of_mem_toDigits hc
      · exact isMark_of_mem_zeros hc
      · exact hmark c hc
  split
  · refine ⟨by simp, ?_⟩
    simp only [List.mem_append, List.mem_cons]
    rintro c (hc | rfl | hc)
    · exact isMark_of_mem_toDigits (List.mem_of_mem_take hc)
    · exact hpoint
    · exact isMark_of_mem_toDigits (List.mem_of_mem_drop hc)
  · refine .cons (by decide) (List.forall_mem_cons.2 ⟨hpoint, ?_⟩)
    intro c hc
    rcases List.mem_append.1 hc with hc | hc
    · exact isMark_of_mem_zeros hc
    · exact isMark_of_mem_toDigits hc

theorem Decimal.isNumeral_scientific (d : Decimal) {plusMark : String}
    (hplus : ∀ c ∈ plusMark.toList, isMark c) : IsNumeral (d.scientific plusMark) := by
  have hdigits := (isNumeral_toDigits d.digits).2
  unfold scientific
  dsimp only
  refine ⟨by simp, ?_⟩
  simp only [List.mem_append, List.mem_cons]
  rintro c (hc | rfl | hc)
  · split at hc
    · cases hc
    · rename_i hone
      rw [hone] at hdigits
      exact hdigits c hc
    · rename_i first rest _ hmany
      rw [hmany] at hdigits
      simp only [List.mem_cons] at hc
      rcases hc with rfl | rfl | hc
      · exact hdigits c List.mem_cons_self
      · decide
      · exact hdigits c (List.mem_cons_of_mem first hc)
  · decide
  · split at hc
    · rcases List.mem_cons.1 hc with rfl | hc
      · decide
      · exact isMark_of_mem_toDigits hc
    · rcases List.mem_append.1 hc with hc | hc
      · exact hplus c hc
      · exact isMark_of_mem_toDigits hc

/-- Whether a style has no other characters in its words and marks than numbers have. -/
structure Style.Sober (s : Style) : Prop where
  plusMark : ∀ c ∈ s.plusMark.toList, isMark c
  nan : IsNumeral s.nan.toList
  infinity : IsNumeral s.infinity.toList
  negativeInfinity : IsNumeral s.negativeInfinity.toList

theorem Style.Sober.magnitude {s : Style} (h : s.Sober) (mant : Nat) (exp : Int) :
    IsNumeral (s.magnitude mant exp) := by
  unfold Style.magnitude
  extract_lets d
  split
  · exact Decimal.isNumeral_plain _ _
  · exact Decimal.isNumeral_scientific _ h.plusMark

theorem Style.Sober.write {s : Style} (h : s.Sober) (x : Float) : IsNumeral (s.write x).toList := by
  unfold Style.write
  split
  · exact h.nan
  · split
    · exact h.negativeInfinity
    · exact h.infinity
  · rename_i negative mant exp _
    have hmagnitude := h.magnitude mant exp
    rw [String.toList_ofList]
    cases negative with
    | true => exact .cons (by decide) hmagnitude.2
    | false => exact hmagnitude

theorem sober_plainStyle : plainStyle.Sober where
  plusMark := List.all_eq_true.1 (by decide)
  nan := isNumeral_of_all (by decide) (by decide)
  infinity := isNumeral_of_all (by decide) (by decide)
  negativeInfinity := isNumeral_of_all (by decide) (by decide)

theorem sober_scientificStyle : scientificStyle.Sober where
  plusMark := sober_plainStyle.plusMark
  nan := sober_plainStyle.nan
  infinity := sober_plainStyle.infinity
  negativeInfinity := sober_plainStyle.negativeInfinity

/-- The number of the digits of `n` and some more behind them. -/
def appendDigits (n : Nat) (cs : List Char) : Nat :=
  cs.foldl (fun n c => 10 * n + (c.toNat - 48)) n

theorem appendDigits_cons (n : Nat) (c : Char) (cs : List Char) :
    appendDigits n (c :: cs) = appendDigits (10 * n + (c.toNat - 48)) cs := by
  rw [appendDigits, List.foldl_cons, appendDigits]

theorem le_appendDigits (n : Nat) (cs : List Char) : n ≤ appendDigits n cs := by
  induction cs generalizing n with
  | nil => exact Nat.le_refl n
  | cons c cs ih =>
    have hstep := ih (10 * n + (c.toNat - 48))
    rw [appendDigits_cons]
    omega

theorem isDigit_of_mem_toDigits {n : Nat} {c : Char} (h : c ∈ Nat.toDigits 10 n) : isDigit c := by
  show c.isDigit = true
  exact Nat.isDigit_of_mem_toDigits (by decide) (by decide) h

theorem appendDigits_toDigits (n : Nat) : appendDigits 0 (Nat.toDigits 10 n) = n := by
  have h := Nat.ofDigitChars_ten_toDigits (n := n)
  rw [Nat.ofDigitChars_eq_foldl] at h
  exact h

theorem head?_toDigits {n : Nat} (h : 0 < n) : (Nat.toDigits 10 n).head? ≠ some '0' := by
  have hdigit : ∀ d < 10, 0 < d → [d.digitChar].head? ≠ some '0' := by decide
  induction n using Nat.strongRecOn with
  | ind n ih =>
    by_cases hn : n < 10
    · rw [Nat.toDigits_of_lt_base hn]
      exact hdigit n hn h
    · have hle : 10 ≤ n := by omega
      have hhead := ih (n / 10) (by omega) (by omega)
      rw [Nat.toDigits_of_base_le (by decide) hle,
        List.head?_append_of_ne_nil _ Nat.toDigits_ne_nil]
      exact hhead

end BeanGauge.Number
