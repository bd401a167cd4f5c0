import BeanGauge.Proofs.Text.Utf8
/-!
# Marks inside quotes

A mark is shielded when a quote stands before it on its own line. Shielded marks stay shielded when
texts are joined and when a text is written as bytes.
-/

namespace BeanGauge.Text

variable {α : Type} {mark quote stop : α} {xs ys : List α}

/-- Every `mark` stands behind a `quote` with no `stop` between the two. -/
def Shielded (mark quote stop : α) (xs : List α) : Prop :=
  ∀ before after, xs = before ++ mark :: after →
    ∃ start inside, before = start ++ quote :: inside ∧ stop ∉ inside

theorem shielded_of_not_mem (h : mark ∉ xs) : Shielded mark quote stop xs := by
  rintro before after rfl
  exact absurd (by simp) h

theorem shielded_of_forall {p : α → Bool} (hmark : p mark = false) (h : ∀ x ∈ xs, p x) :
    Shielded mark quote stop xs := by
  apply shielded_of_not_mem
  intro hm
  exact absurd (h mark hm) (Bool.eq_false_iff.1 hmark)

theorem Shielded.append (hx : Shielded mark quote stop xs) (hy : Shielded mark quote stop ys) :
    Shielded mark quote stop (xs ++ ys) := by
  intro before after h
  rcases List.append_eq_append_iff.1 h with ⟨mid, rfl, hmid⟩ | ⟨mid, rfl, hmid⟩
  · obtain ⟨start, inside, rfl, hline⟩ := hy mid after hmid
    exact ⟨xs ++ start, inside, by rw [List.append_assoc], hline⟩
  · cases mid with
    | nil =>
      obtain ⟨start, inside, he, -⟩ := hy [] after hmid.symm
      simp at he
    | cons x mid =>
      obtain ⟨rfl, rfl⟩ := List.cons.inj hmid
      exact hx before mid rfl

/-- A text that is quoted as a whole and holds no line end has every mark shielded. -/
theorem shielded_quoted (hmark : mark ≠ quote) (h : stop ∉ xs ++ [quote]) :
    Shielded mark quote stop (quote :: (xs ++ [quote])) := by
  intro before after he
  cases before with
  | nil => exact absurd (List.cons.inj he).1.symm hmark
  | cons x before =>
    rw [List.cons_append, List.cons.injEq] at he
    obtain ⟨rfl, htail⟩ := he
    refine ⟨[], before, rfl, ?_⟩
    intro hm
    rw [htail] at h
    exact h (List.mem_append_left _ hm)

/-- The dollar signs of a text, each behind a double quote of its line. -/
abbrev DollarsQuoted (cs : List Char) : Prop := Shielded '$' '"' '\n' cs

abbrev DollarBytesQuoted (bytes : Bytes) : Prop := Shielded 0x24 0x22 0x0a bytes

theorem DollarsQuoted.encode {cs : List Char} (h : DollarsQuoted cs) :
    DollarBytesQuoted (cs.flatMap String.utf8EncodeChar) := by
  intro before after he
  obtain ⟨start, c, rest, rfl, rfl, hc⟩ := cut_flatMap_utf8EncodeChar he (by decide)
  obtain rfl : c = '$' := Char.ext (UInt32.toNat_inj.1 hc)
  obtain ⟨start, inside, rfl, hline⟩ := h start rest rfl
  refine ⟨start.flatMap String.utf8EncodeChar, inside.flatMap String.utf8EncodeChar, ?_, ?_⟩
  · rw [List.flatMap_append, List.flatMap_cons]
    rfl
  · intro hm
    obtain ⟨d, hd, hmd⟩ := List.mem_flatMap.1 hm
    obtain ⟨-, hnat⟩ := utf8EncodeChar_of_mem hmd (by decide)
    obtain rfl : d = '\n' := Char.ext (UInt32.toNat_inj.1 hnat)
    exact hline hd

end BeanGauge.Text
