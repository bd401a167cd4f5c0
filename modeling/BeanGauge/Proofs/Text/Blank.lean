import BeanGauge.Text.Blank
import Mathlib.Data.List.DropRight
/-!
# Cutting blanks off

A text with no blank at either end is what is left of it when blanks stand around it. What is left
of any text is a part of it, of which nothing more is cut off.
-/

namespace BeanGauge.Text

/-- A text that starts and ends with characters that are no blanks. -/
structure Tight (cs : List Char) : Prop where
  first : ∃ c rest, cs = c :: rest ∧ isBlank c = false
  last : ∃ rest c, cs = rest ++ [c] ∧ isBlank c = false

theorem Tight.join {v w : List Char} (hv : Tight v) (hw : Tight w) (mid : List Char) :
    Tight (v ++ (mid ++ w)) := by
  obtain ⟨⟨c, v', rfl, hc⟩, -⟩ := hv
  obtain ⟨-, ⟨w', d, rfl, hd⟩⟩ := hw
  exact ⟨⟨c, v' ++ (mid ++ (w' ++ [d])), rfl, hc⟩,
    ⟨c :: v' ++ (mid ++ w'), d, by simp only [List.append_assoc], hd⟩⟩

theorem Tight.reverse {cs : List Char} (h : Tight cs) : Tight cs.reverse := by
  obtain ⟨⟨c, rest, hc, hcblank⟩, ⟨init, d, hd, hdblank⟩⟩ := h
  constructor
  · exact ⟨d, init.reverse, by rw [hd, List.reverse_append]; rfl, hdblank⟩
  · exact ⟨rest.reverse, c, by rw [hc, List.reverse_cons], hcblank⟩

/-- Dropping some kind of blanks stops where a tight text starts. -/
theorem Tight.dropWhile {p : Char → Bool} {gap cs : List Char} (h : Tight cs)
    (hp : ∀ c, p c → isBlank c) (hgap : ∀ c ∈ gap, p c) (rest : List Char) :
    (gap ++ (cs ++ rest)).dropWhile p = cs ++ rest := by
  obtain ⟨⟨c, cs, rfl, hc⟩, -⟩ := h
  have hstop : ¬ p c = true := by
    intro hpc
    rw [hp c hpc] at hc
    cases hc
  rw [List.dropWhile_append_of_pos hgap, List.cons_append, List.dropWhile_cons_of_neg hstop]

theorem Tight.trimEnd {cs right : List Char} (h : Tight cs) (hright : ∀ c ∈ right, isBlank c) :
    trimEnd (cs ++ right) = cs := by
  have hright' : ∀ c ∈ right.reverse, isBlank c := by
    intro c hc
    exact hright c (List.mem_reverse.1 hc)
  have hdrop := h.reverse.dropWhile (fun _ hc => hc) hright' []
  rw [List.append_nil] at hdrop
  rw [Text.trimEnd, List.reverse_append, hdrop, List.reverse_reverse]

theorem Tight.trimChars {left cs right : List Char} (h : Tight cs)
    (hleft : ∀ c ∈ left, isBlank c) (hright : ∀ c ∈ right, isBlank c) :
    trimChars (left ++ (cs ++ right)) = cs := by
  rw [Text.trimChars, trimStart, h.dropWhile (fun _ hc => hc) hleft, h.trimEnd hright]

theorem mem_of_mem_trimChars {cs : List Char} {c : Char} (h : c ∈ trimChars cs) : c ∈ cs := by
  have hstart : c ∈ trimStart cs := by
    have hback := List.mem_reverse.1 h
    exact List.mem_reverse.1 (List.dropWhile_subset isBlank hback)
  exact List.dropWhile_subset isBlank hstart

theorem trimEnd_trimEnd (cs : List Char) : trimEnd (trimEnd cs) = trimEnd cs := by
  simp only [trimEnd, List.reverse_reverse, List.dropWhile_idempotent]

theorem trimEnd_prefix (cs : List Char) : trimEnd cs <+: cs := by
  have hsuffix := List.dropWhile_suffix (l := cs.reverse) isBlank
  rw [← List.reverse_prefix, List.reverse_reverse] at hsuffix
  exact hsuffix

/-- Cutting off the end uncovers no blank at the start. -/
theorem trimStart_trimChars (cs : List Char) : trimStart (trimChars cs) = trimChars cs := by
  cases hcut : trimChars cs with
  | nil => rfl
  | cons c rest =>
    obtain ⟨later, hlater⟩ : trimChars cs <+: trimStart cs := trimEnd_prefix _
    rw [hcut, List.cons_append] at hlater
    have hkept : (c :: (rest ++ later)).dropWhile isBlank = c :: (rest ++ later) := by
      rw [hlater]
      exact List.dropWhile_idempotent isBlank cs
    have hc : ¬ isBlank c = true := List.dropWhile_eq_self_iff.1 hkept (Nat.zero_lt_succ _)
    rw [trimStart, List.dropWhile_cons_of_neg hc]

theorem trimChars_trimChars (cs : List Char) : trimChars (trimChars cs) = trimChars cs := by
  have hstart := trimStart_trimChars cs
  rw [trimChars, hstart, trimChars, trimEnd_trimEnd]

end BeanGauge.Text
