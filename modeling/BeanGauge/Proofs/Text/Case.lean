import BeanGauge.Text.Case
/-!
# A lower-cased text is settled

Lower-casing leaves a lower-cased text as it is. No partner of a character has a partner of its own:
the table holds runs of characters, and the partners of one run miss every run. The two characters
that depend on more than the table are no partners either.
-/

namespace BeanGauge.Text

namespace LowerRun

def low (r : LowerRun) : Nat := (r.first + r.distance).toNat

def high (r : LowerRun) : Nat := (r.last + r.distance).toNat

/-- Whether no partner of a member of `r` is a member of `s`: the two lie apart, or the partners
stand between the members of `s`. -/
def misses (r s : LowerRun) : Bool :=
  Nat.blt r.high s.first || Nat.blt s.last r.low ||
    (s.step == 2 && (r.step == 2 || r.first == r.last) && (r.low + s.first) % 2 == 1)

/-- The partners of every run miss every run. -/
theorem misses_of_mem : ∀ r ∈ lowerRuns, ∀ s ∈ lowerRuns, r.misses s := by
  have h : (lowerRuns.all fun r => lowerRuns.all r.misses) = true := by decide +kernel
  intro r hr
  exact List.all_eq_true.1 (List.all_eq_true.1 h r hr)

/-- Whether the partners of a run are characters, but no capital of ASCII and not the dotted
capital I. -/
def Plain (r : LowerRun) : Prop :=
  0x61 ≤ r.low ∧ (r.high < 0xd800 ∨ 0xdfff < r.low ∧ r.high < 0x110000) ∧
    (r.high < 0x130 ∨ 0x130 < r.low)

instance (r : LowerRun) : Decidable r.Plain := inferInstanceAs (Decidable (_ ∧ _))

theorem plain_of_mem : ∀ r ∈ lowerRuns, r.Plain := by
  have h : (lowerRuns.all fun r => decide r.Plain) = true := by decide
  intro r hr
  exact of_decide_eq_true (List.all_eq_true.1 h r hr)

variable {r s : LowerRun} {n : Nat}

theorem covers_iff : r.covers n ↔ (r.first ≤ n ∧ n ≤ r.last) ∧ (n - r.first) % r.step = 0 := by
  simp only [covers, Bool.and_eq_true, decide_eq_true_eq, beq_iff_eq]

/-- The partner of a member lies between the first and the last one. -/
theorem partner_bounds (hn : r.covers n) {m : Nat} (hm : (m : Int) = n + r.distance)
    (hlow : 0 < r.low) : r.low ≤ m ∧ m ≤ r.high ∧ m - r.low = n - r.first := by
  obtain ⟨⟨hfirst, hlast⟩, -⟩ := covers_iff.1 hn
  unfold low at hlow
  unfold low high
  omega

theorem not_covers_of_misses (h : r.misses s) (hn : r.covers n) {m : Nat}
    (hm : (m : Int) = n + r.distance) (hlow : 0 < r.low) : s.covers m = false := by
  rw [Bool.eq_false_iff]
  intro hs
  obtain ⟨hlower, hupper, hoffset⟩ := partner_bounds hn hm hlow
  obtain ⟨⟨hfirst, hlast⟩, hstep⟩ := covers_iff.1 hn
  obtain ⟨⟨hfirst', hlast'⟩, hstep'⟩ := covers_iff.1 hs
  simp only [misses, Bool.or_eq_true, Bool.and_eq_true, beq_iff_eq, Nat.blt_eq] at h
  rcases h with (h | h) | ⟨⟨htwo, htwo' | hone⟩, hodd⟩
  · omega
  · omega
  · rw [htwo] at hstep'
    rw [htwo'] at hstep
    omega
  · rw [htwo] at hstep'
    omega

end LowerRun

/-- Whether a character is its own lower-case form, whatever stands around it. -/
structure Settled (c : Char) : Prop where
  dotted : c ≠ '\u0130'
  sigma : c ≠ '\u03a3'
  lower : lowerOne c = c

instance (c : Char) : Decidable (Settled c) :=
  decidable_of_iff (c ≠ '\u0130' ∧ c ≠ '\u03a3' ∧ lowerOne c = c)
    ⟨fun h => ⟨h.1, h.2.1, h.2.2⟩, fun h => ⟨h.dotted, h.sigma, h.lower⟩⟩

theorem settled_toLower {c : Char} (h : c.toNat < 0x80) : Settled c.toLower := by
  have hall : ∀ n < 0x80, Settled (Char.ofNat n).toLower := by decide
  rw [← Char.ofNat_toNat c]
  exact hall c.toNat h

theorem settled_of_uncovered {c : Char} (hascii : ¬c.toNat < 0x80) (hdotted : c ≠ '\u0130')
    (h : ∀ r ∈ lowerRuns, r.covers c.toNat = false) : Settled c := by
  refine ⟨hdotted, ?_, ?_⟩
  · rintro rfl
    have hcovered : (lowerRuns.any fun r => r.covers '\u03a3'.toNat) = true := by decide
    obtain ⟨r, hr, hcovers⟩ := List.any_eq_true.1 hcovered
    rw [h r hr] at hcovers
    cases hcovers
  · have hnone : lowerRuns.find? (·.covers c.toNat) = none := by
      rw [List.find?_eq_none]
      intro r hr
      rw [h r hr]
      exact Bool.false_ne_true
    rw [lowerOne, if_neg hascii, hnone]

theorem settled_lowerOne {c : Char} (hdotted : c ≠ '\u0130') : Settled (lowerOne c) := by
  by_cases hascii : c.toNat < 0x80
  · rw [lowerOne, if_pos hascii]
    exact settled_toLower hascii
  rw [lowerOne, if_neg hascii]
  cases hfind : lowerRuns.find? (·.covers c.toNat) with
  | none =>
    refine settled_of_uncovered hascii hdotted fun r hr => ?_
    exact Bool.eq_false_iff.2 (List.find?_eq_none.1 hfind r hr)
  | some r =>
    have hcovers := List.find?_some hfind
    have hr := List.mem_of_find?_eq_some hfind
    obtain ⟨hletter, hchars, hnotDotted⟩ := LowerRun.plain_of_mem r hr
    have hlow : 0 < r.low := by omega
    obtain ⟨m, hm⟩ : ∃ m : Nat, (m : Int) = c.toNat + r.distance := by
      unfold LowerRun.low at hlow
      obtain ⟨⟨hfirst, -⟩, -⟩ := LowerRun.covers_iff.1 hcovers
      exact ⟨(c.toNat + r.distance).toNat, by omega⟩
    obtain ⟨hlower, hupper, -⟩ := LowerRun.partner_bounds hcovers hm hlow
    have hvalid : m.isValidChar := by
      unfold Nat.isValidChar
      omega
    have hchar : (Char.ofNat m).toNat = m := by
      rw [Char.ofNat, dif_pos hvalid]
      rfl
    dsimp only
    rw [← hm, Int.toNat_natCast]
    by_cases hsmall : m < 0x80
    · have hall : ∀ n < 0x80, 0x61 ≤ n → Settled (Char.ofNat n) := by decide
      exact hall m hsmall (by omega)
    · refine settled_of_uncovered (by omega) ?_ ?_
      · intro heq
        have hnumber : m = 0x130 := by
          rw [← hchar, heq]
          decide
        omega
      · intro s hs
        rw [hchar]
        exact LowerRun.not_covers_of_misses (LowerRun.misses_of_mem r hr s hs) hcovers hm hlow

/-- The characters that depend on more than the table become settled ones. -/
theorem settled_special : ∀ d ∈ ['i', '\u0307', '\u03c2', '\u03c3'], Settled d := by
  have hother : (['\u0307', '\u03c2', '\u03c3'].all fun d =>
      decide (¬d.toNat < 0x80 ∧ d ≠ '\u0130') && lowerRuns.all fun r => !r.covers d.toNat) := by
    decide
  intro d hd
  rcases List.mem_cons.1 hd with rfl | hd
  · exact ⟨by decide, by decide, by decide⟩
  · obtain ⟨hplain, huncovered⟩ := Bool.and_eq_true_iff.1 (List.all_eq_true.1 hother d hd)
    obtain ⟨hascii, hdotted⟩ := of_decide_eq_true hplain
    refine settled_of_uncovered hascii hdotted fun r hr => ?_
    have hnot := List.all_eq_true.1 huncovered r hr
    rwa [Bool.not_eq_true'] at hnot

/-- Lowering once is enough: no character that it gives has a lower one. -/
theorem settled_of_mem_lowerAt {before after : List Char} {c d : Char}
    (h : d ∈ lowerAt before c after) : Settled d := by
  unfold lowerAt at h
  split at h
  · exact settled_special d (List.mem_append_left _ h)
  rename_i hdotted
  split at h
  · split at h
    · obtain rfl := List.mem_singleton.1 h
      exact settled_special _ (by decide)
    · obtain rfl := List.mem_singleton.1 h
      exact settled_special _ (by decide)
  · obtain rfl := List.mem_singleton.1 h
    exact settled_lowerOne (fun hc => hdotted (beq_iff_eq.2 hc))

theorem settled_of_mem_lowerFrom {before cs : List Char} {d : Char}
    (h : d ∈ lowerFrom before cs) : Settled d := by
  induction cs generalizing before with
  | nil => cases h
  | cons c cs ih =>
    rw [lowerFrom] at h
    rcases List.mem_append.1 h with h | h
    · exact settled_of_mem_lowerAt h
    · exact ih h

theorem Settled.lowerAt {c : Char} (h : Settled c) (before after : List Char) :
    lowerAt before c after = [c] := by
  rw [Text.lowerAt, if_neg (mt beq_iff_eq.1 h.dotted), if_neg (mt beq_iff_eq.1 h.sigma), h.lower]

theorem lowerFrom_of_settled {cs : List Char} (h : ∀ c ∈ cs, Settled c) (before : List Char) :
    lowerFrom before cs = cs := by
  induction cs generalizing before with
  | nil => rfl
  | cons c cs ih =>
    rw [lowerFrom, (h c List.mem_cons_self).lowerAt, ih fun d hd => h d (List.mem_cons_of_mem c hd)]
    rfl

/-- Every character of a lower-cased text is settled. -/
theorem settled_of_mem_lowerChars {cs : List Char} : ∀ d ∈ lowerChars cs, Settled d :=
  fun _ hd => settled_of_mem_lowerFrom hd

/-- Lower-casing leaves a settled text as it is. -/
theorem lowerChars_of_settled {cs : List Char} (h : ∀ c ∈ cs, Settled c) : lowerChars cs = cs :=
  lowerFrom_of_settled h []

end BeanGauge.Text
