import BeanGauge.Host.Prompt
import BeanGauge.Proofs.Text.Shielded
import Mathlib.Data.List.TakeWhile
/-!
# Where a prompt is found

What is read ends in a prompt exactly when `$>` with only blanks before it on its line is followed
by blanks. So no part of a text without such a place ends in a prompt, one whose dollar signs are
all quoted has none, and the wait for a prompt ends with the read that completes it, whatever the
reads are.
-/

namespace BeanGauge.Prompt

open BeanGauge.Text (DollarBytesQuoted)

variable {π : Type}

/-- The two characters of a prompt. -/
def mark : Bytes := [0x24, 0x3e]

/-- What stands behind the last line end, or everything if there is none. -/
def lastLine (bytes : Bytes) : Bytes := (bytes.reverse.takeWhile (· != 0x0a)).reverse

/-- Whether nothing but blanks stands behind the last line end, so that a prompt may follow. -/
def BlankEnd (bytes : Bytes) : Prop := ∀ b ∈ lastLine bytes, isSpace b

instance : DecidablePred BlankEnd := fun bytes =>
  inferInstanceAs (Decidable (∀ b ∈ lastLine bytes, isSpace b))

/-- Whether `$>` stands somewhere with nothing but blanks before it on its line. -/
def HasPrompt (bytes : Bytes) : Prop :=
  ∃ before after, bytes = before ++ (mark ++ after) ∧ BlankEnd before

theorem hasPrompt_iff {bytes : Bytes} : HasPrompt bytes ↔
    ∃ n < bytes.length, mark <+: bytes.drop n ∧ BlankEnd (bytes.take n) := by
  constructor
  · rintro ⟨before, after, rfl, hstart⟩
    refine ⟨before.length, ?_, ?_, ?_⟩
    · simp [mark]
    · rw [List.drop_left]
      exact List.prefix_append _ _
    · rwa [List.take_left]
  · rintro ⟨n, -, ⟨after, hafter⟩, hstart⟩
    exact ⟨bytes.take n, after, by rw [hafter, List.take_append_drop], hstart⟩

instance : DecidablePred HasPrompt := fun _ => decidable_of_iff _ hasPrompt_iff.symm

theorem lastLine_append_of_mem (start : Bytes) {bytes : Bytes} (h : 0x0a ∈ bytes) :
    lastLine (start ++ bytes) = lastLine bytes := by
  have hstop : ¬ ∀ b ∈ bytes.reverse, (b != 0x0a) = true := by
    intro hall
    have hend := hall 0x0a (List.mem_reverse.2 h)
    cases hend
  have htake : (bytes.reverse ++ start.reverse).takeWhile (· != 0x0a) =
      bytes.reverse.takeWhile (· != 0x0a) := by
    rw [List.takeWhile_append, if_neg]
    intro hlen
    exact hstop (List.takeWhile_eq_self_iff.1
      ((List.takeWhile_prefix _).eq_of_length hlen))
  rw [lastLine, List.reverse_append, htake, lastLine]

theorem lastLine_append_of_not_mem (start : Bytes) {bytes : Bytes} (h : 0x0a ∉ bytes) :
    lastLine (start ++ bytes) = lastLine start ++ bytes := by
  have hall : ∀ b ∈ bytes.reverse, (b != 0x0a) = true := by
    intro b hb
    rw [bne_iff_ne]
    rintro rfl
    exact h (List.mem_reverse.1 hb)
  rw [lastLine, List.reverse_append, List.takeWhile_append_of_pos hall, List.reverse_append,
    List.reverse_reverse, lastLine]

theorem mem_of_mem_lastLine {bytes : Bytes} {b : UInt8} (h : b ∈ lastLine bytes) : b ∈ bytes := by
  have hb := (List.takeWhile_sublist (· != 0x0a)).subset (List.mem_reverse.1 h)
  exact List.mem_reverse.1 hb

theorem blankEnd_append (text : Bytes) {gap : Bytes} (hgap : ∀ b ∈ gap, isSpace b)
    (hline : 0x0a ∈ gap) : BlankEnd (text ++ gap) := by
  intro b hb
  rw [lastLine_append_of_mem text hline] at hb
  exact hgap b (mem_of_mem_lastLine hb)

theorem atLineStart_cons (b : UInt8) (bytes : Bytes) :
    atLineStart (b :: bytes) = if isGap b then atLineStart bytes else b == 0x0a := by
  unfold atLineStart
  cases hb : isGap b with
  | true => rw [List.dropWhile_cons_of_pos hb, if_pos rfl]
  | false => simp [hb]

/-- Going back over blanks reaches a line end or the start exactly if the line so far is blank. -/
theorem atLineStart_iff (reversed : Bytes) :
    atLineStart reversed ↔ ∀ b ∈ reversed.takeWhile (· != 0x0a), isSpace b := by
  induction reversed with
  | nil => simp [atLineStart]
  | cons d reversed ih =>
    rw [atLineStart_cons, isGap]
    by_cases hd : d = 0x0a
    · subst hd
      simp
    · have hne : (d != 0x0a) = true := bne_iff_ne.2 hd
      rw [List.takeWhile_cons, if_pos hne, List.forall_mem_cons, ← ih]
      cases hspace : isSpace d with
      | true => simp [hne]
      | false => simpa using hd

theorem atLineStart_reverse_iff (text : Bytes) : atLineStart text.reverse ↔ BlankEnd text := by
  rw [atLineStart_iff, BlankEnd, lastLine]
  simp only [List.mem_reverse]

/-- What is cut off is the mark and blanks, where the line before it is blank. -/
theorem before?_eq_some_iff {bytes text : Bytes} :
    before? bytes = some text ↔
      ∃ blanks, bytes = text ++ (mark ++ blanks) ∧ (∀ b ∈ blanks, isSpace b) ∧ BlankEnd text := by
  constructor
  · intro h
    unfold before? at h
    split at h
    · rename_i reversed hd
      split at h
      · rename_i hstart
        obtain rfl : reversed.reverse = text := by simpa using h
        refine ⟨(bytes.reverse.takeWhile isSpace).reverse, ?_, ?_, ?_⟩
        · calc bytes = (bytes.reverse.takeWhile isSpace
                ++ bytes.reverse.dropWhile isSpace).reverse := by
                rw [List.takeWhile_append_dropWhile, List.reverse_reverse]
            _ = (0x3e :: 0x24 :: reversed).reverse
                ++ (bytes.reverse.takeWhile isSpace).reverse := by
                rw [List.reverse_append, hd]
            _ = _ := by
                simp only [List.reverse_cons, List.append_assoc]
                rfl
        · intro b hb
          exact List.mem_takeWhile_imp (List.mem_reverse.1 hb)
        · rwa [← atLineStart_reverse_iff, List.reverse_reverse]
      · cases h
    · cases h
  · rintro ⟨blanks, rfl, hblank, hstart⟩
    have hblank' : ∀ b ∈ blanks.reverse, isSpace b := by
      intro b hb
      exact hblank b (List.mem_reverse.1 hb)
    have hd : (text ++ (mark ++ blanks)).reverse.dropWhile isSpace
        = 0x3e :: 0x24 :: text.reverse := by
      rw [List.reverse_append, List.reverse_append, List.append_assoc,
        List.dropWhile_append_of_pos hblank']
      rfl
    rw [← atLineStart_reverse_iff] at hstart
    rw [before?, hd]
    simp only [hstart, if_true, List.reverse_reverse]

/-- No part of `stream` that lacks its end ends in a prompt. -/
def Quiet (stream : Bytes) : Prop :=
  ∀ seen, seen <+: stream → seen.length < stream.length → before? seen = none

/-- What ends in a prompt has one. -/
theorem before?_eq_none_of_prefix {seen stream : Bytes} (hseen : seen <+: stream)
    (h : ¬HasPrompt stream) : before? seen = none := by
  by_contra hne
  obtain ⟨text, htext⟩ := Option.ne_none_iff_exists'.1 hne
  obtain ⟨blanks, rfl, -, hstart⟩ := before?_eq_some_iff.1 htext
  obtain ⟨later, rfl⟩ := hseen
  apply h
  exact ⟨text, blanks ++ later, by simp only [List.append_assoc], hstart⟩

/-- Before a prompt whose text has none there is no other one. -/
theorem quiet_of_not_hasPrompt {text : Bytes} (h : ¬HasPrompt text) : Quiet (text ++ mark) := by
  intro seen hseen hlen
  rw [List.length_append, mark, List.length_cons, List.length_singleton] at hlen
  rcases Nat.lt_or_ge text.length seen.length with hlong | hshort
  · have hlength : seen.length = text.length + 1 := by omega
    have hseen : seen = text ++ [0x24] := by
      rw [List.prefix_iff_eq_take.1 hseen, hlength, List.take_length_add_append]
      rfl
    rw [hseen, before?, List.reverse_append]
    rfl
  · exact before?_eq_none_of_prefix
      (List.prefix_of_prefix_length_le hseen (List.prefix_append text mark) hshort) h

theorem not_hasPrompt_of_dollarBytesQuoted {body : Bytes} (h : DollarBytesQuoted body) :
    ¬HasPrompt body := by
  rintro ⟨before, after, hbody, hstart⟩
  obtain ⟨start, inside, rfl, hline⟩ := h before (0x3e :: after) hbody
  have hinside : (0x0a : UInt8) ∉ 0x22 :: inside := by
    rw [List.mem_cons, not_or]
    exact ⟨by decide, hline⟩
  have hquote : isSpace 0x22 := by
    apply hstart
    rw [lastLine_append_of_not_mem start hinside]
    exact List.mem_append_right _ List.mem_cons_self
  cases hquote

/-- The text before a prompt is what was sent before it. -/
theorem before?_append_mark (body : Bytes) {gap blanks : Bytes} (hgap : ∀ b ∈ gap, isSpace b)
    (hline : 0x0a ∈ gap) (hblanks : ∀ b ∈ blanks, isSpace b) :
    before? (body ++ gap ++ (mark ++ blanks)) = some (body ++ gap) :=
  before?_eq_some_iff.2 ⟨blanks, rfl, hblanks, blankEnd_append body hgap hline⟩

/-- What some arrivals bring. -/
def bytesOf (arrivals : List (Arrival π)) : Bytes := arrivals.flatMap (·.bytes)

theorem bytesOf_cons (a : Arrival π) (arrivals : List (Arrival π)) :
    bytesOf (a :: arrivals) = a.bytes ++ bytesOf arrivals := List.flatMap_cons

/-- The scan passes over arrivals that do not reach the end of a quiet stream. -/
theorem scan_of_quiet {stream text : Bytes} {a : Arrival π} (later : List (Arrival π))
    (hquiet : Quiet stream) (taken : List (Arrival π)) (buffer : Bytes)
    (hseen : buffer ++ bytesOf taken <+: stream)
    (hshort : (buffer ++ bytesOf taken).length < stream.length)
    (hlast : before? (buffer ++ bytesOf taken ++ a.bytes) = some text) :
    scan buffer (taken ++ a :: later) = some (text, a) := by
  induction taken generalizing buffer with
  | nil =>
    rw [bytesOf, List.flatMap_nil, List.append_nil] at hlast
    rw [List.nil_append, scan, hlast]
  | cons t taken ih =>
    rw [bytesOf_cons, ← List.append_assoc] at hseen hshort hlast
    have hnone : before? (buffer ++ t.bytes) = none := by
      refine hquiet _ ((List.prefix_append _ _).trans hseen) ?_
      rw [List.length_append] at hshort
      omega
    rw [List.cons_append, scan, hnone]
    exact ih (buffer ++ t.bytes) hseen hshort hlast

end BeanGauge.Prompt
