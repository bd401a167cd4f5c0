import BeanGauge.Proofs.Connector.Session
/-!
# Waits for a prompt

However the output of a process is cut into reads, a wait for its prompt ends with the read that
completes the first prompt, and returns what stands before that. Without a prompt it takes all
reads and ends as the output does. What it takes always ends in a prompt, if it returns anything.

Reads that come after the deadline are not among the arrivals that are spoken of here.
-/

namespace BeanGauge

open BeanGauge.Prompt (mark bytesOf HasPrompt BlankEnd isSpace)

variable {π : Type} {b : Behaviour π} {h : Host π} {pid deadline : Nat} {i : Incoming π}

namespace Prompt

/-- The scan finds the prompt in the arrival that completes it. -/
theorem scan_of_stream {text blanks : Bytes} (hquiet : Quiet (text ++ mark))
    (hstart : BlankEnd text) (hblanks : ∀ b ∈ blanks, isSpace b) (arrivals : List (Arrival π))
    {buffer : Bytes} (hshort : buffer.length < (text ++ mark).length)
    (hstream : buffer ++ bytesOf arrivals = text ++ mark ++ blanks) :
    ∃ taken a later, arrivals = taken ++ a :: later ∧ scan buffer arrivals = some (text, a) ∧
      bytesOf later <:+ blanks := by
  induction arrivals generalizing buffer with
  | nil =>
    have hlength := congrArg List.length hstream
    rw [bytesOf, List.flatMap_nil, List.append_nil] at hlength
    simp only [List.length_append] at hlength hshort
    omega
  | cons a arrivals ih =>
    rw [bytesOf_cons, ← List.append_assoc] at hstream
    have hread : buffer ++ a.bytes <+: text ++ mark ++ blanks := ⟨_, hstream⟩
    have hwhole : text ++ mark <+: text ++ mark ++ blanks := List.prefix_append _ _
    rcases Nat.lt_or_ge (buffer ++ a.bytes).length (text ++ mark).length with hless | hmore
    · have hnone : before? (buffer ++ a.bytes) = none :=
        hquiet _ (List.prefix_of_prefix_length_le hread hwhole hless.le) hless
      obtain ⟨taken, last, later, rfl, hscan, hlater⟩ := ih hless hstream
      refine ⟨a :: taken, last, later, rfl, ?_, hlater⟩
      rw [scan, hnone]
      exact hscan
    · obtain ⟨seen, hseen⟩ := List.prefix_of_prefix_length_le hwhole hread hmore
      have hrest : seen ++ bytesOf arrivals = blanks := by
        rw [← hseen, List.append_assoc] at hstream
        exact List.append_cancel_left hstream
      have hseenBlank : ∀ b ∈ seen, isSpace b := by
        intro b hb
        apply hblanks
        rw [← hrest]
        exact List.mem_append_left _ hb
      have hfound : before? (buffer ++ a.bytes) = some text :=
        before?_eq_some_iff.2 ⟨seen, by rw [← hseen, List.append_assoc], hseenBlank, hstart⟩
      refine ⟨[], a, arrivals, rfl, ?_, seen, hrest⟩
      rw [scan, hfound]

theorem scan_eq_none {arrivals : List (Arrival π)} {buffer : Bytes}
    (h : ¬HasPrompt (buffer ++ bytesOf arrivals)) : scan buffer arrivals = none := by
  induction arrivals generalizing buffer with
  | nil => rfl
  | cons a arrivals ih =>
    rw [bytesOf_cons, ← List.append_assoc] at h
    rw [scan, before?_eq_none_of_prefix (List.prefix_append _ _) h]
    exact ih h

/-- The scan finds the first arrival with which a prompt is there, and what stands before it. -/
theorem before?_of_scan {arrivals : List (Arrival π)} {buffer text : Bytes} {a : Arrival π}
    (h : scan buffer arrivals = some (text, a)) :
    ∃ taken later, arrivals = taken ++ a :: later ∧
      before? (buffer ++ bytesOf (taken ++ [a])) = some text := by
  induction arrivals generalizing buffer with
  | nil => cases h
  | cons first arrivals ih =>
    rw [scan] at h
    split at h
    · rename_i hfound
      cases h
      refine ⟨[], arrivals, rfl, ?_⟩
      rw [List.nil_append, bytesOf_cons, bytesOf, List.flatMap_nil, List.append_nil]
      exact hfound
    · obtain ⟨taken, later, rfl, hfound⟩ := ih h
      refine ⟨first :: taken, later, rfl, ?_⟩
      rw [List.cons_append, bytesOf_cons, ← List.append_assoc]
      exact hfound

end Prompt

namespace Host

/-- What stands before the prompt is returned when it is found, and the time until then has passed.
-/
theorem awaitPrompt_of_scan {text : Bytes} {a : Arrival π}
    (hi : h.incoming b pid deadline = some i)
    (hscan : Prompt.scan [] i.arrivals = some (text, a)) :
    h.awaitPrompt b pid deadline =
      (.ok (Text.decode text), (h.pass b a.elapsed).update pid a.after) := by
  rw [awaitPrompt, hi]
  simp only [hscan]

/-- Without a prompt the wait ends as the process does, or at the deadline. -/
theorem awaitPrompt_of_scan_eq_none (hi : h.incoming b pid deadline = some i)
    (hscan : Prompt.scan [] i.arrivals = none) :
    h.awaitPrompt b pid deadline =
      (.error i.ending, (h.pass b i.elapsed).update pid i.after) := by
  rw [awaitPrompt, hi]
  simp only [hscan]

theorem scan_of_awaitPrompt {output : String} (hi : h.incoming b pid deadline = some i)
    (hw : (h.awaitPrompt b pid deadline).1 = .ok output) :
    ∃ text a, Prompt.scan [] i.arrivals = some (text, a) ∧ output = Text.decode text := by
  cases hscan : Prompt.scan [] i.arrivals with
  | none =>
    rw [awaitPrompt_of_scan_eq_none hi hscan] at hw
    cases hw
  | some found =>
    rw [awaitPrompt_of_scan hi hscan] at hw
    cases hw
    exact ⟨found.1, found.2, rfl, rfl⟩

/-- The reads of a process before a deadline may be any. If they bring a text without a prompt that
ends at the start of a line, a prompt and blanks, the wait returns the text and leaves only some of
the blanks. If they bring no prompt, it takes them all and ends as the output does: closed, if the
process closed it. And if it returns an output, the reads that it took bring that, a prompt and
blanks. -/
theorem awaitPrompt_framed (hi : h.incoming b pid deadline = some i) :
    (∀ text blanks, ¬HasPrompt text → BlankEnd text → (∀ x ∈ blanks, isSpace x) →
      bytesOf i.arrivals = text ++ (mark ++ blanks) →
      ∃ taken a later, i.arrivals = taken ++ a :: later ∧
        h.awaitPrompt b pid deadline =
          (.ok (Text.decode text), (h.pass b a.elapsed).update pid a.after) ∧
        bytesOf later <:+ blanks) ∧
    (¬HasPrompt (bytesOf i.arrivals) →
      h.awaitPrompt b pid deadline =
        (.error i.ending, (h.pass b i.elapsed).update pid i.after)) ∧
    ∀ output, (h.awaitPrompt b pid deadline).1 = .ok output →
      ∃ taken a later text blanks, i.arrivals = taken ++ a :: later ∧
        bytesOf (taken ++ [a]) = text ++ (mark ++ blanks) ∧ BlankEnd text ∧
        (∀ x ∈ blanks, isSpace x) ∧
        h.awaitPrompt b pid deadline =
          (.ok output, (h.pass b a.elapsed).update pid a.after) ∧ output = Text.decode text := by
  refine ⟨?_, ?_, ?_⟩
  · intro text blanks hnone hstart hblanks hstream
    have hshort : ([] : Bytes).length < (text ++ mark).length := by
      rw [List.length_append, mark]
      simp
    obtain ⟨taken, a, later, harrivals, hscan, hlater⟩ :=
      Prompt.scan_of_stream (Prompt.quiet_of_not_hasPrompt hnone) hstart hblanks i.arrivals hshort
        (by rw [List.nil_append, hstream, List.append_assoc])
    exact ⟨taken, a, later, harrivals, awaitPrompt_of_scan hi hscan, hlater⟩
  · intro hnone
    exact awaitPrompt_of_scan_eq_none hi (Prompt.scan_eq_none hnone)
  · intro output hw
    obtain ⟨text, a, hscan, rfl⟩ := scan_of_awaitPrompt hi hw
    obtain ⟨taken, later, harrivals, hfound⟩ := Prompt.before?_of_scan hscan
    obtain ⟨blanks, hbytes, hblanks, hstart⟩ := Prompt.before?_eq_some_iff.1 hfound
    exact ⟨taken, a, later, text, blanks, harrivals, hbytes, hstart, hblanks,
      awaitPrompt_of_scan hi hscan, rfl⟩

def closingConsole : Behaviour Connector.Tape :=
  { Connector.Tape.console with
    incoming := fun t _ => ⟨Connector.Tape.arrivals t.2 t.1, .closed, ([], t.2), 0⟩ }

/-- A text in which `$>` stands behind something else on its line. -/
def sharpText : Bytes := Text.encode "x$> \u00e9\n\t"

/-- The reads of the text, a prompt and two blanks: one ends in `$>`, the next in the middle of a
character, and the third in the middle of the prompt. -/
def sharpReads : List Bytes :=
  [[0x78, 0x24, 0x3e], [0x20, 0xc3], [0xa9, 0x0a, 0x09, 0x24], [0x3e, 0x20], [0x0a]]

def sending (reads : List Bytes) : Host Connector.Tape := ⟨0, [⟨(reads, []), false⟩]⟩

/-- The wait returns the text; where the prompt is missing it returns nothing. -/
theorem awaitPrompt_sharpReads :
    (¬HasPrompt sharpText ∧ BlankEnd sharpText ∧
      sharpReads.flatten = sharpText ++ (mark ++ [0x20, 0x0a]) ∧
      ∃ taken a later, Connector.Tape.arrivals [] sharpReads = taken ++ a :: later ∧
        (sending sharpReads).awaitPrompt closingConsole 0 1000 =
          (.ok "x$> \u00e9\n\t",
            ((sending sharpReads).pass closingConsole a.elapsed).update 0 a.after) ∧
        bytesOf later <:+ [0x20, 0x0a]) ∧
    ¬HasPrompt (sharpReads.take 2).flatten ∧
      ((sending (sharpReads.take 2)).awaitPrompt closingConsole 0 1000).1 = .error .closed := by
  have hdecode : Text.decode sharpText = "x$> \u00e9\n\t" := by decide
  have hnone : ¬HasPrompt sharpText := by decide +kernel
  have hstart : BlankEnd sharpText := by decide +kernel
  have hstream : sharpReads.flatten = sharpText ++ (mark ++ [0x20, 0x0a]) := by decide
  have hpart : ¬HasPrompt (sharpReads.take 2).flatten := by decide +kernel
  have hblanks : ∀ x ∈ ([0x20, 0x0a] : Bytes), Prompt.isSpace x := List.all_eq_true.1 rfl
  rw [← hdecode]
  refine ⟨⟨hnone, hstart, hstream, ?_⟩, hpart, ?_⟩
  · rw [← Connector.Tape.bytesOf_arrivals []] at hstream
    have hframed := @awaitPrompt_framed _ closingConsole (sending sharpReads) 0 1000 _ rfl
    exact hframed.1 sharpText [0x20, 0x0a] hnone hstart hblanks hstream
  · rw [← Connector.Tape.bytesOf_arrivals []] at hpart
    have hframed :=
      @awaitPrompt_framed _ closingConsole (sending (sharpReads.take 2)) 0 1000 _ rfl
    exact congrArg Prod.fst (hframed.2.1 hpart)

end Host

end BeanGauge
