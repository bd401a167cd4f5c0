import BeanGauge.Proofs.Host.Table
/-!
# What one process has to do with the others

Writing to a process and waiting for its prompt depend on the state of this process and on the time,
and on nothing else of the host. Other processes are left to themselves meanwhile, also when one is
started or ended.
-/

namespace BeanGauge

variable {π : Type} {b : Behaviour π}

/-- A process that was left to itself, once for each pause. -/
def Behaviour.rest (b : Behaviour π) (s : π) (pauses : List Nat) : π := pauses.foldl b.pass s

namespace Host

variable {h h' h'' h₁ : Host π} {pid pid' : Nat} {P : Nat → Prop}

/-! ## Other processes are left to themselves -/

/-- A host whose processes were left to themselves, once for each pause. -/
def rest (b : Behaviour π) (h : Host π) (pauses : List Nat) : Host π :=
  pauses.foldl (fun h millis => h.pass b millis) h

theorem clock_rest (pauses : List Nat) :
    (h.rest b pauses).clock = pauses.foldl (· + ·) h.clock := by
  induction pauses generalizing h with
  | nil => rfl
  | cons millis pauses ih => exact ih

theorem find?_rest (pauses : List Nat) (pid : Nat) :
    (h.rest b pauses).find? pid = (h.find? pid).map (b.rest · pauses) := by
  induction pauses generalizing h with
  | nil => exact Option.map_id'.symm
  | cons millis pauses ih =>
    have hlater : (h.rest b (millis :: pauses)).find? pid = _ := ih
    rw [hlater, find?_pass, Option.map_map]
    rfl

/-- As time went on from one state of a host to another, some of its processes were left to
themselves. -/
def Rests (b : Behaviour π) (P : Nat → Prop) (h h' : Host π) : Prop :=
  ∃ pauses, h'.clock = (h.rest b pauses).clock ∧
    ∀ pid, P pid → h'.find? pid = (h.rest b pauses).find? pid

theorem Rests.of_find? (hclock : h'.clock = h.clock)
    (hfind : ∀ pid, P pid → h'.find? pid = h.find? pid) : Rests b P h h' :=
  ⟨[], hclock, hfind⟩

theorem Rests.refl (b : Behaviour π) (P : Nat → Prop) (h : Host π) : Rests b P h h :=
  .of_find? rfl fun _ _ => rfl

theorem Rests.trans (hr : Rests b P h h') (hr' : Rests b P h' h'') : Rests b P h h'' := by
  obtain ⟨pauses, hclock, hfind⟩ := hr
  obtain ⟨pauses', hclock', hfind'⟩ := hr'
  have happend : h.rest b (pauses ++ pauses') = (h.rest b pauses).rest b pauses' :=
    List.foldl_append
  refine ⟨pauses ++ pauses', ?_, ?_⟩
  · rw [hclock', happend, clock_rest, clock_rest, hclock]
  · intro pid hpid
    rw [hfind' pid hpid, happend, find?_rest, find?_rest, hfind pid hpid]

theorem find?_of_entry (hentry : h'.processes[pid]? = h.processes[pid]?) :
    h'.find? pid = h.find? pid := by
  rw [find?, hentry, find?]

theorem find?_update_ne (hne : pid' ≠ pid) (s : π) :
    (h.update pid s).find? pid' = h.find? pid' := by
  apply find?_of_entry
  rw [update, List.getElem?_modify_ne _ _ (Ne.symm hne)]

theorem rests_update (hpid : ¬P pid) (s : π) : Rests b P h (h.update pid s) := by
  refine .of_find? rfl fun q hq => find?_update_ne ?_ s
  rintro rfl
  exact hpid hq

theorem rests_kill (hpid : ¬P pid) : Rests b P h (h.kill pid) := by
  refine .of_find? rfl fun q hq => find?_of_entry ?_
  rw [kill, List.getElem?_modify_ne]
  rintro rfl
  exact hpid hq

theorem rests_pass (millis : Nat) : Rests b P h (h.pass b millis) :=
  ⟨[millis], rfl, fun _ _ => rfl⟩

theorem rests_write {bytes : Bytes} (hpid : ¬P pid) (hw : h.write b pid bytes = .ok h₁) :
    Rests b P h h₁ := by
  unfold write at hw
  split at hw
  · cases hw
  · rename_i s hs
    cases hb : b.write s bytes with
    | error reason =>
      rw [hb] at hw
      cases hw
    | ok s' =>
      rw [hb] at hw
      cases hw
      exact rests_update hpid s'

/-- While one process is waited for, all others rest. -/
theorem rests_awaitPrompt (hpid : ¬P pid) (deadline : Nat) :
    Rests b P h (h.awaitPrompt b pid deadline).2 := by
  unfold awaitPrompt
  split
  · exact .refl b P h
  · split
    · exact (rests_pass _).trans (rests_update hpid _)
    · exact (rests_pass _).trans (rests_update hpid _)

theorem rests_grown (hstarted : ∀ pid, P pid → pid < h.started) (s : π) :
    Rests b P h (h.grown s) :=
  .of_find? rfl fun pid hpid => find?_of_entry (List.getElem?_append_left (hstarted pid hpid))

theorem find?_grown_started (s : π) : (h.grown s).find? h.started = some s := by
  refine find?_eq_some_iff.2 ⟨⟨s, false⟩, ?_, rfl, rfl⟩
  exact List.getElem?_concat_length

/-! ## One process on two hosts -/

/-- Whether a process lives depends on its state only. -/
theorem alive_congr (hs : h.find? pid = h'.find? pid') : h.alive b pid = h'.alive b pid' := by
  rw [alive, hs, alive]

/-- What one write to a process leaves, compared on two hosts. -/
theorem write_congr (hs : h.find? pid = h'.find? pid') (bytes : Bytes) :
    (∃ reason, h.write b pid bytes = .error reason ∧ h'.write b pid' bytes = .error reason) ∨
      ∃ s, h.find? pid = some s ∧ ∃ s', h.write b pid bytes = .ok (h.update pid s') ∧
        h'.write b pid' bytes = .ok (h'.update pid' s') := by
  cases hfound : h'.find? pid' with
  | none =>
    rw [hfound] at hs
    have hbroken : h.write b pid bytes = .error "Broken pipe (os error 32)" := by rw [write, hs]
    have hbroken' : h'.write b pid' bytes = .error "Broken pipe (os error 32)" := by
      rw [write, hfound]
    exact .inl ⟨_, hbroken, hbroken'⟩
  | some s =>
    rw [hfound] at hs
    cases hb : b.write s bytes with
    | error reason =>
      refine .inl ⟨reason, ?_, ?_⟩
      · rw [write, hs]
        simp only [hb, Except.map]
      · rw [write, hfound]
        simp only [hb, Except.map]
    | ok s' => exact .inr ⟨s, hs, s', write_eq_ok hs hb, write_eq_ok hfound hb⟩

/-- Waiting for a prompt, compared at the same time on two hosts: what comes, the process
afterwards, and the time. -/
theorem awaitPrompt_congr (hs : h.find? pid = h'.find? pid') (hclock : h.clock = h'.clock)
    (deadline : Nat) :
    (h.awaitPrompt b pid deadline).1 = (h'.awaitPrompt b pid' deadline).1 ∧
      (h.awaitPrompt b pid deadline).2.find? pid = (h'.awaitPrompt b pid' deadline).2.find? pid' ∧
      (h.awaitPrompt b pid deadline).2.clock = (h'.awaitPrompt b pid' deadline).2.clock := by
  cases hfound : h'.find? pid' with
  | none =>
    rw [hfound] at hs
    have hnone : h.awaitPrompt b pid deadline = (.error .closed, h) := by
      rw [awaitPrompt, incoming, hs, Option.map_none]
    have hnone' : h'.awaitPrompt b pid' deadline = (.error .closed, h') := by
      rw [awaitPrompt, incoming, hfound, Option.map_none]
    rw [hnone, hnone']
    exact ⟨rfl, hs.trans hfound.symm, hclock⟩
  | some s =>
    rw [hfound] at hs
    rw [awaitPrompt, awaitPrompt, incoming_eq_some hs, incoming_eq_some hfound, hclock]
    have hafter : ∀ (elapsed : Nat) (s' : π),
        ((h.pass b elapsed).update pid s').find? pid =
            ((h'.pass b elapsed).update pid' s').find? pid' ∧
          ((h.pass b elapsed).update pid s').clock =
            ((h'.pass b elapsed).update pid' s').clock := by
      intro elapsed s'
      have hwaited : (h.pass b elapsed).find? pid = some (b.pass s elapsed) := by
        rw [find?_pass, hs, Option.map_some]
      have hwaited' : (h'.pass b elapsed).find? pid' = some (b.pass s elapsed) := by
        rw [find?_pass, hfound, Option.map_some]
      refine ⟨?_, congrArg (· + elapsed) hclock⟩
      rw [find?_update hwaited, find?_update hwaited']
    dsimp only
    split
    · exact ⟨rfl, hafter _ _⟩
    · exact ⟨rfl, hafter _ _⟩

end Host

end BeanGauge
