import BeanGauge.Host.Prompt
import BeanGauge.Proofs.Host.Process
import Mathlib.Data.List.Basic
/-!
# Which processes were ended

The table of a host only grows. What is written to a process, read from it or left to itself starts
no process and ends none; starting one adds an open entry at the end, and a kill marks one entry.
-/

namespace BeanGauge.Host

variable {π : Type} {b : Behaviour π} {h h' : Host π}

/-- For every process that was ever started, by number, whether it was ended. -/
def ended (h : Host π) : List Bool := h.processes.map (·.killed)

/-- How many processes were ever started. -/
def started (h : Host π) : Nat := h.processes.length

/-- A process that was started and never ended. -/
def Open (h : Host π) (pid : Nat) : Prop := h.ended[pid]? = some false

theorem length_ended (h : Host π) : h.ended.length = h.started := List.length_map _

theorem open_of_find? {pid : Nat} {s : π} (hs : h.find? pid = some s) : h.Open pid := by
  obtain ⟨p, hp, hopen, -⟩ := find?_eq_some_iff.1 hs
  rw [Open, ended, List.getElem?_map, hp, Option.map_some, hopen]

theorem open_of_alive {pid : Nat} (ha : h.alive b pid) : h.Open pid := by
  obtain ⟨s, hs, -⟩ := (Option.any_eq_true _ _).1 ha
  exact open_of_find? hs

@[simp] theorem ended_pass (millis : Nat) : (h.pass b millis).ended = h.ended := by
  simp [ended, pass, Function.comp_def]

@[simp] theorem ended_update (pid : Nat) (s : π) : (h.update pid s).ended = h.ended := by
  apply List.ext_getElem?
  intro i
  simp only [ended, update, List.getElem?_map, List.getElem?_modify]
  cases h.processes[i]? with
  | none => rfl
  | some p =>
    simp only [Option.map_eq_map, Option.map_some]
    split
    · rfl
    · rfl

theorem ended_write {pid : Nat} {bytes : Bytes} (hw : h.write b pid bytes = .ok h') :
    h'.ended = h.ended := by
  unfold write at hw
  split at hw
  · cases hw
  · cases hb : b.write _ bytes with
    | error reason =>
      rw [hb] at hw
      cases hw
    | ok s =>
      rw [hb] at hw
      cases hw
      exact ended_update pid s

@[simp] theorem ended_awaitPrompt (pid deadline : Nat) :
    (h.awaitPrompt b pid deadline).2.ended = h.ended := by
  unfold awaitPrompt
  split
  · rfl
  · split <;> simp

@[simp] theorem ended_kill (pid : Nat) : (h.kill pid).ended = h.ended.set pid true := by
  apply List.ext_getElem?
  intro i
  simp only [ended, kill, List.getElem?_map, List.getElem?_modify, List.getElem?_set]
  by_cases hi : pid = i
  · subst hi
    by_cases hlt : pid < h.processes.length <;> simp [hlt]
  · simp [hi]

theorem spawn_of_error {program : String} {args : List String} {reason : String}
    (hb : b.start h.clock program args = .error reason) :
    h.spawn b program args = .error reason := by
  rw [spawn, hb]
  rfl

def grown (h : Host π) (s : π) : Host π := { h with processes := h.processes ++ [⟨s, false⟩] }

/-- A started process has the next free number. -/
theorem spawn_of_ok {program : String} {args : List String} {s : π}
    (hb : b.start h.clock program args = .ok s) :
    h.spawn b program args = .ok (h.started, h.grown s) := by
  rw [spawn, hb]
  rfl

@[simp] theorem ended_grown (s : π) : (h.grown s).ended = h.ended ++ [false] := List.map_append

end BeanGauge.Host
