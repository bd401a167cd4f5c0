import BeanGauge.Host.Basic
/-!
# A process in the table

What becomes of one process when the host notes a new state of it, lets time pass or ends it.
-/

namespace BeanGauge.Host

variable {π : Type} {b : Behaviour π} {h : Host π} {pid : Nat} {s : π}

theorem find?_eq_some_iff :
    h.find? pid = some s ↔ ∃ p, h.processes[pid]? = some p ∧ p.killed = false ∧ p.state = s := by
  rw [find?, Option.bind_eq_some_iff]
  constructor
  · rintro ⟨p, hp, hs⟩
    cases hk : p.killed with
    | true => simp [hk] at hs
    | false => exact ⟨p, hp, hk, by simpa [hk] using hs⟩
  · rintro ⟨p, hp, hk, rfl⟩
    exact ⟨p, hp, by simp [hk]⟩

@[simp] theorem clock_update (s : π) : (h.update pid s).clock = h.clock := rfl

theorem find?_update (hs : h.find? pid = some s) (s' : π) :
    (h.update pid s').find? pid = some s' := by
  obtain ⟨p, hp, hk, -⟩ := find?_eq_some_iff.1 hs
  refine find?_eq_some_iff.2 ⟨{ p with state := s' }, ?_, hk, rfl⟩
  rw [update, List.getElem?_modify_eq, hp]
  rfl

theorem find?_pass (b : Behaviour π) (h : Host π) (millis pid : Nat) :
    (h.pass b millis).find? pid = (h.find? pid).map (b.pass · millis) := by
  rw [find?, find?, pass, List.getElem?_map]
  cases h.processes[pid]? with
  | none => rfl
  | some p => cases hk : p.killed <;> simp [hk]

theorem write_eq_ok {s' : π} {bytes : Bytes} (hs : h.find? pid = some s)
    (hw : b.write s bytes = .ok s') : h.write b pid bytes = .ok (h.update pid s') := by
  rw [write, hs]
  simp only [hw, Except.map]

theorem incoming_eq_some (hs : h.find? pid = some s) (deadline : Nat) :
    h.incoming b pid deadline = some (b.incoming s (deadline - h.clock)) := by
  rw [incoming, hs, Option.map_some]

end BeanGauge.Host
