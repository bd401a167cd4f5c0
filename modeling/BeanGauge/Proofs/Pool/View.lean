import BeanGauge.Proofs.Pool.Handles
/-!
# What is seen of a shared pool

A pool without handles is the view of a shared one: looking an endpoint up there is following its
handle. What is done to the pool at an endpoint can be done to the shared one by asking for the slot
and exchanging the connector in it.
-/

namespace BeanGauge

namespace SharedPool

variable {p : SharedPool} {e : Endpoint} {handle : Handle} {c : Connector} {n : Nat}

/-- The view of a pool has at each endpoint what its handle reads. -/
theorem get?_view : (p.view n).get? e = (p.get? e).bind p.read :=
  Dict.get?_ofList_filterMap p.slots p.read e

/-- A view is given by the connectors that are seen at the endpoints. -/
theorem view_eq {q : Pool} (hget : ∀ e, (p.get? e).bind p.read = q.get? e)
    (hnext : n = q.nextId) : p.view n = q := by
  obtain ⟨slots, nextId⟩ := q
  have hslots : (p.view n).slots = slots := Dict.ext_get? fun e => get?_view.trans (hget e)
  cases hnext
  exact congrArg (Pool.mk · nextId) hslots

/-- A new slot is seen at its endpoint only. -/
theorem view_grow (p : SharedPool) (e : Endpoint) (c : Connector) (n m : Nat) :
    (p.grow e c).2.view m = { (p.view n).set e c with nextId := m } := by
  refine view_eq (fun e' => ?_) rfl
  show _ = ((p.view n).set e c).get? e'
  by_cases he : e' = e
  · rw [he, get?_grow_self, Option.bind_some, read_grow_self, Pool.get?_set_self]
  · rw [get?_grow_ne he, Pool.get?_set_ne he, get?_view]
    cases h : p.get? e' with
    | none => rfl
    | some handle =>
      obtain ⟨c', hc'⟩ := exists_read h
      exact read_grow_ne (ne_grow hc')

/-- A connector that takes the place of one is seen at its endpoint only. -/
theorem Sound.view_put (hp : p.Sound) (h : p.get? e = some handle) (c : Connector) (n m : Nat) :
    (p.put handle c).view m = { (p.view n).set e c with nextId := m } := by
  refine view_eq (fun e' => ?_) rfl
  show (p.get? e').bind (p.put handle c).read = ((p.view n).set e c).get? e'
  by_cases he : e' = e
  · obtain ⟨old, hold⟩ := exists_read h
    rw [he, h, Option.bind_some, read_put, hold, Pool.get?_set_self]
    simp
  · rw [Pool.get?_set_ne he, get?_view]
    cases h' : p.get? e' with
    | none => rfl
    | some handle' =>
      have hne : handle' ≠ handle := by
        intro heq
        rw [heq] at h'
        exact he (hp.apart _ _ _ h' h)
      rw [Option.bind_some, Option.bind_some, read_put]
      simp [hne]

end SharedPool

namespace PoolUse

open SharedPool

variable {μ π : Type} {s : PoolUse μ π} {p : Pool} {e : Endpoint} {c : Connector}

/-- Whether a pool is what is seen of a shared one. -/
structure Shows (s : PoolUse μ π) (p : Pool) : Prop where
  sound : s.pool.Sound
  view : s.pool.view p.nextId = p

theorem shows_start (makers : μ) (host : Host π) : (start makers host).Shows .empty where
  sound := sound_empty
  view := view_eq (fun _ => rfl) rfl

theorem Shows.get? (h : s.Shows p) : p.get? e = (s.pool.get? e).bind s.pool.read := by
  rw [← get?_view, h.view]

/-- The connector at an endpoint with a slot is exchanged through the handle. -/
theorem Shows.replace (h : s.Shows p) {handle : Handle} (hget : s.pool.get? e = some handle)
    (c : Connector) (n : Nat) :
    (s.step (.replace handle c)).Shows { p.set e c with nextId := n } := by
  refine ⟨sound_step h.sound _, ?_⟩
  obtain ⟨old, hold⟩ := exists_read hget
  have hpool : (s.step (.replace handle c)).pool = s.pool.put handle c := by rw [step, hold]
  rw [hpool, h.sound.view_put hget c p.nextId n, h.view]

/-- A connector comes to an endpoint, with or without a slot, by asking for the slot and putting it
there. -/
theorem Shows.set (h : s.Shows p) (e : Endpoint) (c : Connector) (n : Nat) :
    ∃ calls, asked calls = [e] ∧ (s.after calls).Shows { p.set e c with nextId := n } := by
  let make : μ → Connector × μ := fun m => (c, m)
  cases hget : s.pool.get? e with
  | none =>
    have hstep : (s.step (.slot e make)).pool = (s.pool.grow e c).2 := by
      rw [step, slot_of_none hget]
    have hshows : (s.step (.slot e make)).Shows { p.set e c with nextId := n } := by
      refine ⟨sound_step h.sound _, ?_⟩
      rw [hstep, view_grow s.pool e c p.nextId n, h.view]
    exact ⟨[.slot e make], rfl, hshows⟩
  | some handle =>
    have hafter : s.after [.slot e make, .replace handle c] = s.step (.replace handle c) := by
      show (s.step (.slot e make)).step (.replace handle c) = _
      rw [step, slot_of_some hget]
    refine ⟨[.slot e make, .replace handle c], rfl, ?_⟩
    rw [hafter]
    exact h.replace hget c n

/-- Ending a session at an endpoint exchanges nothing but its connector, if there is one. -/
theorem Shows.terminate (h : s.Shows p) (b : Behaviour π) (host : Host π) (e : Endpoint) :
    ∃ calls, asked calls = [] ∧ (s.after calls).Shows (Pool.terminate b (p, host) e).1 := by
  cases hget : s.pool.get? e with
  | none =>
    have hslot : p.get? e = none := by rw [h.get?, hget, Option.bind_none]
    refine ⟨[], rfl, ?_⟩
    rw [Pool.terminate, hslot]
    exact h
  | some handle =>
    obtain ⟨c, hc⟩ := exists_read hget
    have hslot : p.get? e = some c := by rw [h.get?, hget, Option.bind_some, hc]
    refine ⟨[.replace handle (c.terminate b host).1], rfl, ?_⟩
    rw [Pool.terminate, hslot]
    exact h.replace hget _ p.nextId

theorem asked_append (calls more : List (PoolCall μ π)) :
    asked (calls ++ more) = asked calls ++ asked more := List.filterMap_append

theorem after_append (calls more : List (PoolCall μ π)) :
    s.after (calls ++ more) = (s.after calls).after more := List.foldl_append

theorem Shows.foldl_terminate (h : s.Shows p) (b : Behaviour π) (host : Host π)
    (es : List Endpoint) : ∃ calls, asked calls = [] ∧
      (s.after calls).Shows (es.foldl (Pool.terminate b) (p, host)).1 := by
  induction es generalizing s p host with
  | nil => exact ⟨[], rfl, h⟩
  | cons e es ih =>
    obtain ⟨calls, hcalls, hshows⟩ := h.terminate b host e
    obtain ⟨more, hmore, hlast⟩ := ih hshows (Pool.terminate b (p, host) e).2
    refine ⟨calls ++ more, by rw [asked_append, hcalls, hmore]; rfl, ?_⟩
    rw [after_append]
    exact hlast

end PoolUse

end BeanGauge
