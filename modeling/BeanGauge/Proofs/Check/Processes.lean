import BeanGauge.Proofs.Check.History
/-!
# The processes of a runner over its history

Every process belongs to the endpoint for which it was started. Those that were not ended are held
by the sessions of the slots, each of them by that of its own endpoint, so none is left behind and
no endpoint has two.
-/

namespace BeanGauge

open Session (Passes)

variable {π : Type}

/-- How processes that were started for `owners`, by number, are held: the session of a slot holds
one that was started for its endpoint, and what was not ended is held. -/
structure Pool.Holds (p : Pool) (owners : List Endpoint) (ended : List Bool) : Prop where
  counted : owners.length = ended.length
  endpoint : ∀ e x, p.session? e = some x → x.endpoint = e
  owned : ∀ e x, p.session? e = some x → owners[x.pid]? = some e
  held : ∀ pid, ended[pid]? = some false → ∃ e x, p.session? e = some x ∧ x.pid = pid

theorem Pool.Holds.empty : Pool.empty.Holds [] [] where
  counted := rfl
  endpoint _ _ hx := by cases hx
  owned _ _ hx := by cases hx
  held _ hopen := by cases hopen

/-- One session gives way to another one, and the processes started meanwhile are for its
endpoint. -/
theorem Pool.Holds.pass {p p' : Pool} {owners : List Endpoint} {ended ended' : List Bool}
    {e : Endpoint} (h : p.Holds owners ended)
    (hpass : Passes e (p.session? e) ended (p'.session? e) ended')
    (hother : ∀ e', e' ≠ e → p'.session? e' = p.session? e') :
    p'.Holds (owners ++ List.replicate (ended'.length - ended.length) e) ended' where
  counted := by
    have hgrows := hpass.grows
    have hcounted := h.counted
    rw [List.length_append, List.length_replicate]
    omega
  endpoint e' x hx := by
    by_cases he : e' = e
    · subst he
      rcases hpass.session x hx with hx | ⟨hx, -⟩
      · exact h.endpoint e' x hx
      · exact hx
    · exact h.endpoint e' x (hother e' he ▸ hx)
  owned e' x hx := by
    have hold : p.session? e' = some x → ∀ new, (owners ++ new)[x.pid]? = some e' := by
      intro hx new
      have hget := h.owned e' x hx
      obtain ⟨hlt, -⟩ := List.getElem?_eq_some_iff.1 hget
      rw [List.getElem?_append_left hlt, hget]
    by_cases he : e' = e
    · subst he
      -- a new session has a number behind all those that had owners
      rcases hpass.session x hx with hx | ⟨-, hlow, hhigh⟩
      · exact hold hx _
      · have hcounted := h.counted
        rw [List.getElem?_append_right (by omega), List.getElem?_replicate, if_pos (by omega)]
    · exact hold (hother e' he ▸ hx) _
  held pid hopen := by
    rcases hpass.owned pid hopen with ⟨x, hx, hpid⟩ | ⟨hopen, hfree⟩
    · exact ⟨e, x, hx, hpid⟩
    · obtain ⟨e', x, hx, hpid⟩ := h.held pid hopen
      have he : e' ≠ e := by
        rintro rfl
        exact hfree x hx hpid
      exact ⟨e', x, (hother e' he).trans hx, hpid⟩

theorem Pool.session?_terminate (b : Behaviour π) (p : Pool) (h : Host π) (e e' : Endpoint) :
    (terminate b (p, h) e).1.session? e' = if e' = e then none else p.session? e' := by
  rw [session?, terminate_get?, session?]
  cases p.get? e' with
  | none => simp
  | some c => by_cases he : e' = e <;> simp [he]

/-- Ending the session of a slot ends its process. -/
theorem Pool.Holds.terminate {p : Pool} {owners : List Endpoint} {h : Host π}
    (hp : p.Holds owners h.ended) (b : Behaviour π) (e : Endpoint) :
    (terminate b (p, h) e).1.Holds owners (terminate b (p, h) e).2.ended := by
  have hself := session?_terminate b p h e e
  have hpass := Passes.drop e (p.session? e) h.ended
  rw [if_pos rfl] at hself
  rw [← hself, ← ended_terminate b] at hpass
  have hnext := hp.pass hpass fun e' he => by rw [session?_terminate, if_neg he]
  rw [ended_terminate, Session.length_release, Nat.sub_self, List.replicate_zero,
    List.append_nil] at hnext
  rwa [ended_terminate]

theorem Pool.Holds.foldl_terminate {p : Pool} {owners : List Endpoint} {h : Host π}
    (hp : p.Holds owners h.ended) (b : Behaviour π) (es : List Endpoint) :
    (es.foldl (Pool.terminate b) (p, h)).1.Holds owners
      (es.foldl (Pool.terminate b) (p, h)).2.ended := by
  induction es generalizing p h with
  | nil => exact hp
  | cons e es ih => exact ih (hp.terminate b e)

namespace Runner

variable {r : Runner}

/-- The endpoints for which processes are started by an event, one for each of them. -/
def Event.owners (x : Event r π) (s : Sink × Bridge π) : List Endpoint :=
  match x.endpoint? with
  | some e => List.replicate ((x.run s).2.host.started - s.2.host.started) e
  | none => []

/-- The endpoints for which processes are started, by number. -/
def owners : List (Event r π) → Sink × Bridge π → List Endpoint
  | [], _ => []
  | x :: events, s => x.owners s ++ owners events (x.run s)

theorem Event.owners_of_unchecked {x : Event r π} (hx : x.endpoint? = none)
    (s : Sink × Bridge π) : x.owners s = [] := by
  rw [owners, hx]

/-- After one event, every process is still held by the slot of its endpoint or ended. -/
theorem Event.run_holds (x : Event r π) {s : Sink × Bridge π} {owners : List Endpoint}
    (hs : s.2.pool.Holds owners s.2.host.ended) :
    (x.run s).2.pool.Holds (owners ++ x.owners s) (x.run s).2.host.ended := by
  cases x with
  | check b i hi =>
    have hnext := hs.pass (Bridge.check_passes b r.launcher i s.1 s.2) fun e' he => by
      rw [Pool.session?, Bridge.get?_check_ne b r.launcher i s.1 s.2 he, Pool.session?]
    rw [Host.length_ended, Host.length_ended] at hnext
    exact hnext
  | finish =>
    rw [owners_of_unchecked rfl, List.append_nil]
    exact hs
  | kill b =>
    rw [owners_of_unchecked rfl, List.append_nil]
    exact hs.foldl_terminate b _
  | turn pid state =>
    rw [owners_of_unchecked rfl, List.append_nil]
    show s.2.pool.Holds owners (s.2.host.update pid state).ended
    rw [Host.ended_update]
    exact hs
  | pass b millis =>
    rw [owners_of_unchecked rfl, List.append_nil]
    show s.2.pool.Holds owners (s.2.host.pass b millis).ended
    rw [Host.ended_pass]
    exact hs

/-- So it is after a history. -/
theorem holds_after (events : List (Event r π)) {s : Sink × Bridge π} {past : List Endpoint}
    (hs : s.2.pool.Holds past s.2.host.ended) :
    (after events s).2.pool.Holds (past ++ owners events s) (after events s).2.host.ended := by
  induction events generalizing s past with
  | nil =>
    rw [owners, List.append_nil]
    exact hs
  | cons x events ih =>
    rw [owners, ← List.append_assoc]
    exact ih (x.run_holds hs)

theorem configured_of_mem_checked {events : List (Event r π)} {e : Endpoint}
    (he : e ∈ checked events) : e ∈ r.instances.map (·.config.endpoint) := by
  obtain ⟨x, -, hx⟩ := List.mem_filterMap.1 he
  cases x with
  | check b i hi =>
    cases hx
    exact List.mem_map_of_mem hi
  | finish | kill | turn | pass => cases hx

/-- `killConnectors` walks the configured instances, and so every slot of the history. -/
theorem session?_killConnectors (b : Behaviour π) (events : List (Event r π)) (start : Float)
    (sink : Sink) (e : Endpoint) :
    (r.killConnectors b (after events (sink, .idle start)).2).pool.session? e = none := by
  rw [Pool.session?, get?_killConnectors]
  cases hslot : (after events (sink, .idle start)).2.pool.get? e with
  | none => rfl
  | some c =>
    have hmem : e ∈ (after events (sink, .idle start)).2.pool.endpoints := by
      rw [Pool.mem_endpoints_iff, hslot]
      rfl
    have hconfigured := configured_of_mem_checked ((accounts_after events start sink e).slot.1 hmem)
    rw [Option.map_some, if_pos hconfigured]
    rfl

/-- A runner with a pool of its own leaves no process behind: after any history each process that it
started is that of a session held in a slot, or was ended; no endpoint has two that run; and
`killConnectors` leaves none that runs, and every slot with its connector. -/
theorem no_process_leaks (r : Runner) (start : Float) (sink : Sink) (events : List (Event r π)) :
    let s := after events (sink, .idle start)
    let owners := owners events (sink, .idle start)
    owners.length = s.2.host.started ∧
    (∀ pid < s.2.host.started,
      (∃ e x, s.2.pool.session? e = some x ∧ x.endpoint = e ∧ x.pid = pid) ∨
        s.2.host.ended[pid]? = some true) ∧
    (∀ b pid pid', s.2.host.alive b pid → s.2.host.alive b pid' →
      owners[pid]? = owners[pid']? → pid = pid') ∧
    ∀ b, let w := r.killConnectors b s.2
      (∀ b' pid, w.host.alive b' pid = false) ∧
      ∀ e, (w.pool.get? e).map (·.id) = (s.2.pool.get? e).map (·.id) := by
  intro s owners
  have hs : s.2.pool.Holds ([] ++ owners) s.2.host.ended := holds_after events .empty
  rw [List.nil_append] at hs
  refine ⟨hs.counted.trans (Host.length_ended _), ?_, ?_, ?_⟩
  · intro pid hpid
    rw [← Host.length_ended] at hpid
    cases hended : s.2.host.ended[pid] with
    | true => exact .inr (List.getElem?_eq_some_iff.2 ⟨hpid, hended⟩)
    | false =>
      obtain ⟨e, x, hx, hheld⟩ := hs.held pid (List.getElem?_eq_some_iff.2 ⟨hpid, hended⟩)
      exact .inl ⟨e, x, hx, hs.endpoint e x hx, hheld⟩
  · intro b pid pid' halive halive' howner
    obtain ⟨e, x, hx, rfl⟩ := hs.held pid (Host.open_of_alive halive)
    obtain ⟨e', x', hx', rfl⟩ := hs.held pid' (Host.open_of_alive halive')
    rw [hs.owned e x hx, hs.owned e' x' hx'] at howner
    cases howner
    rw [hx] at hx'
    cases hx'
    rfl
  · intro b w
    have hw : w.pool.Holds owners w.host.ended := hs.foldl_terminate b _
    constructor
    · intro b' pid
      by_contra halive
      obtain ⟨e, x, hx, -⟩ := hw.held pid (Host.open_of_alive (Bool.of_not_eq_false halive))
      have hnone : w.pool.session? e = none := session?_killConnectors b events start sink e
      rw [hnone] at hx
      cases hx
    · intro e
      rw [get?_killConnectors]
      cases s.2.pool.get? e with
      | none => rfl
      | some c =>
        dsimp only [Option.map_some]
        split
        · rfl
        · rfl

end Runner

end BeanGauge
