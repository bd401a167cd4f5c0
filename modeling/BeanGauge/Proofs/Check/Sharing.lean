import BeanGauge.Proofs.Check.History
import BeanGauge.Proofs.Pool.View
/-!
# The pool of a runner as a shared one

A runner looks its connectors up by endpoint. Whatever happens to them over a history can be done to
a shared pool, by asking for the slot of each endpoint that is checked and exchanging the connector
in it. So a handle that was once got for an endpoint leads for good to the connector that the runner
has there.
-/

namespace BeanGauge

variable {μ π : Type}

theorem Pool.renew_set (p : Pool) (e : Endpoint) (l : Launcher) (t : UInt64) (c : Connector) :
    (p.renew e l t).2.set e c = { p.set e c with nextId := p.nextId + 1 } :=
  congrArg (Pool.mk · (p.nextId + 1)) (Dict.insert_insert _ _ _ _)

/-- A cycle puts a connector into the slot of its endpoint, and may have made new ones. -/
theorem Bridge.pool_check (b : Behaviour π) (l : LauncherConfig) (i : CheckInstance) (sink : Sink)
    (w : Bridge π) : ∃ c n, (w.check b l i sink).2.2.pool =
      { w.pool.set i.config.endpoint c with nextId := n } := by
  have hslot := (check_slot b l i sink w).1
  cases hget : w.pool.get? i.config.endpoint with
  | none =>
    rw [usableConnector_absent hget] at hslot
    exact ⟨_, _, hslot.trans (Pool.renew_set _ _ _ _ _)⟩
  | some c =>
    by_cases hdead : c.state b w.host = .dead
    · rw [usableConnector_dead hget hdead] at hslot
      exact ⟨_, _, hslot.trans (Pool.renew_set _ _ _ _ _)⟩
    · rw [usableConnector_kept hget hdead] at hslot
      exact ⟨_, _, hslot⟩

namespace Runner

open PoolUse (Shows asked start)

variable {r : Runner} {s : PoolUse μ π}

/-- What one event does to the connectors can be done to a shared pool, by asking for the slot of
the endpoint that is checked. -/
theorem Event.shows_run (x : Event r π) {w : Sink × Bridge π} (h : s.Shows w.2.pool) :
    ∃ calls, asked calls = x.endpoint?.toList ∧ (s.after calls).Shows (x.run w).2.pool := by
  cases x with
  | check b i hi =>
    obtain ⟨c, n, hpool⟩ := Bridge.pool_check b r.launcher i w.1 w.2
    obtain ⟨calls, hcalls, hshows⟩ := h.set i.config.endpoint c n
    refine ⟨calls, hcalls, ?_⟩
    show (s.after calls).Shows (w.2.check b r.launcher i w.1).2.2.pool
    rw [hpool]
    exact hshows
  | kill b => exact h.foldl_terminate b _ _
  | finish | turn | pass => exact ⟨[], rfl, h⟩

/-- So can what a history does. -/
theorem shows_after (events : List (Event r π)) {w : Sink × Bridge π} (h : s.Shows w.2.pool) :
    ∃ calls, asked calls = checked events ∧ (s.after calls).Shows (after events w).2.pool := by
  induction events generalizing s w with
  | nil => exact ⟨[], rfl, h⟩
  | cons x events ih =>
    obtain ⟨calls, hcalls, hshows⟩ := x.shows_run h
    obtain ⟨more, hmore, hlast⟩ := ih hshows
    refine ⟨calls ++ more, ?_, ?_⟩
    · rw [PoolUse.asked_append, hcalls, hmore, checked_cons]
    · rw [PoolUse.after_append]
      exact hlast

/-- What a history does to the connectors of a runner can be done to a new shared pool, by asking
for the slots of the endpoints that are checked. The handle to a slot stays, and whatever comes
then, it leads to the connector that the runner has at the endpoint. -/
theorem handles_over_runs (r : Runner) (first : Float) (sink : Sink) (events : List (Event r π))
    (makers : μ) (host : Host π) :
    let w := after events (sink, .idle first)
    ∃ calls : List (PoolCall μ π), asked calls = checked events ∧
      let s := (start makers host).after calls
      s.Shows w.2.pool ∧ (∀ e, (s.pool.get? e).isSome ↔ e ∈ checked events) ∧
      ∀ more : List (Event r π), ∃ further, asked further = checked more ∧
        (s.after further).Shows (after more w).2.pool ∧
        ∀ e handle, s.pool.get? e = some handle → (s.after further).pool.get? e = some handle ∧
          ∃ c, (s.after further).pool.read handle = some c ∧
            (after more w).2.pool.get? e = some c := by
  intro w
  obtain ⟨calls, hcalls, hshows⟩ := shows_after events (w := (sink, .idle first))
    (PoolUse.shows_start makers host)
  refine ⟨calls, hcalls, hshows, ?_, ?_⟩
  · intro e
    rw [← SharedPool.mem_endpoints_iff, PoolUse.mem_endpoints_after_iff SharedPool.sound_empty,
      hcalls]
    exact or_iff_left List.not_mem_nil
  · intro more
    obtain ⟨further, hfurther, hlast⟩ := shows_after more hshows
    refine ⟨further, hfurther, hlast, fun e handle hget => ?_⟩
    have hkept := PoolUse.get?_after hshows.sound further hget
    obtain ⟨c, hc⟩ := SharedPool.exists_read hkept
    refine ⟨hkept, c, hc, ?_⟩
    rw [hlast.get?, hkept, Option.bind_some, hc]

end Runner

end BeanGauge
