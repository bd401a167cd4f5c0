import BeanGauge.Check.Runner
import BeanGauge.Proofs.Check.Slots
/-!
# The slots of a runner over its history

A history is made of the checks of the configured instances in any order, of the ends of runs of all
checks, of `killConnectors` and of what processes do by themselves. Programs may behave differently
each time. A run of all checks is such a history.
-/

namespace BeanGauge.Runner

open Pool (Exchanged)

variable {π : Type} {r : Runner}

/-- Something that happens to what a runner acts on. -/
inductive Event (r : Runner) (π : Type) where
  | check (b : Behaviour π) (i : CheckInstance) (configured : i ∈ r.instances)
  /-- A run of all checks is over. -/
  | finish
  | kill (b : Behaviour π)
  /-- A process comes to another state; it may have exited. -/
  | turn (pid : Nat) (state : π)
  | pass (b : Behaviour π) (millis : Nat)

namespace Event

/-- What is emitted, and what the runner acts on, after an event. -/
def run : Event r π → Sink × Bridge π → Sink × Bridge π
  | .check b i _, (sink, w) => (w.check b r.launcher i sink).2
  | .finish, (sink, w) => (sink, { w with registry := w.registry.setConnectors w.pool.size })
  | .kill b, (sink, w) => (sink, r.killConnectors b w)
  | .turn pid state, (sink, w) => (sink, { w with host := w.host.update pid state })
  | .pass b millis, (sink, w) => (sink, { w with host := w.host.pass b millis })

/-- The endpoint that is checked. -/
def endpoint? : Event r π → Option Endpoint
  | .check _ i _ => some i.config.endpoint
  | _ => none

/-- Whether an event is a check of an endpoint that finds its connector dead. -/
def FindsDead (e : Endpoint) (w : Bridge π) : Event r π → Prop
  | .check b i _ => i.config.endpoint = e ∧ w.FindsDead b e
  | _ => False

end Event

/-- Everything after some events. -/
def after (events : List (Event r π)) (s : Sink × Bridge π) : Sink × Bridge π :=
  events.foldl (fun s x => x.run s) s

/-- The endpoints that were checked, once for every check. -/
def checked (events : List (Event r π)) : List Endpoint := events.filterMap Event.endpoint?

/-- How often the connector of an endpoint is exchanged. -/
def exchanges (e : Endpoint) : List (Event r π) → Sink × Bridge π → Nat
  | [], _ => 0
  | x :: events, s =>
    (if Exchanged e s.2.pool (x.run s).2.pool then 1 else 0) + exchanges e events (x.run s)

/-- The events of a run of all checks. -/
def sweep (b : Behaviour π) (r : Runner) : List (Event r π) :=
  r.instances.pmap (.check b) (fun _ hi => hi) ++ [.finish]

theorem after_append (first rest : List (Event r π)) (s : Sink × Bridge π) :
    after (first ++ rest) s = after rest (after first s) := List.foldl_append

theorem runInstances_eq_after (b : Behaviour π) (is : List CheckInstance)
    (his : ∀ i ∈ is, i ∈ r.instances) (summary : RunSummary) (s : Sink × Bridge π) :
    (runInstances b r.launcher is (summary, s)).2 =
      after (is.pmap (Event.check (r := r) b) his) s := by
  induction is generalizing summary s with
  | nil => rfl
  | cons i is ih =>
    obtain ⟨sink, w⟩ := s
    rw [runInstances, ih (fun j hj => his j (List.mem_cons_of_mem _ hj))]
    rfl

/-- A run of all checks is a history of them. -/
theorem runAll_eq_after (b : Behaviour π) (s : Sink × Bridge π) :
    (r.runAll b s.1 s.2).2 = after (r.sweep b) s := by
  have hchecks := runInstances_eq_after (r := r) b r.instances (fun _ hi => hi) ⟨0, 0⟩ s
  rw [sweep, after_append, ← hchecks]
  rfl

theorem checked_cons (x : Event r π) (events : List (Event r π)) :
    checked (x :: events) = x.endpoint?.toList ++ checked events := by
  rw [checked, List.filterMap_cons]
  cases x.endpoint? with
  | none => rfl
  | some e => rfl

theorem get?_killConnectors (b : Behaviour π) (w : Bridge π) (e : Endpoint) :
    (r.killConnectors b w).pool.get? e = (w.pool.get? e).map fun c =>
      if e ∈ r.instances.map (·.config.endpoint) then { c with session := none } else c :=
  Pool.get?_foldl_terminate b _ w.pool w.host e

/-- What stays as it is when nothing is checked. -/
structure Keeps (w w' : Bridge π) : Prop where
  nextId : w'.pool.nextId = w.pool.nextId
  slots : ∀ e, ∃ f : Connector → Connector, (∀ c : Connector, c.Same (f c)) ∧
    w'.pool.get? e = (w.pool.get? e).map f
  endpoint : ∀ name, w'.registry.endpoint name = w.registry.endpoint name

/-- Nothing but a check makes or exchanges a connector, or counts anything for an endpoint. -/
theorem Event.keeps {x : Event r π} (hx : x.endpoint? = none) (s : Sink × Bridge π) :
    Keeps s.2 (x.run s).2 := by
  have hid : ∀ p : Pool, ∀ e, ∃ f : Connector → Connector, (∀ c : Connector, c.Same (f c)) ∧
      p.get? e = (p.get? e).map f :=
    fun p e => ⟨id, fun c => ⟨rfl, rfl⟩, Option.map_id'.symm⟩
  cases x with
  | check b i hi => cases hx
  | finish => exact ⟨rfl, hid s.2.pool, fun _ => rfl⟩
  | kill b =>
    refine ⟨Pool.nextId_foldl_terminate b _ _ _, fun e => ?_, fun _ => rfl⟩
    refine ⟨_, fun c => ?_, get?_killConnectors b s.2 e⟩
    split
    · exact ⟨rfl, rfl⟩
    · exact ⟨rfl, rfl⟩
  | turn | pass => exact ⟨rfl, hid s.2.pool, fun _ => rfl⟩

theorem Keeps.sound {w w' : Bridge π} {l : Launcher} (h : Keeps w w') (hw : w.pool.Sound l) :
    w'.pool.Sound l := by
  constructor
  · intro e c hc
    obtain ⟨f, hf, hslot⟩ := h.slots e
    rw [hslot] at hc
    obtain ⟨c₀, hc₀, rfl⟩ := Option.map_eq_some_iff.1 hc
    rw [(hf c₀).id, h.nextId]
    exact hw.numbered e c₀ hc₀
  · intro e c hc
    obtain ⟨f, hf, hslot⟩ := h.slots e
    rw [hslot] at hc
    obtain ⟨c₀, hc₀, rfl⟩ := Option.map_eq_some_iff.1 hc
    rw [(hf c₀).launcher]
    exact hw.launcher e c₀ hc₀

theorem Keeps.not_exchanged {w w' : Bridge π} (h : Keeps w w') (e : Endpoint) :
    ¬ Exchanged e w.pool w'.pool := by
  rintro ⟨c, hc, c', hc', hne⟩
  obtain ⟨f, hf, hslot⟩ := h.slots e
  rw [hslot, hc] at hc'
  cases hc'
  exact hne (hf c).id

namespace Event

theorem run_sound (x : Event r π) {s : Sink × Bridge π}
    (hs : s.2.pool.Sound r.launcher.launcher) : (x.run s).2.pool.Sound r.launcher.launcher := by
  cases x with
  | check b i hi => exact Bridge.check_sound b i s.1 hs
  | finish | kill | turn | pass => exact (keeps rfl s).sound hs

/-- One event exchanges a connector exactly if it is a check that finds it dead. -/
theorem exchanged_run_iff (x : Event r π) {s : Sink × Bridge π}
    (hs : s.2.pool.Sound r.launcher.launcher) (e : Endpoint) :
    Exchanged e s.2.pool (x.run s).2.pool ↔ x.FindsDead e s.2 := by
  cases x with
  | check b i hi => exact Bridge.check_exchanged_iff b i s.1 e hs
  | finish | kill | turn | pass => exact iff_of_false ((keeps rfl s).not_exchanged e) not_false

/-- One event makes a slot exactly if it checks an endpoint that has none. -/
theorem mem_endpoints_run_iff (x : Event r π) (s : Sink × Bridge π) (e : Endpoint) :
    e ∈ (x.run s).2.pool.endpoints ↔ x.endpoint? = some e ∨ e ∈ s.2.pool.endpoints := by
  have hkept : x.endpoint? = none →
      (e ∈ (x.run s).2.pool.endpoints ↔ x.endpoint? = some e ∨ e ∈ s.2.pool.endpoints) := by
    intro hx
    obtain ⟨f, -, hslot⟩ := (keeps hx s).slots e
    rw [Pool.mem_endpoints_iff, Pool.mem_endpoints_iff, hslot, Option.isSome_map, hx]
    simp
  cases x with
  | check b i hi =>
    rw [Pool.mem_endpoints_iff, Pool.mem_endpoints_iff]
    by_cases he : i.config.endpoint = e
    · subst he
      refine iff_of_true ?_ (.inl rfl)
      show ((s.2.check b r.launcher i s.1).2.2.pool.get? i.config.endpoint).isSome
      rw [Bridge.get?_check_self]
      rfl
    · have hslot : ((check b i hi).run s).2.pool.get? e = s.2.pool.get? e :=
        Bridge.get?_check_ne b r.launcher i s.1 s.2 (Ne.symm he)
      rw [hslot]
      simp [endpoint?, he]
  | finish | kill | turn | pass => exact hkept rfl

/-- Every check counts as a success or as a failure of its endpoint. -/
theorem finished_run (x : Event r π) (s : Sink × Bridge π) (e : Endpoint) :
    ((x.run s).2.registry.endpoint e.text).success
        + ((x.run s).2.registry.endpoint e.text).failure =
      (s.2.registry.endpoint e.text).success + (s.2.registry.endpoint e.text).failure
        + x.endpoint?.toList.count e := by
  cases x with
  | check b i hi =>
    show ((s.2.check b r.launcher i s.1).2.2.registry.endpoint e.text).success
      + ((s.2.check b r.launcher i s.1).2.2.registry.endpoint e.text).failure = _
    by_cases he : i.config.endpoint = e
    · subst he
      rw [Bridge.finished_check]
      simp [endpoint?]
    · rw [Bridge.endpoint_check_ne b r.launcher i s.1 s.2 (Ne.symm he)]
      simp [endpoint?, he]
  | finish | kill | turn | pass =>
    rw [(keeps rfl s).endpoint]
    rfl

/-- One event counts a reconnect exactly if it exchanges the connector. -/
theorem reconnect_run (x : Event r π) {s : Sink × Bridge π}
    (hs : s.2.pool.Sound r.launcher.launcher) (e : Endpoint) :
    ((x.run s).2.registry.endpoint e.text).reconnect =
      (s.2.registry.endpoint e.text).reconnect
        + if Exchanged e s.2.pool (x.run s).2.pool then 1 else 0 := by
  have hkept : x.endpoint? = none →
      ((x.run s).2.registry.endpoint e.text).reconnect =
        (s.2.registry.endpoint e.text).reconnect
          + if Exchanged e s.2.pool (x.run s).2.pool then 1 else 0 := by
    intro hx
    rw [if_neg ((keeps hx s).not_exchanged e), (keeps hx s).endpoint]
    rfl
  cases x with
  | check b i hi =>
    have hiff := exchanged_run_iff (check b i hi) hs e
    by_cases he : i.config.endpoint = e
    · subst he
      rcases Bridge.reconnect_check b r.launcher i s.1 s.2 with ⟨hdead, hcount⟩ | ⟨hdead, hcount⟩
      · rw [if_pos (hiff.2 ⟨rfl, hdead⟩)]
        exact hcount
      · rw [if_neg fun hex => hdead (hiff.1 hex).2]
        exact hcount
    · rw [if_neg fun hex => he (hiff.1 hex).1]
      exact congrArg (·.reconnect)
        (Bridge.endpoint_check_ne b r.launcher i s.1 s.2 (Ne.symm he))
  | finish | kill | turn | pass => exact hkept rfl

end Event

/-- A history keeps connectors numbered and of one launcher. -/
theorem sound_after (events : List (Event r π)) {s : Sink × Bridge π}
    (hs : s.2.pool.Sound r.launcher.launcher) :
    (after events s).2.pool.Sound r.launcher.launcher := by
  induction events generalizing s with
  | nil => exact hs
  | cons x events ih => exact ih (x.run_sound hs)

/-- The slots after a history are those of before and of the endpoints that were checked. -/
theorem mem_endpoints_after_iff (events : List (Event r π)) (s : Sink × Bridge π) (e : Endpoint) :
    e ∈ (after events s).2.pool.endpoints ↔ e ∈ checked events ∨ e ∈ s.2.pool.endpoints := by
  induction events generalizing s with
  | nil => simp [after, checked]
  | cons x events ih =>
    have hstep : e ∈ (after (x :: events) s).2.pool.endpoints ↔ _ := ih (x.run s)
    rw [hstep, x.mem_endpoints_run_iff, checked_cons, List.mem_append, Option.mem_toList]
    tauto

/-- Every check of a history counts as one success or as one failure. -/
theorem finished_after (events : List (Event r π)) (s : Sink × Bridge π) (e : Endpoint) :
    ((after events s).2.registry.endpoint e.text).success
        + ((after events s).2.registry.endpoint e.text).failure =
      (s.2.registry.endpoint e.text).success + (s.2.registry.endpoint e.text).failure
        + (checked events).count e := by
  induction events generalizing s with
  | nil => rfl
  | cons x events ih =>
    have hstep := x.finished_run s e
    have hrest := ih (x.run s)
    rw [checked_cons, List.count_append]
    show ((after events (x.run s)).2.registry.endpoint e.text).success
      + ((after events (x.run s)).2.registry.endpoint e.text).failure = _
    omega

/-- Every exchange of a history counts as one reconnect. -/
theorem reconnect_after (events : List (Event r π)) {s : Sink × Bridge π}
    (hs : s.2.pool.Sound r.launcher.launcher) (e : Endpoint) :
    ((after events s).2.registry.endpoint e.text).reconnect =
      (s.2.registry.endpoint e.text).reconnect + exchanges e events s := by
  induction events generalizing s with
  | nil => rfl
  | cons x events ih =>
    have hstep := x.reconnect_run hs e
    have hrest := ih (x.run_sound hs)
    rw [exchanges]
    show ((after events (x.run s)).2.registry.endpoint e.text).reconnect = _
    omega

/-- What a history has made of an endpoint: it has a slot once it was checked, each exchange of its
connector is one reconnect, and each of its checks is one success or one failure. -/
structure Accounts (e : Endpoint) (events : List (Event r π)) (first last : Sink × Bridge π) :
    Prop where
  slot : e ∈ last.2.pool.endpoints ↔ e ∈ checked events
  reconnects : (last.2.registry.endpoint e.text).reconnect = exchanges e events first
  finished : (last.2.registry.endpoint e.text).success
    + (last.2.registry.endpoint e.text).failure = (checked events).count e

theorem accounts_after (events : List (Event r π)) (start : Float) (sink : Sink) (e : Endpoint) :
    Accounts e events (sink, .idle start) (after events (sink, .idle start)) where
  slot := by
    rw [mem_endpoints_after_iff]
    exact or_iff_left List.not_mem_nil
  reconnects := by
    rw [reconnect_after events (Pool.Sound.empty _)]
    exact Nat.zero_add _
  finished := by
    rw [finished_after]
    exact Nat.zero_add _

/-- What the next event makes of the connectors. One is exchanged for a new one exactly by a check
that finds it dead. A check that finds its session alive keeps it and starts no process. One that
cannot start a process for a connector that never had any leaves it so, and counts no reconnect. -/
structure NextEvent (r : Runner) (s : Sink × Bridge π) : Prop where
  exchanged : ∀ e (x : Event r π), Exchanged e s.2.pool (x.run s).2.pool ↔ x.FindsDead e s.2
  renewed : ∀ e (x : Event r π), x.FindsDead e s.2 → ∃ c', (x.run s).2.pool.get? e = some c' ∧
    ∀ e₀ c₀, s.2.pool.get? e₀ = some c₀ → c'.id ≠ c₀.id
  alive : ∀ b i c, s.2.pool.get? i.config.endpoint = some c → c.connected b s.2.host →
    let s' := (s.2.check b r.launcher i s.1).2
    (∃ c', s'.2.pool.get? i.config.endpoint = some c' ∧ c'.id = c.id) ∧
      s'.2.host.started = s.2.host.started
  unspawned : ∀ b i reason,
    (∀ c, s.2.pool.get? i.config.endpoint = some c → c.state b s.2.host = .unconnected) →
    Connector.launch b s.2.host.clock r.launcher.launcher (Bridge.options r.launcher i.config) =
      .error reason →
    let s' := (s.2.check b r.launcher i s.1).2
    (∃ c', s'.2.pool.get? i.config.endpoint = some c' ∧
      (∀ c, s.2.pool.get? i.config.endpoint = some c → c'.id = c.id) ∧
      ∀ (b' : Behaviour π) (h' : Host π), c'.state b' h' = .unconnected) ∧
    (s'.2.registry.endpoint i.config.endpoint.text).reconnect
      = (s.2.registry.endpoint i.config.endpoint.text).reconnect

theorem nextEvent_of_sound {s : Sink × Bridge π} (hs : s.2.pool.Sound r.launcher.launcher) :
    NextEvent r s where
  exchanged e x := x.exchanged_run_iff hs e
  renewed e x hdead := by
    cases x with
    | check b i hi =>
      obtain ⟨rfl, hdead⟩ := hdead
      obtain ⟨c', hc', hid⟩ := Bridge.id_check_of_dead (l := r.launcher) i s.1 hdead
      refine ⟨c', hc', ?_⟩
      intro e₀ c₀ hc₀
      rw [hid]
      exact Nat.ne_of_gt (hs.numbered e₀ c₀ hc₀)
    | finish | kill | turn | pass => exact hdead.elim
  alive b i c hslot hc := Bridge.check_of_connected i s.1 hslot hc
  unspawned b i reason hslot hlaunch := by
    refine ⟨Bridge.check_of_unspawned i s.1 hs hslot hlaunch, ?_⟩
    rcases Bridge.reconnect_check b r.launcher i s.1 s.2 with ⟨⟨c, hc, hdead⟩, -⟩ | ⟨-, hcount⟩
    · rw [hslot c hc] at hdead
      cases hdead
    · exact hcount

/-- A runner with a pool of its own, after any history: which slots it has, and that they stay; what
was counted for each endpoint; what the next event makes of the connectors; and what a run of all
checks notes. -/
theorem slots_over_runs (r : Runner) (start : Float) (sink : Sink) (events : List (Event r π)) :
    let s := after events (sink, .idle start)
    s.2.pool.endpoints.Nodup ∧
    (∀ e, Accounts e events (sink, .idle start) s) ∧
    (∀ e (more : List (Event r π)),
      e ∈ s.2.pool.endpoints → e ∈ (after more s).2.pool.endpoints) ∧
    NextEvent r s ∧
    (∀ e e' : Endpoint, e.text = e'.text → e = e') ∧
    ∀ b, let s' := (r.runAll b s.1 s.2).2
      s' = after (r.sweep b) s ∧
        s'.2.registry.connectors = Number.nearest s'.2.pool.endpoints.length 1 := by
  intro s
  have hs : s.2.pool.Sound r.launcher.launcher := sound_after events (Pool.Sound.empty _)
  refine ⟨Dict.nodup_keys _, accounts_after events start sink, ?_, nextEvent_of_sound hs,
    fun _ _ he => Endpoint.text_injective he, ?_⟩
  · intro e more he
    exact (mem_endpoints_after_iff more s e).2 (.inr he)
  · intro b s'
    refine ⟨runAll_eq_after b s, ?_⟩
    have hsize : s'.2.pool.endpoints.length = s'.2.pool.size := List.length_map _
    rw [hsize]
    rfl

end BeanGauge.Runner
