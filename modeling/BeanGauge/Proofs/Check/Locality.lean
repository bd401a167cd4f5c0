import BeanGauge.Proofs.Check.Slots
import BeanGauge.Proofs.Connector.Locality
/-!
# What a cycle depends on

What comes of a cycle, and what it emits, depends on the time, on the slot of its endpoint and on
the process of the session in it. The cycle of another endpoint leaves the slot as it is and its
process to itself, as long as no process is held by two slots.
-/

namespace BeanGauge

variable {π : Type} {b : Behaviour π} {l : LauncherConfig} {e : Endpoint} {w w' : Bridge π}
variable {P : Nat → Prop}

namespace Connector

/-- Visiting one connector leaves the processes of all others to themselves. -/
theorem rests_visit {h : Host π} {c : Connector} (hown : ∀ s, c.session = some s → ¬P s.pid)
    (hstarted : ∀ pid, P pid → pid < h.started) (o : ConnectOptions) :
    h.Rests b P (c.visit b h o).2 := by
  unfold visit
  split
  · exact rests_dump hown
  have hconnects := rests_connect (b := b) hown hstarted o
  split
  · rename_i c₁ h₁ hconnect
    rw [hconnect] at hconnects
    have hnew : ∀ s, c₁.session = some s → ¬P s.pid := by
      intro s hs hpid
      obtain ⟨-, hsession, -, -⟩ := connect_eq_ok hconnect
      rw [hsession] at hs
      cases hs
      exact Nat.lt_irrefl _ (hstarted _ hpid)
    exact hconnects.trans (rests_dump hnew)
  · rename_i hconnect
    rw [hconnect] at hconnects
    exact hconnects

end Connector

namespace Bridge

open Connector (View view)

/-- What a cycle of an endpoint finds: the time, and the slot with the process of its session, but
without any numbers. -/
def found (w : Bridge π) (e : Endpoint) : Nat × Option (View π) :=
  (w.host.clock, (w.pool.get? e).map (view w.host))

/-- A bridge whose processes were left to themselves, once for each pause. -/
def rest (b : Behaviour π) (w : Bridge π) (pauses : List Nat) : Bridge π :=
  { w with host := w.host.rest b pauses }

/-- Whether a process is that of the session in the slot of an endpoint. -/
def Holds (w : Bridge π) (e : Endpoint) (pid : Nat) : Prop :=
  ∃ x, w.pool.session? e = some x ∧ x.pid = pid

/-- No process is held by two slots, and all that are held were started. -/
structure Separate (w : Bridge π) : Prop where
  started : ∀ e x, w.pool.session? e = some x → x.pid < w.host.started
  apart : ∀ e e' x x', w.pool.session? e = some x → w.pool.session? e' = some x' →
    x.pid = x'.pid → e = e'

/-! ## What is found decides -/

theorem usableConnector_congr (hfound : w.found e = w'.found e) :
    (w.usableConnector b l e).1.view (w.usableConnector b l e).2.host =
      (w'.usableConnector b l e).1.view (w'.usableConnector b l e).2.host := by
  obtain ⟨hclock, hslot⟩ := Prod.mk.inj hfound
  cases hc : w.pool.get? e with
  | none =>
    rw [hc, Option.map_none] at hslot
    have hc' : w'.pool.get? e = none := Option.map_eq_none_iff.1 hslot.symm
    rw [usableConnector_absent hc, usableConnector_absent hc']
    exact congrArg (View.mk · l.launcher l.dumpTimeout false none) hclock
  | some c =>
    rw [hc, Option.map_some] at hslot
    obtain ⟨c', hc', hview⟩ := Option.map_eq_some_iff.1 hslot.symm
    have hstate : c'.state b w'.host = c.state b w.host := Connector.state_congr hview
    by_cases hdead : c.state b w.host = .dead
    · rw [usableConnector_dead hc hdead, usableConnector_dead hc' (hstate.trans hdead)]
      have hlater : (c.discard w.host).clock = (c'.discard w'.host).clock := by
        rw [Connector.clock_discard, Connector.clock_discard, hclock]
      exact congrArg (View.mk · l.launcher l.dumpTimeout false none) hlater
    · rw [usableConnector_kept hc hdead, usableConnector_kept hc' (hstate ▸ hdead)]
      exact hview.symm

theorem loadConnection_congr {i : InstanceConfig}
    (hfound : w.found i.endpoint = w'.found i.endpoint) :
    let loaded := w.loadConnection b l i
    let loaded' := w'.loadConnection b l i
    (∃ e, loaded.1 = .error e ∧ loaded'.1 = .error e) ∨
      ∃ c c', loaded.1 = .ok c ∧ loaded'.1 = .ok c' ∧
        c.view loaded.2.host = c'.view loaded'.2.host := by
  intro loaded loaded'
  have husable := usableConnector_congr (b := b) (l := l) hfound
  have hsame := Connector.connected_congr (b := b) husable
  cases hconnected : (w'.usableConnector b l i.endpoint).1.connected b
      (w'.usableConnector b l i.endpoint).2.host with
  | true =>
    rw [hconnected] at hsame
    have hloaded : loaded = (.ok (w.usableConnector b l i.endpoint).1,
        (w.usableConnector b l i.endpoint).2) := if_pos hsame
    have hloaded' : loaded' = (.ok (w'.usableConnector b l i.endpoint).1,
        (w'.usableConnector b l i.endpoint).2) := if_pos hconnected
    rw [hloaded, hloaded']
    exact .inr ⟨_, _, rfl, rfl, husable⟩
  | false =>
    rw [hconnected] at hsame
    obtain ⟨hresult, hview⟩ := Connector.connect_congr (b := b) husable (options l i)
    cases hconnect : (w.usableConnector b l i.endpoint).1.connect b
        (w.usableConnector b l i.endpoint).2.host (options l i) with
    | mk result now =>
      cases hconnect' : (w'.usableConnector b l i.endpoint).1.connect b
          (w'.usableConnector b l i.endpoint).2.host (options l i) with
      | mk result' now' =>
        rw [hconnect, hconnect'] at hresult hview
        obtain rfl : result = result' := hresult
        have hloaded : loaded = _ := loadConnection_of_unconnected hsame hconnect
        have hloaded' : loaded' = _ := loadConnection_of_unconnected hconnected hconnect'
        rw [hloaded, hloaded']
        cases result with
        | error why => exact .inl ⟨why, rfl, rfl⟩
        | ok u => exact .inr ⟨_, _, rfl, rfl, hview⟩

/-- What is read depends on what the cycle finds. -/
theorem readDump_congr {i : InstanceConfig} (hfound : w.found i.endpoint = w'.found i.endpoint) :
    (w.readDump b l i).1 = (w'.readDump b l i).1 := by
  have hloads := loadConnection_congr (b := b) (l := l) hfound
  unfold readDump
  cases hload : w.loadConnection b l i with
  | mk result w₁ =>
    cases hload' : w'.loadConnection b l i with
    | mk result' w₁' =>
      rw [hload, hload'] at hloads
      rcases hloads with ⟨why, rfl, rfl⟩ | ⟨c, c', rfl, rfl, hview⟩
      · rfl
      have hdumps := Connector.dump_congr (b := b) hview
      dsimp only
      cases hdump : c.dump b w₁.host with
      | mk answer now =>
        cases hdump' : c'.dump b w₁'.host with
        | mk answer' now' =>
          rw [hdump, hdump'] at hdumps
          obtain rfl : answer = answer' := hdumps
          cases answer <;> rfl

theorem readSamples_congr {i : CheckInstance}
    (hfound : w.found i.config.endpoint = w'.found i.config.endpoint) :
    (w.readSamples b l i).1 = (w'.readSamples b l i).1 := by
  have hreads := readDump_congr (b := b) (l := l) hfound
  unfold readSamples
  cases hread : w.readDump b l i.config with
  | mk result w₁ =>
    cases hread' : w'.readDump b l i.config with
    | mk result' w₁' =>
      rw [hread, hread'] at hreads
      obtain rfl : result = result' := hreads
      cases result <;> rfl

/-! ## The cycles of other endpoints -/

theorem usableConnector_rests (hown : ∀ x, w.pool.session? e = some x → ¬P x.pid) :
    let usable := w.usableConnector b l e
    w.host.Rests b P usable.2.host ∧ usable.2.host.started = w.host.started ∧
      ∀ x, usable.1.session = some x → ¬P x.pid := by
  intro usable
  cases hc : w.pool.get? e with
  | none =>
    have husable : usable = _ := usableConnector_absent hc l
    rw [husable]
    refine ⟨.refl b P w.host, rfl, ?_⟩
    intro x hx
    cases hx
  | some c =>
    have hsession : ∀ x, c.session = some x → ¬P x.pid := by
      intro x hx
      exact hown x (by rw [Pool.session?, hc, Option.bind_some, hx])
    by_cases hdead : c.state b w.host = .dead
    · have husable : usable = _ := usableConnector_dead hc hdead l
      rw [husable]
      refine ⟨Connector.rests_discard hsession, ?_, ?_⟩
      · show (c.discard w.host).started = w.host.started
        rw [← Host.length_ended, Connector.ended_discard, Session.length_release,
          Host.length_ended]
      · intro x hx
        cases hx
    · have husable : usable = _ := usableConnector_kept hc hdead l
      rw [husable]
      exact ⟨.refl b P w.host, rfl, hsession⟩

/-- The cycle of another endpoint leaves the process of a slot to itself. -/
theorem rests_check_ne (hw : w.Separate) {i : CheckInstance} (he : e ≠ i.config.endpoint)
    (sink : Sink) : w.host.Rests b (w.Holds e) (w.check b l i sink).2.2.host := by
  have hown : ∀ x, w.pool.session? i.config.endpoint = some x → ¬w.Holds e x.pid := by
    rintro x hx ⟨y, hy, hpid⟩
    exact he (hw.apart _ _ y x hy hx hpid)
  have hstarted : ∀ pid, w.Holds e pid → pid < w.host.started := by
    rintro pid ⟨x, hx, rfl⟩
    exact hw.started e x hx
  obtain ⟨hrests, hsame, hsession⟩ := usableConnector_rests (b := b) (l := l) hown
  rw [(check_slot b l i sink w).2]
  exact hrests.trans (Connector.rests_visit hsession (hsame ▸ hstarted) _)

/-- What is found where a slot was kept and its process left to itself. -/
theorem found_of_rests (hslot : w'.pool.get? e = w.pool.get? e)
    (hrests : w.host.Rests b (w.Holds e) w'.host) :
    ∃ pauses, w'.found e = (w.rest b pauses).found e := by
  obtain ⟨pauses, hclock, hfind⟩ := hrests
  refine ⟨pauses, ?_⟩
  show (w'.host.clock, (w'.pool.get? e).map (view w'.host)) =
    ((w.host.rest b pauses).clock, (w.pool.get? e).map (view (w.host.rest b pauses)))
  rw [hclock, hslot]
  cases hc : w.pool.get? e with
  | none => rfl
  | some c =>
    rw [Option.map_some, Option.map_some, view, view, hclock]
    cases hs : c.session with
    | none => rfl
    | some x =>
      have hx : w.pool.session? e = some x := by rw [Pool.session?, hc, Option.bind_some, hs]
      rw [Option.map_some, Option.map_some, hfind x.pid ⟨x, hx, rfl⟩]

/-- A cycle never has two slots hold one process. -/
theorem Separate.check (hw : w.Separate) (b : Behaviour π) (l : LauncherConfig)
    (i : CheckInstance) (sink : Sink) : (w.check b l i sink).2.2.Separate := by
  have hpass := check_passes b l i sink w
  have hgrows := hpass.grows
  rw [Host.length_ended, Host.length_ended] at hgrows
  have hsession : ∀ e x, (w.check b l i sink).2.2.pool.session? e = some x →
      w.pool.session? e = some x ∨ (e = i.config.endpoint ∧ w.host.started ≤ x.pid ∧
        x.pid < (w.check b l i sink).2.2.host.started) := by
    intro e x hx
    by_cases he : e = i.config.endpoint
    · subst he
      rcases hpass.session x hx with hold | ⟨-, hlow, hhigh⟩
      · exact .inl hold
      · rw [Host.length_ended] at hlow hhigh
        exact .inr ⟨rfl, hlow, hhigh⟩
    · rw [Pool.session?, get?_check_ne b l i sink w he] at hx
      exact .inl hx
  constructor
  · intro e x hx
    rcases hsession e x hx with hold | ⟨-, -, hhigh⟩
    · exact Nat.lt_of_lt_of_le (hw.started e x hold) hgrows
    · exact hhigh
  · intro e e' x x' hx hx' hpid
    rcases hsession e x hx with hold | ⟨he, hlow, -⟩
    · rcases hsession e' x' hx' with hold' | ⟨-, hlow', -⟩
      · exact hw.apart e e' x x' hold hold' hpid
      · have hlt := hw.started e x hold
        omega
    · rcases hsession e' x' hx' with hold' | ⟨he', -, -⟩
      · have hlt := hw.started e' x' hold'
        omega
      · rw [he, he']

end Bridge

end BeanGauge
