import BeanGauge.Proofs.Connector.Lifecycle
import BeanGauge.Proofs.Host.Locality
/-!
# What a connector depends on

A call to a connector depends on what the connector is made of, on the process of its session and
on the time, not on the number of that process or on any other process. Other processes are left to
themselves meanwhile.
-/

namespace BeanGauge.Connector

variable {π : Type} {b : Behaviour π} {h h' : Host π} {c c' : Connector} {s s' : Session}

/-- What can be told of a connector without the number of its process and its own: the endpoint of
its session stands beside the state of the process. -/
structure View (π : Type) where
  clock : Nat
  launcher : Launcher
  dumpTimeout : UInt64
  spawned : Bool
  session : Option (Endpoint × Option π)

/-- The view of a connector on a host. -/
def view (h : Host π) (c : Connector) : View π :=
  ⟨h.clock, c.launcher, c.dumpTimeout, c.spawned,
    c.session.map fun s => (s.endpoint, h.find? s.pid)⟩

/-! ## Other processes are left to themselves -/

variable {P : Nat → Prop}

theorem rests_close (hown : ¬P s.pid) (deadline : Nat) :
    h.Rests b P (close b h s deadline) := by
  unfold close
  dsimp only
  refine .trans ?_ (Host.rests_kill hown)
  split
  · split
    · rename_i hw
      exact (Host.rests_write hown hw).trans (Host.rests_awaitPrompt hown deadline)
    · exact .refl b P h
  · exact .refl b P h

theorem rests_closeOld (hown : ∀ s, c.session = some s → ¬P s.pid) (deadline : Nat) :
    h.Rests b P (closeOld b h c deadline) := by
  unfold closeOld
  split
  · rename_i s hs
    exact rests_close (hown s hs) deadline
  · exact .refl b P h

theorem started_closeOld (deadline : Nat) :
    (closeOld b h c deadline).started = h.started := by
  rw [← Host.length_ended, ended_closeOld, Session.length_release, Host.length_ended]

theorem rests_openNew (hstarted : ∀ pid, P pid → pid < h.started) (o : ConnectOptions)
    (deadline : Nat) : h.Rests b P (openNew b h c o deadline).2.2 := by
  have hnew : ¬P h.started := fun hpid => Nat.lt_irrefl _ (hstarted _ hpid)
  unfold openNew
  cases hlaunch : launch b h.clock c.launcher o with
  | error reason =>
    rw [Host.spawn_of_error hlaunch]
    exact .refl b P h
  | ok p =>
    rw [Host.spawn_of_ok hlaunch]
    dsimp only
    have hwait :=
      (Host.rests_grown hstarted p).trans (Host.rests_awaitPrompt (b := b) hnew deadline)
    split
    · rename_i hresult
      rw [hresult] at hwait
      exact hwait
    · rename_i hresult
      rw [hresult] at hwait
      exact hwait.trans (Host.rests_kill hnew)

/-- Connecting lets the processes of others rest: time passes for them and nothing else happens. -/
theorem rests_connect (hown : ∀ s, c.session = some s → ¬P s.pid)
    (hstarted : ∀ pid, P pid → pid < h.started) (o : ConnectOptions) :
    h.Rests b P (c.connect b h o).2.2 := by
  rw [connect_eq]
  refine (rests_closeOld hown _).trans (rests_openNew ?_ o _)
  rw [started_closeOld]
  exact hstarted

theorem rests_askDump (hown : ¬P s.pid) : h.Rests b P (c.askDump b h s).2 := by
  unfold askDump
  split
  · exact .refl b P h
  · rename_i h₁ hw
    have hwait := (Host.rests_write hown hw).trans
      (Host.rests_awaitPrompt hown (h.clock + c.dumpTimeout.toNat))
    split
    · rename_i hresult
      rw [hresult] at hwait
      exact hwait
    · rename_i hresult
      rw [hresult] at hwait
      exact hwait

/-- So does asking for a dump. -/
theorem rests_dump (hown : ∀ s, c.session = some s → ¬P s.pid) :
    h.Rests b P (c.dump b h).2.2 := by
  unfold dump
  split
  · exact .refl b P h
  rename_i s hs
  have hask := rests_askDump (b := b) (h := h) (c := c) (hown s hs)
  split
  · rename_i hresult
    rw [hresult] at hask
    exact hask.trans (Host.rests_kill (hown s hs))
  · rename_i hresult
    rw [hresult] at hask
    exact hask

theorem clock_discard (h : Host π) (c : Connector) : (c.discard h).clock = h.clock := by
  unfold discard
  split <;> rfl

theorem rests_discard (hown : ∀ s, c.session = some s → ¬P s.pid) :
    h.Rests b P (c.discard h) := by
  unfold discard
  split
  · exact .refl b P h
  · rename_i s hs
    exact Host.rests_kill (hown s hs)

/-! ## One connector and another of the same view -/

/-- Connectors that look alike have no session, or processes in the same state. -/
theorem session_of_view (hv : c.view h = c'.view h') :
    (c.session = none ∧ c'.session = none) ∨ ∃ s s', c.session = some s ∧ c'.session = some s' ∧
      s.endpoint = s'.endpoint ∧ h.find? s.pid = h'.find? s'.pid := by
  have hsession := congrArg View.session hv
  simp only [view] at hsession
  cases hs : c.session with
  | none =>
    cases hs' : c'.session with
    | none => exact .inl ⟨rfl, rfl⟩
    | some s' => simp [hs, hs'] at hsession
  | some s =>
    cases hs' : c'.session with
    | none => simp [hs, hs'] at hsession
    | some s' =>
      simp only [hs, hs', Option.map_some, Option.some.injEq, Prod.mk.injEq] at hsession
      exact .inr ⟨s, s', rfl, rfl, hsession.1, hsession.2⟩

theorem connected_congr (hv : c.view h = c'.view h') : c.connected b h = c'.connected b h' := by
  rw [connected, connected]
  rcases session_of_view hv with ⟨hs, hs'⟩ | ⟨s, s', hs, hs', -, hstate⟩
  · rw [hs, hs']
    rfl
  · rw [hs, hs']
    exact Host.alive_congr hstate

theorem state_congr (hv : c.view h = c'.view h') : c.state b h = c'.state b h' := by
  have hspawned : c.spawned = c'.spawned := congrArg View.spawned hv
  rw [state, connected_congr hv, hspawned, state]

/-- Closing a session takes the same time on both hosts. -/
theorem clock_close_congr (hstate : h.find? s.pid = h'.find? s'.pid) (hclock : h.clock = h'.clock)
    (deadline : Nat) : (close b h s deadline).clock = (close b h' s' deadline).clock := by
  have halive : h.alive b s.pid = h'.alive b s'.pid := Host.alive_congr hstate
  show Host.clock _ = Host.clock _
  unfold close
  dsimp only [Host.kill]
  rw [halive]
  split
  · rcases Host.write_congr (b := b) hstate (commandLine "close") with
      ⟨reason, hw, hw'⟩ | ⟨p, hp, p', hw, hw'⟩
    · rw [hw, hw']
      exact hclock
    · rw [hw, hw']
      have hupdated : (h.update s.pid p').find? s.pid = (h'.update s'.pid p').find? s'.pid := by
        rw [Host.find?_update hp, Host.find?_update (hstate ▸ hp)]
      exact (Host.awaitPrompt_congr (b := b) hupdated hclock deadline).2.2
  · exact hclock

theorem clock_closeOld_congr (hv : c.view h = c'.view h') (deadline : Nat) :
    (closeOld b h c deadline).clock = (closeOld b h' c' deadline).clock := by
  have hclock : h.clock = h'.clock := congrArg View.clock hv
  unfold closeOld
  rcases session_of_view hv with ⟨hs, hs'⟩ | ⟨s, s', hs, hs', -, hstate⟩
  · rw [hs, hs']
    exact hclock
  · rw [hs, hs']
    exact clock_close_congr hstate hclock deadline

theorem openNew_congr (hv : c.view h = c'.view h') {h₀ h₀' : Host π} (o : ConnectOptions)
    (hclock : h₀.clock = h₀'.clock) (deadline : Nat) :
    let opened := openNew b h₀ c o deadline
    let opened' := openNew b h₀' c' o deadline
    opened.1 = opened'.1 ∧ opened.2.1.view opened.2.2 = opened'.2.1.view opened'.2.2 := by
  intro opened opened'
  have hlauncher : c.launcher = c'.launcher := congrArg View.launcher hv
  have htimeout : c.dumpTimeout = c'.dumpTimeout := congrArg View.dumpTimeout hv
  have hspawned : c.spawned = c'.spawned := congrArg View.spawned hv
  have hsame : launch b h₀.clock c.launcher o = launch b h₀'.clock c'.launcher o := by
    rw [hclock, hlauncher]
  cases hlaunch : launch b h₀'.clock c'.launcher o with
  | error reason =>
    have hopened : opened =
        (.error (.spawn c'.launcher.program reason), { c with session := none }, h₀) := by
      rw [← hlauncher]
      simp only [opened, openNew, Host.spawn_of_error (hsame.trans hlaunch)]
    have hopened' : opened' =
        (.error (.spawn c'.launcher.program reason), { c' with session := none }, h₀') := by
      simp only [opened', openNew, Host.spawn_of_error hlaunch]
    rw [hopened, hopened']
    refine ⟨rfl, ?_⟩
    simp only [view, hclock, hlauncher, htimeout, hspawned, Option.map_none]
  | ok p =>
    have hstart : (h₀.grown p).find? h₀.started = (h₀'.grown p).find? h₀'.started := by
      rw [Host.find?_grown_started, Host.find?_grown_started]
    obtain ⟨hanswer, hstate, htime⟩ := Host.awaitPrompt_congr (b := b) hstart hclock deadline
    simp only [opened, opened', openNew, Host.spawn_of_ok (hsame.trans hlaunch),
      Host.spawn_of_ok hlaunch]
    cases hwait : (h₀.grown p).awaitPrompt b h₀.started deadline with
    | mk answer h₁ =>
      cases hwait' : (h₀'.grown p).awaitPrompt b h₀'.started deadline with
      | mk answer' h₁' =>
        rw [hwait, hwait'] at hanswer hstate htime
        obtain rfl : answer = answer' := hanswer
        have hover : h₁.clock = h₁'.clock := htime
        cases answer with
        | ok text =>
          refine ⟨rfl, ?_⟩
          simp only [view, hover, hlauncher, htimeout, Option.map_some]
          rw [hstate]
        | error why =>
          refine ⟨rfl, ?_⟩
          simp only [view, Host.kill, hover, hlauncher, htimeout, Option.map_none]

/-- Connecting depends on the view only, and what comes of it looks alike again. The numbers of
the processes may differ. -/
theorem connect_congr (hv : c.view h = c'.view h') (o : ConnectOptions) :
    (c.connect b h o).1 = (c'.connect b h' o).1 ∧
      (c.connect b h o).2.1.view (c.connect b h o).2.2 =
        (c'.connect b h' o).2.1.view (c'.connect b h' o).2.2 := by
  have hclock : h.clock = h'.clock := congrArg View.clock hv
  rw [connect_eq, connect_eq, hclock]
  exact openNew_congr hv o (clock_closeOld_congr hv _) _

theorem askDump_congr (htimeout : c.dumpTimeout = c'.dumpTimeout)
    (hendpoint : s.endpoint = s'.endpoint) (hstate : h.find? s.pid = h'.find? s'.pid)
    (hclock : h.clock = h'.clock) :
    (c.askDump b h s).1 = (c'.askDump b h' s').1 := by
  have herror : c.dumpError s = c'.dumpError s' := by
    funext why
    cases why <;> simp only [dumpError, htimeout, hendpoint]
  unfold askDump
  rcases Host.write_congr (b := b) hstate (commandLine "dump") with
    ⟨reason, hw, hw'⟩ | ⟨p, hp, p', hw, hw'⟩
  · rw [hw, hw']
  rw [hw, hw', hclock, htimeout]
  dsimp only
  have hupdated : (h.update s.pid p').find? s.pid = (h'.update s'.pid p').find? s'.pid := by
    rw [Host.find?_update hp, Host.find?_update (hstate ▸ hp)]
  have hwait := (Host.awaitPrompt_congr (b := b) hupdated hclock
    (h'.clock + c'.dumpTimeout.toNat)).1
  cases hcomes : (h.update s.pid p').awaitPrompt b s.pid (h'.clock + c'.dumpTimeout.toNat) with
  | mk answer h₁ =>
    cases hcomes' : (h'.update s'.pid p').awaitPrompt b s'.pid
        (h'.clock + c'.dumpTimeout.toNat) with
    | mk answer' h₁' =>
      rw [hcomes, hcomes'] at hwait
      obtain rfl : answer = answer' := hwait
      cases answer with
      | ok output => rfl
      | error why =>
        dsimp only
        rw [herror]

/-- The answer to the request for a dump depends on the view only. -/
theorem dump_congr (hv : c.view h = c'.view h') : (c.dump b h).1 = (c'.dump b h').1 := by
  have htimeout : c.dumpTimeout = c'.dumpTimeout := congrArg View.dumpTimeout hv
  unfold dump
  rcases session_of_view hv with ⟨hs, hs'⟩ | ⟨s, s', hs, hs', hendpoint, hstate⟩
  · rw [hs, hs']
  rw [hs, hs']
  dsimp only
  have hask := askDump_congr (b := b) htimeout hendpoint hstate (congrArg View.clock hv)
  cases hcomes : c.askDump b h s with
  | mk answer h₁ =>
    cases hcomes' : c'.askDump b h' s' with
    | mk answer' h₁' =>
      rw [hcomes, hcomes'] at hask
      obtain rfl : answer = answer' := hask
      cases answer with
      | ok output =>
        dsimp only
        rw [hendpoint]
      | error e => rfl

end BeanGauge.Connector
