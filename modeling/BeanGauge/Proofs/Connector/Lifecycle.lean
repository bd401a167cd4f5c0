import BeanGauge.Connector.Basic
import BeanGauge.Proofs.Except
import BeanGauge.Proofs.Host.Table
/-!
# The life of a connector

Three things can come of an attempt to connect, and three of a dump; each of them says what is left
of the session and of the table of processes. From these the states of a connector follow for every
sequence of calls: what programs do may be different at every call, and processes may exit between
any two of them.
-/

namespace BeanGauge

variable {π : Type}

/-- The table of processes once that of a session was ended. -/
def Session.release : Option Session → List Bool → List Bool
  | none, ended => ended
  | some s, ended => ended.set s.pid true

@[simp] theorem Session.length_release (s : Option Session) (ended : List Bool) :
    (Session.release s ended).length = ended.length := by
  cases s <;> simp [release]

namespace Connector

open Session (release)

variable {b : Behaviour π} {h : Host π} {c : Connector}

theorem ended_close (s : Session) (deadline : Nat) :
    (close b h s deadline).ended = release (some s) h.ended := by
  unfold close
  dsimp only
  rw [Host.ended_kill, release]
  split
  · split
    · rename_i hw
      rw [Host.ended_awaitPrompt, Host.ended_write hw]
    · rfl
  · rfl

/-- The first half of an attempt to connect: the old session is closed. -/
def closeOld (b : Behaviour π) (h : Host π) (c : Connector) (deadline : Nat) : Host π :=
  match c.session with
  | some s => close b h s deadline
  | none => h

/-- The second half: a process is started, and its prompt awaited. -/
def openNew (b : Behaviour π) (h : Host π) (c : Connector) (o : ConnectOptions) (deadline : Nat) :
    Except ConnectorError Unit × Connector × Host π :=
  match h.spawn b c.launcher.program (c.launcher.argv o.endpoint o.credentials) with
  | .error reason =>
    (.error (.spawn c.launcher.program reason), { c with session := none }, h)
  | .ok (pid, h) =>
    match h.awaitPrompt b pid deadline with
    | (.ok _, h) =>
      (.ok (), { c with session := some ⟨pid, o.endpoint⟩, spawned := true }, h)
    | (.error e, h) =>
      (.error (connectError o e), { c with session := none, spawned := true }, h.kill pid)

theorem connect_eq (b : Behaviour π) (h : Host π) (c : Connector) (o : ConnectOptions) :
    c.connect b h o = openNew b (closeOld b h c (h.clock + o.timeout.toNat)) c o
      (h.clock + o.timeout.toNat) := rfl

theorem ended_closeOld (deadline : Nat) :
    (closeOld b h c deadline).ended = release c.session h.ended := by
  unfold closeOld
  cases c.session with
  | none => rfl
  | some s => exact ended_close s deadline

/-- When an attempt to connect starts its process: the old session is closed by then. -/
def launchTime (b : Behaviour π) (h : Host π) (c : Connector) (o : ConnectOptions) : Nat :=
  (closeOld b h c (h.clock + o.timeout.toNat)).clock

/-- Nothing is waited for where no process has to be asked to close its connection. -/
theorem launchTime_of_unconnected (hc : c.connected b h = false) (o : ConnectOptions) :
    launchTime b h c o = h.clock := by
  rw [launchTime, closeOld]
  cases hs : c.session with
  | none => rfl
  | some s =>
    have halive : h.alive b s.pid = false := by
      rw [connected, hs] at hc
      exact hc
    simp only [close, halive]
    rfl

/-- The program of a launcher, called at some time for an endpoint. -/
def launch (b : Behaviour π) (time : Nat) (l : Launcher) (o : ConnectOptions) : Except String π :=
  b.start time l.program (l.argv o.endpoint o.credentials)

/-- What can come of an attempt to connect. -/
inductive Connects (b : Behaviour π) (h : Host π) (c : Connector) (o : ConnectOptions) :
    Except ConnectorError Unit × Connector × Host π → Prop
  | unspawned (reason : String) (h' : Host π)
      (started : launch b (launchTime b h c o) c.launcher o = .error reason)
      (table : h'.ended = release c.session h.ended) :
      Connects b h c o (.error (.spawn c.launcher.program reason), { c with session := none }, h')
  | unanswered (p : π) (why : Ending) (h' : Host π)
      (started : launch b (launchTime b h c o) c.launcher o = .ok p)
      (table : h'.ended = release c.session h.ended ++ [true]) :
      Connects b h c o
        (.error (connectError o why), { c with session := none, spawned := true }, h')
  | opened (p : π) (h' : Host π)
      (started : launch b (launchTime b h c o) c.launcher o = .ok p)
      (table : h'.ended = release c.session h.ended ++ [false]) :
      Connects b h c o
        (.ok (), { c with session := some ⟨h.started, o.endpoint⟩, spawned := true }, h')

/-- Connecting does one of the things that `Connects` lists, and each with the host that it names.
-/
theorem connect_cases (b : Behaviour π) (h : Host π) (c : Connector) (o : ConnectOptions) :
    Connects b h c o (c.connect b h o) := by
  rw [connect_eq]
  have hold := ended_closeOld (b := b) (h := h) (c := c) (h.clock + o.timeout.toNat)
  have htime : launchTime b h c o = (closeOld b h c (h.clock + o.timeout.toNat)).clock := rfl
  generalize closeOld b h c (h.clock + o.timeout.toNat) = h₀ at hold htime
  -- closing starts no process, so the new one has the number that was free before
  have hnext : h₀.started = h.started := by
    rw [← Host.length_ended, hold, Session.length_release, Host.length_ended]
  unfold openNew
  cases hlaunch : launch b (launchTime b h c o) c.launcher o with
  | error reason =>
    rw [Host.spawn_of_error (htime ▸ hlaunch)]
    exact .unspawned reason h₀ hlaunch hold
  | ok p =>
    rw [Host.spawn_of_ok (htime ▸ hlaunch), hnext]
    dsimp only
    have htable := Host.ended_awaitPrompt (b := b) (h := h₀.grown p) h.started
      (h.clock + o.timeout.toNat)
    rw [Host.ended_grown, hold] at htable
    split
    · rename_i text h' hwait
      rw [hwait] at htable
      exact .opened p h' hlaunch htable
    · rename_i why h' hwait
      rw [hwait] at htable
      refine .unanswered p why _ hlaunch ?_
      have hlast : h.started = (release c.session h.ended).length := by
        rw [Session.length_release, Host.length_ended]
      rw [Host.ended_kill, htable, hlast]
      simp

/-- What can come of a dump. -/
inductive Dumps (explain : String → String) (h : Host π) (c : Connector) :
    Except ConnectorError Dump × Connector × Host π → Prop
  | unasked (session : c.session = none) : Dumps explain h c (.error .notConnected, c, h)
  | unanswered (e : ConnectorError) (h' : Host π) (fatal : e.isFatal)
      (table : h'.ended = release c.session h.ended) :
      Dumps explain h c (.error e, { c with session := none }, h')
  | answered (s : Session) (output : String) (h' : Host π) (session : c.session = some s)
      (table : h'.ended = h.ended) :
      Dumps explain h c ((Dump.parse explain (answerTo "dump" output)).mapError
        (.protocol s.endpoint.text), c, h')

theorem isFatal_dumpError (c : Connector) (s : Session) (why : Ending) :
    (c.dumpError s why).isFatal := by
  cases why <;> rfl

/-- Whatever is answered, asking for a dump ends no process, and no answer is a fatal error. -/
theorem askDump_spec (b : Behaviour π) (h : Host π) (c : Connector) (s : Session) :
    (c.askDump b h s).2.ended = h.ended ∧ ∀ e, (c.askDump b h s).1 = .error e → e.isFatal := by
  unfold askDump
  split
  · refine ⟨rfl, ?_⟩
    intro e he
    cases he
    rfl
  rename_i h₁ hwrite
  have htable := Host.ended_awaitPrompt (b := b) (h := h₁) s.pid (h.clock + c.dumpTimeout.toNat)
  rw [Host.ended_write hwrite] at htable
  split
  · rename_i output h₂ hwait
    rw [hwait] at htable
    refine ⟨htable, ?_⟩
    intro e he
    cases he
  · rename_i why h₂ hwait
    rw [hwait] at htable
    refine ⟨htable, ?_⟩
    intro e he
    cases he
    exact isFatal_dumpError c s why

/-- So does asking for a dump, with `Dumps`. -/
theorem dump_cases (b : Behaviour π) (h : Host π) (c : Connector) :
    Dumps b.noJson h c (c.dump b h) := by
  unfold dump
  split
  · rename_i hnone
    exact .unasked hnone
  rename_i s hs
  obtain ⟨htable, hfatal⟩ := askDump_spec b h c s
  split
  · rename_i e h' hask
    rw [hask] at htable hfatal
    refine .unanswered e _ (hfatal e rfl) ?_
    rw [Host.ended_kill, htable, hs, release]
  · rename_i output h' hask
    rw [hask] at htable
    exact .answered s output h' hs htable

theorem terminate_spec (b : Behaviour π) (h : Host π) (c : Connector) :
    (c.terminate b h).1 = { c with session := none } ∧
      (c.terminate b h).2.ended = release c.session h.ended := by
  obtain ⟨id, launcher, dumpTimeout, session, spawned⟩ := c
  cases session with
  | none => exact ⟨rfl, rfl⟩
  | some s =>
    refine ⟨rfl, ?_⟩
    simp only [terminate, Host.ended_kill, release]
    split
    · split
      · rename_i hwrite
        rw [Host.ended_write hwrite]
      · rfl
    · rfl

theorem ended_discard (h : Host π) (c : Connector) :
    (c.discard h).ended = release c.session h.ended := by
  unfold discard
  cases c.session with
  | none => rfl
  | some s => exact Host.ended_kill s.pid

structure Same (c c' : Connector) : Prop where
  id : c'.id = c.id
  launcher : c'.launcher = c.launcher

theorem connect_same (b : Behaviour π) (h : Host π) (c : Connector) (o : ConnectOptions) :
    Same c (c.connect b h o).2.1 := by
  have hcases := connect_cases b h c o
  generalize c.connect b h o = result at hcases
  cases hcases with
  | unspawned => exact ⟨rfl, rfl⟩
  | unanswered => exact ⟨rfl, rfl⟩
  | opened => exact ⟨rfl, rfl⟩

theorem dump_same (b : Behaviour π) (h : Host π) (c : Connector) :
    Same c (c.dump b h).2.1 := by
  have hcases := dump_cases b h c
  generalize c.dump b h = result at hcases
  cases hcases with
  | unasked => exact ⟨rfl, rfl⟩
  | unanswered => exact ⟨rfl, rfl⟩
  | answered => exact ⟨rfl, rfl⟩

theorem state_eq_unconnected_iff :
    c.state b h = .unconnected ↔ c.connected b h = false ∧ c.spawned = false := by
  rw [state]
  cases c.connected b h <;> cases c.spawned <;> simp

/-- A call to a connector, or what a process does by itself between two calls. Each call has its own
behaviour of programs. -/
inductive Call (π : Type) where
  | connect (b : Behaviour π) (o : ConnectOptions)
  | dump (b : Behaviour π)
  | terminate (b : Behaviour π)
  /-- A process comes to another state; it may have exited. -/
  | turn (pid : Nat) (state : π)
  | pass (b : Behaviour π) (millis : Nat)

/-- The connector and the host after a call. -/
def Call.run : Call π → Connector × Host π → Connector × Host π
  | .connect b o, (c, h) => (c.connect b h o).2
  | .dump b, (c, h) => (c.dump b h).2
  | .terminate b, (c, h) => c.terminate b h
  | .turn pid state, (c, h) => (c, h.update pid state)
  | .pass b millis, (c, h) => (c, h.pass b millis)

/-- Whether a call starts a process. -/
def Call.Spawns (now : Connector × Host π) : Call π → Prop
  | .connect b o => ∃ p, launch b (launchTime b now.2 now.1 o) now.1.launcher o = .ok p
  | _ => False

/-- The connector and the host after some calls. -/
def after (calls : List (Call π)) (now : Connector × Host π) : Connector × Host π :=
  calls.foldl (fun now call => call.run now) now

/-- Whether any of some calls starts a process. -/
def Spawned : List (Call π) → Connector × Host π → Prop
  | [], _ => False
  | call :: calls, now => call.Spawns now ∨ Spawned calls (call.run now)

/-- What a connector of a launcher remembers: it has a session only if it started a process, and it
says that it did exactly if `started`. -/
structure Remembers (l : Launcher) (started : Prop) (c : Connector) : Prop where
  launcher : c.launcher = l
  session : c.session.isSome → c.spawned
  spawned : c.spawned ↔ started

theorem Remembers.drop {l : Launcher} {started : Prop} (hc : Remembers l started c) :
    Remembers l started { c with session := none } where
  launcher := hc.launcher
  session hnone := by cases hnone
  spawned := hc.spawned

theorem Remembers.spawn {l : Launcher} {started started' : Prop} (hc : Remembers l started c)
    (hstarted : started') (session : Option Session) :
    Remembers l started' { c with session, spawned := true } where
  launcher := hc.launcher
  session _ := rfl
  spawned := ⟨fun _ => hstarted, fun _ => rfl⟩

theorem Remembers.of_iff {l : Launcher} {started started' : Prop} (hc : Remembers l started c)
    (h : started ↔ started') : Remembers l started' c :=
  ⟨hc.launcher, hc.session, hc.spawned.trans h⟩

/-- The connector remembers over every call whether it has spawned, and keeps its launcher. -/
theorem Remembers.run {l : Launcher} {started : Prop} (hc : Remembers l started c)
    (h : Host π) (call : Call π) :
    Remembers l (started ∨ call.Spawns (c, h)) (call.run (c, h)).1 := by
  cases call with
  | connect b o =>
    have hcases := connect_cases b h c o
    simp only [Call.run]
    generalize c.connect b h o = result at hcases
    cases hcases with
    | unspawned reason h' hstart htable =>
      have hno : ¬ (Call.connect b o).Spawns (c, h) := by
        rintro ⟨p, hp⟩
        rw [hstart] at hp
        cases hp
      exact hc.drop.of_iff (or_iff_left hno).symm
    | unanswered p why h' hstart htable => exact hc.spawn (.inr ⟨p, hstart⟩) none
    | opened p h' hstart htable => exact hc.spawn (.inr ⟨p, hstart⟩) _
  | dump b =>
    have hkept := hc.of_iff (or_iff_left (not_false : ¬ (Call.dump b).Spawns (c, h))).symm
    have hcases := dump_cases b h c
    simp only [Call.run]
    generalize c.dump b h = result at hcases
    cases hcases with
    | unasked hs => exact hkept
    | unanswered e h' hfatal htable => exact hkept.drop
    | answered s output h' hs htable => exact hkept
  | terminate b =>
    have hkept := hc.of_iff (or_iff_left (not_false : ¬ (Call.terminate b).Spawns (c, h))).symm
    simp only [Call.run, (terminate_spec b h c).1]
    exact hkept.drop
  | turn pid state =>
    exact hc.of_iff (or_iff_left (not_false : ¬ (Call.turn pid state).Spawns (c, h))).symm
  | pass b millis =>
    exact hc.of_iff (or_iff_left (not_false : ¬ (Call.pass b millis).Spawns (c, h))).symm

/-- After some calls a connector still knows whether any of them started a process. -/
theorem Remembers.after {l : Launcher} {started : Prop} (calls : List (Call π))
    (hc : Remembers l started c) (h : Host π) :
    Remembers l (started ∨ Spawned calls (c, h)) (after calls (c, h)).1 := by
  induction calls generalizing started c h with
  | nil => exact hc.of_iff (or_iff_left not_false).symm
  | cons call calls ih =>
    refine (ih (hc.run h call) (call.run (c, h)).2).of_iff ?_
    rw [Spawned, or_assoc]

theorem Remembers.unconnected_iff {l : Launcher} {started : Prop} (hc : Remembers l started c)
    (b : Behaviour π) (h : Host π) : c.state b h = .unconnected ↔ ¬ started := by
  rw [state_eq_unconnected_iff, ← hc.spawned, Bool.not_eq_true, and_iff_right_iff_imp]
  intro hspawned
  by_contra hconnected
  obtain ⟨s, hs, -⟩ := (Option.any_eq_true _ _).1 (Bool.of_not_eq_false hconnected)
  have hsome := hc.session (Option.isSome_of_eq_some hs)
  rw [hspawned] at hsome
  cases hsome

/-- Success means a session with the process that was started last, which is open. -/
theorem connect_eq_ok {o : ConnectOptions} {c' : Connector} {h' : Host π}
    (hc : c.connect b h o = (.ok (), c', h')) :
    (∃ p, launch b (launchTime b h c o) c.launcher o = .ok p) ∧
      c'.session = some ⟨h.started, o.endpoint⟩ ∧ h'.started = h.started + 1 ∧
      h'.Open h.started := by
  have hcases := connect_cases b h c o
  rw [hc] at hcases
  cases hcases with
  | opened p h' hstart htable =>
    have hlen : (release c.session h.ended).length = h.started := by
      rw [Session.length_release, Host.length_ended]
    refine ⟨⟨p, hstart⟩, rfl, ?_, ?_⟩
    · rw [← Host.length_ended, htable, List.length_append, hlen, List.length_singleton]
    · rw [Host.Open, htable, ← hlen, List.getElem?_concat_length]

theorem connect_eq_error {o : ConnectOptions} {e : ConnectorError} {c' : Connector} {h' : Host π}
    (hc : c.connect b h o = (.error e, c', h')) : c'.session = none := by
  have hcases := connect_cases b h c o
  rw [hc] at hcases
  cases hcases with
  | unspawned => rfl
  | unanswered => rfl

/-- A dump that cannot be read is no reason to give the process up. -/
theorem mapError_protocol_eq_error {text : String} {answer : Except Dump.Error Dump}
    {e : ConnectorError} (h : answer.mapError (.protocol text) = .error e) :
    e.isFatal = false := by
  cases answer with
  | ok d => cases h
  | error source =>
    cases h
    rfl

/-- A dump that succeeds is decoded from what was answered. -/
theorem dump_eq_ok {d : Dump} {c' : Connector} {h' : Host π} (hd : c.dump b h = (.ok d, c', h')) :
    ∃ output, Dump.parse b.noJson (answerTo "dump" output) = .ok d := by
  have hcases := dump_cases b h c
  rw [hd] at hcases
  generalize hresult : (Except.ok d, c', h') = result at hcases
  cases hcases with
  | unasked => cases hresult
  | unanswered => cases hresult
  | answered s output h' hs htable =>
    obtain ⟨hparse, -⟩ := by simpa only [Prod.mk.injEq] using hresult
    exact ⟨output, mapError_eq_ok_iff.1 hparse.symm⟩

/-- A dump that fails gives up the session exactly if its error is fatal. -/
theorem dump_eq_error {e : ConnectorError} {c' : Connector} {h' : Host π}
    (hd : c.dump b h = (.error e, c', h')) :
    (c'.session = none ↔ e.isFatal) ∧ (e.isFatal = false → c'.session = c.session) := by
  have hcases := dump_cases b h c
  rw [hd] at hcases
  generalize hresult : (Except.error e, c', h') = result at hcases
  cases hcases with
  | unasked hs =>
    obtain ⟨⟨rfl⟩, rfl, -⟩ := by simpa only [Prod.mk.injEq] using hresult
    exact ⟨iff_of_true hs rfl, fun _ => rfl⟩
  | unanswered e' h' hfatal htable =>
    obtain ⟨⟨rfl⟩, rfl, -⟩ := by simpa only [Prod.mk.injEq] using hresult
    refine ⟨iff_of_true rfl hfatal, ?_⟩
    intro hno
    rw [hfatal] at hno
    cases hno
  | answered s output h' hs htable =>
    obtain ⟨he, rfl, -⟩ := by simpa only [Prod.mk.injEq] using hresult
    have hprotocol := mapError_protocol_eq_error he.symm
    refine ⟨?_, fun _ => rfl⟩
    rw [hs, hprotocol]
    simp

/-- The states of a connector after any calls, and what the next call leaves of its session. -/
theorem state_machine (id : Nat) (l : Launcher) (dumpTimeout : UInt64) (h₀ : Host π)
    (calls : List (Call π)) (b : Behaviour π) :
    let new := (fresh id l dumpTimeout, h₀)
    let now := after calls new
    let c := now.1
    let h := now.2
    (c.state b h = .unconnected ↔ ¬ Spawned calls new) ∧
    (Spawned calls new → ∀ (more : List (Call π)) (b' : Behaviour π),
      (after more now).1.state b' (after more now).2 ≠ .unconnected) ∧
    (∀ o c' h', c.connect b h o = (.ok (), c', h') →
      (∃ p, launch b (launchTime b h c o) l o = .ok p) ∧
        c'.session = some ⟨h.started, o.endpoint⟩ ∧ h'.started = h.started + 1 ∧
        h'.Open h.started) ∧
    (∀ o e c' h', c.connect b h o = (.error e, c', h') → c'.session = none) ∧
    (∀ e c' h', c.dump b h = (.error e, c', h') →
      (c'.session = none ↔ e.isFatal) ∧
        ∀ text source, e = .protocol text source → c'.session = c.session) ∧
    (c.terminate b h).1.session = none ∧
    (c.connected b h → c.session.isSome) := by
  intro new now c h
  have hnew : Remembers l False (fresh id l dumpTimeout) :=
    ⟨rfl, Bool.noConfusion, iff_of_false Bool.false_ne_true not_false⟩
  have hnow : Remembers l (Spawned calls new) c :=
    (hnew.after calls h₀).of_iff (or_iff_right not_false)
  refine ⟨?_, ?_, ?_, ?_, ?_, ?_, ?_⟩
  · exact hnow.unconnected_iff b h
  · intro hspawned more b' hstate
    exact (hnow.after more h).unconnected_iff b' _ |>.1 hstate (.inl hspawned)
  · intro o c' h' hc
    rw [← hnow.launcher]
    exact connect_eq_ok hc
  · intro o e c' h' hc
    exact connect_eq_error hc
  · intro e c' h' hd
    obtain ⟨hlost, hkept⟩ := dump_eq_error hd
    refine ⟨hlost, ?_⟩
    rintro text source rfl
    exact hkept rfl
  · rw [(terminate_spec b h c).1]
  · intro hconnected
    obtain ⟨s, hs, -⟩ := (Option.any_eq_true _ _).1 hconnected
    rw [hs]
    rfl

end Connector

end BeanGauge
