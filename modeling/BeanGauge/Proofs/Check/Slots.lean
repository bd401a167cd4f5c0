import BeanGauge.Proofs.Check.Cycle
import BeanGauge.Proofs.Connector.Ownership
import BeanGauge.Proofs.Pool
/-!
# What a cycle does to its slot

A cycle takes the connector of its slot, a new one if that is dead, and visits it. All other slots
are left alone.
-/

namespace BeanGauge

variable {π : Type} {b : Behaviour π} {l : LauncherConfig} {e : Endpoint} {w : Bridge π}

/-- The rest of a cycle for the connector of its slot: it is connected unless it is, and asked for a
dump if it is connected then. -/
def Connector.visit (b : Behaviour π) (h : Host π) (c : Connector) (o : ConnectOptions) :
    Connector × Host π :=
  if c.connected b h then (c.dump b h).2
  else
    match c.connect b h o with
    | (.ok _, c, h) => (c.dump b h).2
    | (.error _, c, h) => (c, h)

namespace Connector

open Session (Passes)

theorem visit_passes (b : Behaviour π) (h : Host π) (c : Connector) (o : ConnectOptions) :
    Passes o.endpoint c.session h.ended (c.visit b h o).1.session (c.visit b h o).2.ended := by
  unfold visit
  split
  · exact dump_passes b h c o.endpoint
  · have hconnect := connect_passes b h c o
    split
    · rename_i c' h' hresult
      rw [hresult] at hconnect
      exact hconnect.trans (dump_passes b h' c' o.endpoint)
    · rename_i c' h' hresult
      rw [hresult] at hconnect
      exact hconnect

/-- A visit leaves a connector with its number and its launcher. -/
theorem visit_same (b : Behaviour π) (h : Host π) (c : Connector) (o : ConnectOptions) :
    Same c (c.visit b h o).1 := by
  unfold visit
  split
  · exact dump_same b h c
  · have hconnect := connect_same b h c o
    split
    · rename_i c' h' hresult
      rw [hresult] at hconnect
      have hdump := dump_same b h' c'
      exact ⟨hdump.id.trans hconnect.id, hdump.launcher.trans hconnect.launcher⟩
    · rename_i c' h' hresult
      rw [hresult] at hconnect
      exact hconnect

/-- A visit to a connected connector starts no process. -/
theorem started_visit {b : Behaviour π} {h : Host π} {c : Connector} (hc : c.connected b h)
    (o : ConnectOptions) : (c.visit b h o).2.started = h.started := by
  have hcases := dump_cases b h c
  rw [visit, if_pos hc, ← Host.length_ended, ← Host.length_ended]
  generalize c.dump b h = result at hcases
  cases hcases with
  | unasked => rfl
  | unanswered e h' hfatal htable => rw [htable, Session.length_release]
  | answered s output h' hs htable => rw [htable]

/-- A connector that is not connected, and cannot be, has no session. -/
theorem visit_of_unspawned {b : Behaviour π} {h : Host π} {c : Connector} {o : ConnectOptions}
    {reason : String} (hc : c.connected b h = false)
    (hlaunch : launch b h.clock c.launcher o = .error reason) :
    (c.visit b h o).1 = { c with session := none } := by
  have hcases := connect_cases b h c o
  rw [← launchTime_of_unconnected hc o] at hlaunch
  simp only [visit, hc, Bool.false_eq_true, if_false]
  generalize c.connect b h o = result at hcases
  cases hcases with
  | unspawned => rfl
  | unanswered p why h' hstart =>
    rw [hlaunch] at hstart
    cases hstart
  | opened p h' hstart =>
    rw [hlaunch] at hstart
    cases hstart

end Connector

namespace Bridge

open Session (Passes)

/-- How an instance is connected to. -/
def options (l : LauncherConfig) (i : InstanceConfig) : ConnectOptions :=
  ⟨i.endpoint, i.credentials, l.connectTimeout⟩

theorem readDump_of_loaded {i : InstanceConfig} {c : Connector} {w' : Bridge π}
    (hload : w.loadConnection b l i = (.ok c, w')) :
    (w.readDump b l i).2.pool = w'.pool.set i.endpoint (c.dump b w'.host).2.1 ∧
      (w.readDump b l i).2.host = (c.dump b w'.host).2.2 := by
  rw [readDump, hload]
  dsimp only
  split
  · rename_i hdump
    rw [hdump]
    exact ⟨rfl, rfl⟩
  · rename_i hdump
    rw [hdump]
    exact ⟨rfl, rfl⟩

theorem loadConnection_of_unconnected {i : InstanceConfig}
    (hc : (w.usableConnector b l i.endpoint).1.connected b
      (w.usableConnector b l i.endpoint).2.host = false)
    {result : Except ConnectorError Unit} {c : Connector} {h : Host π}
    (hconnect : (w.usableConnector b l i.endpoint).1.connect b
      (w.usableConnector b l i.endpoint).2.host (options l i) = (result, c, h)) :
    w.loadConnection b l i = (result.map fun _ => c,
      { (w.usableConnector b l i.endpoint).2 with
        host := h
        pool := (w.usableConnector b l i.endpoint).2.pool.set i.endpoint c }) := by
  rw [options] at hconnect
  simp only [loadConnection, hc, hconnect]
  rfl

/-- A cycle leaves the usable connector in its slot as the visit does. -/
theorem readDump_slot (b : Behaviour π) (l : LauncherConfig) (i : InstanceConfig) (w : Bridge π) :
    let usable := w.usableConnector b l i.endpoint
    let visited := usable.1.visit b usable.2.host (options l i)
    (w.readDump b l i).2.pool = usable.2.pool.set i.endpoint visited.1 ∧
      (w.readDump b l i).2.host = visited.2 := by
  intro usable visited
  cases hconnected : usable.1.connected b usable.2.host with
  | true =>
    have hload : w.loadConnection b l i = (.ok usable.1, usable.2) := by
      rw [loadConnection]
      exact if_pos hconnected
    have hvisited : visited = (usable.1.dump b usable.2.host).2 := if_pos hconnected
    rw [hvisited]
    exact readDump_of_loaded hload
  | false =>
    obtain ⟨result, c, h, hconnect⟩ : ∃ result c h,
        usable.1.connect b usable.2.host (options l i) = (result, c, h) := ⟨_, _, _, rfl⟩
    have hload := loadConnection_of_unconnected hconnected hconnect
    cases result with
    | ok u =>
      have hvisited : visited = (c.dump b h).2 := by
        simp only [visited, Connector.visit, hconnected, hconnect]
        rfl
      -- the connector is put back once when it is connected and again when it was asked
      obtain ⟨hpool, hhost⟩ := readDump_of_loaded hload
      rw [hvisited, hpool, Pool.set_set]
      exact ⟨rfl, hhost⟩
    | error e =>
      have hvisited : visited = (c, h) := by
        simp only [visited, Connector.visit, hconnected, hconnect]
        rfl
      rw [hvisited, readDump, hload]
      exact ⟨rfl, rfl⟩

/-- So does a cycle with all that comes of it. -/
theorem check_slot (b : Behaviour π) (l : LauncherConfig) (i : CheckInstance) (sink : Sink)
    (w : Bridge π) :
    let usable := w.usableConnector b l i.config.endpoint
    let visited := usable.1.visit b usable.2.host (options l i.config)
    (w.check b l i sink).2.2.pool = usable.2.pool.set i.config.endpoint visited.1 ∧
      (w.check b l i sink).2.2.host = visited.2 := by
  have hslot := readDump_slot b l i.config w
  rw [← readSamples_bridge] at hslot
  unfold check
  split
  · rename_i hread
    rw [hread] at hslot
    exact hslot
  · rename_i hread
    rw [hread] at hslot
    exact hslot

theorem usableConnector_passes (b : Behaviour π) (l : LauncherConfig) (e : Endpoint)
    (w : Bridge π) :
    Passes e (w.pool.session? e) w.host.ended (w.usableConnector b l e).1.session
      (w.usableConnector b l e).2.host.ended := by
  cases hslot : w.pool.get? e with
  | none =>
    rw [usableConnector_absent hslot, Pool.session?, hslot]
    exact .refl _ _ _
  | some c =>
    rw [Pool.session?, hslot]
    by_cases hdead : c.state b w.host = .dead
    · rw [usableConnector_dead hslot hdead]
      show Passes e c.session w.host.ended none (c.discard w.host).ended
      rw [Connector.ended_discard]
      exact .drop _ _ _
    · rw [usableConnector_kept hslot hdead]
      exact .refl _ _ _

theorem get?_usableConnector_ne {e' : Endpoint} (he : e' ≠ e) (b : Behaviour π)
    (l : LauncherConfig) (w : Bridge π) :
    (w.usableConnector b l e).2.pool.get? e' = w.pool.get? e' := by
  cases hslot : w.pool.get? e with
  | none =>
    rw [usableConnector_absent hslot]
    exact Dict.get?_insert_ne _ _ he
  | some c =>
    by_cases hdead : c.state b w.host = .dead
    · rw [usableConnector_dead hslot hdead]
      exact Dict.get?_insert_ne _ _ he
    · rw [usableConnector_kept hslot hdead]

/-- A cycle leaves the slots of all other endpoints as they are. -/
theorem get?_check_ne (b : Behaviour π) (l : LauncherConfig) (i : CheckInstance) (sink : Sink)
    (w : Bridge π) {e : Endpoint} (he : e ≠ i.config.endpoint) :
    (w.check b l i sink).2.2.pool.get? e = w.pool.get? e := by
  rw [(check_slot b l i sink w).1, Pool.get?_set_ne he, get?_usableConnector_ne he]

theorem get?_check_self (b : Behaviour π) (l : LauncherConfig) (i : CheckInstance) (sink : Sink)
    (w : Bridge π) :
    (w.check b l i sink).2.2.pool.get? i.config.endpoint =
      some ((w.usableConnector b l i.config.endpoint).1.visit b
        (w.usableConnector b l i.config.endpoint).2.host (options l i.config)).1 := by
  rw [(check_slot b l i sink w).1, Pool.get?_set_self]

/-- A cycle passes the session of its endpoint on, or ends its process. -/
theorem check_passes (b : Behaviour π) (l : LauncherConfig) (i : CheckInstance) (sink : Sink)
    (w : Bridge π) :
    Passes i.config.endpoint (w.pool.session? i.config.endpoint) w.host.ended
      ((w.check b l i sink).2.2.pool.session? i.config.endpoint)
      (w.check b l i sink).2.2.host.ended := by
  have hsession : (w.check b l i sink).2.2.pool.session? i.config.endpoint = _ :=
    congrArg (·.bind (·.session)) (get?_check_self b l i sink w)
  rw [hsession, (check_slot b l i sink w).2]
  have hvisit := Connector.visit_passes b (w.usableConnector b l i.config.endpoint).2.host
    (w.usableConnector b l i.config.endpoint).1 (options l i.config)
  exact (usableConnector_passes b l i.config.endpoint w).trans hvisit

theorem usableConnector_sound (b : Behaviour π) (e : Endpoint) (hw : w.pool.Sound l.launcher) :
    (w.usableConnector b l e).2.pool.Sound l.launcher ∧
      (w.usableConnector b l e).2.pool.get? e = some (w.usableConnector b l e).1 := by
  cases hslot : w.pool.get? e with
  | none =>
    rw [usableConnector_absent hslot]
    exact ⟨hw.renew e l.dumpTimeout, Dict.get?_insert_self _ _ _⟩
  | some c =>
    by_cases hdead : c.state b w.host = .dead
    · rw [usableConnector_dead hslot hdead]
      exact ⟨hw.renew e l.dumpTimeout, Dict.get?_insert_self _ _ _⟩
    · rw [usableConnector_kept hslot hdead]
      exact ⟨hw, hslot⟩

theorem check_sound (b : Behaviour π) (i : CheckInstance) (sink : Sink)
    (hw : w.pool.Sound l.launcher) : (w.check b l i sink).2.2.pool.Sound l.launcher := by
  obtain ⟨husable, hslot⟩ := usableConnector_sound b i.config.endpoint hw
  rw [(check_slot b l i sink w).1]
  exact husable.set hslot (Connector.visit_same _ _ _ _)

/-- The connector of a slot is exchanged exactly by a cycle that finds it dead, for a new one. -/
theorem check_exchanged_iff (b : Behaviour π) (i : CheckInstance) (sink : Sink) (e : Endpoint)
    (hw : w.pool.Sound l.launcher) :
    Pool.Exchanged e w.pool (w.check b l i sink).2.2.pool ↔
      i.config.endpoint = e ∧ w.FindsDead b e := by
  by_cases he : e = i.config.endpoint
  · subst he
    have hself := get?_check_self b l i sink w
    cases hslot : w.pool.get? i.config.endpoint with
    | none =>
      refine iff_of_false ?_ fun h => not_findsDead hslot h.2
      rintro ⟨c, hc, -⟩
      rw [hslot] at hc
      cases hc
    | some c =>
      rw [Pool.exchanged_iff hslot hself, findsDead_iff hslot, (Connector.visit_same _ _ _ _).id]
      by_cases hdead : c.state b w.host = .dead
      · rw [usableConnector_dead hslot hdead]
        exact iff_of_true (Nat.ne_of_gt (hw.numbered _ c hslot)) ⟨rfl, hdead⟩
      · rw [usableConnector_kept hslot hdead]
        exact iff_of_false (fun hne => hne rfl) fun h => hdead h.2
  · refine iff_of_false ?_ fun h => he h.1.symm
    rintro ⟨c, hc, c', hc', hne⟩
    rw [get?_check_ne b l i sink w he, hc] at hc'
    cases hc'
    exact hne rfl

/-- A cycle that finds its connector dead leaves one that is new. -/
theorem id_check_of_dead (i : CheckInstance) (sink : Sink)
    (hdead : w.FindsDead b i.config.endpoint) :
    ∃ c', (w.check b l i sink).2.2.pool.get? i.config.endpoint = some c' ∧
      c'.id = w.pool.nextId := by
  obtain ⟨c, hslot, hc⟩ := hdead
  have hself := get?_check_self b l i sink w
  rw [usableConnector_dead hslot hc] at hself
  exact ⟨_, hself, (Connector.visit_same _ _ _ _).id⟩

/-- A cycle that finds the session alive keeps the connector and starts no process. -/
theorem check_of_connected {c : Connector} (i : CheckInstance) (sink : Sink)
    (hslot : w.pool.get? i.config.endpoint = some c) (hc : c.connected b w.host) :
    (∃ c', (w.check b l i sink).2.2.pool.get? i.config.endpoint = some c' ∧ c'.id = c.id) ∧
      (w.check b l i sink).2.2.host.started = w.host.started := by
  have hself := get?_check_self b l i sink w
  have hhost := (check_slot b l i sink w).2
  rw [usableConnector_kept hslot (Connector.state_ne_dead hc)] at hself hhost
  refine ⟨⟨_, hself, (Connector.visit_same _ _ _ _).id⟩, ?_⟩
  rw [hhost, Connector.started_visit hc]

/-- A cycle that cannot start a process leaves a connector that never had one as it is. -/
theorem check_of_unspawned (i : CheckInstance) (sink : Sink) {reason : String}
    (hw : w.pool.Sound l.launcher)
    (hslot : ∀ c, w.pool.get? i.config.endpoint = some c → c.state b w.host = .unconnected)
    (hlaunch : Connector.launch b w.host.clock l.launcher (options l i.config) = .error reason) :
    ∃ c', (w.check b l i sink).2.2.pool.get? i.config.endpoint = some c' ∧
      (∀ c, w.pool.get? i.config.endpoint = some c → c'.id = c.id) ∧
      ∀ (b' : Behaviour π) (h' : Host π), c'.state b' h' = .unconnected := by
  have hself := get?_check_self b l i sink w
  cases hget : w.pool.get? i.config.endpoint with
  | none =>
    rw [usableConnector_absent hget, Connector.visit_of_unspawned rfl hlaunch] at hself
    refine ⟨_, hself, ?_, fun b' h' => rfl⟩
    intro c hc
    cases hc
  | some c =>
    have hstate := hslot c hget
    obtain ⟨hconnected, hspawned⟩ := Connector.state_eq_unconnected_iff.1 hstate
    have hkept : c.state b w.host ≠ .dead := by
      rw [hstate]
      decide
    rw [usableConnector_kept hget hkept, Connector.visit_of_unspawned hconnected
      (hw.launcher _ c hget ▸ hlaunch)] at hself
    refine ⟨_, hself, ?_, ?_⟩
    · rintro c₂ ⟨rfl⟩
      rfl
    · intro b' h'
      exact Connector.state_eq_unconnected_iff.2 ⟨rfl, hspawned⟩

end Bridge

end BeanGauge
