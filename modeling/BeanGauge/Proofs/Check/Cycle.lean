import BeanGauge.Check.Cycle
import BeanGauge.Proofs.Connector.Session
import BeanGauge.Proofs.Dump
import BeanGauge.Proofs.Endpoint
import BeanGauge.Proofs.Except
import BeanGauge.Proofs.Registry.Events
/-!
# What a cycle leaves behind

A cycle counts at most one replaced connector, then at most one dump, then either its success or its
failure, all of them for its own endpoint. Samples are emitted only together with a success.
-/

namespace BeanGauge

variable {π : Type}

theorem Connector.state_ne_dead {b : Behaviour π} {h : Host π} {c : Connector}
    (hc : c.connected b h) : c.state b h ≠ .dead := by
  rw [state, if_pos hc]
  decide

namespace Bridge

/-- Whether the connector of an endpoint is found dead. -/
def FindsDead (b : Behaviour π) (e : Endpoint) (w : Bridge π) : Prop :=
  ∃ c, w.pool.get? e = some c ∧ c.state b w.host = .dead

theorem findsDead_iff {b : Behaviour π} {e : Endpoint} {w : Bridge π} {c : Connector}
    (hslot : w.pool.get? e = some c) : w.FindsDead b e ↔ c.state b w.host = .dead := by
  constructor
  · rintro ⟨c', hc', hdead⟩
    rw [hslot] at hc'
    cases hc'
    exact hdead
  · intro hdead
    exact ⟨c, hslot, hdead⟩

theorem not_findsDead {b : Behaviour π} {e : Endpoint} {w : Bridge π}
    (hslot : w.pool.get? e = none) : ¬ w.FindsDead b e := by
  rintro ⟨c, hc, -⟩
  rw [hslot] at hc
  cases hc

/-- An endpoint without a slot gets one with a new connector. -/
theorem usableConnector_absent {b : Behaviour π} {e : Endpoint} {w : Bridge π}
    (hslot : w.pool.get? e = none) (l : LauncherConfig) :
    w.usableConnector b l e = (.fresh w.pool.nextId l.launcher l.dumpTimeout,
      { w with pool := (w.pool.renew e l.launcher l.dumpTimeout).2 }) := by
  simp only [usableConnector, Pool.slot, hslot]
  rfl

/-- A dead connector is given up for a new one, and that is counted. -/
theorem usableConnector_dead {b : Behaviour π} {e : Endpoint} {w : Bridge π} {c : Connector}
    (hslot : w.pool.get? e = some c) (hdead : c.state b w.host = .dead) (l : LauncherConfig) :
    w.usableConnector b l e = (.fresh w.pool.nextId l.launcher l.dumpTimeout,
      { w with
        host := c.discard w.host
        pool := (w.pool.renew e l.launcher l.dumpTimeout).2 }.record e .reconnect) := by
  simp only [usableConnector, Pool.slot, hslot, hdead]
  rfl

/-- A connector that is not dead is used as it is. -/
theorem usableConnector_kept {b : Behaviour π} {e : Endpoint} {w : Bridge π} {c : Connector}
    (hslot : w.pool.get? e = some c) (hc : c.state b w.host ≠ .dead) (l : LauncherConfig) :
    w.usableConnector b l e = (c, w) := by
  simp only [usableConnector, Pool.slot, hslot]

def IsReconnect (dead : Prop) (events : List EndpointEvent) : Prop :=
  (dead ∧ events = [.reconnect]) ∨ (¬ dead ∧ events = [])

theorem usableConnector_registry (b : Behaviour π) (l : LauncherConfig) (e : Endpoint)
    (w : Bridge π) : ∃ events, IsReconnect (w.FindsDead b e) events ∧
      (w.usableConnector b l e).2.registry = w.registry.recordAll e.text events := by
  cases hslot : w.pool.get? e with
  | none =>
    refine ⟨[], .inr ⟨not_findsDead hslot, rfl⟩, ?_⟩
    rw [usableConnector_absent hslot]
    rfl
  | some c =>
    by_cases hdead : c.state b w.host = .dead
    · refine ⟨[.reconnect], .inl ⟨(findsDead_iff hslot).2 hdead, rfl⟩, ?_⟩
      rw [usableConnector_dead hslot hdead]
      rfl
    · refine ⟨[], .inr ⟨mt (findsDead_iff hslot).1 hdead, rfl⟩, ?_⟩
      rw [usableConnector_kept hslot hdead]
      rfl

theorem loadConnection_registry (b : Behaviour π) (l : LauncherConfig) (i : InstanceConfig)
    (w : Bridge π) : ∃ events, IsReconnect (w.FindsDead b i.endpoint) events ∧
      (w.loadConnection b l i).2.registry = w.registry.recordAll i.endpoint.text events := by
  obtain ⟨events, hevents, hregistry⟩ := usableConnector_registry b l i.endpoint w
  refine ⟨events, hevents, ?_⟩
  unfold loadConnection
  dsimp only
  split
  · exact hregistry
  · exact hregistry

/-- Whether a cycle gets as far as to decode a dump. -/
def DumpDecoded (b : Behaviour π) (l : LauncherConfig) (i : InstanceConfig) (w : Bridge π) : Prop :=
  ∃ c d, (w.loadConnection b l i).1 = .ok c ∧ (c.dump b (w.loadConnection b l i).2.host).1 = .ok d

def IsDump (decoded : Prop) (events : List EndpointEvent) : Prop :=
  (decoded ∧ ∃ seconds, events = [.dump seconds]) ∨ (¬ decoded ∧ events = [])

theorem readDump_registry (b : Behaviour π) (l : LauncherConfig) (i : InstanceConfig)
    (w : Bridge π) : ∃ reconnect dump, IsReconnect (w.FindsDead b i.endpoint) reconnect ∧
      IsDump (w.DumpDecoded b l i) dump ∧
      (w.readDump b l i).2.registry = w.registry.recordAll i.endpoint.text (reconnect ++ dump) := by
  obtain ⟨reconnect, hreconnect, hregistry⟩ := loadConnection_registry b l i w
  unfold readDump
  split
  · rename_i e w' hload
    refine ⟨reconnect, [], hreconnect, .inr ⟨?_, rfl⟩, ?_⟩
    · rintro ⟨c, d, hc, -⟩
      rw [hload] at hc
      cases hc
    · rw [List.append_nil, ← hregistry, hload]
  rename_i c w' hload
  dsimp only
  split
  · rename_i e c' host hdump
    refine ⟨reconnect, [], hreconnect, .inr ⟨?_, rfl⟩, ?_⟩
    · rintro ⟨c₂, d, hc, hd⟩
      rw [hload] at hc hd
      cases hc
      rw [hdump] at hd
      cases hd
    · rw [List.append_nil, ← hregistry, hload]
  · rename_i d c' host hdump
    refine ⟨reconnect, [.dump (Number.nearest (host.clock - w'.host.clock) 1000)], hreconnect,
      .inl ⟨⟨c, d, ?_, ?_⟩, _, rfl⟩, ?_⟩
    · rw [hload]
    · rw [hload, hdump]
    · rw [Registry.recordAll_append, ← hregistry, hload]
      rfl

theorem loadConnection_of_connected {b : Behaviour π} {l : LauncherConfig} {i : InstanceConfig}
    {w : Bridge π} {c : Connector} (hslot : w.pool.get? i.endpoint = some c)
    (hc : c.connected b w.host) : w.loadConnection b l i = (.ok c, w) := by
  have husable := usableConnector_kept hslot (Connector.state_ne_dead hc) l
  simp only [loadConnection, husable, hc, if_true]

/-- A connected connector is used as it is. -/
theorem readDump_of_connected {b : Behaviour π} {l : LauncherConfig} {i : InstanceConfig}
    {w : Bridge π} {c c' : Connector} {d : Dump} {h : Host π}
    (hslot : w.pool.get? i.endpoint = some c) (hc : c.connected b w.host)
    (hdump : c.dump b w.host = (.ok d, c', h)) : (w.readDump b l i).1 = .ok d := by
  simp only [readDump, loadConnection_of_connected hslot hc, hdump]

/-- A dump that was read was decoded. -/
theorem dumpDecoded_of_readDump {b : Behaviour π} {l : LauncherConfig} {i : InstanceConfig}
    {w : Bridge π} {d : Dump} (h : (w.readDump b l i).1 = .ok d) : w.DumpDecoded b l i := by
  unfold readDump at h
  split at h
  · cases h
  rename_i c w' hload
  dsimp only at h
  split at h
  · cases h
  · rename_i d' c' host hdump
    refine ⟨c, d', ?_, ?_⟩
    · rw [hload]
    · rw [hload, hdump]

/-- The event at the end of a cycle. -/
def verdict : Except CheckError (List Sample) → EndpointEvent
  | .error _ => .failure
  | .ok samples => .success samples.length

theorem readSamples_bridge (b : Behaviour π) (l : LauncherConfig) (i : CheckInstance)
    (w : Bridge π) : (w.readSamples b l i).2 = (w.readDump b l i.config).2 := by
  unfold readSamples
  split
  · rename_i hread
    rw [hread]
  · rename_i hread
    rw [hread]

/-- A cycle counts a reconnect if it finds its connector dead, a dump if it decodes one, and its own
end. -/
theorem check_registry (b : Behaviour π) (l : LauncherConfig) (i : CheckInstance) (sink : Sink)
    (w : Bridge π) : ∃ reconnect dump, IsReconnect (w.FindsDead b i.config.endpoint) reconnect ∧
      IsDump (w.DumpDecoded b l i.config) dump ∧
      (w.check b l i sink).2.2.registry = w.registry.recordAll i.config.endpoint.text
        (reconnect ++ dump ++ [verdict (w.readSamples b l i).1]) := by
  obtain ⟨reconnect, dump, hreconnect, hdump, hregistry⟩ := readDump_registry b l i.config w
  refine ⟨reconnect, dump, hreconnect, hdump, ?_⟩
  rw [Registry.recordAll_append, ← hregistry, ← readSamples_bridge]
  unfold check
  split
  · rename_i hread
    rw [hread]
    rfl
  · rename_i hread
    rw [hread]
    rfl

/-- What a failed cycle leaves behind: no sample, its error in the service check, one more failure
and no more success. -/
structure LeavesFailure (i : CheckInstance) (e : CheckError) (sink sink' : Sink)
    (s s' : EndpointStats) : Prop where
  samples : sink'.samples = sink.samples
  report : sink'.serviceChecks = sink.serviceChecks ++
    [⟨i.integration.name ++ ".can_connect", .critical,
      ["host:" ++ i.config.host, "port:" ++ toString i.config.port.toNat, "instance:" ++ i.name],
      some e.message⟩]
  failure : s'.failure = s.failure + 1
  success : s'.success = s.success
  gauge : s'.samples = s.samples

/-- What a successful cycle leaves behind: some samples, a service check without a message, one more
success, no more failure, and the number of those samples. -/
structure LeavesSuccess (i : CheckInstance) (sink sink' : Sink) (s s' : EndpointStats) : Prop where
  emitted : ∃ emitted, sink'.samples = sink.samples ++ emitted ∧
    s'.samples = Number.nearest emitted.length 1
  report : sink'.serviceChecks = sink.serviceChecks ++
    [⟨i.integration.name ++ ".can_connect", .ok,
      ["host:" ++ i.config.host, "port:" ++ toString i.config.port.toNat, "instance:" ++ i.name],
      none⟩]
  success : s'.success = s.success + 1
  failure : s'.failure = s.failure

theorem recordAll_failure {s : EndpointStats} {reconnect dump : List EndpointEvent}
    {dead decoded : Prop} (hreconnect : IsReconnect dead reconnect) (hdump : IsDump decoded dump) :
    (s.recordAll (reconnect ++ dump ++ [.failure])).failure = s.failure + 1 ∧
      (s.recordAll (reconnect ++ dump ++ [.failure])).success = s.success ∧
      (s.recordAll (reconnect ++ dump ++ [.failure])).samples = s.samples := by
  rcases hreconnect with ⟨-, rfl⟩ | ⟨-, rfl⟩ <;> rcases hdump with ⟨-, seconds, rfl⟩ | ⟨-, rfl⟩
  all_goals exact ⟨rfl, rfl, rfl⟩

theorem recordAll_success {s : EndpointStats} {reconnect dump : List EndpointEvent}
    {dead decoded : Prop} (n : Nat) (hreconnect : IsReconnect dead reconnect)
    (hdump : IsDump decoded dump) :
    (s.recordAll (reconnect ++ dump ++ [.success n])).success = s.success + 1 ∧
      (s.recordAll (reconnect ++ dump ++ [.success n])).failure = s.failure ∧
      (s.recordAll (reconnect ++ dump ++ [.success n])).samples = Number.nearest n 1 := by
  rcases hreconnect with ⟨-, rfl⟩ | ⟨-, rfl⟩ <;> rcases hdump with ⟨-, seconds, rfl⟩ | ⟨-, rfl⟩
  all_goals exact ⟨rfl, rfl, rfl⟩

/-- The dumps are counted as they are decoded, and by nothing else. -/
theorem recordAll_dumps {s : EndpointStats} {reconnect dump : List EndpointEvent}
    {dead decoded : Prop} (result : Except CheckError (List Sample))
    (hreconnect : IsReconnect dead reconnect) (hdump : IsDump decoded dump) :
    (decoded ∧ (s.recordAll (reconnect ++ dump ++ [verdict result])).dumps.count
        = s.dumps.count + 1) ∨
      (¬ decoded ∧ (s.recordAll (reconnect ++ dump ++ [verdict result])).dumps = s.dumps) := by
  have hverdict : ∀ s : EndpointStats, (s.record (verdict result)).dumps = s.dumps := by
    intro s
    cases result <;> rfl
  rw [EndpointStats.recordAll, List.foldl_append]
  simp only [List.foldl_cons, List.foldl_nil, hverdict]
  rcases hreconnect with ⟨-, rfl⟩ | ⟨-, rfl⟩ <;>
    rcases hdump with ⟨hdecoded, seconds, rfl⟩ | ⟨hdecoded, rfl⟩
  · exact .inl ⟨hdecoded, rfl⟩
  · exact .inr ⟨hdecoded, rfl⟩
  · exact .inl ⟨hdecoded, rfl⟩
  · exact .inr ⟨hdecoded, rfl⟩

/-- A replaced connector is counted as it is found dead, and by nothing else. -/
theorem recordAll_reconnects {s : EndpointStats} {reconnect dump : List EndpointEvent}
    {dead decoded : Prop} (result : Except CheckError (List Sample))
    (hreconnect : IsReconnect dead reconnect) (hdump : IsDump decoded dump) :
    (dead ∧ (s.recordAll (reconnect ++ dump ++ [verdict result])).reconnect = s.reconnect + 1) ∨
      (¬ dead ∧ (s.recordAll (reconnect ++ dump ++ [verdict result])).reconnect = s.reconnect) := by
  have hverdict : ∀ s : EndpointStats, (s.record (verdict result)).reconnect = s.reconnect := by
    intro s
    cases result <;> rfl
  rw [EndpointStats.recordAll, List.foldl_append]
  simp only [List.foldl_cons, List.foldl_nil, hverdict]
  rcases hreconnect with ⟨hdead, rfl⟩ | ⟨hdead, rfl⟩ <;>
    rcases hdump with ⟨-, seconds, rfl⟩ | ⟨-, rfl⟩
  · exact .inl ⟨hdead, rfl⟩
  · exact .inl ⟨hdead, rfl⟩
  · exact .inr ⟨hdead, rfl⟩
  · exact .inr ⟨hdead, rfl⟩

theorem stats_check (b : Behaviour π) (l : LauncherConfig) (i : CheckInstance) (sink : Sink)
    (w : Bridge π) : ∃ reconnect dump, IsReconnect (w.FindsDead b i.config.endpoint) reconnect ∧
      IsDump (w.DumpDecoded b l i.config) dump ∧
      (w.check b l i sink).2.2.registry.endpoint i.config.endpoint.text =
        (w.registry.endpoint i.config.endpoint.text).recordAll
          (reconnect ++ dump ++ [verdict (w.readSamples b l i).1]) := by
  obtain ⟨reconnect, dump, hreconnect, hdump, hregistry⟩ := check_registry b l i sink w
  refine ⟨reconnect, dump, hreconnect, hdump, ?_⟩
  rw [hregistry, Registry.endpoint_recordAll_self]

/-- A cycle counts as one success or as one failure. -/
theorem finished_check (b : Behaviour π) (l : LauncherConfig) (i : CheckInstance) (sink : Sink)
    (w : Bridge π) :
    let stats := w.registry.endpoint i.config.endpoint.text
    let stats' := (w.check b l i sink).2.2.registry.endpoint i.config.endpoint.text
    stats'.success + stats'.failure = stats.success + stats.failure + 1 := by
  intro stats stats'
  obtain ⟨reconnect, dump, hreconnect, hdump, hstats⟩ := stats_check b l i sink w
  rw [show stats' = _ from hstats]
  cases (w.readSamples b l i).1 with
  | error e =>
    obtain ⟨hfailure, hsuccess, -⟩ := recordAll_failure (s := stats) hreconnect hdump
    rw [verdict, hfailure, hsuccess]
    omega
  | ok samples =>
    obtain ⟨hsuccess, hfailure, -⟩ :=
      recordAll_success (s := stats) samples.length hreconnect hdump
    rw [verdict, hsuccess, hfailure]
    omega

theorem reconnect_check (b : Behaviour π) (l : LauncherConfig) (i : CheckInstance) (sink : Sink)
    (w : Bridge π) :
    let stats := w.registry.endpoint i.config.endpoint.text
    let stats' := (w.check b l i sink).2.2.registry.endpoint i.config.endpoint.text
    (w.FindsDead b i.config.endpoint ∧ stats'.reconnect = stats.reconnect + 1) ∨
      (¬ w.FindsDead b i.config.endpoint ∧ stats'.reconnect = stats.reconnect) := by
  intro stats stats'
  obtain ⟨reconnect, dump, hreconnect, hdump, hstats⟩ := stats_check b l i sink w
  rw [show stats' = _ from hstats]
  exact recordAll_reconnects _ hreconnect hdump

/-- A cycle counts nothing for other endpoints. -/
theorem endpoint_check_ne (b : Behaviour π) (l : LauncherConfig) (i : CheckInstance) (sink : Sink)
    (w : Bridge π) {e : Endpoint} (h : e ≠ i.config.endpoint) :
    (w.check b l i sink).2.2.registry.endpoint e.text = w.registry.endpoint e.text := by
  obtain ⟨reconnect, dump, -, -, hregistry⟩ := check_registry b l i sink w
  rw [hregistry]
  exact Registry.endpoint_recordAll_ne _ (fun ht => h (Endpoint.text_injective ht)) _

/-- A cycle that cannot read its samples emits nothing but a failed service check. -/
theorem check_of_error {b : Behaviour π} {l : LauncherConfig} {i : CheckInstance} {w w' : Bridge π}
    {e : CheckError} (h : w.readSamples b l i = (.error e, w')) (sink : Sink) :
    w.check b l i sink = (.error e, sink.report (i.serviceCheck (some e.message)),
      w'.record i.config.endpoint .failure) := by
  rw [check, h]

/-- A cycle that reads its samples emits all of them. -/
theorem check_of_ok {b : Behaviour π} {l : LauncherConfig} {i : CheckInstance} {w w' : Bridge π}
    {samples : List Sample} (h : w.readSamples b l i = (.ok samples, w')) (sink : Sink) :
    w.check b l i sink = (.ok (), (sink.submit samples).report (i.serviceCheck none),
      w'.record i.config.endpoint (.success samples.length)) := by
  rw [check, h]

theorem readSamples_of_dump {b : Behaviour π} {l : LauncherConfig} {i : CheckInstance}
    {w : Bridge π} {d : Dump} (hdump : (w.readDump b l i.config).1 = .ok d) :
    w.readSamples b l i = ((i.samples d).mapError .jvm, (w.readDump b l i.config).2) := by
  cases hcases : w.readDump b l i.config with
  | mk result w' =>
    rw [hcases] at hdump
    obtain rfl : result = .ok d := hdump
    simp only [readSamples, hcases]

/-- A cycle that has a dump and all samples of it succeeds. -/
theorem check_of_dump {b : Behaviour π} {l : LauncherConfig} {i : CheckInstance} {w : Bridge π}
    {d : Dump} {samples : List Sample} (hdump : (w.readDump b l i.config).1 = .ok d)
    (hsamples : i.samples d = .ok samples) (sink : Sink) :
    (w.check b l i sink).1 = .ok () ∧
      (w.check b l i sink).2.1.samples = sink.samples ++ samples := by
  have hread := readSamples_of_dump hdump
  rw [hsamples] at hread
  rw [check_of_ok hread]
  exact ⟨rfl, rfl⟩

/-- A cycle that has a dump without the standard leaves emits nothing. -/
theorem check_of_dump_error {b : Behaviour π} {l : LauncherConfig} {i : CheckInstance}
    {w : Bridge π} {d : Dump} {e : Jvm.Error} (hdump : (w.readDump b l i.config).1 = .ok d)
    (hsamples : i.samples d = .error e) (sink : Sink) :
    (w.check b l i sink).1 = .error (.jvm e) ∧
      (w.check b l i sink).2.1.samples = sink.samples := by
  have hread := readSamples_of_dump hdump
  rw [hsamples] at hread
  rw [check_of_error hread]
  exact ⟨rfl, rfl⟩

/-- A cycle is all or nothing: it fails without a sample or succeeds with all of them, its service
check and the counts of its endpoint say which, a dump is counted exactly if one was decoded, and no
other endpoint is touched. -/
theorem check_all_or_nothing (b : Behaviour π) (l : LauncherConfig) (i : CheckInstance)
    (sink : Sink) (w : Bridge π) :
    let after := w.check b l i sink
    let stats := w.registry.endpoint i.config.endpoint.text
    let stats' := after.2.2.registry.endpoint i.config.endpoint.text
    (match after.1 with
      | .error e => LeavesFailure i e sink after.2.1 stats stats'
      | .ok () => LeavesSuccess i sink after.2.1 stats stats') ∧
    ((w.DumpDecoded b l i.config ∧ stats'.dumps.count = stats.dumps.count + 1) ∨
      (¬ w.DumpDecoded b l i.config ∧ stats'.dumps = stats.dumps)) ∧
    ∀ e : Endpoint, e ≠ i.config.endpoint →
      after.2.2.registry.endpoint e.text = w.registry.endpoint e.text := by
  intro after stats stats'
  obtain ⟨reconnect, dump, hreconnect, hdump, hregistry⟩ := check_registry b l i sink w
  have hstats : stats' = stats.recordAll
      (reconnect ++ dump ++ [verdict (w.readSamples b l i).1]) := by
    rw [← Registry.endpoint_recordAll_self, ← hregistry]
  refine ⟨?_, ?_, fun e he => endpoint_check_ne b l i sink w he⟩
  · cases hread : w.readSamples b l i with
    | mk result w' =>
      cases result with
      | error e =>
        have hafter : after = _ := check_of_error hread sink
        rw [hread] at hstats
        obtain ⟨hfailure, hsuccess, hgauge⟩ := recordAll_failure (s := stats) hreconnect hdump
        rw [hafter]
        exact ⟨rfl, rfl, hstats ▸ hfailure, hstats ▸ hsuccess, hstats ▸ hgauge⟩
      | ok samples =>
        have hafter : after = _ := check_of_ok hread sink
        rw [hread] at hstats
        obtain ⟨hsuccess, hfailure, hgauge⟩ :=
          recordAll_success (s := stats) samples.length hreconnect hdump
        rw [hafter]
        exact ⟨⟨samples, rfl, hstats ▸ hgauge⟩, rfl, hstats ▸ hsuccess, hstats ▸ hfailure⟩
  · rw [hstats]
    exact recordAll_dumps _ hreconnect hdump

/-- An endpoint has a session on a console with a single reply to send. -/
structure Replying (e : Endpoint) (reply : Bytes) (w : Bridge Connector.Tape) : Prop where
  slot : w.pool.get? e = some { Connector.Tape.connector with session := some ⟨0, e⟩ }
  process : w.host.find? 0 = some ([], [[reply]])

def replying (e : Endpoint) (reply : Bytes) : Bridge Connector.Tape :=
  ⟨⟨0, [⟨([], [[reply]]), false⟩]⟩,
    Pool.empty.set e { Connector.Tape.connector with session := some ⟨0, e⟩ }, .ofStart 0.0⟩

theorem replying_replies (e : Endpoint) (reply : Bytes) : Replying e reply (replying e reply) :=
  ⟨Dict.get?_insert_self _ _ _, rfl⟩

def replyOf (payload : String) (hjson : (Json.parse payload).isSome) : Bytes :=
  (Reply.line payload hjson).text ++ Prompt.mark

/-- The dump of the reply is what is read. -/
theorem readDump_of_replying {i : InstanceConfig} {payload : String}
    {hjson : (Json.parse payload).isSome} {w : Bridge Connector.Tape}
    (hw : Replying i.endpoint (replyOf payload hjson) w) {d : Dump}
    (hd : Dump.parse Connector.Tape.console.noJson payload = .ok d) :
    (w.readDump Connector.Tape.console .default i).1 = .ok d := by
  have hcut : [replyOf payload hjson].flatten =
      (Reply.line payload hjson).text ++ (Prompt.mark ++ (Reply.line payload hjson).tail) := by
    simp [replyOf, Reply.line]
  obtain ⟨rest, hexchange⟩ := Connector.Tape.exchange_of_cut _ [] hcut [] 1000
  obtain ⟨⟨h', hdump, -⟩, -⟩ := Connector.dump_of_exchange
    (c := { Connector.Tape.connector with session := some ⟨0, i.endpoint⟩ })
    (s := ⟨0, i.endpoint⟩) rfl hw.process (List.forall_mem_nil _) hexchange
  have hresult : (Reply.line payload hjson).result Connector.Tape.console.noJson i.endpoint =
      .ok d := by
    rw [Reply.result, Reply.line, hd]
    rfl
  rw [hresult] at hdump
  have halive : w.host.alive Connector.Tape.console 0 := by
    rw [Host.alive, hw.process]
    rfl
  exact readDump_of_connected hw.slot halive hdump

end Bridge

namespace CheckInstance

/-- An instance without collectors. -/
def plain : CheckInstance :=
  ⟨{ host := "db", port := 7199, collectors := some [] }, .tomcat⟩

/-- The standard beans, one of which has a tag `instance`. -/
def taggedPayload : String :=
  "\x7b\"java.lang:instance=7,type=Threading\":\x7b\"ThreadCount\":1\x7d," ++
    "\"java.lang:type=Memory\":\x7b\"HeapMemoryUsage.used\":1,\"NonHeapMemoryUsage.used\":1\x7d\x7d"

def taggedSamples : List Sample :=
  [⟨"jvm.thread_count", 1.0, ["instance:tomcat-db-7199", "instance:7", "type:Threading"], none,
      .gauge⟩,
    ⟨"jvm.heap_memory", 1.0, ["instance:tomcat-db-7199", "type:Memory"], none, .gauge⟩,
    ⟨"jvm.non_heap_memory", 1.0, ["instance:tomcat-db-7199", "type:Memory"], none, .gauge⟩]

theorem samples_taggedPayload :
    ((Dump.parse Connector.Tape.console.noJson taggedPayload).toOption.bind fun d =>
      (plain.samples d).toOption) = some taggedSamples := by
  have htext : taggedPayload.toList = _ :=
    Text.toList_append_congr String.toList_ofList String.toList_ofList
  rw [Dump.parse_of_toList htext]
  decide +kernel

theorem isSome_taggedPayload : (Json.parse taggedPayload).isSome := by
  obtain ⟨d, hd, -⟩ := Option.bind_eq_some_iff.1 samples_taggedPayload
  exact Dump.isSome_json_of_parse (toOption_eq_some_iff.1 hd)

def taggedBridge : Bridge Connector.Tape :=
  .replying plain.config.endpoint (Bridge.replyOf taggedPayload isSome_taggedPayload)

theorem replying_taggedBridge : taggedBridge.Replying plain.config.endpoint
    (Bridge.replyOf taggedPayload isSome_taggedPayload) := Bridge.replying_replies _ _

/-- A cycle with these beans succeeds with their samples. -/
theorem check_tagged {w : Bridge Connector.Tape} (hw : w.Replying plain.config.endpoint
    (Bridge.replyOf taggedPayload isSome_taggedPayload)) :
    (w.check Connector.Tape.console .default plain ∅).1 = .ok () ∧
      (w.check Connector.Tape.console .default plain ∅).2.1.samples = taggedSamples := by
  obtain ⟨d, hd, hsamples⟩ := Option.bind_eq_some_iff.1 samples_taggedPayload
  have hread := Bridge.readDump_of_replying hw (toOption_eq_some_iff.1 hd)
  exact Bridge.check_of_dump hread (toOption_eq_some_iff.1 hsamples) ∅

theorem isSome_bare : (Json.parse "\x7b\x7d").isSome := by decide

def bareBridge : Bridge Connector.Tape :=
  .replying plain.config.endpoint (Bridge.replyOf "\x7b\x7d" isSome_bare)

theorem replying_bareBridge : bareBridge.Replying plain.config.endpoint
    (Bridge.replyOf "\x7b\x7d" isSome_bare) := Bridge.replying_replies _ _

end CheckInstance

namespace Bridge

/-- One cycle succeeds with all samples, and another one with a dump that lacks the first standard
leaf fails without any. -/
theorem tagged_or_bare :
    let stats w := (w : Bridge Connector.Tape).registry.endpoint
      CheckInstance.plain.config.endpoint.text
    let e := CheckError.jvm (.missing "java.lang:type=Threading" "ThreadCount")
    (∃ sink w, CheckInstance.taggedBridge.check Connector.Tape.console .default .plain ∅ =
        (.ok (), sink, w) ∧
      LeavesSuccess .plain ∅ sink (stats CheckInstance.taggedBridge) (stats w) ∧
      sink.samples.length = 3) ∧
    ∃ sink w, CheckInstance.bareBridge.check Connector.Tape.console .default .plain ∅ =
        (.error e, sink, w) ∧
      LeavesFailure .plain e ∅ sink (stats CheckInstance.bareBridge) (stats w) ∧
      (stats w).dumps.count = (stats CheckInstance.bareBridge).dumps.count + 1 := by
  intro stats e
  constructor
  · have hchecked := CheckInstance.check_tagged CheckInstance.replying_taggedBridge
    have hleaves := check_all_or_nothing Connector.Tape.console .default .plain ∅
      CheckInstance.taggedBridge
    generalize CheckInstance.taggedBridge.check Connector.Tape.console .default .plain ∅ = after
      at hchecked hleaves
    obtain ⟨result, sink, w⟩ := after
    obtain ⟨rfl, hemitted⟩ := hchecked
    exact ⟨sink, w, rfl, hleaves.1, congrArg List.length hemitted⟩
  · have hread := readDump_of_replying (d := .empty) CheckInstance.replying_bareBridge rfl
    have hmissing : CheckInstance.plain.samples .empty =
        .error (.missing "java.lang:type=Threading" "ThreadCount") := by decide
    have hchecked := check_of_dump_error (i := .plain) hread hmissing ∅
    have hleaves := check_all_or_nothing Connector.Tape.console .default .plain ∅
      CheckInstance.bareBridge
    generalize CheckInstance.bareBridge.check Connector.Tape.console .default .plain ∅ = after
      at hchecked hleaves
    obtain ⟨result, sink, w⟩ := after
    obtain ⟨rfl, -⟩ := hchecked
    refine ⟨sink, w, rfl, hleaves.1, ?_⟩
    rcases hleaves.2.1 with ⟨-, hcount⟩ | ⟨hundecoded, -⟩
    · exact hcount
    · exact absurd (dumpDecoded_of_readDump hread) hundecoded

end Bridge

end BeanGauge
