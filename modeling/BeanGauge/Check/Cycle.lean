import BeanGauge.Check.Instance
import BeanGauge.Pool
import BeanGauge.Registry.Basic
/-!
Check cycles. A cycle of an instance connects if there is no live session, reads all beans, and
emits either all samples of the instance or none, and one service check in any case.
-/

namespace BeanGauge

/-- Why a cycle failed, or could not even be set up. -/
inductive CheckError where
  | connector (e : ConnectorError)
  | jvm (e : Jvm.Error)
  | integration (e : Integration.Error)
  deriving DecidableEq

def CheckError.message : CheckError → String
  | .connector e => e.message
  | .jvm e => e.message
  | .integration e => e.message

/-- All that checks act on: the host, the connectors and the counts. -/
structure Bridge (π : Type) where
  host : Host π
  pool : Pool
  registry : Registry

namespace Bridge

variable {π : Type}

def idle (start : Float) : Bridge π := ⟨.idle, .empty, .ofStart start⟩

def record (w : Bridge π) (e : Endpoint) (event : EndpointEvent) : Bridge π :=
  { w with registry := w.registry.record e.text event }

/-- A connector for an endpoint that is not dead: the one in the slot, or a new one in its place. -/
def usableConnector (b : Behaviour π) (l : LauncherConfig) (e : Endpoint) (w : Bridge π) :
    Connector × Bridge π :=
  let (c, pool) := w.pool.slot e l.launcher l.dumpTimeout
  match c.state b w.host with
  | .dead =>
    let (new, pool) := pool.renew e l.launcher l.dumpTimeout
    (new, { w with host := c.discard w.host, pool }.record e .reconnect)
  | _ => (c, { w with pool })

/-- A connector with a live session for an instance. -/
def loadConnection (b : Behaviour π) (l : LauncherConfig) (i : InstanceConfig) (w : Bridge π) :
    Except ConnectorError Connector × Bridge π :=
  let (c, w) := w.usableConnector b l i.endpoint
  if c.connected b w.host then (.ok c, w)
  else
    let (result, c, host) := c.connect b w.host ⟨i.endpoint, i.credentials, l.connectTimeout⟩
    (result.map fun _ => c, { w with host, pool := w.pool.set i.endpoint c })

/-- All beans of an instance. How long that took is noted if it succeeds. -/
def readDump (b : Behaviour π) (l : LauncherConfig) (i : InstanceConfig) (w : Bridge π) :
    Except ConnectorError Dump × Bridge π :=
  match w.loadConnection b l i with
  | (.error e, w) => (.error e, w)
  | (.ok c, w) =>
    let started := w.host.clock
    match c.dump b w.host with
    | (.error e, c, host) => (.error e, { w with host, pool := w.pool.set i.endpoint c })
    | (.ok d, c, host) =>
      let seconds := Number.nearest (host.clock - started) 1000
      (.ok d, { w with host, pool := w.pool.set i.endpoint c }.record i.endpoint (.dump seconds))

def readSamples (b : Behaviour π) (l : LauncherConfig) (i : CheckInstance) (w : Bridge π) :
    Except CheckError (List Sample) × Bridge π :=
  match w.readDump b l i.config with
  | (.error e, w) => (.error (.connector e), w)
  | (.ok d, w) => ((i.samples d).mapError .jvm, w)

/-- One cycle of an instance: what came of it, and everything emitted with that of before. -/
def check (b : Behaviour π) (l : LauncherConfig) (i : CheckInstance) (sink : Sink) (w : Bridge π) :
    Except CheckError Unit × Sink × Bridge π :=
  match w.readSamples b l i with
  | (.error e, w) =>
    (.error e, sink.report (i.serviceCheck (some e.message)), w.record i.config.endpoint .failure)
  | (.ok samples, w) =>
    (.ok (), (sink.submit samples).report (i.serviceCheck none),
      w.record i.config.endpoint (.success samples.length))

end Bridge

end BeanGauge
