import BeanGauge.Connector.Error
import BeanGauge.Endpoint
import BeanGauge.Host.Prompt
/-!
Connectors. A connector owns at most one console process at a time and speaks with it in lines: a
command is one line, and the answer ends with a prompt.

A connector never connects again by itself; whoever finds it dead decides what to do.
-/

namespace BeanGauge

/-- A console process that is held, and the virtual machine it is for. -/
structure Session where
  pid : Nat
  endpoint : Endpoint
  deriving DecidableEq

/-- What a connector is made of, and the session it holds. -/
structure Connector where
  /-- Tells connectors apart. -/
  id : Nat
  launcher : Launcher
  /-- How long a dump may take, in milliseconds. -/
  dumpTimeout : UInt64
  session : Option Session
  /-- Whether a process was ever started. -/
  spawned : Bool
  deriving DecidableEq

inductive ConnectorState where
  /-- No process was ever started. -/
  | unconnected
  /-- The process of its session runs. -/
  | connected
  /-- A process was started, and none runs now. -/
  | dead
  deriving DecidableEq

structure ConnectOptions where
  endpoint : Endpoint
  credentials : Option Credentials
  /-- How long the first prompt may take, in milliseconds. -/
  timeout : UInt64

namespace Connector

variable {π : Type}

def fresh (id : Nat) (launcher : Launcher) (dumpTimeout : UInt64) : Connector :=
  ⟨id, launcher, dumpTimeout, none, false⟩

def endpoint (c : Connector) : Option Endpoint := c.session.map (·.endpoint)

/-- Whether the process of the session runs. -/
def connected (b : Behaviour π) (h : Host π) (c : Connector) : Bool :=
  c.session.any fun s => h.alive b s.pid

def state (b : Behaviour π) (h : Host π) (c : Connector) : ConnectorState :=
  if c.connected b h then .connected else if c.spawned then .dead else .unconnected

def commandLine (command : String) : Bytes := Text.encode (command ++ "\n")

/-- Closes a session before another one is opened: the console is asked to close its connection, and
its process is ended whether it answers or not. -/
def close (b : Behaviour π) (h : Host π) (s : Session) (deadline : Nat) : Host π :=
  let h :=
    if h.alive b s.pid then
      match h.write b s.pid (commandLine "close") with
      | .ok h => (h.awaitPrompt b s.pid deadline).2
      | .error _ => h
    else h
  h.kill s.pid

/-- The error of a connection attempt that got no prompt. -/
def connectError (o : ConnectOptions) : Ending → ConnectorError
  | .timedOut => .connectTimeout o.endpoint.text o.timeout
  | .closed => .processExited o.endpoint.text
  | .failed reason => .io reason

/-- Opens a session of the connector, in place of the one it holds. Both the closing of that one and
the first prompt of the new process have to come before the same deadline. -/
def connect (b : Behaviour π) (h : Host π) (c : Connector) (o : ConnectOptions) :
    Except ConnectorError Unit × Connector × Host π :=
  let deadline := h.clock + o.timeout.toNat
  let h := match c.session with
    | some s => close b h s deadline
    | none => h
  let c := { c with session := none }
  match h.spawn b c.launcher.program (c.launcher.argv o.endpoint o.credentials) with
  | .error reason => (.error (.spawn c.launcher.program reason), c, h)
  | .ok (pid, h) =>
    let c := { c with spawned := true }
    match h.awaitPrompt b pid deadline with
    | (.ok _, h) => (.ok (), { c with session := some ⟨pid, o.endpoint⟩ }, h)
    | (.error e, h) => (.error (connectError o e), c, h.kill pid)

/-- The answer to a command without the command itself, which a console may repeat before it. -/
def answerTo (command output : String) : String :=
  let trimmed := (Text.trim output).toList
  if command.toList.isPrefixOf trimmed then
    Text.trim (String.ofList (trimmed.drop command.length))
  else String.ofList trimmed

/-- The error of a dump that got no prompt. -/
def dumpError (c : Connector) (s : Session) : Ending → ConnectorError
  | .timedOut => .dumpTimeout s.endpoint.text c.dumpTimeout
  | .closed => .processExited s.endpoint.text
  | .failed reason => .io reason

/-- Asks the console for everything: the text before the prompt. -/
def askDump (b : Behaviour π) (h : Host π) (c : Connector) (s : Session) :
    Except ConnectorError String × Host π :=
  match h.write b s.pid (commandLine "dump") with
  | .error reason => (.error (.io reason), h)
  | .ok h' =>
    match h'.awaitPrompt b s.pid (h.clock + c.dumpTimeout.toNat) with
    | (.ok output, h') => (.ok output, h')
    | (.error e, h') => (.error (c.dumpError s e), h')

/-- Reads all beans. Without an answer the session is given up; an answer that is no dump leaves the
session in place. -/
def dump (b : Behaviour π) (h : Host π) (c : Connector) :
    Except ConnectorError Dump × Connector × Host π :=
  match c.session with
  | none => (.error .notConnected, c, h)
  | some s =>
    match c.askDump b h s with
    | (.error e, h) => (.error e, { c with session := none }, h.kill s.pid)
    | (.ok output, h) =>
      ((Dump.parse b.noJson (answerTo "dump" output)).mapError (.protocol s.endpoint.text), c, h)

/-- Ends the session: the console is told so, and its process is ended. -/
def terminate (b : Behaviour π) (h : Host π) (c : Connector) : Connector × Host π :=
  match c.session with
  | none => (c, h)
  | some s =>
    let h :=
      if h.alive b s.pid then
        match h.write b s.pid (commandLine "bye") with
        | .ok h => h
        | .error _ => h
      else h
    ({ c with session := none }, h.kill s.pid)

/-- Ends the process of a connector that is given up. -/
def discard (h : Host π) (c : Connector) : Host π :=
  match c.session with
  | none => h
  | some s => h.kill s.pid

end Connector

end BeanGauge
