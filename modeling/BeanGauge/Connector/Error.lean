import BeanGauge.Dump
/-!
What goes wrong between the bridge and a console.
-/

namespace BeanGauge

/-- Why a console did not do what it was asked to. -/
inductive ConnectorError where
  | spawn (program reason : String)
  | connectTimeout (endpoint : String) (timeout : UInt64)
  | dumpTimeout (endpoint : String) (timeout : UInt64)
  | protocol (endpoint : String) (source : Dump.Error)
  | notConnected
  | processExited (endpoint : String)
  | io (reason : String)
  deriving DecidableEq

namespace ConnectorError

def message : ConnectorError → String
  | .spawn program reason => s!"Failed to spawn '{program}': {reason}"
  | .connectTimeout endpoint timeout =>
    s!"Timed out after {timeout.toNat}ms waiting for {endpoint} to become ready"
  | .dumpTimeout endpoint timeout =>
    s!"Timed out after {timeout.toNat}ms waiting for dump from {endpoint}"
  | .protocol endpoint source => s!"Protocol error from {endpoint}: {source.message}"
  | .notConnected => "No live session"
  | .processExited endpoint => s!"Process for {endpoint} exited before sending a prompt"
  | .io reason => s!"I/O error talking to jmxterm: {reason}"

/-- Whether the session cannot be used any more. A payload that is no dump leaves it as it is. -/
def isFatal : ConnectorError → Bool
  | .protocol _ _ => false
  | _ => true

end ConnectorError

end BeanGauge
