import BeanGauge.Json.Basic
import BeanGauge.Metric.Basic
/-!
What checks emit: samples of metrics, and service checks that say how a check went.
-/

namespace BeanGauge

/-- One emitted value. The tags are `key:value` texts. -/
structure Sample where
  name : String
  value : Float
  tags : List String
  device : Option String
  kind : MetricKind
  deriving DecidableEq

inductive Status where
  | ok
  | warning
  | critical
  | unknown
  deriving DecidableEq

def Status.text : Status → String
  | .ok => "OK"
  | .warning => "WARNING"
  | .critical => "CRITICAL"
  | .unknown => "UNKNOWN"

def Status.code : Status → Nat
  | .ok => 0
  | .warning => 1
  | .critical => 2
  | .unknown => 3

def Status.ofText? (s : String) : Option Status :=
  [Status.ok, .warning, .critical, .unknown].find? (·.text == s)

structure ServiceCheck where
  name : String
  status : Status
  tags : List String
  message : Option String
  deriving DecidableEq

structure Sink where
  samples : List Sample
  serviceChecks : List ServiceCheck
  deriving DecidableEq

namespace Sink

instance : EmptyCollection Sink := ⟨⟨[], []⟩⟩

instance : Append Sink :=
  ⟨fun a b => ⟨a.samples ++ b.samples, a.serviceChecks ++ b.serviceChecks⟩⟩

def submit (s : Sink) (samples : List Sample) : Sink := { s with samples := s.samples ++ samples }

def report (s : Sink) (check : ServiceCheck) : Sink :=
  { s with serviceChecks := s.serviceChecks ++ [check] }

def find (s : Sink) (name : String) : List Sample := s.samples.filter (·.name == name)

end Sink

/-- The sample as it is written out; without a device that member is left away. -/
def Sample.toJson (s : Sample) : Json :=
  .object ([("name", .string s.name), ("value", .float s.value), ("tags", Json.strings s.tags)]
    ++ (s.device.toList.map fun d => ("device", .string d))
    ++ [("metric_type", .string s.kind.text)])

/-- The service check as it is written out; without a message that member is left away. -/
def ServiceCheck.toJson (c : ServiceCheck) : Json :=
  .object ([("name", .string c.name), ("status", .string c.status.text),
      ("tags", Json.strings c.tags)]
    ++ c.message.toList.map fun m => ("message", .string m))

/-- Everything emitted, as it is written out. -/
def Sink.toJson (s : Sink) : Json :=
  .object [("samples", .array (s.samples.map Sample.toJson)),
    ("service_checks", .array (s.serviceChecks.map ServiceCheck.toJson))]

end BeanGauge
