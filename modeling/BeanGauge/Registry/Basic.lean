import BeanGauge.Exposition.Format
import BeanGauge.Registry.Histogram
/-!
The registry of what the bridge itself does, for every endpoint it was told about: how many checks
succeeded and failed, how often a dead connector was replaced, how long dumps took, and how many
samples the last successful check emitted.
-/

namespace BeanGauge

/-- What is counted for one endpoint. Fewer than 2^64 events are assumed, so that counters of 64
bits would do. -/
structure EndpointStats where
  success : Nat
  failure : Nat
  reconnect : Nat
  dumps : Histogram
  samples : Float

def EndpointStats.zero : EndpointStats := ⟨0, 0, 0, Histogram.ofBounds Histogram.dumpBounds, 0.0⟩

inductive EndpointEvent where
  | success (samples : Nat)
  | failure
  | reconnect
  | dump (seconds : Float)

def EndpointStats.record (s : EndpointStats) : EndpointEvent → EndpointStats
  | .success samples =>
    { s with success := s.success + 1, samples := Number.nearest samples 1 }
  | .failure => { s with failure := s.failure + 1 }
  | .reconnect => { s with reconnect := s.reconnect + 1 }
  | .dump seconds => { s with dumps := s.dumps.observe seconds }

/-- The counts of all endpoints, and two gauges of the process. -/
structure Registry where
  endpoints : Dict String EndpointStats
  connectors : Float
  start : Float

namespace Registry

def ofStart (start : Float) : Registry := ⟨∅, 0.0, start⟩

/-- The counts of an endpoint; looking records nothing. -/
def endpoint (r : Registry) (name : String) : EndpointStats :=
  (r.endpoints.get? name).getD .zero

def record (r : Registry) (name : String) (event : EndpointEvent) : Registry :=
  { r with endpoints := r.endpoints.insert name ((r.endpoint name).record event) }

def setConnectors (r : Registry) (count : Nat) : Registry :=
  { r with connectors := Number.nearest count 1 }

def boundText (bound : Float) : String :=
  if bound.isInf then "+Inf" else Number.plainStyle.write bound

def line (endpoint : String) (kind : MetricKind) (name help : String) (value : Float) :
    Exposition :=
  { Exposition.ofValue name value with kind, help := some help }.withLabel "endpoint" endpoint

def endpointLines (entry : String × EndpointStats) : List Exposition :=
  let (endpoint, s) := entry
  let count (n : Nat) : Float := Number.nearest n 1
  [ line endpoint .counter "rjmx_bridge_check_success_total"
      "Total number of successful check cycles" (count s.success),
    line endpoint .counter "rjmx_bridge_check_failure_total"
      "Total number of failed check cycles" (count s.failure),
    line endpoint .counter "rjmx_bridge_reconnect_total"
      "Total number of dead connectors replaced" (count s.reconnect) ]
  ++ (s.dumps.buckets.map fun b =>
    (line endpoint .gauge "rjmx_bridge_dump_duration_seconds_bucket"
      "Histogram of dump durations" (count b.2)).withLabel "le" (boundText b.1))
  ++ [ line endpoint .gauge "rjmx_bridge_dump_duration_seconds_sum"
      "Total sum of dump durations" s.dumps.sum,
    line endpoint .gauge "rjmx_bridge_dump_duration_seconds_count"
      "Total count of dumps" (count s.dumps.count),
    line endpoint .gauge "rjmx_bridge_samples"
      "Samples emitted by the last successful check cycle" s.samples ]

/-- All lines of the registry, endpoints in the order of their names. -/
def lines (r : Registry) : List Exposition :=
  r.endpoints.entries.flatMap endpointLines
  ++ [ { Exposition.ofValue "rjmx_bridge_connectors" r.connectors with
        help := some "Number of cached connector slots" },
      { Exposition.ofValue "rjmx_bridge_start_timestamp" r.start with
        help := some "Unix timestamp of process start" } ]

def format (r : Registry) : String := Exposition.format r.lines

end Registry

end BeanGauge
