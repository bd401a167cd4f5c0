import BeanGauge.Registry.Basic
/-!
# Counting events

What the registry knows of an endpoint is the sum of the events that were counted for it, and events
of one endpoint leave all others alone.
-/

namespace BeanGauge

def EndpointStats.recordAll (s : EndpointStats) (events : List EndpointEvent) : EndpointStats :=
  events.foldl EndpointStats.record s

namespace Registry

def recordAll (r : Registry) (name : String) (events : List EndpointEvent) : Registry :=
  events.foldl (fun r event => r.record name event) r

theorem recordAll_append (r : Registry) (name : String) (first rest : List EndpointEvent) :
    r.recordAll name (first ++ rest) = (r.recordAll name first).recordAll name rest :=
  List.foldl_append

theorem endpoint_record_self (r : Registry) (name : String) (event : EndpointEvent) :
    (r.record name event).endpoint name = (r.endpoint name).record event := by
  simp only [record, endpoint, Dict.get?_insert_self, Option.getD_some]

theorem endpoint_record_ne (r : Registry) {name other : String} (h : other ≠ name)
    (event : EndpointEvent) : (r.record name event).endpoint other = r.endpoint other := by
  simp only [record, endpoint, Dict.get?_insert_ne _ _ h]

/-- The events of an endpoint go to its statistics. -/
theorem endpoint_recordAll_self (r : Registry) (name : String) (events : List EndpointEvent) :
    (r.recordAll name events).endpoint name = (r.endpoint name).recordAll events := by
  induction events generalizing r with
  | nil => rfl
  | cons event events ih =>
    show ((r.record name event).recordAll name events).endpoint name = _
    rw [ih, endpoint_record_self]
    rfl

/-- They touch no others. -/
theorem endpoint_recordAll_ne (r : Registry) {name other : String} (h : other ≠ name)
    (events : List EndpointEvent) :
    (r.recordAll name events).endpoint other = r.endpoint other := by
  induction events generalizing r with
  | nil => rfl
  | cons event events ih =>
    show ((r.record name event).recordAll name events).endpoint other = _
    rw [ih, endpoint_record_ne r h]

end Registry

end BeanGauge
