import BeanGauge.Proofs.Registry.Buckets
import BeanGauge.Proofs.Registry.Events
import BeanGauge.Proofs.Registry.Listing
import BeanGauge.Registry.Shared
/-!
# The accounts of shared registries

Handles are made in families: one that creates a registry, and the clones of those in the family.
After any calls a registry accounts for what was recorded through its family, for each endpoint on
its own: an endpoint that nothing was recorded for is not there, and looking at it changes nothing.
-/

namespace BeanGauge

open Exposition (Reads)

/-! ### What the events of one endpoint leave behind -/

namespace EndpointEvent

def isSuccess : EndpointEvent → Bool
  | success _ => true
  | _ => false

def isFailure : EndpointEvent → Bool
  | failure => true
  | _ => false

def isReconnect : EndpointEvent → Bool
  | reconnect => true
  | _ => false

/-- The number of samples of a successful check. -/
def samples? : EndpointEvent → Option Nat
  | success samples => some samples
  | _ => none

/-- The duration of a dump. -/
def seconds? : EndpointEvent → Option Float
  | dump seconds => some seconds
  | _ => none

end EndpointEvent

/-- Whether counts are those of some events. -/
structure Tallies (s : EndpointStats) (events : List EndpointEvent) : Prop where
  success : s.success = events.countP EndpointEvent.isSuccess
  failure : s.failure = events.countP EndpointEvent.isFailure
  reconnect : s.reconnect = events.countP EndpointEvent.isReconnect
  samples : s.samples =
    ((events.filterMap EndpointEvent.samples?).getLast?.map fun n => Number.nearest n 1).getD 0.0
  dumps : s.dumps = (Histogram.ofBounds Histogram.dumpBounds).observeAll
    (events.filterMap EndpointEvent.seconds?)

theorem tallies_zero : Tallies .zero [] := ⟨rfl, rfl, rfl, rfl, rfl⟩

/-- One more event is counted where it belongs, and nowhere else. -/
theorem Tallies.record {s : EndpointStats} {events : List EndpointEvent} (h : Tallies s events)
    (event : EndpointEvent) : Tallies (s.record event) (events ++ [event]) where
  success := by
    cases event <;> simp [EndpointStats.record, EndpointEvent.isSuccess, h.success]
  failure := by
    cases event <;> simp [EndpointStats.record, EndpointEvent.isFailure, h.failure]
  reconnect := by
    cases event <;> simp [EndpointStats.record, EndpointEvent.isReconnect, h.reconnect]
  samples := by
    cases event <;> simp [EndpointStats.record, EndpointEvent.samples?, h.samples]
  dumps := by
    have hdumps : (events.filterMap EndpointEvent.seconds?).foldl Histogram.observe
        (Histogram.ofBounds Histogram.dumpBounds) = s.dumps := h.dumps.symm
    rw [List.filterMap_append, Histogram.observeAll, List.foldl_append, hdumps]
    cases event <;> rfl

theorem EndpointStats.recordAll_concat (s : EndpointStats) (events : List EndpointEvent)
    (event : EndpointEvent) : s.recordAll (events ++ [event]) = (s.recordAll events).record event :=
  List.foldl_concat _ _ _ _

/-- The statistics of an endpoint are the tallies of its events. -/
theorem tallies_recordAll (events : List EndpointEvent) :
    Tallies (EndpointStats.zero.recordAll events) events := by
  induction events using List.reverseRecOn with
  | nil => exact tallies_zero
  | append_singleton events event ih =>
    rw [EndpointStats.recordAll_concat]
    exact ih.record event

/-- Observing changes no bound. -/
theorem length_buckets_recordAll (events : List EndpointEvent) :
    (EndpointStats.zero.recordAll events).dumps.buckets.length =
      Histogram.dumpBounds.length + 1 := by
  rw [(tallies_recordAll events).dumps, Histogram.observeAll_buckets, List.length_map,
    Histogram.ofBounds, List.length_map]
  decide

/-- What is kept of an endpoint after some events: nothing if there were none. -/
def kept? : List EndpointEvent → Option EndpointStats
  | [] => none
  | events => some (EndpointStats.zero.recordAll events)

theorem getD_kept? (events : List EndpointEvent) :
    (kept? events).getD .zero = EndpointStats.zero.recordAll events := by
  cases events <;> rfl

theorem kept?_concat (events : List EndpointEvent) (event : EndpointEvent) :
    kept? (events ++ [event]) = some (((kept? events).getD .zero).record event) := by
  rw [getD_kept?, ← EndpointStats.recordAll_concat]
  cases events <;> rfl

theorem isSome_kept?_iff {events : List EndpointEvent} : (kept? events).isSome ↔ events ≠ [] := by
  cases events <;> simp [kept?]

theorem eq_recordAll_of_kept? {events : List EndpointEvent} {s : EndpointStats}
    (h : kept? events = some s) : s = EndpointStats.zero.recordAll events := by
  rw [← getD_kept?, h]
  rfl

/-! ### Families of handles -/

/-- How many families there are and to which of them each handle belongs, after one more call. -/
def RegistryCall.kin (made : Nat × List Nat) : RegistryCall → Nat × List Nat
  | create _ => (made.1 + 1, made.2 ++ [made.1])
  | clone handle => (made.1, made.2 ++ made.2[handle]?.toList)
  | _ => made

/-- The families some calls make, and the family of each handle. -/
def families (calls : List RegistryCall) : Nat × List Nat :=
  calls.foldl RegistryCall.kin (0, [])

theorem families_concat (calls : List RegistryCall) (call : RegistryCall) :
    families (calls ++ [call]) = call.kin (families calls) :=
  List.foldl_concat _ _ _ _

/-- The event that a call records for an endpoint through a handle of a family. -/
def RegistryCall.event? (made : List Nat) (family : Nat) (endpoint : String) :
    RegistryCall → Option EndpointEvent
  | record handle other event =>
    if made[handle]? = some family ∧ other = endpoint then some event else none
  | _ => none

/-- The events that some calls record for an endpoint through the handles of a family. -/
def eventsOf (calls : List RegistryCall) (family : Nat) (endpoint : String) :
    List EndpointEvent :=
  calls.filterMap (RegistryCall.event? (families calls).2 family endpoint)

/-- What a call records through a handle is not changed by handles that are made later. -/
theorem RegistryCall.event?_append {made : List Nat} {call : RegistryCall}
    (h : ∀ handle ∈ call.through?, handle < made.length) (later : List Nat)
    (family : Nat) (endpoint : String) :
    call.event? (made ++ later) family endpoint = call.event? made family endpoint := by
  cases call with
  | record handle other event =>
    rw [RegistryCall.event?, RegistryCall.event?, List.getElem?_append_left (h handle rfl)]
  | create | clone | setConnectors | look => rfl

/-- Handles keep their families. -/
theorem RegistryCall.kin_append (made : Nat × List Nat) (call : RegistryCall) :
    ∃ later, (call.kin made).2 = made.2 ++ later := by
  cases call with
  | create => exact ⟨_, rfl⟩
  | clone handle => exact ⟨_, rfl⟩
  | record | setConnectors | look => exact ⟨[], (List.append_nil _).symm⟩

/-- One more call records its own event, after those of the calls before it. -/
theorem eventsOf_concat {calls : List RegistryCall} {call : RegistryCall}
    (h : ∀ c ∈ calls ++ [call], ∀ handle ∈ c.through?, handle < (families calls).2.length)
    (family : Nat) (endpoint : String) :
    eventsOf (calls ++ [call]) family endpoint =
      eventsOf calls family endpoint ++
        (call.event? (families calls).2 family endpoint).toList := by
  obtain ⟨later, hlater⟩ := call.kin_append (families calls)
  have hevents : eventsOf (calls ++ [call]) family endpoint =
      (calls ++ [call]).filterMap (RegistryCall.event? (families calls).2 family endpoint) := by
    rw [eventsOf, families_concat, hlater]
    refine List.filterMap_congr fun c hc => ?_
    exact RegistryCall.event?_append (h c hc) later family endpoint
  rw [hevents, List.filterMap_append, eventsOf, List.filterMap_cons]
  cases call.event? (families calls).2 family endpoint <;> rfl

namespace Registries

/-- Every handle leads to a registry. -/
theorem exists_held {m : Registries} {handle n : Nat} (h : m.handles[handle]? = some n) :
    ∃ r, m.held[n]? = some r :=
  ⟨_, List.getElem?_eq_getElem (m.leads n (List.mem_of_getElem? h))⟩

def stats? (m : Registries) (n : Nat) (endpoint : String) : Option EndpointStats :=
  m.held[n]?.bind fun r => r.endpoints.get? endpoint

variable {m m' : Registries} {call : RegistryCall}

theorem stats?_create (m : Registries) (start : Float) (n : Nat) (endpoint : String) :
    (m.create start).stats? n endpoint = m.stats? n endpoint := by
  rw [stats?, stats?, create]
  rcases Nat.lt_trichotomy n m.held.length with hlt | heq | hgt
  · rw [List.getElem?_append_left hlt]
  · rw [heq, List.getElem?_concat_length, List.getElem?_eq_none (Nat.le_refl _)]
    rfl
  · rw [List.getElem?_eq_none (Nat.le_of_lt hgt), List.getElem?_eq_none]
    rw [List.length_append, List.length_singleton]
    exact hgt

/-- Changing one registry leaves the statistics of all others as they are. -/
theorem stats?_change (m : Registries) (k : Nat) (f : Registry → Registry) (n : Nat)
    (endpoint : String) : (m.change k f).stats? n endpoint =
      m.held[n]?.bind fun r => (if k = n then f r else r).endpoints.get? endpoint := by
  rw [stats?, change, List.getElem?_modify]
  cases m.held[n]? <;> rfl

/-- A call changes what a registry keeps of an endpoint only by the event it records for it. -/
theorem stats?_step (h : m.step call = some m') (n : Nat) (endpoint : String) :
    m'.stats? n endpoint = (call.event? m.handles n endpoint).elim (m.stats? n endpoint)
      fun event => some (((m.stats? n endpoint).getD .zero).record event) := by
  cases call with
  | create start =>
    cases h
    exact stats?_create m start n endpoint
  | clone handle =>
    rw [step, Option.dite_none_right_eq_some] at h
    obtain ⟨_, h⟩ := h
    cases h
    rfl
  | record handle other event =>
    obtain ⟨k, hk, rfl⟩ := Option.map_eq_some_iff.1 h
    obtain ⟨r, hr⟩ := exists_held hk
    rw [stats?_change, RegistryCall.event?, hk]
    by_cases hkn : k = n
    · subst hkn
      rw [stats?, hr]
      by_cases hother : other = endpoint
      · subst hother
        simp [Registry.record, Registry.endpoint]
      · simp [Registry.record, hother, Dict.get?_insert_ne _ _ (Ne.symm hother)]
    · simp [hkn, stats?]
  | setConnectors handle count =>
    obtain ⟨k, hk, rfl⟩ := Option.map_eq_some_iff.1 h
    rw [stats?_change]
    refine congrArg _ (funext fun r => ?_)
    split <;> rfl
  | look handle other =>
    obtain ⟨k, -, rfl⟩ := Option.map_eq_some_iff.1 h
    rfl

/-- A call through a handle that was made can be done. -/
theorem exists_step (h : ∀ handle ∈ call.through?, handle < m.handles.length) :
    ∃ m', m.step call = some m' := by
  cases call with
  | create start => exact ⟨_, rfl⟩
  | clone handle => exact ⟨_, dif_pos (h handle rfl)⟩
  | record handle _ _ | setConnectors handle _ | look handle _ =>
    exact ⟨_, Option.map_eq_some_iff.2 ⟨_, List.getElem?_eq_getElem (h handle rfl), rfl⟩⟩

/-- A call makes the handles it is to make. -/
theorem kin_step (h : m.step call = some m') :
    (m'.held.length, m'.handles) = call.kin (m.held.length, m.handles) := by
  cases call with
  | create start =>
    cases h
    exact Prod.ext (List.length_append ..) rfl
  | clone handle =>
    rw [step, Option.dite_none_right_eq_some] at h
    obtain ⟨hlt, h⟩ := h
    cases h
    rw [RegistryCall.kin, List.getElem?_eq_getElem hlt]
    rfl
  | record handle _ _ | setConnectors handle _ =>
    obtain ⟨k, -, rfl⟩ := Option.map_eq_some_iff.1 h
    exact Prod.ext (List.length_modify ..) rfl
  | look handle _ =>
    obtain ⟨k, -, rfl⟩ := Option.map_eq_some_iff.1 h
    rfl

/-- Whether every call goes through a handle that was made before it. -/
def Possible (calls : List RegistryCall) : Prop :=
  ∀ i, (h : i < calls.length) →
    ∀ handle ∈ calls[i].through?, handle < (families (calls.take i)).2.length

instance (calls : List RegistryCall) : Decidable (Possible calls) :=
  inferInstanceAs (Decidable (∀ i, (h : i < calls.length) →
    ∀ handle ∈ calls[i].through?, handle < (families (calls.take i)).2.length))

theorem possible_concat {calls : List RegistryCall} (h : Possible (calls ++ [call])) :
    Possible calls ∧ ∀ handle ∈ call.through?, handle < (families calls).2.length := by
  constructor
  · intro i hi handle hhandle
    have hlt : i < (calls ++ [call]).length := by
      rw [List.length_append]
      exact Nat.lt_add_right _ hi
    have hi' := h i hlt handle
    rw [List.getElem_append_left hi, List.take_append_of_le_length (Nat.le_of_lt hi)] at hi'
    exact hi' hhandle
  · intro handle hhandle
    have hlt : calls.length < (calls ++ [call]).length := by
      rw [List.length_append]
      exact Nat.lt_succ_self _
    have hlast := h calls.length hlt handle
    rw [List.getElem_concat_length rfl, List.take_left] at hlast
    exact hlast hhandle

/-- Whether registries account for some calls. -/
structure Account (m : Registries) (calls : List RegistryCall) : Prop where
  handles : (m.held.length, m.handles) = families calls
  through : ∀ call ∈ calls, ∀ handle ∈ call.through?, handle < m.handles.length
  kept : ∀ n endpoint, m.stats? n endpoint = kept? (eventsOf calls n endpoint)

theorem Account.made {calls : List RegistryCall} (hm : m.Account calls) :
    m.handles = (families calls).2 := congrArg Prod.snd hm.handles

theorem account_empty : Account ∅ [] := ⟨rfl, by simp, fun _ _ => rfl⟩

/-- Registries that account for some calls account for one more when that is done. -/
theorem Account.step {calls : List RegistryCall} (hm : m.Account calls)
    (hcall : ∀ handle ∈ call.through?, handle < m.handles.length)
    (h : m.step call = some m') : m'.Account (calls ++ [call]) := by
  have hreach : ∀ c ∈ calls ++ [call], ∀ handle ∈ c.through?,
      handle < (families calls).2.length := by
    intro c hc
    rw [← hm.made]
    rcases List.mem_append.1 hc with hc | hc
    · exact hm.through c hc
    · rw [List.mem_singleton.1 hc]
      exact hcall
  have hkin : (m'.held.length, m'.handles) = families (calls ++ [call]) := by
    rw [kin_step h, hm.handles, families_concat]
  refine ⟨hkin, fun c hc handle hhandle => ?_, fun n endpoint => ?_⟩
  · obtain ⟨later, hlater⟩ := call.kin_append (families calls)
    have hmade' : m'.handles = (families calls).2 ++ later := by
      rw [← hlater, ← families_concat, ← hkin]
    rw [hmade', List.length_append]
    exact Nat.lt_add_right _ (hreach c hc handle hhandle)
  · rw [stats?_step h, eventsOf_concat hreach, hm.kept, hm.made]
    cases call.event? (families calls).2 n endpoint with
    | none => exact congrArg kept? (List.append_nil _).symm
    | some event => exact (kept?_concat _ _).symm

/-- Calls through handles that were made can all be done, and are accounted for. -/
theorem exists_run {calls : List RegistryCall} (h : Possible calls) :
    ∃ m, run calls = some m ∧ m.Account calls := by
  induction calls using List.reverseRecOn with
  | nil => exact ⟨∅, rfl, account_empty⟩
  | append_singleton calls call ih =>
    obtain ⟨hcalls, hcall⟩ := possible_concat h
    obtain ⟨m, hrun, hm⟩ := ih hcalls
    rw [← hm.made] at hcall
    obtain ⟨m', hstep⟩ := exists_step hcall
    refine ⟨m', ?_, hm.step hcall hstep⟩
    rw [run, List.foldlM_append, ← run, hrun]
    show (m.step call).bind some = some m'
    rw [hstep]
    rfl

/-- What the registry of a family keeps is what was recorded through the family. -/
theorem Account.registry {calls : List RegistryCall} (hm : m.Account calls) {handle n : Nat}
    (hn : (families calls).2[handle]? = some n) :
    ∃ r, m.registryAt handle = some r ∧
      ∀ endpoint, r.endpoints.get? endpoint = kept? (eventsOf calls n endpoint) := by
  have hhandle : m.handles[handle]? = some n := by
    rw [hm.made, hn]
  obtain ⟨r, hr⟩ := exists_held hhandle
  refine ⟨r, ?_, fun endpoint => ?_⟩
  · rw [registryAt, hhandle]
    exact hr
  · have hkept := hm.kept n endpoint
    rw [stats?, hr] at hkept
    exact hkept

/-- Through each handle one sees, for every endpoint, the counts of what was recorded for it through
the family of the handle, and in the text exactly the endpoints something was recorded for. -/
theorem run_accounts {calls : List RegistryCall} (hcalls : Possible calls) {handle n : Nat}
    (hn : (families calls).2[handle]? = some n) :
    ∃ m r, run calls = some m ∧ m.registryAt handle = some r ∧
      (∀ endpoint, Tallies (r.endpoint endpoint) (eventsOf calls n endpoint)) ∧
      ∃ ls listed, Reads r.format ls ∧ (∀ ls', Reads r.format ls' → ls' = ls) ∧
        Registry.Lists ls listed ∧
        ∀ endpoint, endpoint ∈ listed ↔ eventsOf calls n endpoint ≠ [] := by
  obtain ⟨m, hrun, hm⟩ := exists_run hcalls
  obtain ⟨r, hr, hkept⟩ := hm.registry hn
  have hwidth : ∀ entry ∈ r.endpoints.entries,
      entry.2.dumps.buckets.length = Histogram.dumpBounds.length + 1 := by
    intro entry hentry
    have hget := hkept entry.1
    rw [Dict.get?_eq_some_iff.2 hentry] at hget
    rw [eq_recordAll_of_kept? hget.symm]
    exact length_buckets_recordAll _
  obtain ⟨ls, hreads, hunique, hlists⟩ := Registry.format_lists hwidth
  refine ⟨m, r, hrun, hr, fun endpoint => ?_, ls, r.endpoints.keys, hreads, hunique, hlists,
    fun endpoint => ?_⟩
  · rw [Registry.endpoint, hkept, getD_kept?]
    exact tallies_recordAll _
  · rw [Dict.mem_keys_iff, hkept, isSome_kept?_iff]

/-- Calls through three handles of one family, and one of another. -/
def sharedCalls : List RegistryCall :=
  [.create 0.0, .clone 0, .create 7.0, .record 1 "b:1" (.success 3), .look 1 "c:1",
    .record 0 "b:1" (.success 5), .record 2 "b:1" .failure, .clone 1,
    .record 3 "a:1" (.dump 0.5), .setConnectors 1 2]

theorem sharedCalls_accounts :
    ∃ m r, run sharedCalls = some m ∧ m.registryAt 3 = some r ∧
      (r.endpoint "b:1").success = 2 ∧ (r.endpoint "b:1").failure = 0 ∧
      (r.endpoint "b:1").samples = Number.nearest 5 1 ∧
      ∃ ls listed, Reads r.format ls ∧ Registry.Lists ls listed ∧
        "a:1" ∈ listed ∧ "b:1" ∈ listed ∧ "c:1" ∉ listed := by
  have hcalls : Possible sharedCalls := by decide
  have hn : (families sharedCalls).2[3]? = some 0 := by decide
  obtain ⟨m, r, hrun, hr, htallies, ls, listed, hreads, -, hlists, hlisted⟩ :=
    run_accounts hcalls hn
  have hb := htallies "b:1"
  refine ⟨m, r, hrun, hr, ?_, ?_, ?_, ls, listed, hreads, hlists, ?_, ?_, ?_⟩
  · rw [hb.success]
    decide
  · rw [hb.failure]
    decide
  · rw [hb.samples]
    rfl
  · rw [hlisted]
    exact List.ne_nil_of_length_pos (by decide)
  · rw [hlisted]
    exact List.ne_nil_of_length_pos (by decide)
  · rw [hlisted, not_ne_iff]
    exact List.length_eq_zero_iff.1 (by decide)

end Registries

end BeanGauge
