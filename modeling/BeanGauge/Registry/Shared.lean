import BeanGauge.Registry.Basic
/-!
Handles to registries. A handle that is cloned leads to the same registry as its clone, so what is
recorded through one of them is seen through all.
-/

namespace BeanGauge

/-- All registries that were made, and for each handle which of them it leads to. -/
structure Registries where
  held : List Registry
  handles : List Nat
  leads : ∀ n ∈ handles, n < held.length

/-- What is called on handles, which are numbered in the order in which they are made. -/
inductive RegistryCall where
  | create (start : Float)
  | clone (handle : Nat)
  | record (handle : Nat) (endpoint : String) (event : EndpointEvent)
  | setConnectors (handle : Nat) (count : Nat)
  | look (handle : Nat) (endpoint : String)

def RegistryCall.through? : RegistryCall → Option Nat
  | create _ => none
  | clone handle | record handle _ _ | setConnectors handle _ | look handle _ => some handle

namespace Registries

instance : EmptyCollection Registries := ⟨⟨[], [], by simp⟩⟩

def registryAt (m : Registries) (handle : Nat) : Option Registry :=
  m.handles[handle]?.bind fun n => m.held[n]?

def create (m : Registries) (start : Float) : Registries where
  held := m.held ++ [.ofStart start]
  handles := m.handles ++ [m.held.length]
  leads := by
    intro n hn
    rw [List.length_append, List.length_singleton]
    rcases List.mem_append.1 hn with hn | hn
    · exact Nat.lt_succ_of_lt (m.leads n hn)
    · rw [List.mem_singleton.1 hn]
      exact Nat.lt_succ_self _

/-- Makes one more handle to the registry of a handle. -/
def share (m : Registries) (handle : Nat) (h : handle < m.handles.length) : Registries where
  held := m.held
  handles := m.handles ++ [m.handles[handle]]
  leads := by
    intro n hn
    rcases List.mem_append.1 hn with hn | hn
    · exact m.leads n hn
    · rw [List.mem_singleton.1 hn]
      exact m.leads _ (List.getElem_mem h)

/-- Changes a registry for all of its handles. -/
def change (m : Registries) (n : Nat) (f : Registry → Registry) : Registries where
  held := m.held.modify n f
  handles := m.handles
  leads := by
    rw [List.length_modify]
    exact m.leads

/-- What a call makes of the registries; there is none through a handle that was not made. -/
def step (m : Registries) : RegistryCall → Option Registries
  | .create start => some (m.create start)
  | .clone handle => if h : handle < m.handles.length then some (m.share handle h) else none
  | .record handle endpoint event =>
    m.handles[handle]?.map fun n => m.change n (·.record endpoint event)
  | .setConnectors handle count =>
    m.handles[handle]?.map fun n => m.change n (·.setConnectors count)
  | .look handle _ => m.handles[handle]?.map fun _ => m

def run (calls : List RegistryCall) : Option Registries := calls.foldlM step ∅

end Registries

end BeanGauge
