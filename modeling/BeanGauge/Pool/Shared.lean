import BeanGauge.Pool
/-!
Handles to the slots of a pool. A slot is a cell that is made when its endpoint is first asked for,
and a handle leads to the cell, whoever has it and however often it was copied. What is put into a
slot through one handle is found through all of them.

Whoever looks connectors up by endpoint sees a plain pool (`SharedPool.view`).
-/

namespace BeanGauge

/-- Leads to a slot: the number of its cell. -/
structure Handle where
  cell : Nat
  deriving DecidableEq

/-- The connectors in all cells, and the handle to the slot of each endpoint. -/
structure SharedPool where
  cells : List Connector
  slots : Dict Endpoint Handle
  leads : ∀ e, ∀ handle ∈ slots.get? e, handle.cell < cells.length

/-- An order in which all slots are visited. A pool does not say which one it takes. -/
structure Visit where
  order : List Handle → List Handle
  perm : ∀ handles, (order handles).Perm handles

def Visit.listed : Visit := ⟨id, fun handles => .refl handles⟩

/-- Makes connectors that are numbered one after the other. -/
def Connector.numbered (launcher : Launcher) (dumpTimeout : UInt64) (next : Nat) :
    Connector × Nat :=
  (.fresh next launcher dumpTimeout, next + 1)

namespace SharedPool

variable {π μ : Type}

instance : EmptyCollection SharedPool where
  emptyCollection := ⟨[], ∅, by simp⟩

/-- The handle to the slot of an endpoint. -/
def get? (p : SharedPool) (e : Endpoint) : Option Handle := p.slots.get? e

/-- The connector that is found through a handle. -/
def read (p : SharedPool) (handle : Handle) : Option Connector := p.cells[handle.cell]?

/-- Makes a slot, with a handle that no other one has. -/
def grow (p : SharedPool) (e : Endpoint) (c : Connector) : Handle × SharedPool where
  fst := ⟨p.cells.length⟩
  snd :=
    { cells := p.cells ++ [c]
      slots := p.slots.insert e ⟨p.cells.length⟩
      leads := by
        intro e' handle hhandle
        rw [List.length_append, List.length_singleton]
        rw [Dict.get?_insert, Option.mem_def] at hhandle
        split at hhandle
        · exact Nat.lt_succ_of_lt (p.leads e' handle hhandle)
        · cases hhandle
          exact Nat.lt_succ_self _ }

/-- The handle to the slot of an endpoint. If there is none, one is made with a connector from
`make`, which may change what connectors are made from; else `make` is not called. -/
def slot (p : SharedPool) (e : Endpoint) (make : μ → Connector × μ) (m : μ) :
    Handle × SharedPool × μ :=
  match p.get? e with
  | some handle => (handle, p, m)
  | none =>
    let (c, m) := make m
    let (handle, p) := p.grow e c
    (handle, p, m)

/-- Puts a connector in the place of the one that is found through a handle. -/
def put (p : SharedPool) (handle : Handle) (c : Connector) : SharedPool where
  cells := p.cells.set handle.cell c
  slots := p.slots
  leads := by
    rw [List.length_set]
    exact p.leads

def endpoints (p : SharedPool) : List Endpoint := p.slots.keys

def size (p : SharedPool) : Nat := p.slots.size

/-- Ends the session of the connector that is found through a handle. -/
def terminate (b : Behaviour π) (ph : SharedPool × Host π) (handle : Handle) :
    SharedPool × Host π :=
  match ph.1.read handle with
  | none => ph
  | some c =>
    let (c, h) := c.terminate b ph.2
    (ph.1.put handle c, h)

def terminateAll (b : Behaviour π) (visit : Visit) (ph : SharedPool × Host π) :
    SharedPool × Host π :=
  (visit.order ph.1.slots.values).foldl (terminate b) ph

/-- The pool without its handles, whose next new connector has the number `nextId`. -/
def view (p : SharedPool) (nextId : Nat) : Pool where
  slots := Dict.ofList (p.slots.entries.filterMap fun slot =>
    (p.read slot.2).map fun c => (slot.1, c))
  nextId := nextId

end SharedPool

/-- A pool that is shared, what its connectors are made from, and the host of their processes. -/
structure PoolUse (μ π : Type) where
  pool : SharedPool
  makers : μ
  host : Host π

/-- What is done with a pool and with the handles to its slots. -/
inductive PoolCall (μ π : Type) where
  | slot (e : Endpoint) (make : μ → Connector × μ)
  | get (e : Endpoint)
  | replace (handle : Handle) (c : Connector)
  | terminateAll (b : Behaviour π) (visit : Visit)
  /-- Whatever else happens on the host. -/
  | turn (host : Host π)

namespace PoolUse

variable {μ π : Type}

def start (makers : μ) (host : Host π) : PoolUse μ π := ⟨∅, makers, host⟩

/-- What a call leaves behind. The process of a connector that is replaced is ended. -/
def step (s : PoolUse μ π) : PoolCall μ π → PoolUse μ π
  | .slot e make =>
    let (_, pool, makers) := s.pool.slot e make s.makers
    { s with pool, makers }
  | .get _ => s
  | .replace handle c =>
    match s.pool.read handle with
    | none => s
    | some old => { s with pool := s.pool.put handle c, host := old.discard s.host }
  | .terminateAll b visit =>
    let (pool, host) := SharedPool.terminateAll b visit (s.pool, s.host)
    { s with pool, host }
  | .turn host => { s with host }

def after (s : PoolUse μ π) (calls : List (PoolCall μ π)) : PoolUse μ π := calls.foldl step s

end PoolUse

end BeanGauge
