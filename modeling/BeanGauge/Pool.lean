import BeanGauge.Connector.Basic
/-!
Pools: one slot with a connector for every endpoint that was ever asked for. A slot stays for good;
the connector in it may be replaced.
-/

namespace BeanGauge

/-- The connectors by endpoint, and the number of the next new one. Fewer than 2^64 new ones are
assumed, so that a number of 64 bits would do. -/
structure Pool where
  slots : Dict Endpoint Connector
  nextId : Nat

namespace Pool

variable {π : Type}

def empty : Pool := ⟨∅, 1⟩

def get? (p : Pool) (e : Endpoint) : Option Connector := p.slots.get? e

def set (p : Pool) (e : Endpoint) (c : Connector) : Pool := { p with slots := p.slots.insert e c }

def renew (p : Pool) (e : Endpoint) (launcher : Launcher) (dumpTimeout : UInt64) :
    Connector × Pool :=
  let c := Connector.fresh p.nextId launcher dumpTimeout
  (c, { slots := p.slots.insert e c, nextId := p.nextId + 1 })

/-- The connector of an endpoint; a slot is made for one that has none. -/
def slot (p : Pool) (e : Endpoint) (launcher : Launcher) (dumpTimeout : UInt64) :
    Connector × Pool :=
  match p.get? e with
  | some c => (c, p)
  | none => p.renew e launcher dumpTimeout

def endpoints (p : Pool) : List Endpoint := p.slots.keys

def size (p : Pool) : Nat := p.slots.size

/-- Ends the session of one slot, if there is such a slot. -/
def terminate (b : Behaviour π) (ph : Pool × Host π) (e : Endpoint) : Pool × Host π :=
  match ph.1.get? e with
  | none => ph
  | some c =>
    let (c, h) := c.terminate b ph.2
    (ph.1.set e c, h)

def terminateAll (b : Behaviour π) (ph : Pool × Host π) : Pool × Host π :=
  ph.1.endpoints.foldl (terminate b) ph

def debug (p : Pool) : String :=
  "ConnectorPool \x7b endpoints: [" ++ ", ".intercalate (p.endpoints.map (·.debug)) ++ "] \x7d"

end Pool

end BeanGauge
