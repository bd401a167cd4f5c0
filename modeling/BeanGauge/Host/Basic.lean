import BeanGauge.Text.Utf8
/-!
The host: the processes that were started on it, and its clock.

What a program does is left to a `Behaviour`, whose states `π` say everything about a process that
matters. A process that was killed stays in the table and never runs again, so a process number
names one process for good. Time is counted in milliseconds. It passes while a process is waited
for, and then for all others as well.
-/

namespace BeanGauge

/-- Some output of a process, as one read returns it. -/
structure Arrival (π : Type) where
  bytes : Bytes
  /-- The process when its output has been read so far. -/
  after : π
  /-- The time since the wait began. -/
  elapsed : Nat

/-- Why a wait ends without what was waited for. -/
inductive Ending where
  | timedOut
  | closed
  | failed (reason : String)
  deriving DecidableEq

/-- All that a process sends before a deadline if nothing is written to it. -/
structure Incoming (π : Type) where
  arrivals : List (Arrival π)
  /-- What is found after the last arrival. -/
  ending : Ending
  /-- The process when all of that has been seen. -/
  after : π
  elapsed : Nat

/-- What happens outside: what programs do, and what is said of texts that are not understood. -/
structure Behaviour (π : Type) where
  /-- A process of a program that is called at some time with arguments, or why there is none. -/
  start : Nat → String → List String → Except String π
  running : π → Bool
  /-- The process after something was written to it, or why that failed. -/
  write : π → Bytes → Except String π
  /-- What comes within a number of milliseconds. -/
  incoming : π → Nat → Incoming π
  /-- What becomes of a process within a number of milliseconds in which nobody reads from it. -/
  pass : π → Nat → π
  /-- What a text lacks to be JSON. -/
  noJson : String → String
  /-- What a text lacks to be YAML. -/
  noYaml : String → String

structure Process (π : Type) where
  state : π
  killed : Bool

/-- The processes of a host by number, and its clock. -/
structure Host (π : Type) where
  clock : Nat
  processes : List (Process π)

namespace Host

variable {π : Type}

def idle : Host π := ⟨0, []⟩

def find? (h : Host π) (pid : Nat) : Option π :=
  (h.processes[pid]?).bind fun p => if p.killed then none else some p.state

def alive (b : Behaviour π) (h : Host π) (pid : Nat) : Bool := (h.find? pid).any b.running

/-- Starts a process; its number is the next free one. -/
def spawn (b : Behaviour π) (h : Host π) (program : String) (args : List String) :
    Except String (Nat × Host π) :=
  (b.start h.clock program args).map fun s =>
    (h.processes.length, { h with processes := h.processes ++ [⟨s, false⟩] })

def kill (h : Host π) (pid : Nat) : Host π :=
  { h with processes := h.processes.modify pid fun p => { p with killed := true } }

def update (h : Host π) (pid : Nat) (state : π) : Host π :=
  { h with processes := h.processes.modify pid fun p => { p with state } }

def write (b : Behaviour π) (h : Host π) (pid : Nat) (bytes : Bytes) : Except String (Host π) :=
  match h.find? pid with
  | none => .error "Broken pipe (os error 32)"
  | some s => (b.write s bytes).map (h.update pid)

/-- What a process sends before a deadline. -/
def incoming (b : Behaviour π) (h : Host π) (pid deadline : Nat) : Option (Incoming π) :=
  (h.find? pid).map fun s => b.incoming s (deadline - h.clock)

/-- Leaves all processes to themselves for some time. -/
def pass (b : Behaviour π) (h : Host π) (millis : Nat) : Host π where
  clock := h.clock + millis
  processes := h.processes.map fun p => { p with state := b.pass p.state millis }

end Host

end BeanGauge
