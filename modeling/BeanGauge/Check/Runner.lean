import BeanGauge.Check.Cycle
/-!
Runners: all configured checks, run one after the other.
-/

namespace BeanGauge

structure Check where
  name : String
  instances : List CheckInstance
  deriving DecidableEq

structure RunSummary where
  succeeded : Nat
  failed : Nat
  deriving DecidableEq

def RunSummary.count (s : RunSummary) : Except CheckError Unit → RunSummary
  | .ok _ => { s with succeeded := s.succeeded + 1 }
  | .error _ => { s with failed := s.failed + 1 }

structure Runner where
  launcher : LauncherConfig
  checks : List Check
  deriving DecidableEq

def Check.ofConfig [Regex.Builder] (c : CheckConfig) : Except Integration.Error Check := do
  let instances ← c.instances.mapM fun i =>
    (Integration.build c.integration i.filters).map (CheckInstance.mk i)
  pure ⟨c.integration, instances⟩

namespace Runner

variable {π : Type}

def ofConfig [Regex.Builder] (c : Config) : Except Integration.Error Runner := do
  let checks ← c.checks.mapM Check.ofConfig
  pure ⟨c.launcher, checks⟩

/-- All instances in the order in which they are checked. -/
def instances (r : Runner) : List CheckInstance := r.checks.flatMap (·.instances)

/-- Checks some instances, whatever becomes of each of them. -/
def runInstances (b : Behaviour π) (l : LauncherConfig) :
    List CheckInstance → RunSummary × Sink × Bridge π → RunSummary × Sink × Bridge π
  | [], done => done
  | i :: rest, (summary, sink, w) =>
    let (result, sink, w) := w.check b l i sink
    runInstances b l rest (summary.count result, sink, w)

/-- Checks all instances, and notes the number of connectors. -/
def runAll (b : Behaviour π) (r : Runner) (sink : Sink) (w : Bridge π) :
    RunSummary × Sink × Bridge π :=
  let (summary, sink, w) := runInstances b r.launcher r.instances (⟨0, 0⟩, sink, w)
  (summary, sink, { w with registry := w.registry.setConnectors w.pool.size })

def killConnectors (b : Behaviour π) (r : Runner) (w : Bridge π) : Bridge π :=
  let (pool, host) :=
    (r.instances.map (·.config.endpoint)).foldl (Pool.terminate b) (w.pool, w.host)
  { w with pool, host }

end Runner

end BeanGauge
