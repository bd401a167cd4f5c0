import BeanGauge.Host.Basic
import BeanGauge.Shell.Machine
/-!
A host on which `/bin/sh` is the only program. What a script writes arrives at once, one command's
output after the other.
-/

namespace BeanGauge.Shell

/-- The places that are there and are no programs. -/
def directories : List String :=
  ["/", "/bin", "/dev", "/etc", "/home", "/lib", "/opt", "/proc", "/root", "/sbin", "/sys", "/tmp",
    "/usr", "/usr/bin", "/var", ".", "..", "./", "../", "/tmp/"]

/-- The paths of the shell; a name without a slash is looked for among the programs. -/
def shellPaths : List String := ["/bin/sh", "/usr/bin/sh", "sh"]

def startProgram (program : String) (args : List String) : Except String Machine :=
  if (program :: args).any (·.toList.contains '\x00') then
    .error "nul byte found in provided data"
  else if shellPaths.contains program then
    match args with
    | "-c" :: script :: args => .ok (Machine.start script args)
    | args => .ok (Machine.start "exit 2" args)
  else if program.toList.contains '/' && directories.contains program then
    .error "Permission denied (os error 13)"
  else .error "No such file or directory (os error 2)"

/-- What a machine sends within `budget` milliseconds, of which `elapsed` have passed. -/
def incomingFrom : Nat → Nat → Nat → Machine → Incoming Machine
  | 0, budget, elapsed, m => ⟨[], .timedOut, m, max budget elapsed⟩
  | fuel + 1, budget, elapsed, m =>
    match m.output with
    | bytes :: rest =>
      let m := { m with output := rest }
      let later := incomingFrom fuel budget elapsed m
      { later with arrivals := ⟨bytes, m, elapsed⟩ :: later.arrivals }
    | [] =>
      if !m.speaks then ⟨[], .closed, m, elapsed⟩
      else if m.delay == 0 then ⟨[], .timedOut, m, budget⟩
      else if elapsed + m.delay < budget then
        incomingFrom fuel budget (elapsed + m.delay) { m with delay := 0 }.settle
      else ⟨[], .timedOut, { m with delay := m.delay - (budget - elapsed) }, budget⟩

/-- What the shell does. It says nothing of other texts. -/
def behaviour : Behaviour Machine where
  start _ := startProgram
  running m := !m.finished
  write m bytes :=
    if !m.listens then .error "Broken pipe (os error 32)"
    else .ok { m with input := m.input ++ Text.decodeFrom 0 bytes }.settle
  incoming m budget :=
    if budget == 0 then ⟨[], .timedOut, m, 0⟩ else incomingFrom Machine.stepLimit budget 0 m
  pass m millis := m.pass Machine.stepLimit millis
  noJson _ := "_"
  noYaml _ := ""

end BeanGauge.Shell
