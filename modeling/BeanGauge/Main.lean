import BeanGauge.Program
import BeanGauge.Shell.Behaviour
/-!
The command line program. Consoles are run by the built-in shell, and a bridge that serves its
checks takes one request a line, the method and the path, from its standard input.
-/

namespace BeanGauge

def fileAt (path : String) : IO Config.File := do
  try
    pure (.contents (← IO.FS.readFile path))
  catch
    | .noFileOrDirectory .. => pure .missing
    | e => pure (.unreadable (toString e))

/-- The variables of the environment that settings look at. -/
def readEnvironment : IO (List (String × String)) := do
  let found ← (Setting.all.filterMap Setting.environmentName?).mapM fun name => do
    pure ((← IO.getEnv name).map fun value => (name, value))
  pure (found.filterMap id)

def printResponse (a : Web.Response) : IO Unit := do
  IO.println (toString a.status ++ " " ++ a.contentType.getD "")
  IO.println a.body

/-- Answers requests until there are no more. -/
partial def serve (c : Config) (r : Runner) (w : Bridge Shell.Machine) : IO Unit := do
  let line ← (← IO.getStdin).getLine
  if line.isEmpty then pure ()
  else
    match (line.toList.takeWhile (· != '\n')).splitOn ' ' with
    | [method, target] =>
      let q : Web.Request := ⟨String.ofList method, String.ofList target⟩
      let (a, w) := Web.respond Shell.behaviour c r w q
      printResponse a
      serve c r w
    | _ => serve c r w

end BeanGauge

open BeanGauge in
def main (args : List String) : IO UInt32 := do
  let _ : Regex.Builder := Regex.weighing
  let env ← readEnvironment
  let file ← match CommandLine.parse args env with
    | .ok cl => fileAt cl.configFile
    | .error _ => pure .missing
  match Program.run Shell.behaviour (fun _ => file) args env with
  | .exit code stdout stderr =>
    IO.print stdout
    IO.eprint stderr
    pure (UInt32.ofNat code)
  | .serve address c r =>
    IO.eprintln ("Serving as " ++ address.text)
    serve c r (Bridge.idle 0.0)
    pure 0
