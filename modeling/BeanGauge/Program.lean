import BeanGauge.Address
import BeanGauge.CommandLine
import BeanGauge.Config.Load
import BeanGauge.Config.Writer
import BeanGauge.Web
import BeanGauge.Yaml.Writer
/-!
The program: what a call with arguments comes to. It checks a configuration, shows what would be
checked, checks everything once, or serves the checks over HTTP.
-/

namespace BeanGauge

inductive Outcome where
  | exit (code : Nat) (stdout stderr : String)
  /-- The bridge listens and serves its checks. -/
  | serve (address : SocketAddress) (config : Config) (runner : Runner)

namespace Program

variable {π : Type}

def success (stdout : String) : Outcome := .exit 0 stdout ""

/-- A call that failed, after it may have written something. -/
def failure (stdout message : String) : Outcome := .exit 1 stdout ("Error: " ++ message ++ "\n")

/-- What is said of a configuration that is not there. Why a file was not read or not understood is
told once more as the cause. -/
def configError (e : Config.Error) : String :=
  match e with
  | .unreadable reason | .unparsable reason => e.message ++ "\n\nCaused by:\n    " ++ reason
  | .invalid _ => e.message

def refuse (r : Refusal) : Outcome :=
  let stdout := match r with
    | .version => "rjmx-bridge " ++ version ++ "\n"
    | .help => "Usage: rjmx-bridge [OPTIONS]\n"
    | .usage => ""
  .exit r.exitCode stdout (if r = .usage then "Usage: rjmx-bridge [OPTIONS]\n" else "")

/-- What a valid configuration is reported as. -/
def validText (c : Config) : String :=
  "Configuration is valid (" ++ toString c.checks.length ++ " checks, "
    ++ toString c.instanceCount ++ " instances)\n"

/-- The line of an instance that would be checked. -/
def instanceLine (check : Check) (i : CheckInstance) : String :=
  check.name ++ " " ++ i.name ++ " " ++ i.config.endpoint.text ++ " domains="
    ++ (i.domains.map fun ds => ",".intercalate ds).getD "*" ++ "\n"

def dryRunText (c : Config) (r : Runner) : OutputFormat → String
  | .json => c.toJson.pretty ++ "\n"
  | .yaml => Yaml.write c.toJson
  | .text =>
    "launcher: " ++ c.launcher.program ++ " " ++ " ".intercalate c.launcher.args ++ "\n"
      ++ String.join (r.checks.flatMap fun check => check.instances.map (instanceLine check))

def sinkText (s : Sink) : OutputFormat → String
  | .text => Exposition.render s
  | .json => s.toJson.pretty ++ "\n"
  | .yaml => Yaml.write s.toJson

/-- Checks everything once and ends all consoles. -/
def runOnce (b : Behaviour π) (r : Runner) (format : OutputFormat) : Outcome :=
  let (summary, sink, w) := r.runAll b ∅ (Bridge.idle 0.0)
  let _ := r.killConnectors b w
  let text := sinkText sink format
  if summary.failed = 0 then success text
  else
    let total := summary.failed + summary.succeeded
    failure text (toString summary.failed ++ " of " ++ toString total ++ " instances failed")

/-- The configuration that a call works with: that of the file, which has to be there when it is
to be shown, with what the command line sets. -/
def effectiveConfig [Regex.Builder] (explain : String → String) (cl : CommandLine)
    (file : Config.File) : Except Config.Error Config := do
  let c ←
    if cl.validate || cl.dryRun then Config.load explain file else Config.loadOrDefault explain file
  (cl.apply c).accept

def runWith [Regex.Builder] (b : Behaviour π) (cl : CommandLine) (c : Config) : Outcome :=
  if cl.validate then success (validText c)
  else match Runner.ofConfig c with
    | .error e => failure "" e.message
    | .ok r =>
      if cl.dryRun then success (dryRunText c r cl.outputFormat)
      else if cl.once then runOnce b r cl.outputFormat
      else match SocketAddress.ofBindAddress c.server.bindAddress c.server.port with
        | .error message => failure "" message
        | .ok address => .serve address c r

/-- A call with arguments and an environment, on a machine where `files` says what is found. -/
def run [Regex.Builder] (b : Behaviour π) (files : String → Config.File) (args : List String)
    (env : List (String × String)) : Outcome :=
  match CommandLine.parse args env with
  | .error r => refuse r
  | .ok cl =>
    match effectiveConfig b.noYaml cl (files cl.configFile) with
    | .error e => failure "" (configError e)
    | .ok c => runWith b cl c

end Program

end BeanGauge
