import BeanGauge.Config.Basic
import BeanGauge.Text.Blank
/-!
Which configurations are accepted. The conditions are looked at in a fixed order, checks and
instances in the order of their lists, and the first that fails is reported.
-/

namespace BeanGauge

/-- What is wrong with an instance. -/
inductive InstanceFault where
  | blankHost
  | zeroPort
  | halfCredentials
  | noIntegration (e : Integration.Error)
  deriving DecidableEq

/-- The fault in the words of error messages. -/
def InstanceFault.message : InstanceFault → String
  | .blankHost => "host must not be empty"
  | .zeroPort => "port must be greater than 0"
  | .halfCredentials => "user and password must be given together"
  | .noIntegration e => e.message

namespace Config

/-- What is wrong with a configuration. -/
inductive Fault where
  | zeroServerPort
  | relativePath
  | reservedPath (path : String)
  | blankProgram
  | zeroTimeout
  | unknownIntegration (name : String)
  | badInstance (integration : String) (endpoint : Endpoint) (fault : InstanceFault)
  deriving DecidableEq

/-- The fault in the words of error messages. -/
def Fault.message : Fault → String
  | .zeroServerPort => "Server port must be greater than 0"
  | .relativePath => "Metrics path must start with '/'"
  | .reservedPath path => s!"Metrics path '{path}' conflicts with a built-in route"
  | .blankProgram => "Launcher program must not be empty"
  | .zeroTimeout => "Launcher timeouts must be greater than 0"
  | .unknownIntegration name =>
    s!"Unknown integration '{name}' (expected one of: " ++ ", ".intercalate Integration.knownNames
      ++ ")"
  | .badInstance integration endpoint fault =>
    s!"{integration} instance {endpoint.text}: {fault.message}"

/-- The paths the server answers itself. -/
def reservedPaths : List String := ["/", "/health", "/checks"]

/-- Fails with `fault` when `bad`. -/
def refuseIf {ε : Type} (bad : Bool) (fault : ε) : Except ε Unit :=
  if bad then .error fault else .ok ()

/-- Whether nothing but blanks stands in a text. -/
def isBlankText (s : String) : Bool := s.toList.all Text.isBlank

def checkInstance [Regex.Builder] (integration : String) (i : InstanceConfig) :
    Except InstanceFault Unit := do
  refuseIf (isBlankText i.host) .blankHost
  refuseIf (i.port == 0) .zeroPort
  refuseIf (i.user.isSome != i.password.isSome) .halfCredentials
  match Integration.build integration i.filters with
  | .ok _ => pure ()
  | .error e => .error (.noIntegration e)

/-- Looks at one check and its instances. -/
def checkCheck [Regex.Builder] (c : CheckConfig) : Except Fault Unit := do
  refuseIf (!Integration.knownNames.contains c.integration) (.unknownIntegration c.integration)
  c.instances.forM fun i =>
    (checkInstance c.integration i).mapError (.badInstance c.integration i.endpoint)

/-- Accepts the configuration or names the first fault. -/
def validate [Regex.Builder] (c : Config) : Except Fault Unit := do
  refuseIf (c.server.port == 0) .zeroServerPort
  refuseIf (c.server.path.toList.head? != some '/') .relativePath
  refuseIf (reservedPaths.contains c.server.path) (.reservedPath c.server.path)
  refuseIf (isBlankText c.launcher.program) .blankProgram
  refuseIf (c.launcher.connectTimeout == 0 || c.launcher.dumpTimeout == 0) .zeroTimeout
  c.checks.forM checkCheck

end Config

end BeanGauge
