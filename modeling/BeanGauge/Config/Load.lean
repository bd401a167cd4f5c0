import BeanGauge.Config.Reader
import BeanGauge.Config.Validate
/-!
Getting a configuration from a text, and from a file that may be missing.
-/

namespace BeanGauge

namespace Config

/-- Why there is no configuration. -/
inductive Error where
  | unreadable (reason : String)
  | unparsable (reason : String)
  | invalid (fault : Fault)
  deriving DecidableEq

def Error.message : Error → String
  | .unreadable reason => s!"Failed to read config file: {reason}"
  | .unparsable reason => s!"Failed to parse config file: {reason}"
  | .invalid fault => s!"Invalid configuration: {fault.message}"

def accept [Regex.Builder] (c : Config) : Except Error Config :=
  match c.validate with
  | .ok _ => .ok c
  | .error fault => .error (.invalid fault)

/-- The valid configuration of a YAML text; `explain` says what another text lacks to be one. -/
def fromYaml [Regex.Builder] (explain : String → String) (s : String) : Except Error Config :=
  match ofYaml s with
  | none => .error (.unparsable (explain s))
  | some c => accept c

/-- What is found where a file should be. -/
inductive File where
  | missing
  | unreadable (reason : String)
  | contents (s : String)
  deriving DecidableEq

def load [Regex.Builder] (explain : String → String) : File → Except Error Config
  | .missing => .error (.unreadable "No such file or directory (os error 2)")
  | .unreadable reason => .error (.unreadable reason)
  | .contents s => fromYaml explain s

/-- The configuration of a file, or the default one without a file. -/
def loadOrDefault [Regex.Builder] (explain : String → String) : File → Except Error Config
  | .missing => .ok .default
  | file => load explain file

end Config

end BeanGauge
